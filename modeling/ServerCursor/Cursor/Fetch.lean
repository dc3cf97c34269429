import ServerCursor.Cursor.Kill

/-!
# Taking and fetching batches

`next` is what a call for documents does whenever it has control: it hands out what has arrived,
meets the end of the results, or asks the server for the next batch and waits. `fetchCheckedOut`
and `fetchReplied` go on after the two places where it waits, and `cancelFetch` gives a request up.

At most one request is under way at a time; `State.fetching` says so, and every other call for
documents is refused meanwhile. A cursor that is closed in the meantime leaves its own clearing up
to the request.
-/

namespace ServerCursor

/-- What has to be cleared away after a request was given up. -/
inductive Task where
  | close
  /-- Discard the server's cursor and give back what was held. -/
  | kill (a : Abandoned)
  /-- Go on from where the task waits. -/
  | suspended (p : Point)

namespace Cursor

/-- Refuse a call. -/
def refuse (c : Cursor) (cause : IllegalState) : Cursor × Progress :=
  (c, .done (.failed (.illegalState cause)))

/-- Hand out what has arrived. If that reaches the limit, the server's cursor is discarded
first. -/
def deliver (c : Cursor) : Cursor × Progress :=
  let batch := c.state.buffer
  let s := { c.state with buffer := [] }
  if c.config.limitReached s.received then
    ((c.withState s.bare).emit (.limitReached s.id c.config.ns c.config.limit)).kill
      s.abandoned (.batch batch)
  else (c.withState s, .done (.batch batch))

/-- The results have come to their end. -/
def finish (c : Cursor) : Cursor × Progress :=
  let s := { c.state with closed := true }
  (((c.withState s.bare).giveBack s.abandoned.held).emit (.exhausted c.config.ns), .done .nothing)

/-- Send a request and wait for the reply. -/
def sendFetch (c : Cursor) (f : Fetch) (n : Nat) : Cursor × Progress :=
  ((c.emit (.fetching f.id c.config.ns c.config.requester.protocol f.number)).record
      (.sent n (c.config.requester.getMore f.id f.number)),
    .waiting (.fetchReply f n))

/-- There is no connection to send a request over. A cursor that was closed meanwhile still has an
open cursor on its server. -/
def fetchUnrouted (c : Cursor) (f : Fetch) (cause : Error) : Cursor × Progress :=
  let c := c.giveBack f.held
  let s := { c.state with fetching := false }
  if s.closed then (c.withState s.bare).kill s.abandoned (.failed cause)
  else (c.withState s, .done (.failed cause))

/-- Begin a request: become another owner of the resources it needs, and send it over the
connection to which the cursor is bound, or ask the source for one. -/
def startFetch (c : Cursor) (wait : Bool) : Cursor × Progress :=
  let f : Fetch :=
    ⟨c.state.id, numberToReturn c.config.limit c.config.batchSize c.state.received,
      c.state.source, wait⟩
  match if f.source then c.ledger.retain .source else .ok c.ledger with
  | .error l => { c with ledger := l }.refuse .retainReleased
  | .ok l =>
    let begun := { c with ledger := l, state := { c.state with fetching := true } }
    match c.state.pin.connection? with
    | some n =>
      match l.retain (.connection n) with
      | .error l => ({ c with ledger := l }.giveBack f.held).refuse .retainReleased
      | .ok l => { begun with ledger := l }.sendFetch f n
    | none =>
      if f.source then (begun.record .asked, .waiting (.fetchCheckout f))
      else begun.fetchUnrouted f .noRoute

/-- What a call for documents does next. `wait` says whether it goes on until there is a document,
and `fetched` whether it has had a reply already. -/
def next (c : Cursor) (wait fetched : Bool) : Cursor × Progress :=
  if c.state.closed then c.refuse .closed
  else if c.state.fetching then c.refuse .fetching
  else if !c.state.buffer.isEmpty then c.deliver
  else if c.state.id = 0 then c.finish
  else if fetched && !wait then (c, .done .nothing)
  else if c.state.pin.isFailed then c.refuse .connectionFailed
  else c.startFetch wait

/-- The source has answered. -/
def fetchCheckedOut (c : Cursor) (f : Fetch) (r : Except Error Unit) : Cursor × Progress :=
  match r with
  | .ok () =>
    let (c, n) := c.checkout
    c.sendFetch f n
  | .error cause => (c.record .unavailable).fetchUnrouted f cause

/-- The number of the server's cursor that a reply leaves open. -/
def openId (r : Except Error Reply) : Int64 :=
  match r with
  | .ok reply => reply.id
  | .error _ => 0

/-- The server has answered a cursor that was closed meanwhile. Only a reply tells whether the
server's cursor is still open, and it is discarded over the connection of the request. -/
def fetchRepliedClosed (c : Cursor) (f : Fetch) (n : Nat) (r : Except Error Reply) :
    Cursor × Progress :=
  let s := { c.state with fetching := false }
  let cause := match r with
    | .ok _ => Error.illegalState .closedWhileFetching
    | .error cause => cause
  ((c.withState s.bare).giveBack f.held).kill
    { s.abandoned with id := openId r, connection := some n } (.failed cause)

/-- The state after a request has failed. -/
def afterFailure (s : State) (cause : Error) : State :=
  if cause.isCursorNotFound then { s with id := 0 }
  else if cause.isNetwork then { s with pin := s.pin.invalidate }
  else s

/-- The server has answered. This is one step, although the lock of the cursor is free while the
call gives back and before it goes on; `fetchReplied_eq` takes it apart. -/
def fetchReplied (c : Cursor) (f : Fetch) (n : Nat) (r : Except Error Reply) :
    Cursor × Progress :=
  if c.state.closed then c.fetchRepliedClosed f n r
  else
    let s := { c.state with fetching := false }
    let back := .connection n :: f.held
    match r with
    | .ok reply =>
      let c := c.emit (.fetched reply.id c.config.ns reply.documents.length)
      let s := { s with id := reply.id }.push c.config reply.documents
      if reply.id = 0 then
        (((c.withState s.bare).giveBack back).giveBack s.abandoned.held).next f.wait true
      else ((c.withState s).giveBack back).next f.wait true
    | .error cause =>
      let c := c.emit (.fetchFailed f.id c.config.ns cause)
      ((c.withState (afterFailure s cause)).giveBack back, .done (.failed cause))

/-- A request is given up. Its connection may be in the middle of a reply and is not used again.
If the cursor was closed meanwhile, what is left is cleared away by a task, or without a runtime at
once and without telling the server. -/
def cancelFetch (c : Cursor) (back : List Resource) (runtime : Bool) : Cursor × Option Task :=
  let s := { c.state with fetching := false, pin := c.state.pin.invalidate }
  let c := c.giveBack back
  if s.closed then
    let a := s.abandoned
    let c := (c.withState s.bare).emit (.fetchCancelled c.config.ns)
    if a.id = 0 then (c.giveBack a.held, none)
    else if runtime then (c, some (.kill a))
    else ((c.giveBack a.held).emit (.cancelledUnkilled a.id c.config.ns), none)
  else ((c.withState s).emit (.fetchCancelled c.config.ns), none)

end Cursor

end ServerCursor
