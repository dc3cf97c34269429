import ServerCursor.Ledger
import ServerCursor.Reply
import ServerCursor.Server

/-!
# The state of a cursor

A cursor holds the documents that have arrived and not been handed out, the number of the server's
cursor, and the resources by which it reaches the server: either the source of connections or one
connection to which it is bound. A call that has to wait is a `Point`: where it waits, with what it
holds in the meantime.

Every holder of resources lists them (`State.held`, `Abandoned.held`, `Fetch.held`, `Point.held`),
so that what the surroundings count can be compared with what is held.
-/

namespace ServerCursor

/-- The connection to which a cursor is bound. -/
inductive Pin where
  /-- The cursor takes connections from the source. -/
  | unpinned
  /-- The cursor uses this connection only. -/
  | valid (n : Nat)
  /-- The connection has failed and is used no more, but still held. -/
  | failed (n : Nat)
  deriving DecidableEq, Repr

namespace Pin

/-- The connection that is held. -/
def connection? : Pin → Option Nat
  | unpinned => none
  | valid n => some n
  | failed n => some n

theorem connection?_eq_none_iff {p : Pin} : p.connection? = none ↔ p = unpinned := by
  cases p <;> simp [connection?]

/-- Whether the connection has failed. -/
def isFailed : Pin → Bool
  | failed _ => true
  | _ => false

/-- The connection is not to be used any more. -/
def invalidate : Pin → Pin
  | valid n => failed n
  | other => other

end Pin

/-- What never changes about a cursor. -/
structure Config where
  requester : Requester
  address : Address
  /-- The greatest number of documents in all; zero sets no limit. -/
  limit : Nat
  /-- The number of documents of one batch; zero leaves it to the server. -/
  batchSize : Int32

namespace Config

/-- The collection that is iterated. -/
def ns (c : Config) : Namespace := c.requester.ns

/-- Whether so many documents are all that the limit allows. -/
def limitReached (c : Config) (received : Nat) : Bool :=
  c.limit != 0 && c.limit ≤ received

/-- The documents of a batch that the limit still allows after so many. -/
def allowed (c : Config) (received : Nat) (batch : List Document) : List Document :=
  if c.limit = 0 then batch else batch.take (c.limit - received)

end Config

/-- What changes about a cursor. -/
structure State where
  /-- The number of the server's cursor; zero if there is none any more. -/
  id : Int64
  /-- Documents that have arrived and not been handed out. -/
  buffer : List Document
  /-- The number of documents that have arrived, without those past the limit. -/
  received : Nat
  /-- Whether the cursor has been closed, or has met the end of its results. -/
  closed : Bool
  fetching : Bool
  /-- Whether the cursor is an owner of the source. -/
  source : Bool
  pin : Pin

/-- The resource of the source, if it is held. -/
def sourceIf (held : Bool) : List Resource :=
  if held then [.source] else []

/-- The resource of a connection, if it is held. -/
def connectionIf (held : Option Nat) : List Resource :=
  (held.map Resource.connection).toList

/-- A server's cursor and the resources that a cursor held, detached from it. They are given back
together, after the server's cursor has been discarded if that is possible. -/
structure Abandoned where
  /-- The number of the server's cursor; zero if there is none any more. -/
  id : Int64
  source : Bool
  pin : Pin
  /-- A connection that was taken from the source. -/
  connection : Option Nat

/-- What is given back, in order. -/
def Abandoned.held (a : Abandoned) : List Resource :=
  connectionIf a.connection ++ connectionIf a.pin.connection? ++ sourceIf a.source

/-- The connection to discard the server's cursor over, if one is held. -/
def Abandoned.route? (a : Abandoned) : Option Nat :=
  a.pin.connection?.or a.connection

namespace State

/-- What the cursor itself holds. -/
def held (s : State) : List Resource :=
  connectionIf s.pin.connection? ++ sourceIf s.source

/-- Take in a batch, without what lies past the limit. -/
def push (s : State) (c : Config) (batch : List Document) : State :=
  { s with
    received := s.received + (c.allowed s.received batch).length
    buffer := s.buffer ++ c.allowed s.received batch }

/-- The server's cursor and the resources of the cursor. -/
def abandoned (s : State) : Abandoned :=
  ⟨s.id, s.source, s.pin, none⟩

/-- The state without the server's cursor and without resources. -/
def bare (s : State) : State :=
  { s with id := 0, source := false, pin := .unpinned }

end State

/-- A request for the next batch while it is under way. -/
structure Fetch where
  id : Int64
  number : Int32
  source : Bool
  /-- Whether the call goes on until there is a document. -/
  wait : Bool

/-- What a request holds besides a connection. -/
def Fetch.held (f : Fetch) : List Resource :=
  sourceIf f.source

/-- How a call ends. -/
inductive Outcome where
  | batch (documents : List Document)
  | nothing
  | failed (cause : Error)
  | closed
  /-- What was left of a request has been cleared away. -/
  | cleared

/-- Where a call waits. -/
inductive Point where
  /-- For a connection to send a request over. -/
  | fetchCheckout (f : Fetch)
  /-- For the reply to a request that was sent over a connection. -/
  | fetchReply (f : Fetch) (n : Nat)
  /-- For a connection to discard the server's cursor over. -/
  | killCheckout (a : Abandoned) (after : Outcome)
  /-- For the server to discard its cursor. -/
  | killReply (a : Abandoned) (after : Outcome)

/-- What a waiting call holds, in the order in which it is given back. -/
def Point.held : Point → List Resource
  | fetchCheckout f => f.held
  | fetchReply f n => .connection n :: f.held
  | killCheckout a _ => a.held
  | killReply a _ => a.held

/-- How far a call has come. -/
inductive Progress where
  | waiting (p : Point)
  | done (o : Outcome)

/-- What a waiting call is told. -/
inductive Answer where
  /-- Whether there is a connection. -/
  | checkout (r : Except Error Unit)
  | reply (r : Except Error Reply)
  /-- Whether the server's cursor was discarded. -/
  | kill (r : Except Error Unit)

/-- A cursor and what its surroundings know of it. -/
structure Cursor where
  config : Config
  state : State
  ledger : Ledger

namespace Cursor

/-- Add an event. -/
def emit (c : Cursor) (e : Event) : Cursor :=
  { c with ledger := c.ledger.emit e }

/-- Add something to the wire. -/
def record (c : Cursor) (w : Wire) : Cursor :=
  { c with ledger := c.ledger.record w }

/-- Give resources back, in order. -/
def giveBack (c : Cursor) (rs : List Resource) : Cursor :=
  { c with ledger := c.ledger.giveBackAll rs }

/-- Change the state. -/
def withState (c : Cursor) (s : State) : Cursor :=
  { c with state := s }

/-- Take a connection from the source and its number. -/
def checkout (c : Cursor) : Cursor × Nat :=
  ({ c with ledger := c.ledger.checkout }, c.ledger.issued + 1)

@[simp] theorem state_emit (c : Cursor) (e : Event) : (c.emit e).state = c.state := rfl

@[simp] theorem state_record (c : Cursor) (w : Wire) : (c.record w).state = c.state := rfl

@[simp] theorem state_giveBack (c : Cursor) (rs : List Resource) :
    (c.giveBack rs).state = c.state := rfl

@[simp] theorem state_withState (c : Cursor) (s : State) : (c.withState s).state = s := rfl

@[simp] theorem state_checkout (c : Cursor) : c.checkout.1.state = c.state := rfl

@[simp] theorem config_emit (c : Cursor) (e : Event) : (c.emit e).config = c.config := rfl

@[simp] theorem config_record (c : Cursor) (w : Wire) : (c.record w).config = c.config := rfl

@[simp] theorem config_giveBack (c : Cursor) (rs : List Resource) :
    (c.giveBack rs).config = c.config := rfl

@[simp] theorem config_withState (c : Cursor) (s : State) : (c.withState s).config = c.config := rfl

@[simp] theorem config_checkout (c : Cursor) : c.checkout.1.config = c.config := rfl

end Cursor

end ServerCursor
