import ServerCursor.Cursor.Fetch

/-!
# Opening, closing and dropping

A cursor is opened from the first reply. It is bound to the connection it was handed only behind a
load balancer and only while the server's cursor is open; of source and connection it keeps the one
it needs and gives the other back.

`close` may wait for the server, `closeQuietly` never does. A dropped cursor is closed by a task, or
without a runtime quietly. `resume` and `cancel` say what becomes of a call at the point where it
waits.
-/

namespace ServerCursor.Cursor

/-- Open a cursor from the first reply. The ledger counts one owner of the source, and of the
connection if there is one, that the cursor takes over. -/
def create (reply : Reply) (options : Options) (server : ServerDescription)
    (connection : Option (Nat × ConnectionDescription)) (l : Ledger) : Cursor :=
  let version := (connection.bind fun h => h.2.wireVersion).or server.wireVersion
  let kind := (connection.map fun h => h.2.kind).getD server.kind
  let config : Config :=
    ⟨⟨reply.ns, options.maxAwait, options.comment, .ofWireVersion version⟩, reply.address,
      options.effectiveLimit, options.batchSize⟩
  let l := l.emit (.created reply.id reply.ns config.requester.protocol reply.documents.length)
  let s : State :=
    State.push ⟨reply.id, [], 0, false, false, true, .unpinned⟩ config reply.documents
  let c : Cursor :=
    match connection with
    | some (n, _) =>
      if kind = .loadBalancer ∧ reply.id ≠ 0 then
        (Cursor.mk config { s with source := false, pin := .valid n } l).giveBack [.source]
      else (Cursor.mk config s l).giveBack [.connection n]
    | none => ⟨config, s, l⟩
  if reply.id = 0 then (c.withState c.state.bare).giveBack c.state.abandoned.held else c

/-- Close the cursor. While a request is under way this only marks the cursor, and the request
clears it up. -/
def close (c : Cursor) : Cursor × Progress :=
  if c.state.closed then (c, .done .closed)
  else
    let s := { c.state with closed := true, buffer := [] }
    if s.fetching then
      ((c.withState s).emit (.closeDeferred s.id c.config.ns), .done .closed)
    else (c.withState s.bare).kill s.abandoned .closed

/-- Close the cursor without telling the server. Gives the number of a server's cursor that is left
open. -/
def closeQuietly (c : Cursor) : Cursor × Option Int64 :=
  if c.state.closed then (c, none)
  else
    let s := { c.state with closed := true, buffer := [] }
    ((c.withState s.bare).giveBack s.abandoned.held, if s.id = 0 then none else some s.id)

/-- Whether closing the cursor has to tell the server. -/
def needsKill (c : Cursor) : Bool :=
  !c.state.closed && c.state.id != 0

/-- The last owner of a cursor lets it go. -/
def drop (c : Cursor) (runtime : Bool) : Cursor × Option Task :=
  if !c.needsKill then (c.closeQuietly.1, none)
  else if runtime then (c, some .close)
  else
    match c.closeQuietly with
    | (c, some id) => (c.emit (.droppedUnkilled id c.config.ns), none)
    | (c, none) => (c, none)

/-- A waiting call is answered. An answer to another question is not heard. -/
def resume (c : Cursor) (p : Point) (a : Answer) : Cursor × Progress :=
  match p, a with
  | .fetchCheckout f, .checkout r => c.fetchCheckedOut f r
  | .fetchReply f n, .reply r => c.fetchReplied f n r
  | .killCheckout a after, .checkout r => c.killCheckedOut a after r
  | .killReply a after, .kill r => c.killReplied a after r
  | p, _ => (c, .waiting p)

/-- A waiting call is given up. -/
def cancel (c : Cursor) (p : Point) (runtime : Bool) : Cursor × Option Task :=
  match p with
  | .fetchCheckout f => c.cancelFetch f.held runtime
  | .fetchReply f n => c.cancelFetch (.connection n :: f.held) runtime
  | .killCheckout a _ => (c.giveBack a.held, none)
  | .killReply a _ => (c.giveBack a.held, none)

/-- A task gets control for the first time, or again. -/
def startTask (c : Cursor) : Task → Cursor × Progress
  | .close => c.close
  | .kill a => c.kill a .cleared
  | .suspended p => (c, .waiting p)

/-- A task is thrown away. One that would close the cursor and never had control gives nothing
back: what it would have given back still lies in the cursor. -/
def discardTask (c : Cursor) (runtime : Bool) : Task → Cursor × Option Task
  | .close => (c, none)
  | .kill a => (c.giveBack a.held, none)
  | .suspended p => c.cancel p runtime

variable {c : Cursor}

/-- An open cursor gives up its server's cursor, unless a request is under way. -/
theorem close_of_open (h : c.state.closed = false) (hidle : c.state.fetching = false) :
    c.close = (c.withState (State.bare { c.state with closed := true, buffer := [] })).kill
      (State.abandoned { c.state with closed := true, buffer := [] }) .closed := by
  unfold close
  rw [if_neg (Bool.eq_false_iff.mp h)]
  exact if_neg (Bool.eq_false_iff.mp hidle)

theorem closeQuietly_of_open (h : c.state.closed = false) :
    c.closeQuietly.1 = (c.withState
      (State.bare { c.state with closed := true, buffer := [] })).giveBack c.state.held := by
  unfold closeQuietly
  rw [if_neg (Bool.eq_false_iff.mp h)]
  rfl

theorem drop_of_closed (h : c.state.closed = true) (runtime : Bool) :
    c.drop runtime = (c, none) := by
  simp [drop, needsKill, closeQuietly, h]

end ServerCursor.Cursor
