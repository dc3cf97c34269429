import ServerCursor.Cursor.Close

/-!
# Schedules

Several calls may be under way on one cursor, each in a slot of its own, and tasks run in the
background. A schedule is all of that at one moment, and an `Action` is one thing that happens: a
call begins, a waiting call is answered or given up, a handle is let go, a task gets control, or
somebody else joins or leaves a resource. `Schedule.step` says what it leads to, and `Schedule.run`
does so for a whole history.

The cursor itself is dropped when neither a handle nor a call is left.

An action is one step up to the next wait. The lock that guards a cursor is free at more moments: a
call whose reply comes takes it once to take the reply in and once more to go on, and gives its
connection back in between. Histories leave out what other threads could do there; `Threads` are
turns with those moments.
-/

namespace ServerCursor

/-- Where a call is kept while it waits. -/
inductive Slot where
  /-- In a place with a name. -/
  | named (name : String)
  /-- In the stream that owns the cursor. -/
  | stream
  /-- In the thread that it blocks. -/
  | blocking
  deriving DecidableEq, Repr

/-- What can be asked of a cursor. -/
inductive Call where
  /-- The next documents, however often the server has to be asked. -/
  | next
  /-- The next documents, if the server has some now. -/
  | tryNext
  /-- To close. -/
  | close
  deriving DecidableEq, Repr

/-- A cursor, the calls on it and the tasks for it. -/
structure Schedule where
  cursor : Cursor
  /-- The number of handles of the cursor. -/
  handles : Nat
  /-- The calls that wait. -/
  calls : List (Slot × Point)
  /-- The tasks in the order in which they were spawned. -/
  tasks : List Task
  /-- Whether a runtime is there to run tasks. -/
  runtime : Bool

/-- Something that happens to a schedule. -/
inductive Action where
  /-- A call begins, in a slot that is free. -/
  | begin (slot : Slot) (call : Call)
  /-- The call in a slot is answered. -/
  | answer (slot : Slot) (a : Answer)
  /-- The call in a slot is given up. -/
  | cancel (slot : Slot)
  /-- A handle is turned into one for another type of documents. -/
  | convert
  | drop
  /-- A task gets control for the first time. -/
  | startTask (i : Nat)
  /-- The task at a place is answered. -/
  | answerTask (i : Nat) (a : Answer)
  /-- The task at a place is thrown away. -/
  | discardTask (i : Nat)
  /-- Whether a runtime is there changes. -/
  | setRuntime (present : Bool)
  /-- Somebody else joins a resource. -/
  | retain (r : Resource)
  /-- Somebody else leaves a resource. -/
  | release (r : Resource)

namespace Schedule

/-- A cursor with one handle, and nothing else. -/
def ofCursor (c : Cursor) (runtime : Bool) : Schedule :=
  ⟨c, 1, [], [], runtime⟩

/-- The call that waits in a slot. -/
def waitingIn? (s : Schedule) (slot : Slot) : Option Point :=
  (s.calls.find? fun call => call.1 == slot).map (·.2)

/-- The calls without that in a slot. -/
def without (calls : List (Slot × Point)) (slot : Slot) : List (Slot × Point) :=
  calls.filter fun call => call.1 != slot

/-- Add a task, if there is one. -/
def spawn (s : Schedule) (t : Option Task) : Schedule :=
  { s with tasks := s.tasks ++ t.toList }

/-- Drop the cursor if nothing is left that owns it. -/
def letGo (s : Schedule) : Schedule :=
  if s.handles = 0 ∧ s.calls = [] then
    let (c, t) := s.cursor.drop s.runtime
    { s with cursor := c }.spawn t
  else s

/-- What a call does when it gets control first. -/
def beginCall (c : Cursor) : Call → Cursor × Progress
  | .next => c.next true false
  | .tryNext => c.next false false
  | .close => c.close

/-- A call begins. It needs a handle and a free slot. -/
def begin (s : Schedule) (slot : Slot) (call : Call) : Schedule × Option Outcome :=
  if s.handles = 0 ∨ (s.waitingIn? slot).isSome then (s, none)
  else
    match beginCall s.cursor call with
    | (c, .waiting p) => ({ s with cursor := c, calls := s.calls ++ [(slot, p)] }, none)
    | (c, .done o) => ({ s with cursor := c }, some o)

/-- The call in a slot is answered. -/
def answer (s : Schedule) (slot : Slot) (a : Answer) : Schedule × Option Outcome :=
  match s.waitingIn? slot with
  | none => (s, none)
  | some p =>
    match s.cursor.resume p a with
    | (c, .waiting p) =>
      ({ s with cursor := c, calls := without s.calls slot ++ [(slot, p)] }, none)
    | (c, .done o) => ({ s with cursor := c, calls := without s.calls slot }.letGo, some o)

/-- The call in a slot is given up. -/
def cancel (s : Schedule) (slot : Slot) : Schedule :=
  match s.waitingIn? slot with
  | none => s
  | some p =>
    let (c, t) := s.cursor.cancel p s.runtime
    ({ s with cursor := c, calls := without s.calls slot }.spawn t).letGo

/-- A handle is let go. -/
def dropHandle (s : Schedule) : Schedule :=
  if s.handles = 0 then s else { s with handles := s.handles - 1 }.letGo

/-- A handle is turned into one for another type of documents: a second one is made, and the first
is let go. -/
def convert (s : Schedule) : Schedule :=
  if s.handles = 0 then s else { s with handles := s.handles + 1 }.dropHandle

/-- A task has come so far. -/
def setTask (s : Schedule) (i : Nat) (result : Cursor × Progress) : Schedule :=
  match result with
  | (c, .waiting p) => { s with cursor := c, tasks := s.tasks.set i (.suspended p) }
  | (c, .done _) => { s with cursor := c, tasks := s.tasks.eraseIdx i }

/-- The task at a place gets control for the first time. -/
def startTask (s : Schedule) (i : Nat) : Schedule :=
  match s.tasks[i]? with
  | none => s
  | some t => s.setTask i (s.cursor.startTask t)

/-- The task at a place is answered. -/
def answerTask (s : Schedule) (i : Nat) (a : Answer) : Schedule :=
  match s.tasks[i]? with
  | some (.suspended p) => s.setTask i (s.cursor.resume p a)
  | _ => s

/-- The task at a place is thrown away. -/
def discardTask (s : Schedule) (i : Nat) : Schedule :=
  match s.tasks[i]? with
  | none => s
  | some t =>
    let (c, t) := s.cursor.discardTask s.runtime t
    { s with cursor := c, tasks := s.tasks.eraseIdx i }.spawn t

/-- Change the ledger. -/
def withLedger (s : Schedule) (l : Ledger) : Schedule :=
  { s with cursor := { s.cursor with ledger := l } }

/-- Somebody else joins a resource. -/
def retain (s : Schedule) (r : Resource) : Schedule :=
  match s.cursor.ledger.retain r with
  | .ok l => s.withLedger l
  | .error l => s.withLedger l

/-- Somebody else leaves a resource. -/
def release (s : Schedule) (r : Resource) : Schedule :=
  match s.cursor.ledger.release r with
  | .ok l => s.withLedger l
  | .error l => s.withLedger l

/-- What an action leads to, and how a call ends if one does. -/
def step (s : Schedule) : Action → Schedule × Option Outcome
  | .begin slot call => s.begin slot call
  | .answer slot a => s.answer slot a
  | .cancel slot => (s.cancel slot, none)
  | .convert => (s.convert, none)
  | .drop => (s.dropHandle, none)
  | .startTask i => (s.startTask i, none)
  | .answerTask i a => (s.answerTask i a, none)
  | .discardTask i => (s.discardTask i, none)
  | .setRuntime present => ({ s with runtime := present }, none)
  | .retain r => (s.retain r, none)
  | .release r => (s.release r, none)

/-- What a history leads to. -/
def run (s : Schedule) (history : List Action) : Schedule :=
  history.foldl (fun s a => (s.step a).1) s

theorem run_append (s : Schedule) (before after : List Action) :
    s.run (before ++ after) = (s.run before).run after := by
  simp [run]

theorem find?_without (calls : List (Slot × Point)) (slot : Slot) :
    (without calls slot).find? (fun call => call.1 == slot) = none := by
  simp [without]

theorem convert_eq (s : Schedule) : s.convert = s := by
  unfold convert
  split
  · rfl
  · rename_i h
    simp [dropHandle, letGo, h]

end Schedule

end ServerCursor
