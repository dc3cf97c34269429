import ServerCursor.Record
import ServerCursor.Schedule
import ServerCursor.Script

/-!
# Sessions

A cursor in use against a scripted server. The cursor is used in one of three ways: by calls that
may wait in slots, by calls that block, or as a stream of documents. Every operation is carried out
by actions on the schedule, and waiting calls are answered from the script until they end or meet a
held gate.
-/

namespace ServerCursor

/-- How the cursor is used. -/
inductive Front (α : Type := Record) where
  /-- By calls that may wait. -/
  | concurrent
  /-- By calls that block; `done` says whether its iteration has ended. -/
  | blocking (done : Bool)
  /-- As a stream; documents that have been read and not taken. -/
  | stream (ready : List α)
  /-- As a stream that has ended. -/
  | ended
  /-- Not any more. -/
  | gone

/-- What an operation gives. -/
inductive Result (α : Type := Record) where
  | ok
  /-- It is not possible now, and nothing was done. -/
  | busy
  /-- There is no cursor to do it with. -/
  | gone
  /-- There is no call in the slot. -/
  | empty
  | pending
  /-- The results have ended, for now or for good. -/
  | none
  | batch (items : List α)
  | item (item : α)
  /-- A number of owners. -/
  | count (owners : Nat)
  | error (cause : Error)

/-- A cursor in use whose documents are read as items of a type. -/
structure Session (α : Type := Record) where
  schedule : Schedule
  /-- How it is used. -/
  front : Front α
  read : Reader α
  script : Script
  /-- Whether a connection was handed over. -/
  handedOver : Bool

namespace Session

variable {α : Type}

/-- The first connection, which may have been handed over. -/
def firstConnection : Resource := .connection 1

/-- Open a cursor. A connection that is handed over is checked out first. -/
def start (server : ServerDescription) (connection : Option ConnectionDescription)
    (reply : Reply) (options : Options) (script : Script) (front : Front) (runtime : Bool) :
    Session :=
  let ledger := if connection.isSome then Ledger.start.checkout else Ledger.start
  let cursor :=
    Cursor.create reply options server (connection.map fun d => (1, d)) ledger
  ⟨.ofCursor cursor runtime, front, Record.decode .document, script, connection.isSome⟩

/-- The cursor and its surroundings. -/
def cursor (s : Session α) : Cursor := s.schedule.cursor

/-- Carry out an action. -/
def act (s : Session α) (a : Action) : Session α × Option Outcome :=
  let (schedule, o) := s.schedule.step a
  ({ s with schedule := schedule }, o)

/-- Carry out an action that ends no call. -/
def perform (s : Session α) (a : Action) : Session α :=
  (s.act a).1

/-- What the script tells a call, if its gate is open. -/
def scripted? (s : Session α) (p : Point) : Option (Answer × Script) :=
  s.script.answer? s.cursor.config.requester.protocol p

/-- Answer the call in a slot until it ends or meets a held gate. -/
def drive (s : Session α) (slot : Slot) : Nat → Session α × Option Outcome
  | 0 => (s, none)
  | fuel + 1 =>
    match (s.schedule.waitingIn? slot).bind s.scripted? with
    | none => (s, none)
    | some (a, script) =>
      match { s with script := script }.act (.answer slot a) with
      | (s, some o) => (s, some o)
      | (s, none) => s.drive slot fuel

/-- Begin a call and go on with it as far as possible. -/
def call (s : Session α) (slot : Slot) (c : Call) : Session α × Option Outcome :=
  match s.act (.begin slot c) with
  | (s, some o) => (s, some o)
  | (s, none) => s.drive slot s.script.bound

/-- What a call gives. -/
def result (s : Session α) : Option Outcome → Result α
  | none => .pending
  | some (.batch documents) =>
    match documents.mapM s.read with
    | .ok items => .batch items
    | .error cause => .error (.decode cause)
  | some .nothing => .none
  | some (.failed cause) => .error cause
  | some .closed => .ok
  | some .cleared => .ok

/-- Begin a call and show what it gives. -/
def callResult (s : Session α) (slot : Slot) (c : Call) : Session α × Result α :=
  let (s, o) := s.call slot c
  (s, s.result o)

/-- A call of the caller. -/
def request (s : Session α) (name : String) (c : Call) : Session α × Result α :=
  match s.front with
  | .concurrent =>
    if (s.schedule.waitingIn? (.named name)).isSome then (s, .busy)
    else s.callResult (.named name) c
  | .blocking _ => s.callResult .blocking c
  | _ => (s, .gone)

/-- Go on with the call in a slot. -/
def poll (s : Session α) (name : String) : Session α × Result α :=
  if (s.schedule.waitingIn? (.named name)).isSome then
    let (s, o) := s.drive (.named name) s.script.bound
    (s, s.result o)
  else (s, .empty)

/-- Give up the call in a slot. -/
def cancel (s : Session α) (name : String) : Session α × Result α :=
  if (s.schedule.waitingIn? (.named name)).isSome then
    (s.perform (.cancel (.named name)), .ok)
  else (s, .empty)

/-- The next batch of a blocking cursor. The iteration ends with the results or with the first
error, which closes the cursor. -/
def iterateBatches (s : Session α) (done : Bool) : Session α × Result α :=
  if done then (s, .none)
  else
    match s.callResult .blocking .next with
    | (s, .error cause) =>
      (({ s with front := .blocking true }.call .blocking .close).1, .error cause)
    | (s, .batch items) => (s, .batch items)
    | (s, r) => ({ s with front := .blocking true }, r)

/-- The stream lets the cursor go. -/
def endStream (s : Session α) : Session α :=
  { s with front := .ended }.perform .drop

/-- The next document of a stream whose documents are used up. -/
def pollStream (s : Session α) : Nat → Session α × Result α
  | 0 => (s, .pending)
  | fuel + 1 =>
    let (s, o) :=
      if (s.schedule.waitingIn? .stream).isSome then s.drive .stream s.script.bound
      else s.call .stream .next
    match s.result o with
    | .batch (first :: rest) => ({ s with front := .stream rest }, .item first)
    | .batch [] => s.pollStream fuel
    | .pending => (s, .pending)
    | .error cause => (s.endStream, .error cause)
    | _ => (s.endStream, .none)

/-- The next batch of a blocking cursor, or the next document of a stream. -/
def iterate (s : Session α) : Session α × Result α :=
  match s.front with
  | .blocking done => s.iterateBatches done
  | .stream (first :: rest) => ({ s with front := .stream rest }, .item first)
  | .stream [] => s.pollStream s.script.bound
  | .ended => (s, .none)
  | _ => (s, .gone)

/-- Whether a call of the caller waits. -/
def hasWaiting (s : Session α) : Bool :=
  s.schedule.calls.any fun call => call.1 != .stream

/-- Do something with the cursor that needs all of it. -/
def withWhole (s : Session α) (change : Session α → Session α) : Session α × Result α :=
  if s.hasWaiting then (s, .busy)
  else match s.front with
    | .concurrent => (change s, .ok)
    | _ => (s, .gone)

/-- Read the documents in another way from now on. -/
def readAs (s : Session α) (read : Reader α) : Session α × Result α :=
  s.withWhole fun s => { s with read := read }.perform .convert

/-- Read the documents as records of another kind from now on. -/
def convert (s : Session) (kind : RecordKind) : Session × Result :=
  s.readAs (Record.decode kind)

/-- Use the cursor as a stream from now on. -/
def toStream (s : Session α) : Session α × Result α :=
  s.withWhole fun s => { s with front := .stream [] }

/-- Use the cursor by blocking calls from now on. -/
def toBlocking (s : Session α) : Session α × Result α :=
  if !s.script.held.isEmpty then (s, .busy)
  else s.withWhole fun s => { s with front := .blocking false }

/-- Let the cursor or the stream go. A blocking cursor that is still open closes itself if there is
no runtime that would do so later, and a stream gives up its request. -/
def drop (s : Session α) : Session α × Result α :=
  let dropped (s : Session α) : Session α := { s with front := .gone }.perform .drop
  match s.front with
  | .concurrent => (dropped s, .ok)
  | .blocking _ =>
    if s.cursor.state.closed || s.schedule.runtime then (dropped s, .ok)
    else (dropped (s.call .blocking .close).1, .ok)
  | .stream _ => ((dropped s).perform (.cancel .stream), .ok)
  | .ended => ({ s with front := .gone }, .ok)
  | .gone => (s, .ok)

/-- Hold a gate. A call that blocks could never be answered there. -/
def hold (s : Session α) (g : Gate) : Session α × Result α :=
  match s.front with
  | .blocking _ => (s, .busy)
  | _ => ({ s with script := s.script.hold g }, .ok)

/-- Open a gate. -/
def openGate (s : Session α) (g : Gate) : Session α × Result α :=
  ({ s with script := s.script.openGate g }, .ok)

/-- Add an answer to requests for the next batch. -/
def push (s : Session α) (r : Scripted) : Session α × Result α :=
  ({ s with script := { s.script with replies := s.script.replies ++ [r] } }, .ok)

/-- Add an answer to requests to discard a cursor. -/
def pushKill (s : Session α) (r : Scripted) : Session α × Result α :=
  ({ s with script := { s.script with kills := s.script.kills ++ [r] } }, .ok)

/-- Let so many of the next checkouts fail. -/
def failCheckouts (s : Session α) (n : Nat) : Session α × Result α :=
  ({ s with script := { s.script with failures := n } }, .ok)

/-- Answer the task at a place until it ends or meets a held gate. Says whether it is still
there. -/
def driveTask (s : Session α) (i : Nat) : Nat → Session α × Bool
  | 0 => (s, true)
  | fuel + 1 =>
    match s.schedule.tasks[i]? with
    | some (.suspended p) =>
      match s.scripted? p with
      | none => (s, true)
      | some (a, script) =>
        let count := s.schedule.tasks.length
        let s := { s with script := script }.perform (.answerTask i a)
        if s.schedule.tasks.length < count then (s, false) else s.driveTask i fuel
    | _ => (s, true)

/-- Run the task at a place as far as possible. Says whether it is still there. -/
def runTask (s : Session α) (i : Nat) : Session α × Bool :=
  let count := s.schedule.tasks.length
  let s := s.perform (.startTask i)
  if s.schedule.tasks.length < count then (s, false) else s.driveTask i s.script.bound

/-- Run so many tasks from a place on, in order. -/
def runTasks (s : Session α) (i : Nat) : Nat → Session α
  | 0 => s
  | count + 1 =>
    match s.runTask i with
    | (s, true) => s.runTasks (i + 1) count
    | (s, false) => s.runTasks i count

/-- Run all tasks, in the order in which they were spawned. -/
def tick (s : Session α) : Session α × Result α :=
  (s.runTasks 0 s.schedule.tasks.length, .ok)

/-- Say whether a runtime is there. -/
def setRuntime (s : Session α) (present : Bool) : Session α × Result α :=
  (s.perform (.setRuntime present), .ok)

/-- The caller joins a resource. -/
def retain (s : Session α) (r : Resource) : Session α × Result α :=
  let s' := s.perform (.retain r)
  match Ownership.join (s.cursor.ledger.owners r) with
  | .ok n => (s', .count n)
  | .error cause => (s', .error (.illegalState cause))

/-- The caller leaves a resource. -/
def release (s : Session α) (r : Resource) : Session α × Result α :=
  let s' := s.perform (.release r)
  match Ownership.leave (s.cursor.ledger.owners r) with
  | .ok n => (s', .count n)
  | .error cause => (s', .error (.illegalState cause))

/-- Do something with the connection that was handed over. -/
def withConnection (s : Session α) (f : Session α → Resource → Session α × Result α) :
    Session α × Result α :=
  if s.handedOver then f s firstConnection else (s, .gone)

end Session

end ServerCursor
