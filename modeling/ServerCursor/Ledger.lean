import ServerCursor.Event
import ServerCursor.Ownership.Count

/-!
# The ledger

What the surroundings of a cursor know of it: how many owners the source and each connection have,
how many connections were handed out, what went over the wire, and the events. The ledger does not
know who the owners are; a step that gives a resource back says for whom.

A resource without owners is refused to those who join or leave it, and the refusal is an event.
Main statements: `Ledger.owners_giveBack` and `Ledger.events_giveBack` say what giving back does
while there are owners.
-/

namespace ServerCursor

/-- What has owners. -/
inductive Resource where
  | source
  /-- A connection, by the order of its checkout. -/
  | connection (n : Nat)
  deriving DecidableEq, Repr

/-- What happens between a cursor and its server. -/
inductive Wire where
  | asked
  | unavailable
  | checkedOut (n : Nat)
  /-- A message is sent over a connection. -/
  | sent (n : Nat) (message : Message)
  /-- The last owner of a resource left it. -/
  | returned (r : Resource)

/-- What the surroundings of a cursor know. -/
structure Ledger where
  /-- The number of owners of each resource. -/
  owners : Resource → Nat
  issued : Nat
  /-- What happened on the wire, the oldest first. -/
  wire : List Wire
  /-- The events, the oldest first. -/
  events : List Event

namespace Ledger

/-- The owners after the number of one resource has changed. -/
def put (owners : Resource → Nat) (r : Resource) (n : Nat) : Resource → Nat :=
  fun other => if other = r then n else owners other

/-- A source with one owner, and nothing else. -/
def start : Ledger :=
  ⟨put (fun _ => 0) .source 1, 0, [], []⟩

/-- Add an event. -/
def emit (l : Ledger) (e : Event) : Ledger :=
  { l with events := l.events ++ [e] }

/-- Add something to the wire. -/
def record (l : Ledger) (w : Wire) : Ledger :=
  { l with wire := l.wire ++ [w] }

/-- Hand out a new connection with one owner; its number is the number handed out then. -/
def checkout (l : Ledger) : Ledger :=
  { l with
    issued := l.issued + 1
    owners := put l.owners (.connection (l.issued + 1)) 1 }.record (.checkedOut (l.issued + 1))

/-- One more owner; a refusal leaves only its event. -/
def retain (l : Ledger) (r : Resource) : Except Ledger Ledger :=
  match Ownership.join (l.owners r) with
  | .ok n => .ok { l with owners := put l.owners r n }
  | .error _ => .error (l.emit .retainRefused)

/-- One owner less; a refusal leaves only its event. -/
def release (l : Ledger) (r : Resource) : Except Ledger Ledger :=
  match Ownership.leave (l.owners r) with
  | .ok n =>
    let l := { l with owners := put l.owners r n }
    .ok (if n = 0 then l.record (.returned r) else l)
  | .error _ => .error (l.emit .releaseRefused)

/-- One owner less, on a path that shows no errors: a refusal is another event. -/
def giveBack (l : Ledger) (r : Resource) : Ledger :=
  match l.release r with
  | .ok l => l
  | .error l => l.emit (.releaseFailed (.illegalState .releaseReleased))

/-- Give back several resources in order. -/
def giveBackAll (l : Ledger) (rs : List Resource) : Ledger :=
  rs.foldl giveBack l

theorem put_self (owners : Resource → Nat) (r : Resource) (n : Nat) : put owners r n r = n := by
  simp [put]

theorem put_ne (owners : Resource → Nat) {r other : Resource} (n : Nat) (h : other ≠ r) :
    put owners r n other = owners other := by
  simp [put, h]

theorem retain_of_pos {l : Ledger} {r : Resource} (h : 0 < l.owners r) :
    l.retain r = .ok { l with owners := put l.owners r (l.owners r + 1) } := by
  have hne : l.owners r ≠ 0 := by omega
  simp [retain, Ownership.join, hne]

theorem owners_giveBack {l : Ledger} {r : Resource} (h : 0 < l.owners r) :
    (l.giveBack r).owners = put l.owners r (l.owners r - 1) := by
  have hne : l.owners r ≠ 0 := by omega
  unfold giveBack release
  simp only [Ownership.leave, hne, if_false]
  split <;> rfl

theorem events_giveBack {l : Ledger} {r : Resource} (h : 0 < l.owners r) :
    (l.giveBack r).events = l.events := by
  have hne : l.owners r ≠ 0 := by omega
  unfold giveBack release
  simp only [Ownership.leave, hne, if_false]
  split <;> rfl

/-- The connections that still have an owner. -/
def inUse (l : Ledger) : Nat :=
  (List.range l.issued).countP fun n => 0 < l.owners (.connection (n + 1))

end Ledger

end ServerCursor
