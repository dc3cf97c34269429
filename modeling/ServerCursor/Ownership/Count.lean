import ServerCursor.Error

/-!
# Counted resources

A resource has several owners, of whom only the number is kept. It starts with one. Each owner
that joins must leave again, and when the last one leaves the resource is torn down, once. A
resource without owners is refused to all who would join or leave.

What a teardown does to the resource itself is a list of calls; they run after the count has
reached zero. `join_eq_ok_iff` and `leave_eq_ok_iff` say when an owner may join or leave.
-/

namespace ServerCursor.Ownership

/-- The number of owners after one more has joined. -/
def join (owners : Nat) : Except IllegalState Nat :=
  if owners = 0 then .error .retainReleased else .ok (owners + 1)

/-- The number of owners after one has left. -/
def leave (owners : Nat) : Except IllegalState Nat :=
  if owners = 0 then .error .releaseReleased else .ok (owners - 1)

theorem join_eq_ok_iff {owners n : Nat} : join owners = .ok n ↔ 0 < owners ∧ n = owners + 1 := by
  unfold join
  split
  · simp_all
  · simp only [Except.ok.injEq]
    omega

theorem leave_eq_ok_iff {owners n : Nat} : leave owners = .ok n ↔ 0 < owners ∧ owners = n + 1 := by
  unfold leave
  split
  · simp_all
  · simp only [Except.ok.injEq]
    omega

/-- A call on a resource. -/
inductive Call where
  /-- Become an owner. -/
  | retain
  /-- Stop being an owner. -/
  | release
  /-- Ask for the number of owners. -/
  | count
  /-- Forget a handle without leaving. -/
  | forget
  deriving DecidableEq, Repr

/-- What a call gives. -/
inductive Answer where
  | count (owners : Nat)
  | refused (cause : IllegalState)
  | nothing
  deriving DecidableEq, Repr

/-- A resource and what becomes of it. -/
structure Counted where
  owners : Nat
  /-- The calls of a teardown that has not run yet. -/
  teardown : Option (List Call)
  deriving DecidableEq, Repr

/-- A new resource has one owner. -/
def Counted.new (teardown : Option (List Call)) : Counted := ⟨1, teardown⟩

/-- Whether no owner is left. -/
def Counted.isReleased (c : Counted) : Bool :=
  c.owners == 0

/-- A call that does not end in a teardown. -/
def Counted.plainCall (c : Counted) : Call → Counted × Answer
  | .retain => match join c.owners with
    | .ok n => ({ c with owners := n }, .count n)
    | .error cause => (c, .refused cause)
  | .release => match leave c.owners with
    | .ok n => ({ c with owners := n }, .count n)
    | .error cause => (c, .refused cause)
  | .count => (c, .count c.owners)
  | .forget => (c, .nothing)

/-- Several calls, one after the other. -/
def Counted.plainCalls (c : Counted) : List Call → Counted × List Answer
  | [] => (c, [])
  | call :: rest =>
    let (c, answer) := c.plainCall call
    let (c, answers) := c.plainCalls rest
    (c, answer :: answers)

/-- The teardown that a call sets off: the one that is left, if the call was the release of the
last owner. -/
def Counted.triggered (c : Counted) (call : Call) (answer : Answer) : Option (List Call) :=
  if call = .release ∧ answer = .count 0 then c.teardown else none

/-- A call, what it gives, and what the calls of the teardown give if it sets one off. -/
def Counted.call (c : Counted) (call : Call) : Counted × Answer × Option (List Answer) :=
  let (after, answer) := c.plainCall call
  match c.triggered call answer with
  | none => (after, answer, none)
  | some calls =>
    let (after, answers) := { after with teardown := none }.plainCalls calls
    (after, answer, some answers)

end ServerCursor.Ownership
