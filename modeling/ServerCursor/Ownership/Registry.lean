import ServerCursor.Event
import ServerCursor.Ownership.Count

/-!
# Handles of counted resources

Handles are numbered in the order in which they are made, and each belongs to one resource. A
handle that has been given up or forgotten can still be asked; only the count decides.
-/

namespace ServerCursor.Ownership

/-- A resource, its name, and its owners. -/
structure Named where
  name : String
  counted : Counted
  deriving DecidableEq, Repr

/-- All resources, and to which of them each handle belongs. -/
structure Registry where
  /-- The resources in the order in which they were made. -/
  resources : List Named
  /-- For each handle the place of its resource. -/
  handles : List Nat
  deriving Repr

/-- What an operation on a handle leaves behind. -/
structure Effect where
  registry : Registry
  answer : Answer
  /-- The name of the torn-down resource and what the calls of its teardown gave. -/
  torndown : Option (String × List Answer)
  events : List Event

namespace Registry

/-- One resource and its first handle. -/
def single (name : String) (teardown : Option (List Call)) : Registry :=
  ⟨[⟨name, .new teardown⟩], [0]⟩

/-- The resource of a handle. -/
def resource? (r : Registry) (handle : Nat) : Option Named :=
  r.handles[handle]?.bind fun place => r.resources[place]?

/-- Make another resource, without a teardown, and its first handle. -/
def make (r : Registry) (name : String) : Registry :=
  ⟨r.resources ++ [⟨name, .new none⟩], r.handles ++ [r.resources.length]⟩

/-- Whether two handles belong to one resource. -/
def same (r : Registry) (a b : Nat) : Bool :=
  match r.handles[a]?, r.handles[b]? with
  | some p, some q => p == q
  | _, _ => false

/-- The event that a refused call emits. -/
def refusalEvent? : Answer → Option Event
  | .refused .retainReleased => some .retainRefused
  | .refused .releaseReleased => some .releaseRefused
  | _ => none

/-- Call the resource of a handle. A successful retain makes a new handle. -/
def call (r : Registry) (handle : Nat) (what : Call) : Option Effect := do
  let place ← r.handles[handle]?
  let named ← r.resources[place]?
  let (counted, answer, inner) := named.counted.call what
  let resources := r.resources.set place { named with counted := counted }
  let handles := match what, answer with
    | .retain, .count _ => r.handles ++ [place]
    | _, _ => r.handles
  let events := (answer :: inner.getD []).filterMap refusalEvent?
  return ⟨⟨resources, handles⟩, answer, inner.map fun answers => (named.name, answers), events⟩

end Registry

end ServerCursor.Ownership
