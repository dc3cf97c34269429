import ServerCursor.Cursor.State

/-!
# Discarding the server's cursor

When a cursor gives up its server's cursor while that is still open, the server is told to discard
it: over the connection to which the cursor was bound, or one that a request left behind, or one
taken from the source. A failure shows in an event only; whatever happens, all resources are given
back, and then the call ends as it would have ended anyway.
-/

namespace ServerCursor.Cursor

/-- Give back what is left and end the call. -/
def conclude (c : Cursor) (a : Abandoned) (after : Outcome) : Cursor × Progress :=
  let c := c.giveBack a.held
  match after with
  | .closed => (c.emit (.closed c.config.ns), .done .closed)
  | after => (c, .done after)

/-- Tell the server to discard its cursor. -/
def sendKill (c : Cursor) (a : Abandoned) (n : Nat) (after : Outcome) : Cursor × Progress :=
  (c.record (.sent n (c.config.requester.kill a.id)), .waiting (.killReply a after))

/-- Discard the server's cursor if it is still open, and go on. -/
def kill (c : Cursor) (a : Abandoned) (after : Outcome) : Cursor × Progress :=
  if a.id = 0 then c.conclude a after
  else if a.pin.isFailed then (c.emit (.killSkipped a.id)).conclude a after
  else match a.route? with
    | some n => c.sendKill a n after
    | none =>
      if a.source then (c.record .asked, .waiting (.killCheckout a after))
      else c.conclude a after

/-- The source has answered. -/
def killCheckedOut (c : Cursor) (a : Abandoned) (after : Outcome) (r : Except Error Unit) :
    Cursor × Progress :=
  match r with
  | .ok () =>
    let (c, n) := c.checkout
    c.sendKill { a with connection := some n } n after
  | .error cause =>
    ((c.record .unavailable).emit (.killUnrouted a.id cause)).conclude a after

/-- The server has answered. -/
def killReplied (c : Cursor) (a : Abandoned) (after : Outcome) (r : Except Error Unit) :
    Cursor × Progress :=
  match r with
  | .ok () => (c.emit (.killed a.id c.config.ns)).conclude a after
  | .error cause => (c.emit (.killFailed a.id c.config.ns cause)).conclude a after

@[simp] theorem state_conclude (c : Cursor) (a : Abandoned) (after : Outcome) :
    (c.conclude a after).1.state = c.state := by
  unfold conclude
  split <;> rfl

@[simp] theorem config_conclude (c : Cursor) (a : Abandoned) (after : Outcome) :
    (c.conclude a after).1.config = c.config := by
  unfold conclude
  split <;> rfl

@[simp] theorem state_kill (c : Cursor) (a : Abandoned) (after : Outcome) :
    (c.kill a after).1.state = c.state := by
  unfold kill
  split
  · simp
  · split
    · simp
    · split
      · rfl
      · split <;> simp

@[simp] theorem config_kill (c : Cursor) (a : Abandoned) (after : Outcome) :
    (c.kill a after).1.config = c.config := by
  unfold kill
  split
  · simp
  · split
    · simp
    · split
      · rfl
      · split <;> simp

end ServerCursor.Cursor
