import ServerCursor.Ledger

/-!
# What goes over the wire, and what the log reports of it

A ledger shows what a cursor has asked of its source, which connections it was handed, and the
messages that it has sent; that is its traffic. When the last owner of a resource leaves it, that is
on the wire as well but is no traffic: it may be the doing of others.

The log is told of every request for a batch before it is sent (`Event.isSending`), and later what
has become of it, or of an attempt to discard the server's cursor (`Event.isVerdict`). These events
are the reports of a ledger; the others are about the cursor itself or the owners of its resources.

The lemmas say what every change of a ledger adds to its traffic and to its reports
(`Ledger.Gains`). The messages are a part of the traffic (`messages_eq`), so they add no more than
that.
-/

namespace ServerCursor

namespace Wire

/-- The message that goes over a connection. -/
def message? : Wire → Option Message
  | .sent _ message => some message
  | _ => none

/-- Whether the last owner of a resource left it. -/
def isReturned : Wire → Bool
  | .returned _ => true
  | _ => false

end Wire

namespace Event

/-- Whether a request for a batch is announced. -/
def isSending (e : Event) : Bool :=
  e.message == "sending getMore"

/-- Whether an event says what has become of a request, or of an attempt to discard. -/
def isVerdict (e : Event) : Bool :=
  ["getMore succeeded", "getMore failed", "getMore cancelled before it completed",
    "killed server cursor", "killCursors failed"].contains e.message

/-- Whether an event is about what goes over the wire. -/
def isReport (e : Event) : Bool :=
  e.isSending || e.isVerdict

end Event

namespace Ledger

/-- The messages that were sent so far. -/
def messages (l : Ledger) : List Message :=
  l.wire.filterMap Wire.message?

/-- What happened on the wire but for resources that were left by their last owners. -/
def traffic (l : Ledger) : List Wire :=
  l.wire.filter fun w => !w.isReturned

/-- The events about what goes over the wire. -/
def reports (l : Ledger) : List Event :=
  l.events.filter Event.isReport

/-- What a ledger has more than another on the wire and in the log. -/
structure Gains (l : Ledger) (wires : List Wire) (events : List Event) (l' : Ledger) : Prop where
  traffic : l'.traffic = l.traffic ++ wires
  reports : l'.reports = l.reports ++ events

variable {l l' l'' : Ledger} {wires wires' : List Wire} {events events' : List Event}

theorem messages_eq (l : Ledger) : l.messages = l.traffic.filterMap Wire.message? := by
  have hpart : (fun w : Wire => if !w.isReturned then w.message? else none) = Wire.message? := by
    funext w
    cases w <;> rfl
  rw [traffic, List.filterMap_filter, hpart]
  rfl

theorem messages_of_traffic {w : List Wire} (h : l'.traffic = l.traffic ++ w) :
    l'.messages = l.messages ++ w.filterMap Wire.message? := by
  rw [messages_eq, h, List.filterMap_append, ← messages_eq]

theorem messages_congr (h : l'.traffic = l.traffic) : l'.messages = l.messages := by
  rw [messages_eq, h, ← messages_eq]

theorem Gains.refl (l : Ledger) : l.Gains [] [] l :=
  ⟨(List.append_nil _).symm, (List.append_nil _).symm⟩

theorem Gains.trans (h : l.Gains wires events l') (h' : l'.Gains wires' events' l'') :
    l.Gains (wires ++ wires') (events ++ events') l'' := by
  constructor
  · rw [h'.traffic, h.traffic, List.append_assoc]
  · rw [h'.reports, h.reports, List.append_assoc]

theorem Gains.traffic_eq (h : l.Gains [] events l') : l'.traffic = l.traffic :=
  h.traffic.trans (List.append_nil _)

theorem Gains.messages (h : l.Gains wires events l') :
    l'.messages = l.messages ++ wires.filterMap Wire.message? :=
  messages_of_traffic h.traffic

theorem gains_owners (l : Ledger) (issued : Nat) (owners : Resource → Nat) :
    l.Gains [] [] { l with issued := issued, owners := owners } :=
  ⟨(List.append_nil _).symm, (List.append_nil _).symm⟩

theorem gains_emit (l : Ledger) {e : Event} (h : e.isReport = false) :
    l.Gains [] [] (l.emit e) := by
  refine ⟨(List.append_nil _).symm, ?_⟩
  rw [reports, emit, List.filter_append, List.filter_cons_of_neg (by simp [h])]
  rfl

theorem gains_report (l : Ledger) {e : Event} (h : e.isReport = true) :
    l.Gains [] [e] (l.emit e) := by
  refine ⟨(List.append_nil _).symm, ?_⟩
  rw [reports, emit, List.filter_append, List.filter_cons_of_pos h]
  rfl

theorem gains_record (l : Ledger) {w : Wire} (h : w.isReturned = false) :
    l.Gains [w] [] (l.record w) := by
  refine ⟨?_, (List.append_nil _).symm⟩
  rw [traffic, record, List.filter_append, List.filter_cons_of_pos (by simp [h])]
  rfl

theorem gains_returned (l : Ledger) (r : Resource) : l.Gains [] [] (l.record (.returned r)) := by
  refine ⟨?_, (List.append_nil _).symm⟩
  rw [traffic, record, List.filter_append, List.filter_cons_of_neg (by simp [Wire.isReturned])]
  rfl

theorem gains_checkout (l : Ledger) : l.Gains [.checkedOut (l.issued + 1)] [] l.checkout :=
  (l.gains_owners _ _).trans (gains_record _ rfl)

theorem gains_release {r : Resource} (h : l.release r = .ok l' ∨ l.release r = .error l') :
    l.Gains [] [] l' := by
  unfold release at h
  cases hleave : Ownership.leave (l.owners r) with
  | ok n =>
    rw [hleave] at h
    rcases h with h | h
    · cases h
      split
      · exact (l.gains_owners _ _).trans (gains_returned _ r)
      · exact l.gains_owners _ _
    · cases h
  | error cause =>
    rw [hleave] at h
    rcases h with h | h
    · cases h
    · cases h
      exact l.gains_emit rfl

theorem gains_retain {r : Resource} (h : l.retain r = .ok l' ∨ l.retain r = .error l') :
    l.Gains [] [] l' := by
  unfold retain at h
  cases hjoin : Ownership.join (l.owners r) with
  | ok n =>
    rw [hjoin] at h
    rcases h with h | h
    · cases h
      exact l.gains_owners _ _
    · cases h
  | error cause =>
    rw [hjoin] at h
    rcases h with h | h
    · cases h
    · cases h
      exact l.gains_emit rfl

theorem gains_giveBack (l : Ledger) (r : Resource) : l.Gains [] [] (l.giveBack r) := by
  unfold giveBack
  cases h : l.release r with
  | ok l' => exact gains_release (.inl h)
  | error l' => exact (gains_release (.inr h)).trans (l'.gains_emit rfl)

theorem gains_giveBackAll (l : Ledger) (rs : List Resource) : l.Gains [] [] (l.giveBackAll rs) := by
  induction rs generalizing l with
  | nil => exact .refl l
  | cons r rest ih => exact (l.gains_giveBack r).trans (ih _)

theorem traffic_record (l : Ledger) {w : Wire} (h : w.isReturned = false) :
    (l.record w).traffic = l.traffic ++ [w] :=
  (l.gains_record h).traffic

theorem traffic_release {r : Resource} (h : l.release r = .ok l' ∨ l.release r = .error l') :
    l'.traffic = l.traffic :=
  (gains_release h).traffic_eq

theorem traffic_retain {r : Resource} (h : l.retain r = .ok l' ∨ l.retain r = .error l') :
    l'.traffic = l.traffic :=
  (gains_retain h).traffic_eq

@[simp] theorem traffic_giveBackAll (l : Ledger) (rs : List Resource) :
    (l.giveBackAll rs).traffic = l.traffic :=
  (l.gains_giveBackAll rs).traffic_eq

theorem traffic_checkout (l : Ledger) :
    l.checkout.traffic = l.traffic ++ [.checkedOut (l.issued + 1)] :=
  l.gains_checkout.traffic

@[simp] theorem messages_emit (l : Ledger) (e : Event) : (l.emit e).messages = l.messages := rfl

theorem messages_record (l : Ledger) (w : Wire) :
    (l.record w).messages = l.messages ++ w.message?.toList := by
  rw [messages, record, List.filterMap_append]
  cases w <;> rfl

@[simp] theorem messages_giveBackAll (l : Ledger) (rs : List Resource) :
    (l.giveBackAll rs).messages = l.messages :=
  messages_congr (traffic_giveBackAll l rs)

@[simp] theorem messages_checkout (l : Ledger) : l.checkout.messages = l.messages :=
  (messages_of_traffic l.traffic_checkout).trans (List.append_nil _)

theorem messages_retain {r : Resource} (h : l.retain r = .ok l' ∨ l.retain r = .error l') :
    l'.messages = l.messages :=
  messages_congr (traffic_retain h)

theorem messages_release {r : Resource} (h : l.release r = .ok l' ∨ l.release r = .error l') :
    l'.messages = l.messages :=
  messages_congr (traffic_release h)

end Ledger

end ServerCursor
