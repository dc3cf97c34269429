import ServerCursor.Proofs.Delivery
import ServerCursor.Proofs.Flight
import ServerCursor.Proofs.Spared

/-!
# What is lost with a call

A call that reaches the limit takes its documents out of the buffer before it has its server's
cursor discarded, and has them in hand meanwhile. If it is given up then, they are lost
(`Turn.lost`): the cursor has nothing left (`Spent`), so no other call is handed any documents.

If a call has lost anything, nothing was lost before, and the next call finds the end of the
results.

Main statement: `lost_with_call` says for every history that what calls were handed, followed by
what was lost with calls and by the buffer, is what has arrived, cut off at the limit, and that
giving up a call that waits for no batch loses exactly what it has in hand.
-/

namespace ServerCursor

/-- The documents that are lost in a turn: those that a call has in hand when it is given up. -/
def Turn.lost : Turn → List Document
  | .cancel p _ => p.hand?.getD []
  | _ => []

theorem Turn.cancel_or_lost_eq_nil (t : Turn) :
    (∃ p runtime, t = .cancel p runtime) ∨ t.lost = [] ∧ ∀ p runtime, t ≠ .cancel p runtime := by
  cases t with
  | cancel p runtime => exact .inl ⟨p, runtime, rfl⟩
  | _ => exact .inr ⟨rfl, fun _ _ h => by cases h⟩

/-- What was lost in some turns. -/
def lost (ms : List Moment) : List Document :=
  ms.flatMap fun m => m.turn.lost

theorem lost_snoc (ms : List Moment) (m : Moment) : lost (ms ++ [m]) = lost ms ++ m.turn.lost := by
  simp [lost]

/-- There is nothing to hand out, and nothing more will arrive. -/
structure Spent (s : State) (pending : Multiset Task) : Prop where
  /-- No call has documents in hand. -/
  hands : hands pending = 0
  /-- There is no server's cursor. -/
  id : s.id = 0
  /-- Nothing is buffered. -/
  buffer : s.buffer = []

/-- What was taken was returned or lost, but for what one call has in hand, and a cursor that has
lost documents is spent. -/
structure Accounted (returned lost taken : List Document) (s : State) (pending : Multiset Task) :
    Prop where
  inHand : InHand (returned ++ lost) taken s pending
  spent : lost ≠ [] → Spent s pending

theorem ne_nil_of_mem_hands {pending : Multiset Task} (hp : AllProper pending)
    {batch : List Document} (h : batch ∈ hands pending) : batch ≠ [] := by
  obtain ⟨t, ht, hhand⟩ := (Multiset.mem_filterMap _ _).mp h
  have hproper := hp t ht
  have hsettled : ∀ after : Outcome, after.Settled → after.hand? = some batch → batch ≠ [] := by
    intro after hafter hhand
    cases after with
    | batch documents =>
      cases hhand
      exact hafter
    | _ => cases hhand
  cases t with
  | suspended p =>
    cases p with
    | killCheckout a after => exact hsettled after hproper.2 hhand
    | killReply a after => exact hsettled after hproper.2 hhand
    | fetchCheckout f => cases hhand
    | fetchReply f n => cases hhand
  | close => cases hhand
  | kill a => cases hhand

theorem Handles.drained {c c' : Cursor} {party left : Multiset Task} {why : Prop}
    (h : Handles c party none c' left why) (hbuffer : c.state.buffer = []) :
    c'.state.buffer = [] :=
  h.buffer.elim (fun hsame => hsame.trans hbuffer) id

section Turns

variable {c : Cursor} {t : Turn} {rest : Multiset Task} {returned gone took : List Document}

/-- What a call has in hand goes to nobody when it is given up. -/
theorem accounted_cancel {p : Point} {runtime : Bool}
    (h : Accounted returned gone took c.state ({.suspended p} + rest))
    (hs : c.state.Sound (flights ({.suspended p} + rest))) (hp : (Task.suspended p).Proper) :
    Accounted returned (gone ++ p.hand?.getD []) took (c.cancel p runtime).1.state
      (↑(c.cancel p runtime).2.toList + rest) := by
  have hhandles : Handles c {.suspended p} none (c.cancel p runtime).1
      ↑(c.cancel p runtime).2.toList True :=
    handles_effect (t := .cancel p runtime) hs (allProper_singleton hp)
  have hleft : hands (↑(c.cancel p runtime).2.toList + rest) = hands rest := by
    rw [hands_add, Cursor.hands_cancel, zero_add]
  cases hhand : p.hand? with
  | none =>
    have hparty : hands ({.suspended p} + rest) = hands rest := by
      have hnone : (Task.suspended p).hand? = none := hhand
      rw [hands_add, hands_singleton, hnone]
      exact zero_add _
    rw [Option.getD_none, List.append_nil]
    refine ⟨inHand_kept h.inHand (hleft.trans hparty.symm) hhandles.gone hhandles.buffer,
      fun hne => ?_⟩
    have hspent := h.spent hne
    exact ⟨hleft.trans (hparty.symm.trans hspent.hands), hhandles.gone hspent.id,
      hhandles.drained hspent.buffer⟩
  | some batch =>
    have hparty : hands ({.suspended p} + rest) = {batch} + hands rest := by
      have hsome : (Task.suspended p).hand? = some batch := hhand
      rw [hands_add, hands_singleton, hsome]
      rfl
    rcases h.inHand with ⟨hnone, -⟩ | ⟨batch', hone, hall, hid, hbuffer⟩
    · rw [hparty] at hnone
      exact absurd (add_eq_zero.mp hnone).1 (Multiset.singleton_ne_zero batch)
    · rw [hparty] at hone
      obtain ⟨hsame, hrest⟩ := eq_zero_of_add_le hone.le (Multiset.singleton_ne_zero batch)
      have hspent : Spent (c.cancel p runtime).1.state
          (↑(c.cancel p runtime).2.toList + rest) :=
        ⟨hleft.trans hrest, hhandles.gone hid, hhandles.drained hbuffer⟩
      refine ⟨.inl ⟨hspent.hands, ?_⟩, fun _ => hspent⟩
      rw [← hall, Multiset.singleton_inj.mp hsame, ← List.append_assoc]
      rfl

/-- A spent cursor stays so, and hands out nothing. -/
theorem spent_effect (h : Spent c.state (t.party + rest))
    (hs : c.state.Sound (flights (t.party + rest))) (hp : AllProper (t.party + rest))
    (ha : t.Allowed rest) :
    Spent (t.effect c).cursor.state ((t.effect c).left + rest) ∧ t.taken c = [] ∧
      ((t.effect c).outcome.bind Outcome.hand?).getD [] = [] := by
  have hparty : AllProper t.party := (allProper_add.mp hp).1
  have hhandles := handles_effect hs hparty
  have hdeaf := deaf_of_gone hs h.id
  have hdeals := deals_effect (c := c) hparty ha
  rw [hdeaf] at hhandles hdeals
  have hid := hhandles.gone h.id
  have hbuffer : (t.effect c).cursor.state.buffer = [] := hhandles.drained h.buffer
  have htaken : t.taken c = [] := by
    by_cases hclosed : (t.effect c).cursor.state.closed = true
    · exact hdeals.shut hclosed
    · have hall := hdeals.conserved (Bool.eq_false_iff.mpr hclosed)
      exact (List.append_eq_nil_iff.mp (hall.trans h.buffer)).1
  have hnothing : InHand [] [] c.state (t.party + rest) := .inl ⟨h.hands, rfl⟩
  rcases t.cancel_or_lost_eq_nil with ⟨p, runtime, rfl⟩ | ⟨-, hkept⟩
  · have hhands := h.hands
    rw [hands_add, add_eq_zero] at hhands
    refine ⟨⟨?_, hid, hbuffer⟩, htaken, rfl⟩
    rw [hands_add, hhands.2, add_zero]
    exact Cursor.hands_cancel c p runtime
  · have hafter := inHand_effect hnothing hs hparty ha hkept
    rw [htaken, List.append_nil, List.nil_append] at hafter
    rcases hafter with ⟨hnone, hout⟩ | ⟨batch, hone, hall, -, -⟩
    · exact ⟨⟨hnone, hid, hbuffer⟩, htaken, hout⟩
    · have hproper : AllProper ((t.effect c).left + rest) := by
        intro x hx
        rcases Multiset.mem_add.mp hx with hx | hx
        · exact proper_effect c hparty x hx
        · exact hp x (Multiset.mem_add.mpr (.inr hx))
      have hmem : batch ∈ hands ((t.effect c).left + rest) := by
        rw [hone]
        exact Multiset.mem_singleton_self batch
      exact absurd (List.append_eq_nil_iff.mp hall).2 (ne_nil_of_mem_hands hproper hmem)

/-- What every turn does with what was taken. -/
theorem accounted_effect (h : Accounted returned gone took c.state (t.party + rest))
    (hs : c.state.Sound (flights (t.party + rest))) (hp : AllProper (t.party + rest))
    (ha : t.Allowed rest) :
    Accounted (returned ++ ((t.effect c).outcome.bind Outcome.hand?).getD []) (gone ++ t.lost)
      (took ++ t.taken c) (t.effect c).cursor.state ((t.effect c).left + rest) := by
  have hparty : AllProper t.party := (allProper_add.mp hp).1
  rcases t.cancel_or_lost_eq_nil with ⟨p, runtime, rfl⟩ | ⟨hlost, hkept⟩
  · have hnone : returned ++ (Option.bind ((Turn.cancel p runtime).effect c).outcome
        Outcome.hand?).getD [] = returned := List.append_nil _
    have htook : took ++ Turn.taken c (.cancel p runtime) = took := List.append_nil _
    rw [hnone, htook]
    exact accounted_cancel h hs hparty.of_singleton
  · have hafter := inHand_effect h.inHand hs hparty ha hkept
    rw [hlost, List.append_nil]
    by_cases hgone : gone = []
    · subst hgone
      rw [List.append_nil] at hafter
      exact ⟨(List.append_nil _).symm ▸ hafter, fun hne => absurd rfl hne⟩
    · obtain ⟨hspent, htaken, hout⟩ := spent_effect (h.spent hgone) hs hp ha
      rw [htaken, hout, List.append_nil, List.append_nil] at hafter ⊢
      exact ⟨hafter, fun _ => hspent⟩

end Turns

theorem accounted_play {start c : Cursor} {ms : List Moment} {pending : Multiset Task}
    (hsound : start.state.Sound 0) (hp : Play start ms c pending) :
    Accounted (documentsOf (ms.filterMap Moment.outcome?)) (lost ms) (taken ms) c.state
      pending := by
  induction hp with
  | nil => exact ⟨.inl ⟨rfl, rfl⟩, fun hne => absurd rfl hne⟩
  | @snoc ms c rest t before allowed ih =>
    rw [documentsOf_snoc, lost_snoc, taken_snoc]
    exact accounted_effect ih (sound_play hsound before) (proper_play before) allowed

/-- Once documents are lost, no call is handed any. -/
theorem documentsOf_after_loss {start c : Cursor} {before after : List Moment}
    {pending : Multiset Task} (hsound : start.state.Sound 0)
    (hp : Play start (before ++ after) c pending) (hlost : lost before ≠ []) :
    documentsOf (after.filterMap Moment.outcome?) = [] := by
  induction after using List.reverseRecOn generalizing c pending with
  | nil => rfl
  | append_singleton after m ih =>
    rw [← List.append_assoc] at hp
    obtain ⟨rest, hbefore, hallowed, -, -⟩ := hp.last
    have hne : lost (before ++ after) ≠ [] := by
      rw [lost, List.flatMap_append]
      exact fun h => hlost (List.append_eq_nil_iff.mp h).1
    have hspent := (accounted_play hsound hbefore).spent hne
    obtain ⟨-, -, hout⟩ :=
      spent_effect hspent (sound_play hsound hbefore) (proper_play hbefore) hallowed
    have houtcome : (m.outcome?.bind Outcome.hand?).getD [] = [] := hout
    rw [documentsOf_snoc, ih hbefore, houtcome]
    rfl

theorem next_of_spent {c : Cursor} {pending : Multiset Task} (hs : c.state.Sound (flights pending))
    (h : Spent c.state pending) (hopen : c.state.closed = false) :
    (c.next true false).2 = .done .nothing := by
  have hidle : c.state.fetching = false := Bool.eq_false_iff.mpr fun hf => by
    obtain ⟨f, -, hc⟩ := hs.busy hf
    exact hc.live h.id
  rw [Cursor.next_of_drained hopen hidle h.buffer h.id]
  rfl

namespace Schedule

/-- The documents that are lost in a history with calls that are given up. -/
def lost (start : Schedule) (history : List Action) : List Document :=
  ServerCursor.lost (start.moments history)

theorem lost_cancel {start : Schedule} {history : List Action} {slot : Slot} {p : Point}
    (h : (start.run history).waitingIn? slot = some p) :
    start.lost (history ++ [.cancel slot]) = start.lost history ++ p.hand?.getD [] := by
  have hturn : (start.run history).turn? (.cancel slot) =
      some (.cancel p (start.run history).runtime) := by
    simp only [turn?, h]
    rfl
  have hlost : ServerCursor.lost ((start.run history).turns (.cancel slot)) = p.hand?.getD [] := by
    rw [turns, hturn]
    split
    · simp [ServerCursor.lost, Turn.lost]
    · simp [ServerCursor.lost, Turn.lost]
  rw [lost, moments_append, moments_singleton, ServerCursor.lost, List.flatMap_append]
  exact congrArg (_ ++ ·) hlost

theorem mem_hands_pending {s : Schedule} (ho : s.Orderly) {slot : Slot} {p : Point}
    {batch : List Document} (h : s.waitingIn? slot = some p) (hhand : p.hand? = some batch) :
    batch ∈ hands s.pending := by
  have hparty : (Task.suspended p).hand? = some batch := hhand
  rw [pending_of_waiting ho h s.cursor, hands_add, hands_singleton, hparty]
  exact Multiset.mem_add.mpr (.inl (Multiset.mem_singleton_self batch))

/-- What was handed out and what was lost is all that was taken. -/
theorem handed_append_lost {start : Schedule} {history : List Action}
    (ho : (start.run history).Orderly)
    (h : Accounted (documentsOf ((start.moments history).filterMap Moment.outcome?))
      (ServerCursor.lost (start.moments history)) (taken (start.moments history))
      (start.run history).cursor.state (start.run history).pending) :
    start.handed history ++ start.lost history = taken (start.moments history) := by
  have hinHand := h.inHand
  rw [InHand, hands_pending ho, ← outcomes_eq] at hinHand
  rw [handed]
  rcases hinHand with ⟨hnone, hall⟩ | ⟨batch, hone, hall, -, -⟩
  · rw [(Multiset.coe_eq_zero _).mp hnone]
    rw [lost]
    simpa using hall
  · have hnone : ServerCursor.lost (start.moments history) = [] := by
      by_contra hne
      have hspent := (h.spent hne).hands
      rw [hands_pending ho, hone] at hspent
      exact Multiset.singleton_ne_zero batch hspent
    rw [hnone, List.append_nil] at hall
    rw [Multiset.coe_eq_singleton.mp hone, lost, hnone, List.append_nil, List.flatten_singleton]
    exact hall

end Schedule

section Create

variable (reply : Reply) (options : Options) (server : ServerDescription)
  (connection : Option (Nat × ConnectionDescription)) (l : Ledger)

/-- Until the cursor is closed, the documents that were handed out, those that were lost with calls
and those in the buffer are those that have arrived, cut off at the limit. -/
theorem lost_with_call (runtime : Bool) (history : List Action) :
    let start := Schedule.opened reply options server connection l runtime
    let s := start.run history
    (s.cursor.state.closed = false →
      start.handed history ++ start.lost history ++ s.cursor.state.buffer =
        cutOff options.effectiveLimit (arrived reply (start.moments history))) ∧
    ∀ slot p, s.waitingIn? slot = some p → p.flight? = none →
      let s' := (s.step (.cancel slot)).1
      start.lost (history ++ [.cancel slot]) = start.lost history ++ p.hand?.getD [] ∧
      ∀ batch, p.hand? = some batch →
        batch ≠ [] ∧ start.lost history = [] ∧
        (∀ later, documentsOf (s'.outcomes later) = []) ∧
        (s'.cursor.state.closed = false → s'.handles ≠ 0 → ∀ other, s'.waitingIn? other = none →
          (s'.step (.begin other .next)).2 = some .nothing) := by
  intro start s
  have hsound := sound_create reply options server connection l
  have hlimit := (config_create reply options server connection l).2
  have hcreate := conserved_create reply options server connection l
  have hplay : ∀ history, Play _ (start.moments history) (start.run history).cursor
      (start.run history).pending :=
    Schedule.play_run (Cursor.create reply options server connection l) runtime
  have horderly : ∀ history, (start.run history).Orderly :=
    Schedule.orderly_run (Schedule.orderly_ofCursor _ runtime)
  have haccounted : ∀ history, Accounted _ (start.lost history) _ (start.run history).cursor.state
      (start.run history).pending :=
    fun history => accounted_play hsound (hplay history)
  refine ⟨fun hopen => ?_, fun slot p hp hflight => ?_⟩
  · rw [Schedule.handed_append_lost (horderly history) (haccounted history)]
    exact (conserved_play hsound hlimit hcreate (hplay history)).2.buffer hopen
  · intro s'
    refine ⟨Schedule.lost_cancel hp, fun batch hhand => ?_⟩
    have hmem : batch ∈ hands s.pending := Schedule.mem_hands_pending (horderly history) hp hhand
    have hbatch : batch ≠ [] := ne_nil_of_mem_hands (proper_play (hplay history)) hmem
    have hbefore : start.lost history = [] := by
      by_contra hne
      rw [((haccounted history).spent hne).hands] at hmem
      exact Multiset.notMem_zero batch hmem
    have hrun : start.run (history ++ [.cancel slot]) = s' :=
      Schedule.run_append start history [.cancel slot]
    have hlost : start.lost (history ++ [.cancel slot]) ≠ [] := by
      rw [Schedule.lost_cancel hp, hbefore, hhand]
      exact hbatch
    refine ⟨hbatch, hbefore, fun later => ?_, fun hopen hhandles other hother => ?_⟩
    · have hlater := hplay ((history ++ [.cancel slot]) ++ later)
      rw [Schedule.moments_append, hrun] at hlater
      rw [Schedule.outcomes_eq]
      exact documentsOf_after_loss hsound hlater hlost
    · have hs := sound_play hsound (hplay (history ++ [.cancel slot]))
      have hspent := (haccounted (history ++ [.cancel slot])).spent hlost
      rw [hrun] at hs hspent
      rw [Schedule.begin_of_free hother hhandles]
      exact congrArg Progress.outcome? (next_of_spent hs hspent hopen)

end Create

/-- The call that takes the only document is given up while it has its server's cursor discarded. -/
def Schedule.forsakenHistory : List Action :=
  [.begin .stream .next, .cancel .stream]

/-- The document was accepted, and nobody is handed it: the next call finds the end of the results,
and no call after it is handed any documents either, although nobody has closed the cursor. -/
theorem lost_with_call_sated :
    let s := Schedule.sated.run Schedule.forsakenHistory
    ((Schedule.sated.run [.begin .stream .next]).waitingIn? .stream).map Point.flight? =
      some none ∧
    s.cursor.state.closed = false ∧ s.cursor.state.received = 1 ∧
    Schedule.sated.handed Schedule.forsakenHistory = [] ∧
    s.outcomes [.begin .stream .next] = [.nothing] ∧
    ∀ later, documentsOf (s.outcomes later) = [] := by
  intro s
  refine ⟨rfl, by decide, by decide, rfl, rfl, fun later => ?_⟩
  have hsound := sound_create ⟨⟨"db", "items"⟩, [[("n", .int32 1)]], 7, .localhost⟩
    ⟨1, 0, none, none⟩ .blank none Ledger.start
  have hplay := Schedule.play_run (Cursor.create ⟨⟨"db", "items"⟩, [[("n", .int32 1)]], 7,
    .localhost⟩ ⟨1, 0, none, none⟩ .blank none Ledger.start) true
    (Schedule.forsakenHistory ++ later)
  rw [Schedule.moments_append] at hplay
  rw [Schedule.outcomes_eq]
  refine documentsOf_after_loss hsound hplay ?_
  have hlost : lost (Schedule.sated.moments Schedule.forsakenHistory) = [[("n", .int32 1)]] := rfl
  exact hlost ▸ List.cons_ne_nil _ _

end ServerCursor
