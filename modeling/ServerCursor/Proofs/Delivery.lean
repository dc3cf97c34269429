import ServerCursor.Proofs.Deal
import ServerCursor.Proofs.Discard

/-!
# Documents are conserved

Until a cursor is closed, what calls have taken of the documents, followed by the buffer, is what
has arrived, cut off at the limit (`Conserved`). What a call has taken it returns in the same turn,
or has in hand until its server's cursor is discarded, and then it is the last to get any
(`InHand`).

Main statement: `documents_conserved` says for every history in which no call is given up that what
calls were handed, followed by the buffer, is what has arrived, cut off at the limit.
-/

namespace ServerCursor

/-- What a limit allows of a list of documents; zero sets no limit. -/
def cutOff (limit : Nat) (documents : List Document) : List Document :=
  if limit = 0 then documents else documents.take limit

theorem cutOff_append (config : Config) (before batch : List Document) :
    cutOff config.limit (before ++ batch) = cutOff config.limit before ++
      config.allowed (cutOff config.limit before).length batch := by
  unfold cutOff Config.allowed
  by_cases h : config.limit = 0
  · rw [if_pos h, if_pos h, if_pos h]
  · rw [if_neg h, if_neg h, if_neg h, List.take_append, List.length_take]
    have hroom : config.limit - min config.limit before.length =
        config.limit - before.length := by omega
    rw [hroom]

theorem length_cutOff_le {limit : Nat} (h : limit ≠ 0) (documents : List Document) :
    (cutOff limit documents).length ≤ limit := by
  rw [cutOff, if_neg h, List.length_take]
  exact Nat.min_le_left ..

/-- The documents that a call takes out of the buffer in its turn. What it has in hand already it
has taken before. -/
def Turn.taken (c : Cursor) : Turn → List Document
  | begin call => (Schedule.beginCall c call).2.hand?.getD []
  | answer p a => if p.hand?.isSome then [] else (c.resume p a).2.hand?.getD []
  | _ => []

/-- What a turn does with the documents that have arrived. -/
structure Turn.Deals (s s' : State) (taken : List Document) : Prop where
  /-- No more arrive. -/
  received : s'.received = s.received
  /-- A closed cursor stays closed. -/
  closed : s.closed = true → s'.closed = true
  /-- A closed cursor hands out nothing. -/
  shut : s'.closed = true → taken = []
  /-- What is not taken stays in the buffer. -/
  conserved : s'.closed = false → taken ++ s'.buffer = s.buffer

theorem Deal.deals {s : State} {r : Cursor × Progress} (h : Deal s r) :
    Turn.Deals s r.1.state (r.2.hand?.getD []) :=
  ⟨h.received, h.closed, fun hclosed => by rw [h.shut hclosed]; rfl, h.conserved⟩

theorem deals_kept {s s' : State} (hreceived : s'.received = s.received)
    (hclosed : s'.closed = s.closed) (hbuffer : s'.buffer = s.buffer) : Turn.Deals s s' [] :=
  ⟨hreceived, hclosed.trans, fun _ => rfl, fun _ => hbuffer⟩

theorem deals_same {s s' : State} (h : s' = s) : Turn.Deals s s' [] :=
  deals_kept (congrArg State.received h) (congrArg State.closed h) (congrArg State.buffer h)

namespace Cursor

theorem deals_cancelFetch (c : Cursor) (back : List Resource) (runtime : Bool) :
    Turn.Deals c.state (c.cancelFetch back runtime).1.state [] := by
  simp only [cancelFetch]
  split
  · split
    · exact deals_kept rfl rfl rfl
    split
    · exact deals_kept rfl rfl rfl
    · exact deals_kept rfl rfl rfl
  · exact deals_kept rfl rfl rfl

theorem deals_cancel (c : Cursor) (p : Point) (runtime : Bool) :
    Turn.Deals c.state (c.cancel p runtime).1.state [] := by
  cases p with
  | fetchCheckout f => exact deals_cancelFetch c f.held runtime
  | fetchReply f n => exact deals_cancelFetch c (.connection n :: f.held) runtime
  | killCheckout a after => exact deals_same rfl
  | killReply a after => exact deals_same rfl

theorem deals_closeQuietly (c : Cursor) : Turn.Deals c.state c.closeQuietly.1.state [] := by
  unfold closeQuietly
  split
  · exact deals_same rfl
  · exact ⟨rfl, fun _ => rfl, fun _ => rfl, nofun⟩

theorem deals_drop (c : Cursor) (runtime : Bool) :
    Turn.Deals c.state (c.drop runtime).1.state [] := by
  have hquiet := deals_closeQuietly c
  simp only [drop]
  split
  · exact hquiet
  split
  · exact deals_same rfl
  split
  · rename_i h
    rw [h] at hquiet
    exact hquiet
  · rename_i h
    rw [h] at hquiet
    exact hquiet

theorem deals_startTask (c : Cursor) (t : Task) :
    Turn.Deals c.state (c.startTask t).1.state [] := by
  cases t with
  | close =>
    have hdeals := (deal_close c).deals
    rw [hand_close] at hdeals
    exact hdeals
  | kill a => exact deals_same (state_kill c a .cleared)
  | suspended p => exact deals_same rfl

end Cursor

theorem deals_effect {c : Cursor} {t : Turn} {rest : Multiset Task} (hp : AllProper t.party)
    (ha : t.Allowed rest) :
    Turn.Deals (c.met t.heard?) (t.effect c).cursor.state (t.taken c) := by
  cases t with
  | begin call => exact (Cursor.deal_beginCall c call).deals
  | answer p a =>
    simp only [Turn.taken]
    cases hhand : p.hand? with
    | none => exact (Cursor.deal_resume hp.of_singleton hhand a).deals
    | some batch =>
      have hflight := Point.flight?_of_hand hhand
      have hmet : c.met (Turn.heard? (.answer p a)) = c.state :=
        congrArg c.met (Point.heard?_of_flight hflight a)
      rw [hmet]
      exact deals_same (Cursor.state_resume hflight a)
  | cancel p runtime => exact Cursor.deals_cancel c p runtime
  | startTask t => exact Cursor.deals_startTask c t
  | answerTask p a =>
    obtain ⟨hflight, -⟩ := background_singleton.mp (ha.task rfl)
    have hmet : c.met (Turn.heard? (.answerTask p a)) = c.state :=
      congrArg c.met (Point.heard?_of_flight hflight a)
    rw [hmet]
    exact deals_same (Cursor.state_resume hflight a)
  | discardTask t runtime =>
    cases t with
    | close => exact deals_same rfl
    | kill a => exact deals_same rfl
    | suspended p => exact Cursor.deals_cancel c p runtime
  | drop runtime => exact Cursor.deals_drop c runtime
  | retain r => exact deals_same rfl
  | release r => exact deals_same rfl

/-- How a call ends in its turn: settled, or without documents because there are none. -/
theorem ended_effect {c : Cursor} {t : Turn} (hp : AllProper t.party) {o : Outcome}
    (h : (t.effect c).outcome = some o) :
    o.Settled ∨ o = .nothing ∧ (c.met t.heard?).closed = false ∧ (c.met t.heard?).buffer = [] := by
  cases t with
  | begin call => exact (Cursor.deal_beginCall c call).ended o (Progress.eq_done h)
  | answer p a =>
    cases hhand : p.hand? with
    | none => exact (Cursor.deal_resume hp.of_singleton hhand a).ended o (Progress.eq_done h)
    | some batch =>
      exact .inl (Cursor.settled_resume hp.of_singleton (Point.flight?_of_hand hhand)
        (Progress.eq_done h))
  | _ => cases h

/-- The documents that arrive in a turn. A cursor that was closed throws them away. -/
def Moment.arrived (m : Moment) : List Document :=
  if m.cursor.state.closed then [] else (m.reply?.map Reply.documents).getD []

/-- The documents that a call takes in a turn. -/
def Moment.taken (m : Moment) : List Document :=
  m.turn.taken m.cursor

/-- Of all that has arrived, cut off at the limit, some has been taken, and the rest is there. -/
structure Conserved (limit : Nat) (all taken : List Document) (s : State) : Prop where
  /-- What has arrived is counted as far as the limit allows it. -/
  received : s.received = (cutOff limit all).length
  /-- Until the cursor is closed nothing is lost. -/
  buffer : s.closed = false → taken ++ s.buffer = cutOff limit all
  /-- Nothing was taken that has not arrived. -/
  taken : taken <+: cutOff limit all

section Conserved

variable {limit : Nat} {all taken : List Document} {c : Cursor} {s s' : State}

theorem conserved_congr (h : Conserved limit all taken s) (hreceived : s'.received = s.received)
    (hclosed : s'.closed = s.closed) (hbuffer : s'.buffer = s.buffer) :
    Conserved limit all taken s' := by
  refine ⟨hreceived.trans h.received, fun hopen => ?_, h.taken⟩
  rw [hbuffer]
  exact h.buffer (hclosed ▸ hopen)

theorem conserved_push (h : Conserved limit all taken s) (hopen : s.closed = false)
    {config : Config} (hlimit : config.limit = limit) (batch : List Document) :
    Conserved limit (all ++ batch) taken (s.push config batch) := by
  have hall : cutOff limit (all ++ batch) =
      cutOff limit all ++ config.allowed s.received batch := by
    rw [← hlimit, cutOff_append, hlimit, ← h.received]
  refine ⟨?_, fun _ => ?_, ?_⟩
  · rw [hall, List.length_append, ← h.received]
    rfl
  · rw [hall, ← h.buffer hopen]
    exact (List.append_assoc ..).symm
  · rw [hall]
    exact h.taken.trans (List.prefix_append _ _)

theorem conserved_met (h : Conserved limit all taken c.state) (hlimit : c.config.limit = limit)
    (t : Turn) :
    Conserved limit (all ++ Moment.arrived ⟨c, t⟩) taken (c.met t.heard?) := by
  have hnone : Moment.arrived ⟨c, t⟩ = [] → (c.met t.heard?).received = c.state.received →
      (c.met t.heard?).closed = c.state.closed → (c.met t.heard?).buffer = c.state.buffer →
      Conserved limit (all ++ Moment.arrived ⟨c, t⟩) taken (c.met t.heard?) := by
    intro harrived hreceived hclosed hbuffer
    rw [harrived, List.append_nil]
    exact conserved_congr h hreceived hclosed hbuffer
  cases hheard : t.heard? with
  | none =>
    rw [hheard] at hnone
    refine hnone ?_ rfl rfl rfl
    simp only [Moment.arrived, Moment.reply?, hheard, Option.map_none, Option.getD_none, ite_self]
  | some heard =>
    obtain ⟨n, r⟩ := heard
    rw [hheard] at hnone
    by_cases hclosed : c.state.closed = true
    · have hmet : c.met (some (n, r)) = { c.state with id := Cursor.openId r } := if_pos hclosed
      rw [hmet] at hnone ⊢
      exact hnone (if_pos hclosed) rfl rfl rfl
    cases r with
    | ok reply =>
      have harrived : Moment.arrived ⟨c, t⟩ = reply.documents := by
        simp only [Moment.arrived, Moment.reply?, hheard, if_neg hclosed]
        rfl
      have hpush := conserved_push h (Bool.eq_false_iff.mpr hclosed) hlimit reply.documents
      rw [harrived]
      refine conserved_congr hpush ?_ ?_ ?_ <;>
        · simp only [Cursor.met, Cursor.hear, if_neg hclosed]
          split <;> rfl
    | error cause =>
      refine hnone ?_ ?_ ?_ ?_
      · simp only [Moment.arrived, Moment.reply?, hheard, Option.map_none, Option.getD_none,
          ite_self]
      all_goals
        simp only [Cursor.met, Cursor.hear, if_neg hclosed, Cursor.afterFailure]
        split
        · rfl
        split <;> rfl

theorem conserved_deals {took : List Document} (h : Conserved limit all taken s)
    (hd : Turn.Deals s s' took) : Conserved limit all (taken ++ took) s' := by
  by_cases hopen : s'.closed = true
  · rw [hd.shut hopen, List.append_nil]
    refine ⟨hd.received.trans h.received, fun hfalse => ?_, h.taken⟩
    rw [hopen] at hfalse
    cases hfalse
  · have hfalse := Bool.eq_false_iff.mpr hopen
    have hbefore : s.closed = false := Bool.eq_false_iff.mpr fun e => hopen (hd.closed e)
    have hall : taken ++ took ++ s'.buffer = cutOff limit all := by
      rw [List.append_assoc, hd.conserved hfalse]
      exact h.buffer hbefore
    exact ⟨hd.received.trans h.received, fun _ => hall, ⟨s'.buffer, hall⟩⟩

end Conserved

/-- What was taken in some turns. -/
def taken (ms : List Moment) : List Document :=
  ms.flatMap Moment.taken

/-- What has arrived, with the first reply and in some turns. -/
def arrived (first : Reply) (ms : List Moment) : List Document :=
  first.documents ++ ms.flatMap Moment.arrived

theorem taken_snoc (ms : List Moment) (m : Moment) : taken (ms ++ [m]) = taken ms ++ m.taken := by
  simp [taken]

theorem arrived_snoc (first : Reply) (ms : List Moment) (m : Moment) :
    arrived first (ms ++ [m]) = arrived first ms ++ m.arrived := by
  simp [arrived]

/-- What becomes of the documents in every play. -/
theorem conserved_play {start c : Cursor} {ms : List Moment} {pending : Multiset Task}
    {first : Reply} {limit : Nat} (hsound : start.state.Sound 0)
    (hlimit : start.config.limit = limit) (h : Conserved limit first.documents [] start.state)
    (hp : Play start ms c pending) :
    c.config.limit = limit ∧ Conserved limit (arrived first ms) (taken ms) c.state := by
  induction hp with
  | nil =>
    refine ⟨hlimit, ?_⟩
    simpa [arrived, taken] using h
  | @snoc ms c rest t before allowed ih =>
    obtain ⟨hbefore, hconserved⟩ := ih
    have hs := sound_play hsound before
    have hproper := proper_party before
    have hhandles := handles_effect hs hproper
    constructor
    · rw [hhandles.config]
      exact hbefore
    · rw [arrived_snoc, taken_snoc]
      exact conserved_deals (conserved_met hconserved hbefore t) (deals_effect hproper allowed)

/-- The documents with which calls end. -/
def documentsOf (outcomes : List Outcome) : List Document :=
  (outcomes.filterMap Outcome.hand?).flatten

theorem documentsOf_snoc (ms : List Moment) (m : Moment) :
    documentsOf ((ms ++ [m]).filterMap Moment.outcome?) =
      documentsOf (ms.filterMap Moment.outcome?) ++ (m.outcome?.bind Outcome.hand?).getD [] := by
  rw [documentsOf, documentsOf, List.filterMap_append, List.filterMap_append, List.flatten_append]
  congr 1
  cases h : m.outcome? with
  | none => simp [h]
  | some o => cases ho : o.hand? <;> simp [h, ho]

/-- What was taken was returned, but for what one call has in hand. Then nothing more arrives. -/
def InHand (returned taken : List Document) (s : State) (pending : Multiset Task) : Prop :=
  hands pending = 0 ∧ returned = taken ∨
    ∃ batch, hands pending = {batch} ∧ returned ++ batch = taken ∧ s.id = 0 ∧ s.buffer = []

section InHand

variable {returned taken : List Document} {s s' : State} {pending rest : Multiset Task}

theorem inHand_kept {pending' : Multiset Task} (h : InHand returned taken s pending)
    (hhands : hands pending' = hands pending) (hgone : s.id = 0 → s'.id = 0)
    (hbuffer : s'.buffer = s.buffer ∨ s'.buffer = []) : InHand returned taken s' pending' := by
  rcases h with ⟨hnone, hall⟩ | ⟨batch, hone, hall, hid, hempty⟩
  · exact .inl ⟨hhands.trans hnone, hall⟩
  · refine .inr ⟨batch, hhands.trans hone, hall, hgone hid, ?_⟩
    exact hbuffer.elim (fun e => e.trans hempty) fun e => e

/-- A turn of a call that has nothing in hand. -/
theorem inHand_deal {r : Cursor × Progress} (h : InHand returned taken s rest) (hd : Deal s r)
    (hsome : ∀ batch, r.2.hand? = some batch → batch ≠ []) (hgone : s.id = 0 → r.1.state.id = 0)
    (hbuffer : r.1.state.buffer = s.buffer ∨ r.1.state.buffer = []) :
    InHand (returned ++ (r.2.outcome?.bind Outcome.hand?).getD []) (taken ++ r.2.hand?.getD [])
      r.1.state (r.2.left + rest) := by
  cases hhand : r.2.hand? with
  | none =>
    have hleft : hands (r.2.left + rest) = hands rest := by
      rw [hands_add, hands_left hhand, zero_add]
    have hout : r.2.outcome?.bind Outcome.hand? = none := by
      cases hr : r.2 with
      | waiting p => rfl
      | done o =>
        rw [hr] at hhand
        exact hhand
    rw [hout, Option.getD_none, List.append_nil, List.append_nil]
    exact inHand_kept h hleft hgone hbuffer
  | some batch =>
    have hopen : r.1.state.closed = false := Bool.eq_false_iff.mpr fun e => by
      rw [hd.shut e] at hhand
      cases hhand
    have hconserved := hd.conserved hopen
    rw [hhand, Option.getD_some] at hconserved
    rcases h with ⟨hnone, hall⟩ | ⟨_, -, -, -, hempty⟩
    · cases hr : r.2 with
      | waiting p =>
        have hp : (Task.suspended p).hand? = some batch := by
          rw [hr] at hhand
          exact hhand
        have hleft : hands ((Progress.waiting p).left + rest) = {batch} := by
          rw [hands_add, Progress.left, hands_singleton, hp, hnone]
          rfl
        rcases hd.last batch hhand with ⟨hid, hbuf⟩ | ⟨hdone, -⟩
        · refine .inr ⟨batch, hleft, ?_, hid, hbuf⟩
          rw [hall]
          simp [Progress.outcome?]
        · rw [hr] at hdone
          cases hdone
      | done o =>
        have ho : o.hand? = some batch := by
          rw [hr] at hhand
          exact hhand
        refine .inl ⟨?_, ?_⟩
        · rw [Progress.left, zero_add]
          exact hnone
        · rw [hall]
          simp [Progress.outcome?, ho]
    · rw [hempty] at hconserved
      exact absurd (List.append_eq_nil_iff.mp hconserved).1 (hsome batch hhand)

/-- A turn of a call that has documents in hand. -/
theorem inHand_held {p : Point} {batch : List Document} {c : Cursor} {a : Answer}
    (h : InHand returned taken c.state ({.suspended p} + rest)) (hhand : p.hand? = some batch) :
    InHand (returned ++ ((c.resume p a).2.outcome?.bind Outcome.hand?).getD []) taken
      (c.resume p a).1.state ((c.resume p a).2.left + rest) := by
  have hflight := Point.flight?_of_hand hhand
  have hstate := Cursor.state_resume (c := c) hflight a
  have hafter := (Cursor.hand_resume (c := c) hflight a).trans hhand
  have hparty : hands {Task.suspended p} = {batch} := by
    have hp : (Task.suspended p).hand? = some batch := hhand
    rw [hands_singleton, hp]
    rfl
  rw [hstate]
  cases hr : (c.resume p a).2 with
  | waiting q =>
    have hq : (Task.suspended q).hand? = some batch := by
      rw [hr] at hafter
      exact hafter
    have hhands : hands ((Progress.waiting q).left + rest) = hands ({.suspended p} + rest) := by
      rw [hands_add, hands_add, hparty, Progress.left, hands_singleton, hq]
      rfl
    have hkept := inHand_kept h hhands (fun e => e) (.inl rfl)
    simpa [Progress.outcome?] using hkept
  | done o =>
    have ho : o.hand? = some batch := by
      rw [hr] at hafter
      exact hafter
    rw [InHand, hands_add, hparty] at h
    rcases h with ⟨hnone, -⟩ | ⟨batch', hone, hall, -, -⟩
    · exact absurd (add_eq_zero.mp hnone).1 (Multiset.singleton_ne_zero batch)
    · obtain ⟨hbatch, hrest⟩ := eq_zero_of_add_le hone.le (Multiset.singleton_ne_zero batch)
      refine .inl ⟨?_, ?_⟩
      · rw [Progress.left, zero_add]
        exact hrest
      · rw [← hall, ← Multiset.singleton_inj.mp hbatch]
        simp [Progress.outcome?, ho]

/-- No turn but giving up a call loses what the call has in hand. -/
theorem inHand_effect {c : Cursor} {t : Turn} (h : InHand returned taken c.state (t.party + rest))
    (hs : c.state.Sound (flights (t.party + rest))) (hp : AllProper t.party) (ha : t.Allowed rest)
    (hkept : ∀ p runtime, t ≠ .cancel p runtime) :
    InHand (returned ++ ((t.effect c).outcome.bind Outcome.hand?).getD []) (taken ++ t.taken c)
      (t.effect c).cursor.state ((t.effect c).left + rest) := by
  have hhandles := handles_effect hs hp
  have hproper := proper_effect c hp
  -- Whoever has documents in hand is the last to hear of any.
  have hmet : InHand returned taken (c.met t.heard?) (t.party + rest) := by
    cases hheard : t.heard? with
    | none => exact h
    | some heard =>
      obtain ⟨f, hcarries, -⟩ := carries_of_heard hs hheard
      exact h.imp_right fun ⟨_, _, _, hid, _⟩ => absurd hid hcarries.live
  have hquiet : hands (t.effect c).left = hands t.party → (t.effect c).outcome = none →
      t.taken c = [] →
      InHand (returned ++ ((t.effect c).outcome.bind Outcome.hand?).getD []) (taken ++ t.taken c)
        (t.effect c).cursor.state ((t.effect c).left + rest) := by
    intro hhands hout htaken
    rw [hout, htaken, Option.bind_none, Option.getD_none, List.append_nil, List.append_nil]
    refine inHand_kept hmet ?_ hhandles.gone hhandles.buffer
    rw [hands_add, hands_add, hhands]
  have hdeal : ∀ r : Cursor × Progress, t.effect c = .ofCall r → t.taken c = r.2.hand?.getD [] →
      hands t.party = 0 → Deal (c.met t.heard?) r →
      InHand (returned ++ ((t.effect c).outcome.bind Outcome.hand?).getD []) (taken ++ t.taken c)
        (t.effect c).cursor.state ((t.effect c).left + rest) := by
    intro r heffect htaken hparty hd
    have hgone := hhandles.gone
    have hbuffer := hhandles.buffer
    rw [heffect] at hgone hbuffer hproper ⊢
    rw [htaken]
    have hrest : hands rest = hands (t.party + rest) := by
      rw [hands_add, hparty, zero_add]
    refine inHand_deal (inHand_kept hmet hrest (fun e => e) (.inl rfl)) hd ?_ hgone hbuffer
    exact fun _ hhand => hd.nonempty hproper hhand
  have hbackground : t.isTask = true → hands (t.effect c).left = 0 → (t.effect c).outcome = none →
      t.taken c = [] →
      InHand (returned ++ ((t.effect c).outcome.bind Outcome.hand?).getD []) (taken ++ t.taken c)
        (t.effect c).cursor.state ((t.effect c).left + rest) := by
    intro htask hleft
    exact hquiet (hleft.trans (ha.task htask).hands.symm)
  cases t with
  | begin call => exact hdeal _ rfl rfl rfl (Cursor.deal_beginCall c call)
  | answer p a =>
    cases hhand : p.hand? with
    | none =>
      have htaken : Turn.taken c (.answer p a) = (c.resume p a).2.hand?.getD [] := by
        simp [Turn.taken, hhand]
      have hparty : (Task.suspended p).hand? = none := hhand
      refine hdeal _ rfl htaken ?_ (Cursor.deal_resume hp.of_singleton hhand a)
      rw [Turn.party, hands_singleton, hparty]
      rfl
    | some batch =>
      have htaken : Turn.taken c (.answer p a) = [] := by simp [Turn.taken, hhand]
      rw [htaken, List.append_nil]
      exact inHand_held h hhand
  | cancel p runtime => exact absurd rfl (hkept p runtime)
  | startTask t =>
    obtain ⟨-, hhand⟩ := background_singleton.mp (ha.task rfl)
    have hnone := (Cursor.hand_startTask c t).trans hhand
    exact hbackground rfl (hands_left hnone) rfl rfl
  | answerTask p a =>
    obtain ⟨hflight, hhand⟩ := background_singleton.mp (ha.task rfl)
    have hnone := (Cursor.hand_resume (c := c) hflight a).trans hhand
    exact hbackground rfl (hands_left hnone) rfl rfl
  | discardTask t runtime => exact hbackground rfl (Cursor.hands_discardTask c runtime t) rfl rfl
  | drop runtime => exact hquiet (Cursor.hands_drop c runtime) rfl rfl
  | retain r => exact hquiet rfl rfl rfl
  | release r => exact hquiet rfl rfl rfl

end InHand

/-- While no call is given up, everything that was taken is returned or in hand. -/
theorem inHand_play {start c : Cursor} {ms : List Moment} {pending : Multiset Task}
    (hsound : start.state.Sound 0) (hp : Play start ms c pending)
    (hkept : ∀ m ∈ ms, ∀ p runtime, m.turn ≠ .cancel p runtime) :
    InHand (documentsOf (ms.filterMap Moment.outcome?)) (taken ms) c.state pending := by
  induction hp with
  | nil => exact .inl ⟨rfl, rfl⟩
  | @snoc ms c rest t before allowed ih =>
    have hproper := proper_party before
    have hbefore := ih fun m hm => hkept m (List.mem_append_left _ hm)
    have hlast := hkept _ List.mem_concat_self
    rw [documentsOf_snoc, taken_snoc]
    exact inHand_effect hbefore (sound_play hsound before) hproper allowed hlast

namespace Schedule

/-- The documents that calls have ended with in a history, and those that they have in hand. -/
def handed (start : Schedule) (history : List Action) : List Document :=
  documentsOf (start.outcomes history) ++
    ((start.run history).calls.filterMap fun call => call.2.hand?).flatten

theorem hands_pending {s : Schedule} (ho : s.Orderly) :
    hands s.pending = ↑(s.calls.filterMap fun call => call.2.hand?) := by
  rw [pending, hands_add, ho.tasks.hands, add_zero, hands, Multiset.filterMap_coe,
    List.filterMap_map]
  rfl

/-- In a history in which no call is given up, what was taken is handed out. -/
theorem handed_eq_taken {start : Schedule} {history : List Action}
    (ho : (start.run history).Orderly)
    (h : InHand (documentsOf ((start.moments history).filterMap Moment.outcome?))
      (taken (start.moments history)) (start.run history).cursor.state
      (start.run history).pending) :
    start.handed history = taken (start.moments history) := by
  rw [InHand, hands_pending ho, ← outcomes_eq] at h
  rw [handed]
  rcases h with ⟨hnone, hall⟩ | ⟨batch, hone, hall, -, -⟩
  · rw [(Multiset.coe_eq_zero _).mp hnone, hall]
    exact List.append_nil _
  · rw [Multiset.coe_eq_singleton.mp hone, ← hall, List.flatten_singleton]

end Schedule

/-- Who ends without documents has found none left. -/
theorem taken_of_nothing {start c : Cursor} {before after : List Moment} {m : Moment}
    {pending : Multiset Task} {first : Reply} {limit : Nat} (hsound : start.state.Sound 0)
    (hlimit : start.config.limit = limit) (h : Conserved limit first.documents [] start.state)
    (hp : Play start (before ++ m :: after) c pending) (hm : m.outcome? = some .nothing) :
    taken before = cutOff limit (arrived first (before ++ [m])) := by
  obtain ⟨rest, hbefore, -⟩ := hp.until
  have hproper := proper_party hbefore
  obtain ⟨hl, hconserved⟩ := conserved_play hsound hlimit h hbefore
  rcases ended_effect hproper hm with hsettled | ⟨-, hopen, hempty⟩
  · exact absurd hsettled id
  · have hall := (conserved_met hconserved hl m.turn).buffer hopen
    rw [hempty, List.append_nil] at hall
    rw [arrived_snoc]
    exact hall

section Create

variable (reply : Reply) (options : Options) (server : ServerDescription)
  (connection : Option (Nat × ConnectionDescription)) (l : Ledger)

theorem conserved_create :
    Conserved options.effectiveLimit reply.documents []
      (Cursor.create reply options server connection l).state := by
  obtain ⟨-, -, -, hbuffer, hreceived⟩ := state_create reply options server connection l
  have hlimit := (config_create reply options server connection l).2
  have hall : (Cursor.create reply options server connection l).state.buffer =
      cutOff options.effectiveLimit reply.documents := by
    rw [hbuffer, Config.allowed, hlimit]
    rfl
  refine ⟨?_, fun _ => hall, List.nil_prefix⟩
  rw [hreceived, hall]

/-- While no call is given up, and until the cursor is closed, the documents that were handed out,
followed by the buffer, are those that have arrived, cut off at the limit. -/
theorem documents_conserved (runtime : Bool) (history : List Action)
    (hkept : ∀ slot, .cancel slot ∉ history) :
    let start := Schedule.opened reply options server connection l runtime
    let s := start.run history
    let all := fun history => cutOff options.effectiveLimit (arrived reply (start.moments history))
    (s.cursor.state.closed = false →
      start.handed history ++ s.cursor.state.buffer = all history ∧
      s.cursor.state.received = (all history).length) ∧
    start.handed history <+: all history ∧
    (options.effectiveLimit ≠ 0 → (start.handed history).length ≤ options.effectiveLimit) ∧
    (∀ batch, .batch batch ∈ start.outcomes history → batch ≠ []) ∧
    ∀ a, (s.step a).2 = some .nothing → start.handed (history ++ [a]) = all (history ++ [a]) := by
  intro start s all
  have hsound := sound_create reply options server connection l
  have hlimit := (config_create reply options server connection l).2
  have hcreate := conserved_create reply options server connection l
  have hplay : ∀ history, Play _ (start.moments history) (start.run history).cursor
      (start.run history).pending :=
    Schedule.play_run (Cursor.create reply options server connection l) runtime
  have hhanded : ∀ history, (∀ slot, .cancel slot ∉ history) →
      start.handed history = taken (start.moments history) := by
    intro history hkept
    refine Schedule.handed_eq_taken (Schedule.orderly_run (Schedule.orderly_ofCursor _ _) history)
      (inHand_play hsound (hplay history) fun m hm p runtime ht => ?_)
    exact (Schedule.cancel_mem_history hm ht).elim hkept
  have hconserved := fun history => (conserved_play hsound hlimit hcreate (hplay history)).2
  have hprefix : start.handed history <+: all history := by
    rw [hhanded history hkept]
    exact (hconserved history).taken
  refine ⟨fun hopen => ⟨?_, (hconserved history).received⟩, hprefix, fun hl => ?_,
    fun batch hbatch => ?_, fun a ha => ?_⟩
  · rw [hhanded history hkept]
    exact (hconserved history).buffer hopen
  · exact hprefix.length_le.trans (length_cutOff_le hl _)
  · rw [Schedule.outcomes_eq] at hbatch
    obtain ⟨m, hm, hout⟩ := List.mem_filterMap.mp hbatch
    obtain ⟨before, after, hmoments⟩ := List.append_of_mem hm
    have hall := hplay history
    rw [hmoments] at hall
    obtain ⟨rest, hbefore, -⟩ := hall.until
    have hproper := proper_party hbefore
    rcases ended_effect hproper hout with hsettled | ⟨hnothing, -, -⟩
    · exact hsettled
    · cases hnothing
  · have hstep := ha
    rw [Schedule.outcome_step] at hstep
    obtain ⟨t, ht, hout⟩ := Option.bind_eq_some_iff.mp hstep
    have hnext : ∀ slot, .cancel slot ∉ history ++ [a] := by
      intro slot hmem
      rcases List.mem_append.mp hmem with hmem | hmem
      · exact hkept slot hmem
      · rw [← List.mem_singleton.mp hmem] at ha
        cases ha
    -- After the turn at most the cursor is let go, which neither brings nor takes anything.
    obtain ⟨after, hturns, hafter⟩ : ∃ after, s.turns a = ⟨s.cursor, t⟩ :: after ∧
        after.flatMap Moment.arrived = [] := by
      refine ⟨_, by rw [Schedule.turns, ht]; rfl, ?_⟩
      split
      · simp [Moment.arrived, Moment.reply?, Turn.heard?]
      · rfl
    have hmoments : start.moments (history ++ [a]) =
        start.moments history ++ ⟨s.cursor, t⟩ :: after := by
      rw [Schedule.moments_append, Schedule.moments_singleton, ← hturns]
    have hall := hplay (history ++ [a])
    rw [hmoments] at hall
    have htaken := taken_of_nothing hsound hlimit hcreate hall hout
    have harrived : all (history ++ [a]) = taken (start.moments history) := by
      rw [htaken]
      simp only [all, hmoments, arrived]
      simp [hafter]
    rw [hhanded _ hnext, harrived]
    have hle := (hconserved (history ++ [a])).taken
    change _ <+: all (history ++ [a]) at hle
    rw [harrived] at hle
    refine hle.eq_of_length_le ?_
    rw [hmoments, taken, taken, List.flatMap_append, List.length_append]
    exact Nat.le_add_right _ _

end Create

/-- A cursor that may bring three documents, of which the first reply has one. -/
def Schedule.limited : Schedule :=
  opened ⟨⟨"db", "items"⟩, [[("n", .int32 1)]], 7, .localhost⟩ ⟨-3, 0, none, none⟩ .blank none
    Ledger.start true

/-- The next reply has three more, one past the limit, and the server's cursor is discarded. -/
def Schedule.limitedHistory : List Action :=
  [.begin .stream .next, .begin .stream .next, .answer .stream (.checkout (.ok ())),
    .answer .stream (.reply (.ok ⟨⟨"db", "items"⟩,
      [[("n", .int32 2)], [("n", .int32 3)], [("n", .int32 4)]], 7, .localhost⟩)),
    .answer .stream (.checkout (.ok ())), .answer .stream (.kill (.ok ()))]

theorem documents_conserved_limited :
    (Schedule.limited.run Schedule.limitedHistory).cursor.state.closed = false ∧
      Schedule.limited.handed Schedule.limitedHistory =
        [[("n", .int32 1)], [("n", .int32 2)], [("n", .int32 3)]] ∧
      (Schedule.limited.run Schedule.limitedHistory).cursor.state.received = 3 ∧
      Schedule.limited.handed (Schedule.limitedHistory ++ [.begin .stream .next]) =
        [[("n", .int32 1)], [("n", .int32 2)], [("n", .int32 3)]] := by
  have hkept : ∀ slot, .cancel slot ∉ Schedule.limitedHistory := by
    intro slot hmem
    simp [Schedule.limitedHistory] at hmem
  have hall := documents_conserved ⟨⟨"db", "items"⟩, [[("n", .int32 1)]], 7, .localhost⟩
    ⟨-3, 0, none, none⟩ .blank none Ledger.start true Schedule.limitedHistory hkept
  have hopen : (Schedule.limited.run Schedule.limitedHistory).cursor.state.closed = false := by
    decide
  obtain ⟨hbuffer, hreceived⟩ := hall.1 hopen
  have hempty : (Schedule.limited.run Schedule.limitedHistory).cursor.state.buffer = [] :=
    List.isEmpty_iff.mp (by decide)
  have hnothing := hall.2.2.2.2 (.begin .stream .next) rfl
  exact ⟨hopen, (List.append_nil _).symm.trans (hempty ▸ hbuffer), hreceived, hnothing⟩

end ServerCursor
