import ServerCursor.Proofs.Sound

/-!
# Where failures come from

What a call will end with is settled once it has nothing left to do but to have its server's cursor
discarded (`Point.ending?`). A call fails because of what it was told while it waited for a batch
(`Turn.Dooms`), or it is refused because of the state of its cursor (`Turn.Refuses`), and then it
fails in the same turn.

Main statement: `failure_play` says where every failure of a play comes from. It leaves no place for
a cursor without a route to its server.
-/

namespace ServerCursor

/-- How a call that waits will end, if that is settled. -/
def Point.ending? : Point → Option Outcome
  | .killCheckout _ after => some after
  | .killReply _ after => some after
  | _ => none

/-- How a call that has come so far ends, if that is settled. -/
def Progress.ending? : Progress → Option Outcome
  | .waiting p => p.ending?
  | .done o => some o

/-- How a task or call will end, if that is settled. -/
def Task.ending? : Task → Option Outcome
  | .suspended p => p.ending?
  | _ => none

/-- The error that an answer is. -/
def Answer.cause? : Answer → Option Error
  | .checkout (.error cause) => some cause
  | .reply (.error cause) => some cause
  | .kill (.error cause) => some cause
  | _ => none

theorem Progress.ending?_of_outcome {p : Progress} {o : Outcome} (h : p.outcome? = some o) :
    p.ending? = some o := by
  rw [Progress.eq_done h]
  rfl

theorem Progress.ending?_of_left {p : Progress} {t : Task} (h : t ∈ p.left) :
    t.ending? = p.ending? := by
  cases p with
  | waiting q =>
    rw [Multiset.mem_singleton.mp h]
    rfl
  | done o => exact absurd h (Multiset.notMem_zero t)

namespace Cursor

/-- Why a call for documents is refused. -/
inductive Refuses (c : Cursor) : Error → Prop
  | closed (shut : c.state.closed = true) : Refuses c (.illegalState .closed)
  | fetching (opened : c.state.closed = false) (busy : c.state.fetching = true) :
      Refuses c (.illegalState .fetching)
  | connectionFailed (failed : c.state.pin.isFailed = true) :
      Refuses c (.illegalState .connectionFailed)
  | retainReleased : Refuses c (.illegalState .retainReleased)
  /-- There is neither a source nor a connection. -/
  | noRoute (live : c.state.id ≠ 0) (unsourced : c.state.source = false)
      (unpinned : c.state.pin = .unpinned) : Refuses c .noRoute

theorem not_refuses_noRoute {c : Cursor}
    (hrouted : c.state.id ≠ 0 → c.state.source = true ∨ c.state.pin ≠ .unpinned) :
    ¬ c.Refuses .noRoute := by
  intro h
  cases h with
  | noRoute live unsourced unpinned =>
    rcases hrouted live with hsource | hpin
    · rw [unsourced] at hsource
      cases hsource
    · exact hpin unpinned

theorem ending_conclude (c : Cursor) (a : Abandoned) (after : Outcome) :
    (c.conclude a after).2.ending? = some after := by
  unfold conclude
  split <;> rfl

theorem ending_kill (c : Cursor) (a : Abandoned) (after : Outcome) :
    (c.kill a after).2.ending? = some after := by
  unfold kill
  split
  · exact ending_conclude c a after
  split
  · exact ending_conclude _ a after
  split
  · rfl
  split
  · rfl
  · exact ending_conclude c a after

theorem ending_deliver (c : Cursor) : c.deliver.2.ending? = some (.batch c.state.buffer) := by
  simp only [deliver]
  split
  · exact ending_kill ..
  · rfl

theorem ending_close (c : Cursor) : c.close.2.ending? = some .closed := by
  unfold close
  split
  · rfl
  dsimp only
  split
  · rfl
  · exact ending_kill ..

theorem ending_fetchUnrouted (c : Cursor) (f : Fetch) (cause : Error) :
    (c.fetchUnrouted f cause).2.ending? = some (.failed cause) := by
  simp only [fetchUnrouted]
  split
  · exact ending_kill ..
  · rfl

/-- A call that fails, or has to, is refused and has nothing left to do. -/
def Rejects (c : Cursor) (p : Progress) : Prop :=
  ∀ cause, p.ending? = some (.failed cause) → c.Refuses cause ∧ p.left = 0

theorem rejects_of_ne {c : Cursor} {p : Progress} (h : ∀ cause, p.ending? ≠ some (.failed cause)) :
    c.Rejects p := by
  intro cause hend
  exact absurd hend (h cause)

theorem rejects_done {c : Cursor} {cause : Error} (h : c.Refuses cause) :
    c.Rejects (.done (.failed cause)) := by
  intro e hend
  cases hend
  exact ⟨h, rfl⟩

theorem rejects_refuse {c : Cursor} {cause : IllegalState} (h : c.Refuses (.illegalState cause))
    (c' : Cursor) : c.Rejects (c'.refuse cause).2 :=
  rejects_done h

theorem rejects_startFetch {c : Cursor} (hopen : c.state.closed = false) (hid : c.state.id ≠ 0)
    (wait : Bool) : c.Rejects (c.startFetch wait).2 := by
  simp only [startFetch]
  split
  · exact rejects_refuse .retainReleased _
  split
  · split
    · exact rejects_refuse .retainReleased _
    · exact rejects_of_ne fun cause h => by cases h
  rename_i hpin
  split
  · exact rejects_of_ne fun cause h => by cases h
  rename_i hsource
  simp only [fetchUnrouted, state_giveBack, hopen]
  exact rejects_done
    (.noRoute hid (Bool.eq_false_iff.mpr hsource) (Pin.connection?_eq_none_iff.mp hpin))

theorem rejects_next (c : Cursor) (wait fetched : Bool) : c.Rejects (c.next wait fetched).2 := by
  unfold next
  split
  · rename_i hclosed
    exact rejects_refuse (.closed hclosed) c
  rename_i hopen
  have hopen' := Bool.eq_false_iff.mpr hopen
  split
  · rename_i hfetching
    exact rejects_refuse (.fetching hopen' hfetching) c
  split
  · refine rejects_of_ne fun cause => ?_
    rw [ending_deliver]
    exact nofun
  split
  · exact rejects_of_ne fun cause h => by cases h
  rename_i hid
  split
  · exact rejects_of_ne fun cause h => by cases h
  split
  · rename_i hfailed
    exact rejects_refuse (.connectionFailed hfailed) c
  · exact rejects_startFetch hopen' hid wait

theorem ending_resume {c : Cursor} {p : Point} (h : p.flight? = none) (a : Answer) :
    (c.resume p a).2.ending? = p.ending? := by
  cases p with
  | fetchCheckout f => cases h
  | fetchReply f n => cases h
  | killCheckout b after =>
    cases a with
    | checkout r =>
      cases r with
      | ok _ => rfl
      | error cause => exact ending_conclude _ b after
    | reply r => rfl
    | kill r => rfl
  | killReply b after =>
    cases a with
    | checkout r => rfl
    | reply r => rfl
    | kill r => cases r <;> exact ending_conclude _ b after

end Cursor

/-- What a call was told while it waited for a batch, and fails with. -/
inductive Turn.Dooms (c : Cursor) : Turn → Error → Prop
  /-- Its request has failed. -/
  | told {p : Point} {a : Answer} {cause : Error} (request : p.flight?.isSome = true)
      (answer : a.cause? = some cause) : Dooms c (.answer p a) cause
  /-- The cursor was closed meanwhile. -/
  | overtaken {p : Point} {a : Answer} (shut : c.state.closed = true) :
      Dooms c (.answer p a) (.illegalState .closedWhileFetching)

/-- Why the cursor refuses a call in a turn. -/
inductive Turn.Refuses (c : Cursor) : Turn → Error → Prop
  | closed {call : Call} (shut : c.state.closed = true) :
      Refuses c (.begin call) (.illegalState .closed)
  | fetching {call : Call} (opened : c.state.closed = false) (busy : c.state.fetching = true) :
      Refuses c (.begin call) (.illegalState .fetching)
  | connectionFailed {t : Turn} : Refuses c t (.illegalState .connectionFailed)
  | retainReleased {t : Turn} : Refuses c t (.illegalState .retainReleased)

namespace Cursor

variable {c : Cursor} {rest : Multiset Flight} {cause : Error}

theorem refuses_of_beginCall {call : Call} (hs : c.state.Sound rest)
    (h : (Schedule.beginCall c call).2.ending? = some (.failed cause)) :
    Turn.Refuses c (.begin call) cause ∧ (Schedule.beginCall c call).2.left = 0 := by
  have hnext : ∀ wait, (c.next wait false).2.ending? = some (.failed cause) →
      Turn.Refuses c (.begin call) cause ∧ (c.next wait false).2.left = 0 := by
    intro wait h
    obtain ⟨hrefuses, hleft⟩ := rejects_next _ _ _ cause h
    refine ⟨?_, hleft⟩
    cases hrefuses with
    | closed shut => exact .closed shut
    | fetching opened busy => exact .fetching opened busy
    | connectionFailed failed => exact .connectionFailed
    | retainReleased => exact .retainReleased
    | noRoute live unsourced unpinned =>
      exact absurd (.noRoute live unsourced unpinned) (not_refuses_noRoute hs.routed)
  cases call with
  | next => exact hnext true h
  | tryNext => exact hnext false h
  | close =>
    have hclosed : some Outcome.closed = some (.failed cause) := (ending_close c).symm.trans h
    cases hclosed

/-- A call that has had a reply goes on with the state as the reply left it. -/
theorem failure_fetchReplied {f : Fetch} {n : Nat} {r : Except Error Reply}
    (hs : c.state.Sound ({(f, some n)} + rest))
    (h : (c.fetchReplied f n r).2.ending? = some (.failed cause)) :
    Turn.Dooms c (.answer (.fetchReply f n) (.reply r)) cause ∨
      Turn.Refuses c (.answer (.fetchReply f n) (.reply r)) cause ∧
        (c.fetchReplied f n r).2.left = 0 := by
  obtain ⟨-, -, hc⟩ := hs.sole
  have hnext : ∀ c' : Cursor, c'.state.closed = false → c'.state.fetching = false →
      (c'.state.id ≠ 0 → c'.state.source = true ∨ c'.state.pin ≠ .unpinned) →
      (c'.next f.wait true).2.ending? = some (.failed cause) →
      Turn.Refuses c (.answer (.fetchReply f n) (.reply r)) cause ∧
        (c'.next f.wait true).2.left = 0 := by
    intro c' hopen hidle hrouted h
    obtain ⟨hrefuses, hleft⟩ := rejects_next _ _ _ cause h
    refine ⟨?_, hleft⟩
    cases hrefuses with
    | closed shut =>
      rw [hopen] at shut
      cases shut
    | fetching opened busy =>
      rw [hidle] at busy
      cases busy
    | connectionFailed failed => exact .connectionFailed
    | retainReleased => exact .retainReleased
    | noRoute live unsourced unpinned =>
      exact absurd (.noRoute live unsourced unpinned) (not_refuses_noRoute hrouted)
  unfold fetchReplied at h ⊢
  split at h
  · rename_i hclosed
    simp only [fetchRepliedClosed, ending_kill] at h
    cases r with
    | ok reply =>
      cases h
      exact .inl (.overtaken hclosed)
    | error e =>
      cases h
      exact .inl (.told rfl rfl)
  rename_i hopen
  rw [if_neg hopen]
  have hopen' := Bool.eq_false_iff.mpr hopen
  cases r with
  | ok reply =>
    dsimp only at h ⊢
    right
    split at h
    · rename_i hid
      rw [if_pos hid]
      refine hnext _ ?_ ?_ ?_ h
      · exact hopen'
      · rfl
      · exact fun hlive => absurd rfl hlive
    · rename_i hid
      rw [if_neg hid]
      refine hnext _ ?_ ?_ ?_ h
      · exact hopen'
      · rfl
      · exact fun _ => hs.routed hc.live
  | error e =>
    cases h
    exact .inl (.told rfl rfl)

theorem failure_resume {p : Point} {a : Answer}
    (hs : c.state.Sound (flights {.suspended p} + rest))
    (h : (c.resume p a).2.ending? = some (.failed cause)) :
    p.ending? = some (.failed cause) ∨ Turn.Dooms c (.answer p a) cause ∨
      Turn.Refuses c (.answer p a) cause ∧ (c.resume p a).2.left = 0 := by
  rw [flights_singleton] at hs
  cases p with
  | fetchCheckout f =>
    cases a with
    | checkout r =>
      cases r with
      | ok _ => cases h
      | error e =>
        have hended := (ending_fetchUnrouted (c.record .unavailable) f e).symm.trans h
        cases hended
        exact .inr (.inl (.told rfl rfl))
    | reply r => cases h
    | kill r => cases h
  | fetchReply f n =>
    cases a with
    | checkout r => cases h
    | reply r => exact .inr (failure_fetchReplied hs h)
    | kill r => cases h
  | killCheckout b after => exact .inl ((ending_resume rfl a).symm.trans h)
  | killReply b after => exact .inl ((ending_resume rfl a).symm.trans h)

theorem ending_startTask {t : Task} (h : (c.startTask t).2.ending? = some (.failed cause)) :
    t.ending? = some (.failed cause) := by
  cases t with
  | close =>
    have hclosed := (ending_close c).symm.trans h
    cases hclosed
  | kill a =>
    have hcleared := (ending_kill c a .cleared).symm.trans h
    cases hcleared
  | suspended p => exact h

theorem ending_cancelFetch {back : List Resource} {runtime : Bool} {t : Task}
    (h : t ∈ (↑(c.cancelFetch back runtime).2.toList : Multiset Task)) : t.ending? = none := by
  simp only [cancelFetch] at h
  split at h
  · split at h
    · cases h
    split at h
    · rw [List.mem_singleton.mp h]
      rfl
    · cases h
  · cases h

theorem ending_cancel {p : Point} {runtime : Bool} {t : Task}
    (h : t ∈ (↑(c.cancel p runtime).2.toList : Multiset Task)) : t.ending? = none := by
  cases p with
  | fetchCheckout f => exact ending_cancelFetch h
  | fetchReply f n => exact ending_cancelFetch h
  | killCheckout a after => cases h
  | killReply a after => cases h

theorem ending_drop {runtime : Bool} {t : Task}
    (h : t ∈ (↑(c.drop runtime).2.toList : Multiset Task)) : t.ending? = none := by
  simp only [drop] at h
  split at h
  · cases h
  split at h
  · rw [List.mem_singleton.mp h]
    rfl
  split at h
  · cases h
  · cases h

end Cursor

/-- Nothing fails in a turn, or has to fail after it, but for a reason in the turn, unless it had to
fail before. Who is refused fails at once. -/
theorem failure_effect {c : Cursor} {t : Turn} {rest : Multiset Task} {cause : Error}
    (hs : c.state.Sound (flights (t.party + rest))) (ha : t.Allowed rest)
    (h : (t.effect c).outcome = some (.failed cause) ∨
      ∃ x ∈ (t.effect c).left, x.ending? = some (.failed cause)) :
    (∃ x ∈ t.party, x.ending? = some (.failed cause)) ∨ t.Dooms c cause ∨
      t.Refuses c cause ∧ (t.effect c).left = 0 := by
  rw [flights_add] at hs
  have hprogress : ∀ p : Progress, (p.outcome? = some (.failed cause) ∨
      ∃ x ∈ p.left, x.ending? = some (.failed cause)) → p.ending? = some (.failed cause) := by
    rintro p (h | ⟨x, hx, h⟩)
    · exact Progress.ending?_of_outcome h
    · exact (Progress.ending?_of_left hx).symm.trans h
  have hunsettled : (∀ x ∈ (t.effect c).left, x.ending? = none) → (t.effect c).outcome = none →
      (∃ x ∈ t.party, x.ending? = some (.failed cause)) ∨ t.Dooms c cause ∨
        t.Refuses c cause ∧ (t.effect c).left = 0 := by
    intro hleft hout
    rcases h with h | ⟨x, hx, h⟩
    · rw [hout] at h
      cases h
    · rw [hleft x hx] at h
      cases h
  cases t with
  | begin call => exact .inr (.inr (Cursor.refuses_of_beginCall hs (hprogress _ h)))
  | answer p a =>
    refine (Cursor.failure_resume hs (hprogress _ h)).imp_left fun hp => ?_
    exact ⟨_, Multiset.mem_singleton_self _, hp⟩
  | cancel p runtime => exact hunsettled (fun x hx => Cursor.ending_cancel hx) rfl
  | startTask t =>
    have hleft : ∃ x ∈ (c.startTask t).2.left, x.ending? = some (.failed cause) :=
      h.resolve_left nofun
    exact .inl ⟨t, Multiset.mem_singleton_self t,
      Cursor.ending_startTask (hprogress _ (.inr hleft))⟩
  | answerTask p a =>
    -- Tasks wait for no batch.
    obtain ⟨hflight, -⟩ := background_singleton.mp (ha.task rfl)
    have hleft : ∃ x ∈ (c.resume p a).2.left, x.ending? = some (.failed cause) :=
      h.resolve_left nofun
    exact .inl ⟨.suspended p, Multiset.mem_singleton_self _,
      (Cursor.ending_resume hflight a).symm.trans (hprogress _ (.inr hleft))⟩
  | discardTask t runtime =>
    cases t with
    | close => exact hunsettled (fun x hx => absurd hx (Multiset.notMem_zero x)) rfl
    | kill a => exact hunsettled (fun x hx => absurd hx (Multiset.notMem_zero x)) rfl
    | suspended p => exact hunsettled (fun x hx => Cursor.ending_cancel hx) rfl
  | drop runtime => exact hunsettled (fun x hx => Cursor.ending_drop hx) rfl
  | retain r => exact hunsettled (fun x hx => absurd hx (Multiset.notMem_zero x)) rfl
  | release r => exact hunsettled (fun x hx => absurd hx (Multiset.notMem_zero x)) rfl

/-- Who has nothing left to do but to fail was told so. -/
theorem doomed_play {start c : Cursor} {ms : List Moment} {pending : Multiset Task}
    {cause : Error} (hsound : start.state.Sound 0) (hp : Play start ms c pending)
    (h : ∃ t ∈ pending, t.ending? = some (.failed cause)) :
    ∃ m ∈ ms, m.turn.Dooms m.cursor cause := by
  induction hp with
  | nil =>
    obtain ⟨t, ht, -⟩ := h
    exact absurd ht (Multiset.notMem_zero t)
  | @snoc ms c rest t before allowed ih =>
    have hearlier : (∃ x ∈ t.party + rest, x.ending? = some (.failed cause)) →
        ∃ m ∈ ms ++ [⟨c, t⟩], m.turn.Dooms m.cursor cause := by
      intro h
      obtain ⟨m, hm, hdooms⟩ := ih h
      exact ⟨m, List.mem_append_left _ hm, hdooms⟩
    obtain ⟨x, hx, hend⟩ := h
    rcases Multiset.mem_add.mp hx with hx | hx
    · rcases failure_effect (sound_play hsound before) allowed (.inr ⟨x, hx, hend⟩) with
        ⟨y, hy, hparty⟩ | hdooms | ⟨-, hleft⟩
      · exact hearlier ⟨y, Multiset.mem_add.mpr (.inl hy), hparty⟩
      · exact ⟨⟨c, t⟩, List.mem_concat_self, hdooms⟩
      · rw [hleft] at hx
        exact absurd hx (Multiset.notMem_zero x)
    · exact hearlier ⟨x, Multiset.mem_add.mpr (.inr hx), hend⟩

/-- A call that fails is refused in its turn, or was told so in its turn or before. -/
theorem failure_play {start c : Cursor} {before after : List Moment} {m : Moment}
    {pending : Multiset Task} {cause : Error} (hsound : start.state.Sound 0)
    (hp : Play start (before ++ m :: after) c pending) (hm : m.outcome? = some (.failed cause)) :
    m.turn.Refuses m.cursor cause ∨
      ∃ m' ∈ before ++ [m], m'.turn.Dooms m'.cursor cause := by
  obtain ⟨rest, hbefore, hallowed⟩ := hp.until
  rcases failure_effect (sound_play hsound hbefore) hallowed (.inl hm) with
    ⟨x, hx, hparty⟩ | hdooms | ⟨hrefuses, -⟩
  · obtain ⟨m', hm', hdooms⟩ :=
      doomed_play hsound hbefore ⟨x, Multiset.mem_add.mpr (.inl hx), hparty⟩
    exact .inr ⟨m', List.mem_append_left _ hm', hdooms⟩
  · exact .inr ⟨m, List.mem_concat_self, hdooms⟩
  · exact .inl hrefuses

namespace Schedule

theorem turn?_of_outcome {s : Schedule} {a : Action} {m : Moment} {o : Outcome}
    (h : m ∈ s.turns a) (ho : m.outcome? = some o) :
    s.turn? a = some m.turn ∧ m.cursor = s.cursor := by
  rcases List.mem_append.mp h with h | h
  · obtain ⟨t, ht, rfl⟩ := List.mem_map.mp h
    exact ⟨Option.mem_toList.mp ht, rfl⟩
  · split at h
    · rw [List.mem_singleton.mp h] at ho
      cases ho
    · cases h

/-- A call fails because it is refused, or because the cursor was closed while it waited for a
batch, or with an error that a call was told. -/
theorem refused_or_told {c : Cursor} {runtime : Bool} (history later : List Action)
    {cause : Error} (hsound : c.state.Sound 0)
    (h : .failed cause ∈ ((ofCursor c runtime).run history).outcomes later) :
    (∃ before a after t, later = before ++ a :: after ∧
      ((ofCursor c runtime).run (history ++ before)).turn? a = some t ∧
      t.Refuses ((ofCursor c runtime).run (history ++ before)).cursor cause) ∨
    cause = .illegalState .closedWhileFetching ∨
    ∃ slot a, .answer slot a ∈ history ++ later ∧ a.cause? = some cause := by
  rw [outcomes_eq] at h
  obtain ⟨m, hm, hout⟩ := List.mem_filterMap.mp h
  obtain ⟨past, future, hmoments⟩ := List.append_of_mem hm
  have hplay := play_run c runtime (history ++ later)
  have hall : (ofCursor c runtime).moments (history ++ later) =
      ((ofCursor c runtime).moments history ++ past) ++ m :: future := by
    rw [moments_append, hmoments, List.append_assoc]
  rw [hall] at hplay
  rcases failure_play hsound hplay hout with hrefuses | ⟨m', hm', hdooms⟩
  · obtain ⟨before, a, after, hlater, hturns⟩ := exists_of_mem_moments hm
    obtain ⟨hturn, hcursor⟩ := turn?_of_outcome hturns hout
    rw [hcursor] at hrefuses
    rw [← run_append] at hturn hrefuses
    exact .inl ⟨before, a, after, m.turn, hlater, hturn, hrefuses⟩
  · right
    have hmem : m' ∈ (ofCursor c runtime).moments (history ++ later) := by
      rw [hall, ← List.singleton_append, ← List.append_assoc]
      exact List.mem_append_left _ hm'
    generalize hturn : m'.turn = t at hdooms
    cases hdooms with
    | told request answer =>
      obtain ⟨slot, hslot⟩ := answer_mem_history hmem hturn
      exact .inr ⟨slot, _, hslot, answer⟩
    | overtaken shut => exact .inl rfl

end Schedule

end ServerCursor
