import ServerCursor.Proofs.Play

/-!
# The state between turns

What the state of a cursor and the parties know of each other whenever a turn has ended. At most one
request for the next batch is under way, and then the cursor is live, has nothing buffered and has a
route to its server: the source, or one connection, never both. A closed cursor without a request
under way has nothing left. A party that discards the server's cursor knows which, and one that
waits for a connection to do so has the source to get it from.

Main statements: `sound_play` and `proper_play` say so after every play with a new cursor.
-/

namespace ServerCursor

/-- A request that fits the state of its cursor. -/
structure State.Carries (s : State) (f : Flight) : Prop where
  /-- It is for the server's cursor. -/
  id : f.1.id = s.id
  /-- The server's cursor is there. -/
  live : s.id ≠ 0
  /-- Everything that arrived before has been handed out. -/
  buffer : s.buffer = []
  /-- It holds the source if the cursor does. -/
  source : f.1.source = s.source
  /-- The connection of the cursor has not failed. -/
  intact : s.pin.isFailed = false
  /-- It goes over the connection of the cursor, if the cursor is bound to one. -/
  bound : s.pin = .unpinned ∨ s.pin.connection? = f.2

/-- A state that fits the requests under way. -/
structure State.Sound (s : State) (fs : Multiset Flight) : Prop where
  /-- One request is under way, or none. -/
  flight : s.fetching = false ∧ fs = 0 ∨ s.fetching = true ∧ ∃ f, fs = {f} ∧ s.Carries f
  /-- A cursor that is bound to a connection does not hold the source. -/
  single : s.source = true → s.pin = .unpinned
  /-- While the server's cursor is there, there is a route to it. -/
  routed : s.id ≠ 0 → s.source = true ∨ s.pin ≠ .unpinned
  /-- A closed cursor hands out nothing. -/
  drained : s.closed = true → s.buffer = []
  /-- A closed cursor has nothing left, unless a request under way clears it up. -/
  cleared : s.closed = true → s.fetching = false → s.id = 0 ∧ s.source = false ∧ s.pin = .unpinned

/-- What a call may end with after it has waited for its server's cursor to be discarded. -/
def Outcome.Settled : Outcome → Prop
  | .batch documents => documents ≠ []
  | .nothing => False
  | _ => True

/-- A party that discards a server's cursor knows which, where to get a connection if it waits for
one, and what its call ends with. -/
def Task.Proper : Task → Prop
  | .kill a => a.id ≠ 0 ∧ a.connection = none
  | .suspended (.killCheckout a after) =>
    (a.id ≠ 0 ∧ a.source = true ∧ a.pin = .unpinned ∧ a.connection = none) ∧ after.Settled
  | .suspended (.killReply a after) => a.id ≠ 0 ∧ after.Settled
  | _ => True

namespace State

variable {s : State} {fs : Multiset Flight}

theorem Sound.idle (h : s.Sound fs) (hf : s.fetching = false) : fs = 0 := by
  rcases h.flight with ⟨-, h0⟩ | ⟨ht, -⟩
  · exact h0
  · rw [hf] at ht; cases ht

theorem Sound.busy (h : s.Sound fs) (hf : s.fetching = true) : ∃ f, fs = {f} ∧ s.Carries f := by
  rcases h.flight with ⟨h0, -⟩ | ⟨-, h1⟩
  · rw [hf] at h0; cases h0
  · exact h1

theorem Sound.resting (h : s.Sound 0) : s.fetching = false := by
  rcases h.flight with ⟨hf, -⟩ | ⟨-, f, h0, -⟩
  · exact hf
  · exact absurd h0.symm (Multiset.singleton_ne_zero f)

theorem Sound.sole {f : Flight} {rest : Multiset Flight} (h : s.Sound ({f} + rest)) :
    s.fetching = true ∧ rest = 0 ∧ s.Carries f := by
  rcases h.flight with ⟨-, h0⟩ | ⟨ht, g, hg, hc⟩
  · exact absurd (add_eq_zero.mp h0).1 (Multiset.singleton_ne_zero f)
  · obtain ⟨hf, hrest⟩ := eq_zero_of_add_le hg.le (Multiset.singleton_ne_zero f)
    exact ⟨ht, hrest, Multiset.singleton_inj.mp hf ▸ hc⟩

theorem Sound.carries {f : Flight} (h : s.Sound {f}) : s.Carries f := by
  have hsole : s.Sound ({f} + 0) := h
  exact hsole.sole.2.2

theorem sound_bare (hf : s.fetching = false) (hb : s.closed = true → s.buffer = []) :
    s.bare.Sound 0 where
  flight := .inl ⟨hf, rfl⟩
  single h := nomatch h
  routed h := absurd rfl h
  drained := hb
  cleared _ _ := ⟨rfl, rfl, rfl⟩

theorem pin_invalidate_ne {p : Pin} (h : p ≠ .unpinned) : p.invalidate ≠ .unpinned := by
  cases p with
  | unpinned => exact absurd rfl h
  | valid n => exact nofun
  | failed n => exact nofun

theorem Sound.invalidate (h : s.Sound 0) (hopen : ¬ s.closed = true) :
    { s with pin := s.pin.invalidate }.Sound 0 where
  flight := h.flight.imp (fun e => e) fun ⟨_, f, hf, _⟩ =>
    absurd hf.symm (Multiset.singleton_ne_zero f)
  single hs := by
    have hp : s.pin = .unpinned := h.single hs
    change s.pin.invalidate = .unpinned
    rw [hp]
    rfl
  routed hid := (h.routed hid).imp (fun e => e) pin_invalidate_ne
  drained e := absurd e hopen
  cleared e := absurd e hopen

theorem sound_afterFailure (h : s.Sound 0) (hopen : ¬ s.closed = true) (cause : Error) :
    (Cursor.afterFailure s cause).Sound 0 := by
  simp only [Cursor.afterFailure]
  split
  · exact ⟨.inl ⟨h.resting, rfl⟩, h.single, fun e => absurd rfl e, h.drained,
      fun e => absurd e hopen⟩
  split
  · exact h.invalidate hopen
  · exact h

theorem Sound.landed {g : Flight} {rest : Multiset Flight} (h : s.Sound ({g} + rest))
    (hopen : ¬ s.closed = true) : { s with fetching := false }.Sound 0 :=
  ⟨.inl ⟨rfl, rfl⟩, h.single, h.routed, h.drained, fun e => absurd e hopen⟩

end State

theorem forall_mem_add {p : Task → Prop} {m n : Multiset Task} :
    (∀ t ∈ m + n, p t) ↔ (∀ t ∈ m, p t) ∧ ∀ t ∈ n, p t := by
  constructor
  · exact fun h => ⟨fun t ht => h t (Multiset.mem_add.mpr (.inl ht)),
      fun t ht => h t (Multiset.mem_add.mpr (.inr ht))⟩
  · rintro ⟨hm, hn⟩ t ht
    exact (Multiset.mem_add.mp ht).elim (hm t) (hn t)

/-- Everything that parties still have to do is proper. -/
def AllProper (m : Multiset Task) : Prop :=
  ∀ t ∈ m, t.Proper

theorem allProper_zero : AllProper 0 :=
  fun t ht => absurd ht (Multiset.notMem_zero t)

theorem allProper_singleton {t : Task} (h : t.Proper) : AllProper {t} := fun x hx => by
  rw [Multiset.mem_singleton.mp hx]
  exact h

theorem AllProper.of_singleton {t : Task} (h : AllProper {t}) : t.Proper :=
  h t (Multiset.mem_singleton_self t)

theorem allProper_of_eq_zero {m : Multiset Task} (h : m = 0) : AllProper m :=
  h ▸ allProper_zero

theorem allProper_add {m n : Multiset Task} :
    AllProper (m + n) ↔ AllProper m ∧ AllProper n :=
  forall_mem_add

/-- The state after a part of a turn, with the requests of the party and of all others. -/
def SoundAfter (r : Cursor × Progress) (rest : Multiset Flight) : Prop :=
  r.1.state.Sound (flights r.2.left + rest)

theorem soundAfter_done {c : Cursor} {rest : Multiset Flight} (h : c.state.Sound rest)
    (o : Outcome) : SoundAfter (c, .done o) rest := by
  have hleft : flights (Progress.left (.done o)) + rest = rest := zero_add rest
  rw [SoundAfter, hleft]
  exact h

namespace Cursor

variable {c : Cursor} {rest : Multiset Flight}

theorem sound_kill (h : c.state.Sound rest) (a : Abandoned) (after : Outcome) :
    SoundAfter (c.kill a after) rest := by
  rw [SoundAfter, state_kill, flights_kill, zero_add]
  exact h

theorem sound_refuse (h : c.state.Sound rest) (cause : IllegalState) :
    SoundAfter (c.refuse cause) rest :=
  soundAfter_done h _

theorem sound_deliver (h : c.state.Sound rest) (hf : c.state.fetching = false)
    (hc : c.state.closed = false) : SoundAfter c.deliver rest := by
  have hrest := h.idle hf
  subst hrest
  simp only [deliver]
  split
  · refine sound_kill (State.sound_bare ?_ ?_) _ _
    · exact hf
    · exact fun _ => rfl
  · refine soundAfter_done ?_ _
    exact ⟨.inl ⟨hf, rfl⟩, h.single, h.routed, fun _ => rfl, fun e => by simp [hc] at e⟩

theorem sound_finish (h : c.state.Sound rest) (hf : c.state.fetching = false)
    (hb : c.state.buffer = []) : SoundAfter c.finish rest := by
  have hrest := h.idle hf
  subst hrest
  refine soundAfter_done (State.sound_bare ?_ ?_) _
  · exact hf
  · exact fun _ => hb

theorem sound_sendFetch {f : Fetch} {n : Nat} (h : c.state.Sound {(f, some n)}) :
    SoundAfter (c.sendFetch f n) 0 :=
  h

theorem sound_fetchUnrouted {f : Fetch} {g : Flight} (h : c.state.Sound ({g} + rest))
    (cause : Error) : SoundAfter (c.fetchUnrouted f cause) rest := by
  obtain ⟨-, hrest, hc⟩ := h.sole
  subst hrest
  simp only [fetchUnrouted]
  split
  · refine sound_kill (State.sound_bare ?_ ?_) _ _
    · rfl
    · exact fun _ => hc.buffer
  · rename_i hopen
    refine soundAfter_done ?_ _
    exact ⟨.inl ⟨rfl, rfl⟩, h.single, h.routed, h.drained, fun e => absurd e hopen⟩

theorem sound_startFetch (h : c.state.Sound rest) (hf : c.state.fetching = false)
    (hid : c.state.id ≠ 0) (hb : c.state.buffer = []) (hpin : c.state.pin.isFailed = false)
    (wait : Bool) : SoundAfter (c.startFetch wait) rest := by
  have hrest := h.idle hf
  subst hrest
  have hbegin : ∀ g : Flight, c.state.Carries g →
      State.Sound { c.state with fetching := true } {g} := fun g hg =>
    ⟨.inr ⟨rfl, g, rfl, hg.1, hg.2, hg.3, hg.4, hg.5, hg.6⟩, h.single, h.routed, h.drained, nofun⟩
  simp only [startFetch]
  split
  · exact sound_refuse h _
  split
  · rename_i n hn
    split
    · exact sound_refuse h _
    · exact sound_sendFetch (hbegin _ ⟨rfl, hid, hb, rfl, hpin, .inr hn⟩)
  · rename_i hn
    have hfree : c.state.pin = .unpinned := Pin.connection?_eq_none_iff.mp hn
    split
    · exact hbegin _ ⟨rfl, hid, hb, rfl, hpin, .inl hfree⟩
    · rename_i hs
      exact absurd hfree ((h.routed hid).resolve_left hs)

theorem sound_next (h : c.state.Sound rest) (wait fetched : Bool) :
    SoundAfter (c.next wait fetched) rest := by
  simp only [next]
  split
  · exact sound_refuse h _
  rename_i hopen
  split
  · exact sound_refuse h _
  rename_i hf
  rw [Bool.not_eq_true] at hopen hf
  split
  · exact sound_deliver h hf hopen
  rename_i hb
  have hb' : c.state.buffer = [] := by simpa using hb
  split
  · exact sound_finish h hf hb'
  rename_i hid
  split
  · exact soundAfter_done h _
  split
  · exact sound_refuse h _
  · rename_i hpin
    exact sound_startFetch h hf hid hb' (by simpa using hpin) wait

theorem sound_close (h : c.state.Sound rest) : SoundAfter c.close rest := by
  unfold close
  split
  · exact soundAfter_done h _
  dsimp only
  split
  · rename_i hf
    obtain ⟨g, hg, hc⟩ := h.busy hf
    refine soundAfter_done ?_ _
    exact ⟨.inr ⟨hf, g, hg, hc.1, hc.2, rfl, hc.4, hc.5, hc.6⟩, h.single, h.routed, fun _ => rfl,
      fun _ e => by rw [show c.state.fetching = true from hf] at e; cases e⟩
  · rename_i hf
    rw [Bool.not_eq_true] at hf
    have hrest := h.idle hf
    subst hrest
    refine sound_kill (State.sound_bare ?_ ?_) _ _
    · exact hf
    · exact fun _ => rfl

theorem sound_fetchCheckedOut {f : Fetch} (h : c.state.Sound ({(f, none)} + rest))
    (r : Except Error Unit) : SoundAfter (c.fetchCheckedOut f r) rest := by
  cases r with
  | ok _ =>
    obtain ⟨hf, hrest, hc⟩ := h.sole
    subst hrest
    have hfree : c.state.pin = .unpinned := by
      rcases hc.bound with hp | hp
      · exact hp
      · cases hpin : c.state.pin <;> rw [hpin] at hp <;> first | rfl | cases hp
    refine sound_sendFetch (c := c.checkout.1) ?_
    exact ⟨.inr ⟨hf, _, rfl, hc.1, hc.2, hc.3, hc.4, hc.5, .inl hfree⟩, h.single, h.routed,
      h.drained, h.cleared⟩
  | error cause => exact sound_fetchUnrouted (c := c.record .unavailable) h cause

theorem sound_fetchReplied {f : Fetch} {n : Nat} (h : c.state.Sound ({(f, some n)} + rest))
    (r : Except Error Reply) : SoundAfter (c.fetchReplied f n r) rest := by
  obtain ⟨-, hrest, hc⟩ := h.sole
  subst hrest
  unfold fetchReplied
  split
  · rename_i hclosed
    simp only [fetchRepliedClosed]
    refine sound_kill (State.sound_bare ?_ ?_) _ _
    · rfl
    · exact fun _ => h.drained hclosed
  rename_i hopen
  dsimp only
  split
  · rename_i reply
    split
    · refine sound_next (State.sound_bare ?_ ?_) _ _
      · rfl
      · exact fun e => absurd e hopen
    · refine sound_next ?_ _ _
      refine ⟨.inl ⟨rfl, rfl⟩, h.single, fun _ => h.routed hc.live, fun e => absurd e hopen,
        fun e => absurd e hopen⟩
  · rename_i cause
    exact soundAfter_done (State.sound_afterFailure (h.landed hopen) hopen cause) _

theorem sound_resume {p : Point} (h : c.state.Sound (flights {.suspended p} + rest)) (a : Answer) :
    SoundAfter (c.resume p a) rest := by
  have hkept : SoundAfter (c, .waiting p) rest := h
  rw [flights_singleton] at h
  cases p with
  | fetchCheckout f =>
    cases a with
    | checkout r => exact sound_fetchCheckedOut h r
    | reply r => exact hkept
    | kill r => exact hkept
  | fetchReply f n =>
    cases a with
    | checkout r => exact hkept
    | reply r => exact sound_fetchReplied h r
    | kill r => exact hkept
  | killCheckout b after =>
    have hstate : ∀ r, (c.killCheckedOut b after r).1.state = c.state := fun r => by
      cases r with
      | ok _ => rfl
      | error cause => simp [killCheckedOut]
    cases a with
    | checkout r =>
      have hleft := flights_killCheckedOut c b after r
      rw [resume, SoundAfter, hstate, hleft]
      exact h
    | reply r => exact hkept
    | kill r => exact hkept
  | killReply b after =>
    cases a with
    | checkout r => exact hkept
    | reply r => exact hkept
    | kill r =>
      have hstate : (c.killReplied b after r).1.state = c.state := by
        cases r <;> simp [killReplied]
      rw [resume, SoundAfter, hstate, left_killReplied]
      exact h

theorem sound_startTask {t : Task} (h : c.state.Sound (flights {t} + rest)) :
    SoundAfter (c.startTask t) rest := by
  cases t with
  | close => exact sound_close (by simpa [flights_singleton, Task.flight?] using h)
  | kill a => exact sound_kill (by simpa [flights_singleton, Task.flight?] using h) _ _
  | suspended p => exact h

theorem sound_cancelFetch {g : Flight} (h : c.state.Sound ({g} + rest)) (back : List Resource)
    (runtime : Bool) : (c.cancelFetch back runtime).1.state.Sound rest := by
  obtain ⟨-, hrest, hc⟩ := h.sole
  subst hrest
  have hbare : ∀ {s : State}, s.fetching = false → s.buffer = [] → s.bare.Sound 0 :=
    fun hf hb => State.sound_bare hf fun _ => hb
  simp only [cancelFetch]
  split
  · split
    · exact hbare rfl hc.buffer
    split
    · exact hbare rfl hc.buffer
    · exact hbare rfl hc.buffer
  · rename_i hopen
    exact (h.landed hopen).invalidate hopen

theorem sound_cancel {p : Point} (h : c.state.Sound (flights {.suspended p} + rest))
    (runtime : Bool) : (c.cancel p runtime).1.state.Sound rest := by
  rw [flights_singleton] at h
  cases p with
  | fetchCheckout f => exact sound_cancelFetch h _ runtime
  | fetchReply f n => exact sound_cancelFetch h _ runtime
  | killCheckout a after => exact (zero_add rest) ▸ h
  | killReply a after => exact (zero_add rest) ▸ h

theorem sound_closeQuietly (h : c.state.Sound 0) : c.closeQuietly.1.state.Sound 0 := by
  have hf : c.state.fetching = false := by
    rcases h.flight with ⟨hf, -⟩ | ⟨-, f, h0, -⟩
    · exact hf
    · exact absurd h0.symm (Multiset.singleton_ne_zero f)
  simp only [closeQuietly]
  split
  · exact h
  · refine State.sound_bare ?_ ?_
    · exact hf
    · exact fun _ => rfl

theorem sound_drop (h : c.state.Sound 0) (runtime : Bool) : (c.drop runtime).1.state.Sound 0 := by
  have hq := sound_closeQuietly h
  simp only [drop]
  split
  · exact hq
  split
  · exact h
  split
  · rename_i e
    rw [e] at hq
    exact hq
  · rename_i e
    rw [e] at hq
    exact hq

theorem sound_discardTask {t : Task} (h : c.state.Sound (flights {t} + rest)) (runtime : Bool) :
    (c.discardTask runtime t).1.state.Sound rest := by
  cases t with
  | close => exact (zero_add rest) ▸ h
  | kill a => exact (zero_add rest) ▸ h
  | suspended p => exact sound_cancel h runtime

end Cursor

theorem sound_effect {c : Cursor} {t : Turn} {rest : Multiset Task}
    (h : c.state.Sound (flights (t.party + rest))) (ha : t.Allowed rest) :
    (t.effect c).cursor.state.Sound (flights ((t.effect c).left + rest)) := by
  have hloss : ∀ {s : State} {o : Option Task}, s.Sound (flights rest) → flights ↑o.toList = 0 →
      s.Sound (flights (↑o.toList + rest)) := fun hs ho => by
    rw [flights_add, ho, zero_add]
    exact hs
  have hnone : t.party = 0 → c.state.Sound (flights rest) := fun hp => by
    rw [hp, zero_add] at h
    exact h
  rw [flights_add] at h
  cases t with
  | begin call =>
    have hidle := hnone rfl
    rw [Turn.effect, flights_add]
    cases call with
    | next => exact Cursor.sound_next hidle true false
    | tryNext => exact Cursor.sound_next hidle false false
    | close => exact Cursor.sound_close hidle
  | answer p a =>
    rw [Turn.effect, flights_add]
    exact Cursor.sound_resume h a
  | cancel p runtime => exact hloss (Cursor.sound_cancel h runtime) (Cursor.flights_cancel ..)
  | startTask t =>
    rw [Turn.effect, flights_add]
    exact Cursor.sound_startTask h
  | answerTask p a =>
    rw [Turn.effect, flights_add]
    exact Cursor.sound_resume h a
  | discardTask t runtime =>
    exact hloss (Cursor.sound_discardTask h runtime) (Cursor.flights_discardTask ..)
  | drop runtime =>
    have hidle := hnone rfl
    have hrest := ha.drop rfl
    refine hloss ?_ (Cursor.flights_drop ..)
    rw [hrest] at hidle ⊢
    exact Cursor.sound_drop hidle runtime
  | retain r => exact (congrArg flights (zero_add rest)).symm ▸ hnone rfl
  | release r => exact (congrArg flights (zero_add rest)).symm ▸ hnone rfl

theorem sound_play {start c : Cursor} {ms : List Moment} {pending : Multiset Task}
    (h : start.state.Sound 0) (hp : Play start ms c pending) : c.state.Sound (flights pending) := by
  induction hp with
  | nil => exact h
  | snoc _ ha ih => exact sound_effect ih ha

namespace Cursor

theorem proper_kill (c : Cursor) (a : Abandoned) {after : Outcome} (hafter : after.Settled) :
    AllProper (c.kill a after).2.left := by
  simp only [kill]
  split
  · exact allProper_of_eq_zero (left_conclude c a after)
  rename_i hid
  split
  · exact allProper_of_eq_zero (left_conclude _ a after)
  split
  · exact allProper_singleton ⟨hid, hafter⟩
  rename_i hroute
  split
  · rename_i hs
    have hnone := Option.or_eq_none_iff.mp hroute
    have hfree : a.pin = .unpinned := Pin.connection?_eq_none_iff.mp hnone.1
    exact allProper_singleton ⟨⟨hid, hs, hfree, hnone.2⟩, hafter⟩
  · exact allProper_of_eq_zero (left_conclude c a after)

theorem proper_deliver {c : Cursor} (h : c.state.buffer ≠ []) : AllProper c.deliver.2.left := by
  simp only [deliver]
  split
  · exact proper_kill _ _ h
  · exact allProper_zero

theorem proper_fetchUnrouted (c : Cursor) (f : Fetch) (cause : Error) :
    AllProper (c.fetchUnrouted f cause).2.left := by
  simp only [fetchUnrouted]
  split
  · exact proper_kill _ _ trivial
  · exact allProper_zero

theorem proper_startFetch (c : Cursor) (wait : Bool) : AllProper (c.startFetch wait).2.left := by
  simp only [startFetch]
  split
  · exact allProper_zero
  split
  · split
    · exact allProper_zero
    · exact allProper_singleton trivial
  · split
    · exact allProper_singleton trivial
    · exact proper_fetchUnrouted _ _ _

theorem proper_next (c : Cursor) (wait fetched : Bool) :
    AllProper (c.next wait fetched).2.left := by
  simp only [next]
  split
  · exact allProper_zero
  split
  · exact allProper_zero
  split
  · rename_i hsome
    exact proper_deliver (by simpa using hsome)
  split
  · exact allProper_zero
  split
  · exact allProper_zero
  split
  · exact allProper_zero
  · exact proper_startFetch c wait

theorem proper_close (c : Cursor) : AllProper c.close.2.left := by
  unfold close
  split
  · exact allProper_zero
  dsimp only
  split
  · exact allProper_zero
  · exact proper_kill _ _ trivial

theorem proper_fetchReplied (c : Cursor) (f : Fetch) (n : Nat) (r : Except Error Reply) :
    AllProper (c.fetchReplied f n r).2.left := by
  unfold fetchReplied
  split
  · exact proper_kill _ _ trivial
  dsimp only
  split
  · split
    · exact proper_next _ _ _
    · exact proper_next _ _ _
  · exact allProper_zero

theorem proper_resume (c : Cursor) {p : Point} (h : (Task.suspended p).Proper) (a : Answer) :
    AllProper (c.resume p a).2.left := by
  have hkept : AllProper (Progress.left (.waiting p)) := allProper_singleton h
  cases p with
  | fetchCheckout f =>
    cases a with
    | checkout r =>
      cases r with
      | ok _ => exact allProper_singleton trivial
      | error cause => exact proper_fetchUnrouted _ f cause
    | reply r => exact hkept
    | kill r => exact hkept
  | fetchReply f n =>
    cases a with
    | checkout r => exact hkept
    | reply r => exact proper_fetchReplied c f n r
    | kill r => exact hkept
  | killCheckout b after =>
    cases a with
    | checkout r =>
      cases r with
      | ok _ =>
        have hproper : b.id ≠ 0 ∧ after.Settled := ⟨h.1.1, h.2⟩
        exact allProper_singleton hproper
      | error cause => exact allProper_of_eq_zero (left_conclude _ b after)
    | reply r => exact hkept
    | kill r => exact hkept
  | killReply b after =>
    cases a with
    | checkout r => exact hkept
    | reply r => exact hkept
    | kill r => exact allProper_of_eq_zero (left_killReplied c b after r)

theorem proper_startTask (c : Cursor) {t : Task} (h : t.Proper) :
    AllProper (c.startTask t).2.left := by
  cases t with
  | close => exact proper_close c
  | kill a => exact proper_kill c a trivial
  | suspended p => exact allProper_singleton h

theorem proper_cancelFetch (c : Cursor) (back : List Resource) (runtime : Bool) :
    AllProper ↑(c.cancelFetch back runtime).2.toList := by
  simp only [cancelFetch]
  split
  · split
    · exact allProper_zero
    rename_i hid
    split
    · exact allProper_singleton ⟨hid, rfl⟩
    · exact allProper_zero
  · exact allProper_zero

theorem proper_cancel (c : Cursor) (p : Point) (runtime : Bool) :
    AllProper ↑(c.cancel p runtime).2.toList := by
  cases p with
  | fetchCheckout f => exact proper_cancelFetch c f.held runtime
  | fetchReply f n => exact proper_cancelFetch c (.connection n :: f.held) runtime
  | killCheckout a after => exact allProper_zero
  | killReply a after => exact allProper_zero

theorem proper_drop (c : Cursor) (runtime : Bool) : AllProper ↑(c.drop runtime).2.toList := by
  simp only [drop]
  split
  · exact allProper_zero
  split
  · exact allProper_singleton trivial
  split
  · exact allProper_zero
  · exact allProper_zero

end Cursor

theorem proper_effect {t : Turn} (c : Cursor) (h : AllProper t.party) :
    AllProper (t.effect c).left := by
  cases t with
  | begin call =>
    cases call with
    | next => exact c.proper_next true false
    | tryNext => exact c.proper_next false false
    | close => exact c.proper_close
  | answer p a => exact c.proper_resume h.of_singleton a
  | cancel p runtime => exact c.proper_cancel p runtime
  | startTask t => exact c.proper_startTask h.of_singleton
  | answerTask p a => exact c.proper_resume h.of_singleton a
  | discardTask t runtime =>
    cases t with
    | close => exact allProper_zero
    | kill a => exact allProper_zero
    | suspended p => exact c.proper_cancel p runtime
  | drop runtime => exact c.proper_drop runtime
  | retain r => exact allProper_zero
  | release r => exact allProper_zero

theorem proper_play {start c : Cursor} {ms : List Moment} {pending : Multiset Task}
    (hp : Play start ms c pending) : AllProper pending := by
  induction hp with
  | nil => exact allProper_zero
  | snoc _ _ ih =>
    obtain ⟨hparty, hrest⟩ := allProper_add.mp ih
    exact allProper_add.mpr ⟨proper_effect _ hparty, hrest⟩

theorem proper_party {start c : Cursor} {ms : List Moment} {party rest : Multiset Task}
    (hp : Play start ms c (party + rest)) : AllProper party :=
  (allProper_add.mp (proper_play hp)).1

section Create

variable (reply : Reply) (options : Options) (server : ServerDescription)
  (connection : Option (Nat × ConnectionDescription)) (l : Ledger)

/-- What a new cursor holds of its server: nothing once the results have ended, and else the source
or the connection that was handed over. -/
theorem route_create :
    let s := (Cursor.create reply options server connection l).state
    (reply.id = 0 ∧ s.source = false ∧ s.pin = .unpinned) ∨
    (reply.id ≠ 0 ∧ s.source = true ∧ s.pin = .unpinned) ∨
    (reply.id ≠ 0 ∧ s.source = false ∧ ∃ h, connection = some h ∧ s.pin = .valid h.1) := by
  simp only [Cursor.create]
  by_cases hid : reply.id = 0
  · left
    simp only [if_pos hid]
    exact ⟨hid, rfl, rfl⟩
  · right
    simp only [if_neg hid]
    cases connection with
    | none => exact .inl ⟨hid, rfl, rfl⟩
    | some h =>
      dsimp only
      split
      · exact .inr ⟨hid, rfl, h, rfl, rfl⟩
      · exact .inl ⟨hid, rfl, rfl⟩

theorem state_create :
    let c := Cursor.create reply options server connection l
    c.state.id = reply.id ∧ c.state.closed = false ∧ c.state.fetching = false ∧
      c.state.buffer = c.config.allowed 0 reply.documents ∧
      c.state.received = c.state.buffer.length := by
  have hlength : ∀ k : Nat, 0 + k = k := Nat.zero_add
  simp only [Cursor.create]
  by_cases hid : reply.id = 0
  · simp only [if_pos hid]
    cases connection with
    | none => exact ⟨hid.symm, rfl, rfl, rfl, hlength _⟩
    | some h =>
      dsimp only
      split
      · exact ⟨hid.symm, rfl, rfl, rfl, hlength _⟩
      · exact ⟨hid.symm, rfl, rfl, rfl, hlength _⟩
  · simp only [if_neg hid]
    cases connection with
    | none => exact ⟨rfl, rfl, rfl, rfl, hlength _⟩
    | some h =>
      dsimp only
      split
      · exact ⟨rfl, rfl, rfl, rfl, hlength _⟩
      · exact ⟨rfl, rfl, rfl, rfl, hlength _⟩

theorem sound_create : (Cursor.create reply options server connection l).state.Sound 0 := by
  obtain ⟨hid, hopen, hf, -, -⟩ := state_create reply options server connection l
  have hroute := route_create reply options server connection l
  refine ⟨.inl ⟨hf, rfl⟩, ?_, ?_, fun e => ?_, fun e => ?_⟩
  · intro hs
    rcases hroute with ⟨-, -, hp⟩ | ⟨-, -, hp⟩ | ⟨-, hs', -⟩
    · exact hp
    · exact hp
    · rw [hs] at hs'; cases hs'
  · intro hlive
    rcases hroute with ⟨h0, -, -⟩ | ⟨-, hs, -⟩ | ⟨-, -, h, -, hp⟩
    · exact absurd (hid.trans h0) hlive
    · exact .inl hs
    · exact .inr (by rw [hp]; exact nofun)
  · rw [hopen] at e; cases e
  · rw [hopen] at e; cases e

end Create

end ServerCursor
