import ServerCursor.Proofs.Custody

/-!
# Handing out documents

Documents arrive with replies, wait in the buffer, and are taken out of it by a call, all at once.
The call ends with them, at once or, if the limit has been reached, after it has told the server to
discard its cursor. `Deal` says what a part of a turn does with the buffer.

Main statements: `deal_beginCall` and `deal_resume` say so of a call that begins and of one that
goes on.
-/

namespace ServerCursor

/-- What a part of a turn does with the documents that have arrived. -/
structure Deal (s : State) (r : Cursor × Progress) : Prop where
  /-- None arrive. -/
  received : r.1.state.received = s.received
  /-- A closed cursor stays closed. -/
  closed : s.closed = true → r.1.state.closed = true
  /-- A closed cursor hands out nothing. -/
  shut : r.1.state.closed = true → r.2.hand? = none
  /-- What is not handed out stays in the buffer. -/
  conserved : r.1.state.closed = false → r.2.hand?.getD [] ++ r.1.state.buffer = s.buffer
  /-- A call ends without documents only if there are none. -/
  ended : ∀ o, r.2 = .done o → o.Settled ∨ o = .nothing ∧ s.closed = false ∧ s.buffer = []
  /-- What the limit reaches is handed out last. -/
  last : ∀ batch, r.2.hand? = some batch → r.1.state.id = 0 ∧ r.1.state.buffer = [] ∨
    r.2 = .done (.batch batch) ∧ r.1.config.limitReached r.1.state.received = false

theorem Deal.of_same {s₀ s : State} {r : Cursor × Progress} (h : Deal s₀ r)
    (hreceived : s₀.received = s.received) (hclosed : s₀.closed = s.closed)
    (hbuffer : s₀.buffer = s.buffer) : Deal s r := by
  obtain ⟨received, closed, shut, conserved, ended, last⟩ := h
  rw [hreceived] at received
  rw [hclosed] at closed ended
  rw [hbuffer] at conserved ended
  exact ⟨received, closed, shut, conserved, ended, last⟩

namespace Cursor

variable {c : Cursor} {s : State} {r : Cursor × Progress}

theorem ended_of_hand (hhand : r.2.hand? = none)
    (hend : r.2 = .done .nothing → s.closed = false ∧ s.buffer = []) :
    ∀ o, r.2 = .done o → o.Settled ∨ o = .nothing ∧ s.closed = false ∧ s.buffer = [] := by
  intro o h
  rw [h] at hhand hend
  cases o with
  | batch documents => cases hhand
  | nothing => exact .inr ⟨rfl, hend rfl⟩
  | failed cause => exact .inl trivial
  | closed => exact .inl trivial
  | cleared => exact .inl trivial

theorem last_of_hand (hhand : r.2.hand? = none) :
    ∀ batch, r.2.hand? = some batch → r.1.state.id = 0 ∧ r.1.state.buffer = [] ∨
      r.2 = .done (.batch batch) ∧ r.1.config.limitReached r.1.state.received = false := by
  intro batch h
  rw [hhand] at h
  cases h

theorem deal_kept (hreceived : r.1.state.received = s.received)
    (hclosed : r.1.state.closed = s.closed) (hbuffer : r.1.state.buffer = s.buffer)
    (hhand : r.2.hand? = none) (hend : r.2 ≠ .done .nothing) : Deal s r := by
  refine ⟨hreceived, hclosed.trans, fun _ => hhand, fun _ => ?_,
    ended_of_hand hhand fun h => absurd h hend, last_of_hand hhand⟩
  rw [hhand]
  exact hbuffer

theorem deal_shut (hreceived : r.1.state.received = s.received) (hclosed : r.1.state.closed = true)
    (hhand : r.2.hand? = none) (hend : r.2 = .done .nothing → s.closed = false ∧ s.buffer = []) :
    Deal s r := by
  refine ⟨hreceived, fun _ => hclosed, fun _ => hhand, fun h => ?_, ended_of_hand hhand hend,
    last_of_hand hhand⟩
  rw [hclosed] at h
  cases h

theorem done_conclude (c : Cursor) (a : Abandoned) (after : Outcome) :
    (c.conclude a after).2 = .done after := by
  simp only [conclude]
  split <;> rfl

theorem done_kill (c : Cursor) (a : Abandoned) {after o : Outcome}
    (h : (c.kill a after).2 = .done o) : o = after := by
  have hconclude : ∀ c' : Cursor, (c'.conclude a after).2 = .done o → o = after := by
    intro c' h
    rw [done_conclude] at h
    cases h
    rfl
  unfold kill at h
  split at h
  · exact hconclude _ h
  split at h
  · exact hconclude _ h
  split at h
  · cases h
  split at h
  · cases h
  · exact hconclude _ h

theorem deal_refuse (c : Cursor) (cause : IllegalState) : Deal c.state (c.refuse cause) :=
  deal_kept rfl rfl rfl rfl nofun

theorem deal_kill {a : Abandoned} (hclosed : c.state.closed = true)
    (hreceived : c.state.received = s.received) {after : Outcome} (hafter : after.hand? = none)
    (hend : after ≠ .nothing) : Deal s (c.kill a after) := by
  refine deal_shut ?_ ?_ ((hand_kill c a after).trans hafter) fun h => ?_
  · rw [state_kill]
    exact hreceived
  · rw [state_kill]
    exact hclosed
  · exact absurd (done_kill c a h).symm hend

theorem deal_deliver (hopen : c.state.closed = false) (hsome : c.state.buffer ≠ []) :
    Deal c.state c.deliver := by
  simp only [deliver]
  split
  · have hkill := fun c' : Cursor => hand_kill c' { c.state with buffer := [] }.abandoned
      (.batch c.state.buffer)
    refine ⟨?_, fun h => ?_, fun h => ?_, fun _ => ?_, fun o h => ?_, fun _ _ => ?_⟩
    · rw [state_kill]
      rfl
    · rw [hopen] at h
      cases h
    · rw [state_kill] at h
      exact absurd h (by rw [Bool.not_eq_true]; exact hopen)
    · rw [state_kill, hkill]
      exact List.append_nil _
    · rw [done_kill _ _ h]
      exact .inl hsome
    · rw [state_kill]
      exact .inl ⟨rfl, rfl⟩
  · rename_i hlimit
    refine ⟨rfl, fun h => h, fun h => ?_, fun _ => List.append_nil _, fun o h => ?_,
      fun batch h => ?_⟩
    · exact absurd h (by rw [Bool.not_eq_true]; exact hopen)
    · cases h
      exact .inl hsome
    · cases h
      exact .inr ⟨rfl, Bool.eq_false_iff.mpr hlimit⟩

theorem deal_finish (hopen : c.state.closed = false) (hbuffer : c.state.buffer = []) :
    Deal c.state c.finish :=
  deal_shut rfl rfl rfl fun _ => ⟨hopen, hbuffer⟩

theorem deal_fetchUnrouted (c : Cursor) (f : Fetch) (cause : Error) :
    Deal c.state (c.fetchUnrouted f cause) := by
  unfold fetchUnrouted
  dsimp only
  split
  · rename_i hclosed
    refine deal_kill ?_ ?_ ?_ nofun
    · exact hclosed
    · rfl
    · rfl
  · exact deal_kept rfl rfl rfl rfl nofun

theorem deal_startFetch (c : Cursor) (wait : Bool) : Deal c.state (c.startFetch wait) := by
  unfold startFetch
  dsimp only
  split
  · exact deal_kept rfl rfl rfl rfl nofun
  split
  · split
    · exact deal_kept rfl rfl rfl rfl nofun
    · exact deal_kept rfl rfl rfl rfl nofun
  · split
    · exact deal_kept rfl rfl rfl rfl nofun
    · exact (deal_fetchUnrouted _ _ _).of_same rfl rfl rfl

theorem deal_next (c : Cursor) (wait fetched : Bool) : Deal c.state (c.next wait fetched) := by
  unfold next
  split
  · exact deal_refuse c _
  rename_i hopen
  rw [Bool.not_eq_true] at hopen
  split
  · exact deal_refuse c _
  split
  · rename_i hsome
    exact deal_deliver hopen (by simpa using hsome)
  rename_i hb
  have hbuffer : c.state.buffer = [] := by simpa using hb
  split
  · exact deal_finish hopen hbuffer
  split
  · have hend : (c, Progress.done .nothing).2 = .done .nothing →
        c.state.closed = false ∧ c.state.buffer = [] := fun _ => ⟨hopen, hbuffer⟩
    exact ⟨rfl, fun h => h, fun _ => rfl, fun _ => rfl, ended_of_hand rfl hend, nofun⟩
  split
  · exact deal_refuse c _
  · exact deal_startFetch c wait

theorem deal_close (c : Cursor) : Deal c.state c.close := by
  unfold close
  split
  · exact deal_kept rfl rfl rfl rfl nofun
  dsimp only
  split
  · exact deal_shut rfl rfl rfl nofun
  · refine deal_kill ?_ ?_ ?_ nofun
    · rfl
    · rfl
    · rfl

theorem deal_fetchCheckedOut (c : Cursor) (f : Fetch) (r : Except Error Unit) :
    Deal c.state (c.fetchCheckedOut f r) := by
  cases r with
  | ok _ => exact deal_kept rfl rfl rfl rfl nofun
  | error cause => exact (deal_fetchUnrouted _ f cause).of_same rfl rfl rfl

theorem deal_fetchReplied (c : Cursor) (f : Fetch) (n : Nat) (r : Except Error Reply) :
    Deal (c.hear r) (c.fetchReplied f n r) := by
  unfold fetchReplied hear
  by_cases hclosed : c.state.closed = true
  · rw [if_pos hclosed, if_pos hclosed]
    unfold fetchRepliedClosed
    refine deal_kill ?_ ?_ ?_ nofun
    · exact hclosed
    · rfl
    · rfl
  rw [if_neg hclosed, if_neg hclosed]
  cases r with
  | ok reply =>
    dsimp only
    split
    · exact (deal_next _ f.wait true).of_same rfl rfl rfl
    · exact (deal_next _ f.wait true).of_same rfl rfl rfl
  | error cause => exact deal_kept rfl rfl rfl rfl nofun

theorem state_resume {p : Point} (h : p.flight? = none) (a : Answer) :
    (c.resume p a).1.state = c.state := by
  cases p with
  | fetchCheckout f => cases h
  | fetchReply f n => cases h
  | killCheckout b after =>
    cases a with
    | checkout r => exact state_killCheckedOut c b after r
    | reply r => rfl
    | kill r => rfl
  | killReply b after =>
    cases a with
    | checkout r => rfl
    | reply r => rfl
    | kill r => cases r <;> exact state_conclude _ b after

theorem settled_resume {p : Point} (hp : (Task.suspended p).Proper) (h : p.flight? = none)
    {a : Answer} {o : Outcome} (hdone : (c.resume p a).2 = .done o) : o.Settled := by
  have hconclude : ∀ (c' : Cursor) (b : Abandoned) (after : Outcome), after.Settled →
      (c'.conclude b after).2 = .done o → o.Settled := by
    intro c' b after hafter hdone
    rw [done_conclude] at hdone
    cases hdone
    exact hafter
  cases p with
  | fetchCheckout f => cases h
  | fetchReply f n => cases h
  | killCheckout b after =>
    cases a with
    | checkout r =>
      cases r with
      | ok _ => cases hdone
      | error cause => exact hconclude _ b after hp.2 hdone
    | reply r => cases hdone
    | kill r => cases hdone
  | killReply b after =>
    cases a with
    | checkout r => cases hdone
    | reply r => cases hdone
    | kill r => cases r <;> exact hconclude _ b after hp.2 hdone

theorem deal_resume {p : Point} (hp : (Task.suspended p).Proper) (hhand : p.hand? = none)
    (a : Answer) : Deal (c.met (p.heard? a)) (c.resume p a) := by
  have hkept : Deal c.state (c, .waiting p) := deal_kept rfl rfl rfl hhand nofun
  have hkill : p.flight? = none → Deal c.state (c.resume p a) := by
    intro hf
    have hstate := state_resume (c := c) hf a
    refine deal_kept ?_ ?_ ?_ ((hand_resume hf a).trans hhand) fun hend => ?_
    · exact congrArg State.received hstate
    · exact congrArg State.closed hstate
    · exact congrArg State.buffer hstate
    · exact settled_resume hp hf hend
  cases p with
  | fetchCheckout f =>
    cases a with
    | checkout r => exact deal_fetchCheckedOut c f r
    | reply r => exact hkept
    | kill r => exact hkept
  | fetchReply f n =>
    cases a with
    | checkout r => exact hkept
    | reply r => exact deal_fetchReplied c f n r
    | kill r => exact hkept
  | killCheckout b after => exact hkill rfl
  | killReply b after => exact hkill rfl

theorem deal_beginCall (c : Cursor) (call : Call) : Deal c.state (Schedule.beginCall c call) := by
  cases call with
  | next => exact deal_next c true false
  | tryNext => exact deal_next c false false
  | close => exact deal_close c

end Cursor

theorem Deal.nonempty {s : State} {r : Cursor × Progress} (h : Deal s r) (hp : AllProper r.2.left)
    {batch : List Document} (hhand : r.2.hand? = some batch) : batch ≠ [] := by
  have hsettled : ∀ o : Outcome, o.hand? = some batch → o.Settled → batch ≠ [] := by
    intro o ho hs
    cases o with
    | batch documents =>
      cases ho
      exact hs
    | _ => cases ho
  cases hr : r.2 with
  | done o =>
    rw [hr] at hhand
    rcases h.ended o hr with hs | ⟨rfl, -, -⟩
    · exact hsettled o hhand hs
    · cases hhand
  | waiting p =>
    rw [hr] at hhand hp
    have hproper := AllProper.of_singleton hp
    cases p with
    | fetchCheckout f => cases hhand
    | fetchReply f n => cases hhand
    | killCheckout a after => exact hsettled after hhand hproper.2
    | killReply a after => exact hsettled after hhand hproper.2

end ServerCursor
