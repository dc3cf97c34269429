import ServerCursor.Proofs.Delivery
import ServerCursor.Proofs.Driving

/-!
# How a call for documents ends

A call for documents ends with a batch that is not empty, with nothing, or with a failure; never as
a call that closes the cursor does. While no gate of a script is held such a call ends: each answer
brings it nearer to its end (`Progress.weight`), except that an empty batch makes it ask again, and
that uses up a reply.

Main statements: `Cursor.seeks_answered`, `Schedule.ne_nil_of_batch` and `Script.told_next`.
-/

namespace ServerCursor

/-- A call may hand this out after it has had the server's cursor discarded. -/
def Outcome.Answers : Outcome → Prop
  | .batch _ => True
  | .failed _ => True
  | _ => False

/-- A call for documents may end so. That there are no more it says of a cursor that has been
closed. -/
def Outcome.EndsCall (s : State) : Outcome → Prop
  | .nothing => s.closed = true
  | o => o.Answers

/-- A call for documents may wait there. -/
def Point.Seeks : Point → Prop
  | .fetchCheckout f => f.wait = true
  | .fetchReply f _ => f.wait = true
  | .killCheckout _ after => after.Answers
  | .killReply _ after => after.Answers

/-- A call for documents may have come so far. -/
def Cursor.Seeks (r : Cursor × Progress) : Prop :=
  match r.2 with
  | .waiting p => p.Seeks
  | .done o => o.EndsCall r.1.state

namespace Cursor

theorem Seeks.ends {r : Cursor × Progress} (h : Seeks r) {o : Outcome} (hdone : r.2 = .done o) :
    o.EndsCall r.1.state := by
  unfold Seeks at h
  rwa [hdone] at h

theorem seeks_failed (c : Cursor) (cause : Error) : Seeks (c, .done (.failed cause)) :=
  trivial

theorem seeks_conclude (c : Cursor) (a : Abandoned) {after : Outcome} (h : after.Answers) :
    Seeks (c.conclude a after) := by
  unfold Seeks
  rw [done_conclude]
  cases after with
  | nothing => exact h.elim
  | _ => exact h

theorem seeks_kill (c : Cursor) (a : Abandoned) {after : Outcome} (h : after.Answers) :
    Seeks (c.kill a after) := by
  unfold kill
  split
  · exact seeks_conclude _ _ h
  split
  · exact seeks_conclude _ _ h
  split
  · exact h
  split
  · exact h
  · exact seeks_conclude _ _ h

theorem seeks_fetchUnrouted (c : Cursor) (f : Fetch) (cause : Error) :
    Seeks (c.fetchUnrouted f cause) := by
  unfold fetchUnrouted
  dsimp only
  split
  · exact seeks_kill _ _ trivial
  · exact seeks_failed ..

theorem seeks_startFetch (c : Cursor) : Seeks (c.startFetch true) := by
  unfold startFetch
  dsimp only
  split
  · exact seeks_failed ..
  split
  · split
    · exact seeks_failed ..
    · rfl
  split
  · rfl
  · exact seeks_fetchUnrouted ..

theorem seeks_next (c : Cursor) (fetched : Bool) : Seeks (c.next true fetched) := by
  unfold next
  split
  · exact seeks_failed ..
  split
  · exact seeks_failed ..
  split
  · unfold deliver
    dsimp only
    split
    · exact seeks_kill _ _ trivial
    · trivial
  split
  · rfl
  split
  · rename_i h
    simp at h
  split
  · exact seeks_failed ..
  · exact seeks_startFetch ..

theorem seeks_resume {p : Point} (h : p.Seeks) (c : Cursor) (a : Answer) :
    Seeks (c.resume p a) := by
  unfold resume
  split
  · unfold fetchCheckedOut
    split
    · exact h
    · exact seeks_fetchUnrouted ..
  · rename_i f n r
    have hwait : f.wait = true := h
    unfold fetchReplied
    split
    · exact seeks_kill _ _ trivial
    dsimp only
    rw [hwait]
    split
    · split <;> exact seeks_next ..
    · exact seeks_failed ..
  · unfold killCheckedOut
    split
    · exact h
    · exact seeks_conclude _ _ h
  · unfold killReplied
    split <;> exact seeks_conclude _ _ h
  · exact h

theorem seeks_answered {r : Cursor × Progress} (h : Seeks r) (answers : List Answer) :
    Seeks (answered r answers) := by
  induction answers generalizing r with
  | nil => exact h
  | cons a rest ih =>
    apply ih
    obtain ⟨c, p | o⟩ := r
    · exact seeks_resume h c a
    · exact h

theorem endsCall_of_answered {c d : Cursor} {answers : List Answer} {o : Outcome}
    (h : answered (c.next true false) answers = (d, .done o)) : o.EndsCall d.state := by
  have hseeks := seeks_answered (seeks_next c false) answers
  rw [h] at hseeks
  exact hseeks

end Cursor

/-- No call hands out an empty batch. -/
theorem Schedule.ne_nil_of_batch (reply : Reply) (options : Options) (server : ServerDescription)
    (connection : Option (Nat × ConnectionDescription)) (l : Ledger) (runtime : Bool)
    (history : List Action) {documents : List Document}
    (h : .batch documents ∈
      (Schedule.opened reply options server connection l runtime).outcomes history) :
    documents ≠ [] := by
  rw [outcomes_eq] at h
  obtain ⟨m, hm, houtcome⟩ := List.mem_filterMap.mp h
  have hplay := Schedule.play_run (Cursor.create reply options server connection l) runtime history
  obtain ⟨before, rest, hbefore, -⟩ := hplay.of_mem hm
  obtain hsettled | ⟨hnothing, -⟩ := ended_effect (proper_party hbefore) houtcome
  · exact hsettled
  · cases hnothing

/-! ## Calls end -/

/-- How many answers a call may need, as long as it does not ask again. -/
def Point.weight : Point → Nat
  | .fetchCheckout _ => 4
  | .fetchReply .. => 3
  | .killCheckout .. => 2
  | .killReply .. => 1

def Progress.weight : Progress → Nat
  | .waiting p => p.weight
  | .done _ => 0

namespace Cursor

theorem weight_conclude (c : Cursor) (a : Abandoned) (after : Outcome) :
    (c.conclude a after).2.weight = 0 := by
  rw [done_conclude]
  rfl

theorem weight_kill (c : Cursor) (a : Abandoned) (after : Outcome) :
    (c.kill a after).2.weight ≤ 2 := by
  have hended : ∀ d : Cursor, (d.conclude a after).2.weight ≤ 2 := by
    intro d
    rw [weight_conclude]
    omega
  unfold kill
  split
  · exact hended _
  split
  · exact hended _
  split
  · exact Nat.le_succ 1
  split
  · exact Nat.le_refl 2
  · exact hended _

theorem weight_fetchUnrouted (c : Cursor) (f : Fetch) (cause : Error) :
    (c.fetchUnrouted f cause).2.weight ≤ 2 := by
  unfold fetchUnrouted
  dsimp only
  split
  · exact weight_kill ..
  · exact Nat.zero_le 2

theorem weight_startFetch (c : Cursor) (wait : Bool) : (c.startFetch wait).2.weight ≤ 4 := by
  unfold startFetch
  dsimp only
  split
  · exact Nat.zero_le 4
  split
  · split
    · exact Nat.zero_le 4
    · exact Nat.le_succ 3
  split
  · exact Nat.le_refl 4
  · exact Nat.le_trans (weight_fetchUnrouted ..) (by omega)

theorem weight_next (c : Cursor) (wait fetched : Bool) : (c.next wait fetched).2.weight ≤ 4 := by
  unfold next
  split
  · exact Nat.zero_le 4
  split
  · exact Nat.zero_le 4
  split
  · unfold deliver
    dsimp only
    split
    · exact Nat.le_trans (weight_kill ..) (by omega)
    · exact Nat.zero_le 4
  split
  · exact Nat.zero_le 4
  split
  · exact Nat.zero_le 4
  split
  · exact Nat.zero_le 4
  · exact weight_startFetch ..

theorem weight_killCheckedOut (c : Cursor) (a : Abandoned) (after : Outcome)
    (r : Except Error Unit) : (c.killCheckedOut a after r).2.weight ≤ 1 := by
  unfold killCheckedOut
  split
  · exact Nat.le_refl 1
  · rw [weight_conclude]
    omega

theorem weight_killReplied (c : Cursor) (a : Abandoned) (after : Outcome)
    (r : Except Error Unit) : (c.killReplied a after r).2.weight = 0 := by
  unfold killReplied
  split <;> exact weight_conclude ..

theorem weight_fetchCheckedOut (c : Cursor) (f : Fetch) (r : Except Error Unit) :
    (c.fetchCheckedOut f r).2.weight ≤ 3 := by
  unfold fetchCheckedOut
  split
  · exact Nat.le_refl 3
  · exact Nat.le_trans (weight_fetchUnrouted ..) (by omega)

theorem weight_fetchReplied (c : Cursor) (f : Fetch) (n : Nat) (r : Except Error Reply) :
    (c.fetchReplied f n r).2.weight ≤ if r.isOk then 4 else 2 := by
  unfold fetchReplied
  split
  · have hkill := weight_kill (((c.withState { c.state with fetching := false }.bare).giveBack
      f.held)) { ({ c.state with fetching := false } : State).abandoned with
        id := openId r, connection := some n }
    refine Nat.le_trans (hkill _) ?_
    split <;> omega
  dsimp only
  split
  · split <;> exact weight_next ..
  · exact Nat.zero_le _

end Cursor

namespace Script

variable {script : Script}

/-- While no gate is held a call that waits is answered and comes nearer to its end. -/
theorem advances (hheld : script.held = []) (c : Cursor) (p : Point) :
    ∃ a rest, script.answer? c.config.requester.protocol p = some (a, rest) ∧ rest.held = [] ∧
      2 * rest.replies.length + (c.resume p a).2.weight <
        2 * script.replies.length + p.weight := by
  have hcheckout : script.checkout.2.held = [] ∧ script.checkout.2.replies = script.replies := by
    unfold checkout
    split <;> exact ⟨hheld, rfl⟩
  have hkill : ∀ protocol, (script.kill protocol).2.held = [] ∧
      (script.kill protocol).2.replies = script.replies := by
    intro protocol
    unfold kill
    split <;> exact ⟨hheld, rfl⟩
  cases p with
  | fetchCheckout f =>
    refine ⟨.checkout script.checkout.1, script.checkout.2, by simp [answer?, gate, hheld],
      hcheckout.1, ?_⟩
    have hweight := Cursor.weight_fetchCheckedOut c f script.checkout.1
    rw [hcheckout.2]
    exact Nat.add_lt_add_left (Nat.lt_succ_of_le hweight) _
  | fetchReply f n =>
    refine ⟨.reply script.fetch.1, script.fetch.2, by simp [answer?, gate, hheld], ?_, ?_⟩
    · unfold fetch
      split <;> exact hheld
    · have hweight := Cursor.weight_fetchReplied c f n script.fetch.1
      have hused : script.fetch.1.isOk = true →
          script.fetch.2.replies.length + 1 = script.replies.length := by
        unfold fetch
        split
        · intro h
          cases h
        all_goals simp [*]
      have hmore : script.fetch.2.replies.length ≤ script.replies.length := by
        unfold fetch
        split <;> simp [*]
      change _ + (c.fetchReplied f n script.fetch.1).2.weight < _ + 3
      split at hweight
      · have := hused ‹_›
        omega
      · omega
  | killCheckout a after =>
    refine ⟨.checkout script.checkout.1, script.checkout.2, by simp [answer?, gate, hheld],
      hcheckout.1, ?_⟩
    have hweight := Cursor.weight_killCheckedOut c a after script.checkout.1
    rw [hcheckout.2]
    exact Nat.add_lt_add_left (Nat.lt_succ_of_le hweight) _
  | killReply a after =>
    let protocol := c.config.requester.protocol
    refine ⟨.kill (script.kill protocol).1, (script.kill protocol).2,
      by simp [answer?, gate, hheld, protocol], (hkill _).1, ?_⟩
    have hweight := Cursor.weight_killReplied c a after (script.kill protocol).1
    rw [(hkill _).2]
    change _ + (c.killReplied a after _).2.weight < _ + 1
    omega

theorem told_ends (hheld : script.held = []) {r : Cursor × Progress} {fuel : Nat}
    (hfuel : 2 * script.replies.length + r.2.weight ≤ fuel) :
    ∃ o, (Cursor.answered r (script.told r fuel).1).2 = .done o := by
  induction fuel generalizing script r with
  | zero =>
    obtain ⟨c, p | o⟩ := r
    · cases p <;> simp only [Progress.weight, Point.weight] at hfuel <;> omega
    · exact ⟨o, rfl⟩
  | succ fuel ih =>
    obtain ⟨c, p | o⟩ := r
    · obtain ⟨a, rest, ha, hrest, hnearer⟩ := advances hheld c p
      have hmore : 2 * rest.replies.length + (Cursor.goOn (c, .waiting p) a).2.weight ≤ fuel := by
        change 2 * rest.replies.length + (c.resume p a).2.weight ≤ fuel
        change 2 * script.replies.length + p.weight ≤ fuel + 1 at hfuel
        omega
      rw [told_of_answer rfl ha]
      exact ih hrest hmore
    · rw [told_done script rfl]
      exact ⟨o, rfl⟩

theorem told_next (hheld : script.held = []) (c : Cursor) :
    ∃ o, (Cursor.answered (c.next true false)
      (script.told (c.next true false) script.bound).1).2 = .done o := by
  apply told_ends hheld
  have hweight := c.weight_next true false
  unfold bound
  omega

end Script

end ServerCursor
