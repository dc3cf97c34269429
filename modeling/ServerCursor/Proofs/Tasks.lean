import ServerCursor.Proofs.Settle

/-!
# Tasks in their places

A task that was spawned last gets control and is answered until it ends (`Schedule.tasking`); the
tasks before it stay where they are. What has to be discarded is discarded in two round trips at
most, one to the source and one to the server (`Cursor.clearing`), whatever they answer
(`Cursor.ends_clearing`).
-/

namespace ServerCursor

/-- These resources are given back, and nothing but this message is sent, if that is. -/
def Ledger.Frees (l : Ledger) (back : List Resource) (m : Message) (l' : Ledger) : Prop :=
  ∃ told, told.Sublist [m] ∧ l.Settles back told l'

namespace Ledger

variable {l l' l'' : Ledger} {back : List Resource} {m : Message}

theorem Settles.frees_none (h : l.Settles back [] l') : l.Frees back m l' :=
  ⟨[], List.nil_sublist _, h⟩

theorem Settles.frees (h : l.Settles back [m] l') : l.Frees back m l' :=
  ⟨[m], .refl _, h⟩

theorem Frees.after (h : l'.Frees back m l'') (hbefore : l.Settles [] [] l') :
    l.Frees back m l'' := by
  obtain ⟨told, htold, hsettles⟩ := h
  exact ⟨told, htold, hbefore.trans hsettles⟩

end Ledger

namespace Cursor

/-- What a call is told that has the server's cursor discarded. -/
def clearing (r k : Except Error Unit) : List Answer :=
  [.checkout r, .kill k]

variable {c : Cursor}

theorem ends_conclude (c : Cursor) (a : Abandoned) (after : Outcome) (answers : List Answer) :
    let q := answered (c.conclude a after) answers
    q.2 = .done after ∧ q.1.state = c.state ∧
      c.ledger.Frees a.held (c.config.requester.kill a.id) q.1.ledger := by
  intro q
  have hq : q = c.conclude a after := answered_of_done (done_conclude c a after) answers
  rw [hq]
  exact ⟨done_conclude c a after, state_conclude c a after, (ledger_conclude c a after).frees_none⟩

/-- Whatever it is told, a call that has the server's cursor discarded ends as it would have
anyway, and what was detached is given back. The cursor has no part in it. -/
theorem ends_clearing (c : Cursor) (a : Abandoned) (after : Outcome) (r k : Except Error Unit) :
    let q := answered (c.kill a after) (clearing r k)
    q.2 = .done after ∧ q.1.state = c.state ∧
      c.ledger.Frees a.held (c.config.requester.kill a.id) q.1.ledger := by
  have hemitted := c.ledger.settles_emit (.killSkipped a.id)
  have hasked := c.ledger.settles_record .asked
  unfold kill
  split
  · exact ends_conclude c a after _
  split
  · obtain ⟨hdone, hstate, hfrees⟩ :=
      ends_conclude (c.emit (.killSkipped a.id)) a after (clearing r k)
    exact ⟨hdone, hstate, hfrees.after hemitted⟩
  split
  · -- The server's cursor has a connection, so the source is not asked.
    rename_i n _
    obtain ⟨hdone, hstate, hsettles⟩ := settled_sendKill c a n after k
    exact ⟨hdone, hstate, hsettles.frees⟩
  rename_i hroute
  split
  · cases r with
    | ok u =>
      obtain ⟨hdone, hstate, hsettles⟩ :=
        settled_killCheckedOut (c.record .asked) (Option.or_eq_none_iff.mp hroute).2 after k
      exact ⟨hdone, hstate, hsettles.frees.after hasked⟩
    | error cause =>
      let d := ((c.record .asked).record .unavailable).emit (.killUnrouted a.id cause)
      obtain ⟨hdone, hstate, hfrees⟩ := ends_conclude d a after [.kill k]
      have hrefused : c.ledger.Settles [] [] d.ledger :=
        (hasked.trans (Ledger.settles_record _ .unavailable)).trans (Ledger.settles_emit _ _)
      exact ⟨hdone, hstate, hfrees.after hrefused⟩
  · exact ends_conclude c a after _

/-- A cursor that is closed is closed in the end, whatever the call is told. -/
theorem close_clearing (c : Cursor) (r k : Except Error Unit) :
    (answered c.close (clearing r k)).2 = .done .closed := by
  unfold close
  split
  · rw [answered_done]
  dsimp only
  split
  · rw [answered_done]
  · exact (ends_clearing ..).1

end Cursor

namespace Schedule

/-- The task at a place gets control, and then has these answers. -/
def tasking (i : Nat) (answers : List Answer) : List Action :=
  .startTask i :: answers.map (.answerTask i)

variable {s : Schedule} {before : List Task} {r : Cursor × Progress}

theorem setTask_last {t : Task} (h : s.tasks = before ++ [t]) (r : Cursor × Progress) :
    s.setTask before.length r = { s with
      cursor := r.1
      tasks := before ++ (r.2.point?.map Task.suspended).toList } := by
  obtain ⟨c, p | o⟩ := r
  · have hset : s.tasks.set before.length (.suspended p) = before ++ [.suspended p] := by
      rw [h, List.set_append_right _ _ le_rfl, Nat.sub_self]
      rfl
    simp only [setTask, hset]
    rfl
  · have herase : s.tasks.eraseIdx before.length = before ++ [] := by
      rw [h, List.eraseIdx_append_of_length_le le_rfl, Nat.sub_self]
      rfl
    simp only [setTask, herase]
    rfl

/-- The last task has these answers; once it has ended, nobody hears the others. -/
theorem run_answerTask (hcursor : s.cursor = r.1)
    (htasks : s.tasks = before ++ (r.2.point?.map Task.suspended).toList) (answers : List Answer) :
    s.run (answers.map (.answerTask before.length)) = { s with
      cursor := (Cursor.answered r answers).1
      tasks := before ++ ((Cursor.answered r answers).2.point?.map Task.suspended).toList } := by
  induction answers generalizing s r with
  | nil =>
    obtain ⟨c, handles, calls, tasks, runtime⟩ := s
    cases hcursor
    cases htasks
    rfl
  | cons a rest ih =>
    have hstep : (s.step (.answerTask before.length a)).1 = { s with
        cursor := (Cursor.goOn r a).1
        tasks := before ++ ((Cursor.goOn r a).2.point?.map Task.suspended).toList } := by
      obtain ⟨c, progress⟩ := r
      cases progress with
      | waiting p =>
        have hp : s.tasks[before.length]? = some (.suspended p) := by
          rw [htasks]
          exact List.getElem?_concat_length
        simp only [step, answerTask, hp]
        rw [hcursor]
        exact setTask_last htasks _
      | done o =>
        have hnone : s.tasks[before.length]? = none := by
          rw [htasks]
          exact List.getElem?_eq_none (by simp [Progress.point?])
        simp only [step, answerTask, hnone]
        obtain ⟨c, handles, calls, tasks, runtime⟩ := s
        cases hcursor
        cases htasks
        rfl
    change ((s.step (.answerTask before.length a)).1.run _) = _
    rw [hstep]
    exact ih rfl rfl

theorem run_tasking {t : Task} (h : s.tasks = before ++ [t]) (answers : List Answer) :
    let r := Cursor.answered (s.cursor.startTask t) answers
    s.run (tasking before.length answers) = { s with
      cursor := r.1
      tasks := before ++ (r.2.point?.map Task.suspended).toList } := by
  intro r
  have ht : s.tasks[before.length]? = some t := by
    rw [h]
    exact List.getElem?_concat_length
  have hstart : (s.step (.startTask before.length)).1 = { s with
      cursor := (s.cursor.startTask t).1
      tasks := before ++ ((s.cursor.startTask t).2.point?.map Task.suspended).toList } := by
    simp only [step, startTask, ht]
    exact setTask_last h _
  change ((s.step (.startTask before.length)).1.run _) = _
  rw [hstart]
  exact run_answerTask rfl rfl answers

end Schedule

end ServerCursor
