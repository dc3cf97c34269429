import ServerCursor.Proofs.Play

/-!
# Calls in their slots

Every call that waits has a slot of its own. An action has to do with the call in one slot at most,
and leaves all others where they are (`Schedule.waitingIn?_step`).
-/

namespace ServerCursor

/-- Where a call that has come so far waits. -/
def Progress.point? : Progress → Option Point
  | .waiting p => some p
  | .done _ => none

/-- The slot of the call that begins, is answered or is given up. -/
def Action.slot? : Action → Option Slot
  | .begin slot _ => some slot
  | .answer slot _ => some slot
  | .cancel slot => some slot
  | _ => none

namespace Schedule

theorem find?_append_here (calls : List (Slot × Point)) (slot : Slot) (p? : Option Point)
    (h : calls.find? (fun call => call.1 == slot) = none) :
    ((calls ++ (p?.map (slot, ·)).toList).find? fun call => call.1 == slot).map (·.2) = p? := by
  rw [List.find?_append, h]
  cases p? with
  | none => rfl
  | some p => simp

theorem find?_append_other (calls : List (Slot × Point)) {slot other : Slot} (p? : Option Point)
    (h : other ≠ slot) :
    (calls ++ (p?.map (slot, ·)).toList).find? (fun call => call.1 == other) =
      calls.find? fun call => call.1 == other := by
  rw [List.find?_append]
  cases p? with
  | none => exact Option.or_none
  | some p => simp [h.symm]

theorem find?_without_other (calls : List (Slot × Point)) {slot other : Slot} (h : other ≠ slot) :
    (without calls slot).find? (fun call => call.1 == other) =
      calls.find? fun call => call.1 == other := by
  rw [without, List.find?_filter]
  congr 1
  funext call
  by_cases hcall : call.1 = other
  · simp [hcall, h]
  · simp [hcall]

theorem waitingIn?_of_no_calls {s : Schedule} (h : s.calls = []) (slot : Slot) :
    s.waitingIn? slot = none := by
  rw [waitingIn?, h]
  rfl

theorem waitingIn?_of_mem {s : Schedule} (ho : s.Orderly) {slot : Slot} {p : Point}
    (h : (slot, p) ∈ s.calls) : s.waitingIn? slot = some p := by
  cases hfind : s.calls.find? fun call => call.1 == slot with
  | none => exact absurd (List.find?_eq_none.mp hfind _ h) (by simp)
  | some call =>
    have hslot : call.1 = slot := by simpa using List.find?_some hfind
    have hsame : call = (slot, p) :=
      List.inj_on_of_nodup_map ho.slots (List.mem_of_find?_eq_some hfind) h hslot
    rw [waitingIn?, hfind, hsame]
    rfl

/-- A call that begins in a free slot stays there if it has to wait. -/
theorem begin_of_free {s : Schedule} {slot : Slot} (h : s.waitingIn? slot = none)
    (hhandles : s.handles ≠ 0) (call : Call) :
    s.step (.begin slot call) =
      ({ s with
          cursor := (beginCall s.cursor call).1
          calls := s.calls ++ ((beginCall s.cursor call).2.point?.map (slot, ·)).toList },
        (beginCall s.cursor call).2.outcome?) := by
  have hfree : ¬ (s.handles = 0 ∨ (s.waitingIn? slot).isSome = true) := by
    rintro (h0 | hsome)
    · exact hhandles h0
    · rw [h] at hsome
      cases hsome
  simp only [step, begin, if_neg hfree]
  cases beginCall s.cursor call with
  | mk c progress =>
    cases progress with
    | waiting q => rfl
    | done o => simp [Progress.point?, Progress.outcome?]

theorem begin_of_taken {s : Schedule} {slot : Slot}
    (h : ¬ (s.handles ≠ 0 ∧ s.waitingIn? slot = none)) (call : Call) :
    s.step (.begin slot call) = (s, none) := by
  refine if_pos ?_
  by_contra hfree
  rw [not_or, Option.not_isSome_iff_eq_none] at hfree
  exact h hfree

/-- A call that is refused changes nothing. -/
theorem begin_of_refused {s : Schedule} {slot : Slot} {call : Call} {o : Outcome}
    (h : s.waitingIn? slot = none) (hhandles : s.handles ≠ 0)
    (hrefused : beginCall s.cursor call = (s.cursor, .done o)) :
    s.step (.begin slot call) = (s, some o) := by
  rw [begin_of_free h hhandles, hrefused]
  simp [Progress.point?, Progress.outcome?]

/-- A call that is answered stays in its slot if it has to wait on. -/
theorem answer_of_waiting {s : Schedule} {slot : Slot} {p : Point} (h : s.waitingIn? slot = some p)
    (a : Answer) :
    s.step (.answer slot a) =
      (letGo { s with
          cursor := (s.cursor.resume p a).1
          calls := without s.calls slot ++ ((s.cursor.resume p a).2.point?.map (slot, ·)).toList },
        (s.cursor.resume p a).2.outcome?) := by
  simp only [step, answer, h]
  cases s.cursor.resume p a with
  | mk c progress =>
    cases progress with
    | waiting q =>
      have hcall : without s.calls slot ++ [(slot, q)] ≠ [] :=
        List.append_ne_nil_of_right_ne_nil _ (List.cons_ne_nil _ _)
      exact congrArg (·, none) (if_neg fun hnone => hcall hnone.2).symm
    | done o => simp [Progress.point?, Progress.outcome?]

theorem calls_letGo (s : Schedule) : s.letGo.calls = s.calls := by
  simp only [letGo]
  split <;> rfl

theorem waitingIn?_answer {s : Schedule} {slot : Slot} {p : Point}
    (h : s.waitingIn? slot = some p) (a : Answer) :
    (s.step (.answer slot a)).1.waitingIn? slot = (s.cursor.resume p a).2.point? := by
  rw [answer_of_waiting h, waitingIn?, calls_letGo]
  exact find?_append_here _ slot _ (find?_without s.calls slot)

theorem calls_cancel {s : Schedule} {slot : Slot} {p : Point} (h : s.waitingIn? slot = some p) :
    (s.step (.cancel slot)).1.calls = without s.calls slot := by
  simp only [step, cancel, h, calls_letGo]
  rfl

theorem calls_step {s : Schedule} {a : Action} (h : a.slot? = none) :
    (s.step a).1.calls = s.calls := by
  cases a with
  | begin slot call => cases h
  | answer slot a => cases h
  | cancel slot => cases h
  | convert =>
    rw [step, convert_eq]
  | drop =>
    simp only [step, dropHandle]
    split
    · rfl
    · exact calls_letGo _
  | startTask i =>
    simp only [step, startTask]
    split
    · rfl
    · exact calls_setTask ..
  | answerTask i a =>
    simp only [step, answerTask]
    split
    · exact calls_setTask ..
    · rfl
  | discardTask i =>
    simp only [step, discardTask]
    split <;> rfl
  | setRuntime present => rfl
  | retain r =>
    simp only [step, retain]
    split <;> rfl
  | release r =>
    simp only [step, release]
    split <;> rfl

theorem waitingIn?_step {s : Schedule} {a : Action} {slot : Slot} (h : a.slot? ≠ some slot) :
    (s.step a).1.waitingIn? slot = s.waitingIn? slot := by
  have hcalls : ∀ {s' : Schedule}, s'.calls = s.calls → s'.waitingIn? slot = s.waitingIn? slot :=
    fun hsame => by rw [waitingIn?, hsame, waitingIn?]
  have hother : ∀ {other : Slot}, some other ≠ some slot → slot ≠ other := fun hne e =>
    hne (congrArg some e.symm)
  cases a with
  | begin other call =>
    by_cases hfree : s.handles ≠ 0 ∧ s.waitingIn? other = none
    · rw [begin_of_free hfree.2 hfree.1]
      exact congrArg (Option.map _) (find?_append_other s.calls _ (hother h))
    · rw [begin_of_taken hfree]
  | answer other a =>
    cases hp : s.waitingIn? other with
    | none => simp only [step, answer, hp]
    | some p =>
      rw [answer_of_waiting hp, waitingIn?, calls_letGo, find?_append_other _ _ (hother h),
        find?_without_other _ (hother h)]
      rfl
  | cancel other =>
    cases hp : s.waitingIn? other with
    | none => simp only [step, cancel, hp]
    | some p =>
      rw [waitingIn?, calls_cancel hp, find?_without_other _ (hother h)]
      rfl
  | _ => exact hcalls (calls_step rfl)

theorem handles_step_le (s : Schedule) (a : Action) : (s.step a).1.handles ≤ s.handles := by
  have hletGo : ∀ s' : Schedule, s'.letGo.handles = s'.handles := by
    intro s'
    simp only [letGo]
    split <;> rfl
  cases a with
  | begin slot call =>
    simp only [step, begin]
    split
    · exact le_rfl
    · split <;> exact le_rfl
  | answer slot a =>
    cases hp : s.waitingIn? slot with
    | none => simp only [step, answer, hp, le_refl]
    | some p =>
      rw [answer_of_waiting hp]
      exact (hletGo _).le
  | cancel slot =>
    simp only [step, cancel]
    split
    · exact le_rfl
    · exact (hletGo _).le
  | convert =>
    rw [step, convert_eq]
  | drop =>
    simp only [step, dropHandle]
    split
    · exact le_rfl
    · exact (hletGo _).le.trans (Nat.sub_le _ _)
  | startTask i =>
    simp only [step, startTask]
    split
    · exact le_rfl
    · exact (handles_setTask ..).le
  | answerTask i a =>
    simp only [step, answerTask]
    split
    · exact (handles_setTask ..).le
    · exact le_rfl
  | discardTask i =>
    simp only [step, discardTask]
    split <;> exact le_rfl
  | setRuntime present => exact le_rfl
  | retain r =>
    simp only [step, retain]
    split <;> exact le_rfl
  | release r =>
    simp only [step, release]
    split <;> exact le_rfl

theorem handles_run_le (s : Schedule) (history : List Action) :
    (s.run history).handles ≤ s.handles := by
  induction history generalizing s with
  | nil => exact le_rfl
  | cons a rest ih => exact (ih (s.step a).1).trans (handles_step_le s a)

end Schedule

end ServerCursor
