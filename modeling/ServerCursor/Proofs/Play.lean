import Mathlib.Data.List.Induction
import Mathlib.Data.List.Perm.Basic
import Mathlib.Data.Multiset.OrderedMonoid
import ServerCursor.Proofs.Turn

/-!
# Plays

A play is a history without its slots and places: the turns in order, and what all parties still
have to do, as a multiset. Main statement: every history is a play (`play_run`). An invariant of
plays needs one case for each kind of turn.

The cursor is let go only when no call waits, and tasks are about no batch: they neither wait for
one nor have one in hand. This is the only thing that a play has to know of calls and tasks.
-/

namespace ServerCursor

theorem eq_zero_of_add_le {α : Type} {a b : Multiset α} {x : α} (h : a + b ≤ {x}) (ha : a ≠ 0) :
    a = {x} ∧ b = 0 := by
  have hle : a ≤ {x} := (Multiset.le_add_right a b).trans h
  have hsingle : a = {x} := (Multiset.le_singleton.mp hle).resolve_left ha
  refine ⟨hsingle, ?_⟩
  have hcard := Multiset.card_le_card h
  rw [hsingle, Multiset.card_add, Multiset.card_singleton] at hcard
  exact Multiset.card_eq_zero.mp (by omega)

/-- The requests among what parties still have to do. -/
def flights (m : Multiset Task) : Multiset Flight :=
  m.filterMap Task.flight?

@[simp] theorem flights_zero : flights 0 = 0 := rfl

@[simp] theorem flights_add (m n : Multiset Task) : flights (m + n) = flights m + flights n :=
  Multiset.filterMap_add ..

theorem flights_singleton (t : Task) : flights {t} = ↑t.flight?.toList := by
  cases h : t.flight? with
  | none => exact Multiset.filterMap_cons_none t 0 h
  | some f => exact Multiset.filterMap_cons_some Task.flight? t 0 h

/-- The batches that parties have in hand. -/
def hands (m : Multiset Task) : Multiset (List Document) :=
  m.filterMap Task.hand?

@[simp] theorem hands_zero : hands 0 = 0 := rfl

@[simp] theorem hands_add (m n : Multiset Task) : hands (m + n) = hands m + hands n :=
  Multiset.filterMap_add ..

theorem hands_singleton (t : Task) : hands {t} = ↑t.hand?.toList := by
  cases h : t.hand? with
  | none => exact Multiset.filterMap_cons_none t 0 h
  | some d => exact Multiset.filterMap_cons_some Task.hand? t 0 h

theorem hands_left {p : Progress} (h : p.hand? = none) : hands p.left = 0 := by
  cases p with
  | waiting p =>
    have hp : (Task.suspended p).hand? = none := h
    rw [Progress.left, hands_singleton, hp]
    rfl
  | done o => rfl

/-- Nothing that parties still have to do is about a batch. -/
structure Background (m : Multiset Task) : Prop where
  /-- No request is under way. -/
  flights : flights m = 0
  /-- No batch is in hand. -/
  hands : hands m = 0

theorem background_add {m n : Multiset Task} :
    Background (m + n) ↔ Background m ∧ Background n := by
  constructor
  · rintro ⟨hf, hh⟩
    rw [flights_add, add_eq_zero] at hf
    rw [hands_add, add_eq_zero] at hh
    exact ⟨⟨hf.1, hh.1⟩, hf.2, hh.2⟩
  · rintro ⟨hm, hn⟩
    constructor
    · rw [flights_add, hm.flights, hn.flights, add_zero]
    · rw [hands_add, hm.hands, hn.hands, add_zero]

theorem background_singleton {t : Task} :
    Background {t} ↔ t.flight? = none ∧ t.hand? = none := by
  have hnone : ∀ {α : Type} {o : Option α}, (↑o.toList : Multiset α) = 0 ↔ o = none := by
    intro α o
    rw [Multiset.coe_eq_zero, Option.toList_eq_nil_iff]
  constructor
  · rintro ⟨hf, hh⟩
    rw [flights_singleton] at hf
    rw [hands_singleton] at hh
    exact ⟨hnone.mp hf, hnone.mp hh⟩
  · rintro ⟨hf, hh⟩
    constructor
    · rw [flights_singleton]
      exact hnone.mpr hf
    · rw [hands_singleton]
      exact hnone.mpr hh

/-- Whether the party is a task. -/
def Turn.isTask : Turn → Bool
  | startTask _ => true
  | answerTask _ _ => true
  | discardTask _ _ => true
  | _ => false

/-- Whether the last owner lets the cursor go. -/
def Turn.isDrop : Turn → Bool
  | drop _ => true
  | _ => false

/-- A cursor is let go only while no request is under way, and tasks are about no batch. -/
structure Turn.Allowed (t : Turn) (rest : Multiset Task) : Prop where
  /-- No request is under way. -/
  drop : t.isDrop = true → flights rest = 0
  /-- No task waits for a batch or has one in hand. -/
  task : t.isTask = true → Background t.party

theorem Turn.allowed_of_task {t : Turn} (hdrop : t.isDrop = false) (h : Background t.party)
    (rest : Multiset Task) : t.Allowed rest := by
  refine ⟨fun hd => ?_, fun _ => h⟩
  rw [hdrop] at hd
  cases hd

theorem Turn.allowed_of_other {t : Turn} (hdrop : t.isDrop = false) (htask : t.isTask = false)
    (rest : Multiset Task) : t.Allowed rest := by
  refine ⟨fun hd => ?_, fun ht => ?_⟩
  · rw [hdrop] at hd
    cases hd
  · rw [htask] at ht
    cases ht

/-- The turns with a cursor, what has become of it, and what all parties still have to do. -/
inductive Play (start : Cursor) : List Moment → Cursor → Multiset Task → Prop
  /-- Nothing has happened. -/
  | nil : Play start [] start 0
  /-- One more turn. -/
  | snoc {ms : List Moment} {c : Cursor} {rest : Multiset Task} {t : Turn}
      (before : Play start ms c (t.party + rest)) (allowed : t.Allowed rest) :
      Play start (ms ++ [⟨c, t⟩]) (t.effect c).cursor ((t.effect c).left + rest)

/-- The last turn of a play. -/
theorem Play.last {start c : Cursor} {ms : List Moment} {m : Moment} {pending : Multiset Task}
    (h : Play start (ms ++ [m]) c pending) :
    ∃ rest, Play start ms m.cursor (m.turn.party + rest) ∧ m.turn.Allowed rest ∧
      c = (m.turn.effect m.cursor).cursor ∧ pending = (m.turn.effect m.cursor).left + rest := by
  generalize hall : ms ++ [m] = all at h
  cases h with
  | nil => exact absurd hall (List.concat_ne_nil m ms)
  | snoc before allowed =>
    obtain ⟨rfl, hlast⟩ := List.append_inj' hall rfl
    cases hlast
    exact ⟨_, before, allowed, rfl, rfl⟩

theorem Play.until {start c : Cursor} {before after : List Moment} {m : Moment}
    {pending : Multiset Task} (h : Play start (before ++ m :: after) c pending) :
    ∃ rest, Play start before m.cursor (m.turn.party + rest) ∧ m.turn.Allowed rest := by
  induction after using List.reverseRecOn generalizing c pending with
  | nil =>
    obtain ⟨rest, hbefore, hallowed, -⟩ := h.last
    exact ⟨rest, hbefore, hallowed⟩
  | append_singleton after last ih =>
    rw [← List.cons_append, ← List.append_assoc] at h
    obtain ⟨_, hbefore, -⟩ := h.last
    exact ih hbefore

theorem Play.of_mem {start c : Cursor} {ms : List Moment} {m : Moment} {pending : Multiset Task}
    (h : Play start ms c pending) (hm : m ∈ ms) :
    ∃ before rest, Play start before m.cursor (m.turn.party + rest) ∧ m.turn.Allowed rest := by
  obtain ⟨before, after, rfl⟩ := List.append_of_mem hm
  exact ⟨before, h.until⟩

theorem Play.of_nil {start c : Cursor} {pending : Multiset Task} (h : Play start [] c pending) :
    c = start ∧ pending = 0 := by
  generalize hall : ([] : List Moment) = all at h
  cases h with
  | nil => exact ⟨rfl, rfl⟩
  | snoc before allowed => exact absurd hall.symm (List.concat_ne_nil _ _)

theorem Play.unique {start c c' : Cursor} {ms : List Moment} {pending pending' : Multiset Task}
    (h : Play start ms c pending) (h' : Play start ms c' pending') :
    c' = c ∧ pending' = pending := by
  induction h generalizing c' pending' with
  | nil => exact h'.of_nil
  | snoc before allowed ih =>
    obtain ⟨rest', hbefore', -, rfl, rfl⟩ := h'.last
    obtain ⟨-, hrest⟩ := ih hbefore'
    exact ⟨rfl, congrArg _ (add_left_cancel hrest)⟩

/-- What holds at some point of a play, and is kept by every turn after it, holds at the end. -/
theorem Play.onward {I : List Moment → Cursor → Multiset Task → Prop} {start c c' : Cursor}
    {before after : List Moment} {pending pending' : Multiset Task}
    (h : Play start before c pending) (h' : Play start (before ++ after) c' pending')
    (base : I [] c pending)
    (step : ∀ {ms : List Moment} {d : Cursor} {rest : Multiset Task} {t : Turn},
      Play start (before ++ ms) d (t.party + rest) → t.Allowed rest → I ms d (t.party + rest) →
      I (ms ++ [⟨d, t⟩]) (t.effect d).cursor ((t.effect d).left + rest)) :
    I after c' pending' := by
  induction after using List.reverseRecOn generalizing c' pending' with
  | nil =>
    rw [List.append_nil] at h'
    obtain ⟨rfl, rfl⟩ := h.unique h'
    exact base
  | append_singleton after m ih =>
    rw [← List.append_assoc] at h'
    obtain ⟨rest, hbefore, hallowed, rfl, rfl⟩ := h'.last
    exact step hbefore hallowed (ih hbefore)

namespace Cursor

theorem left_conclude (c : Cursor) (a : Abandoned) (after : Outcome) :
    (c.conclude a after).2.left = 0 := by
  simp only [conclude]
  split <;> rfl

theorem flights_kill (c : Cursor) (a : Abandoned) (after : Outcome) :
    flights (c.kill a after).2.left = 0 := by
  simp only [kill]
  split
  · simp [left_conclude]
  split
  · simp [left_conclude]
  split
  · rfl
  split
  · rfl
  · simp [left_conclude]

theorem flights_close (c : Cursor) : flights c.close.2.left = 0 := by
  unfold close
  split
  · rfl
  dsimp only
  split
  · rfl
  · exact flights_kill ..

theorem flights_killCheckedOut (c : Cursor) (a : Abandoned) (after : Outcome)
    (r : Except Error Unit) : flights (c.killCheckedOut a after r).2.left = 0 := by
  cases r with
  | ok _ => rfl
  | error cause => simp [killCheckedOut, left_conclude]

theorem left_killReplied (c : Cursor) (a : Abandoned) (after : Outcome) (r : Except Error Unit) :
    (c.killReplied a after r).2.left = 0 := by
  cases r <;> simp [killReplied, left_conclude]

theorem flights_resume {c : Cursor} {p : Point} (h : p.flight? = none) (a : Answer) :
    flights (c.resume p a).2.left = 0 := by
  cases p with
  | fetchCheckout f => cases h
  | fetchReply f n => cases h
  | killCheckout b after =>
    cases a with
    | checkout r => exact flights_killCheckedOut ..
    | reply r => rfl
    | kill r => rfl
  | killReply b after =>
    cases a with
    | checkout r => rfl
    | reply r => rfl
    | kill r => exact congrArg flights (left_killReplied ..)

theorem flights_startTask {c : Cursor} {t : Task} (h : t.flight? = none) :
    flights (c.startTask t).2.left = 0 := by
  cases t with
  | close => exact flights_close c
  | kill a => exact flights_kill ..
  | suspended p => exact (flights_singleton _).trans (by rw [h]; rfl)

theorem left_cancel (c : Cursor) (p : Point) (runtime : Bool) :
    (↑(c.cancel p runtime).2.toList : Multiset Task) = 0 ∨
      ∃ a, (↑(c.cancel p runtime).2.toList : Multiset Task) = {.kill a} := by
  have hfetch : ∀ back, (↑(c.cancelFetch back runtime).2.toList : Multiset Task) = 0 ∨
      ∃ a, (↑(c.cancelFetch back runtime).2.toList : Multiset Task) = {.kill a} := by
    intro back
    simp only [cancelFetch]
    split
    · split
      · exact .inl rfl
      split
      · exact .inr ⟨_, rfl⟩
      · exact .inl rfl
    · exact .inl rfl
  cases p with
  | fetchCheckout f => exact hfetch f.held
  | fetchReply f n => exact hfetch (.connection n :: f.held)
  | killCheckout a after => exact .inl rfl
  | killReply a after => exact .inl rfl

theorem left_drop (c : Cursor) (runtime : Bool) :
    (↑(c.drop runtime).2.toList : Multiset Task) = 0 ∨
      (↑(c.drop runtime).2.toList : Multiset Task) = {.close} := by
  simp only [drop]
  split
  · exact .inl rfl
  split
  · exact .inr rfl
  split
  · exact .inl rfl
  · exact .inl rfl

theorem flights_cancel (c : Cursor) (p : Point) (runtime : Bool) :
    flights ↑(c.cancel p runtime).2.toList = 0 := by
  rcases left_cancel c p runtime with hnone | ⟨a, hone⟩
  · rw [hnone]
    rfl
  · rw [hone]
    rfl

theorem flights_discardTask (c : Cursor) (runtime : Bool) (t : Task) :
    flights ↑(c.discardTask runtime t).2.toList = 0 := by
  cases t with
  | close => rfl
  | kill a => rfl
  | suspended p => exact flights_cancel ..

theorem flights_drop (c : Cursor) (runtime : Bool) :
    flights ↑(c.drop runtime).2.toList = 0 := by
  rcases left_drop c runtime with hnone | hone
  · rw [hnone]
    rfl
  · rw [hone]
    rfl

theorem hand_conclude (c : Cursor) (a : Abandoned) (after : Outcome) :
    (c.conclude a after).2.hand? = after.hand? := by
  simp only [conclude]
  split <;> rfl

theorem hand_kill (c : Cursor) (a : Abandoned) (after : Outcome) :
    (c.kill a after).2.hand? = after.hand? := by
  simp only [kill]
  split
  · exact hand_conclude ..
  split
  · exact hand_conclude ..
  split
  · rfl
  split
  · rfl
  · exact hand_conclude ..

theorem hand_close (c : Cursor) : c.close.2.hand? = none := by
  unfold close
  split
  · rfl
  dsimp only
  split
  · rfl
  · exact hand_kill ..

theorem hand_killCheckedOut (c : Cursor) (a : Abandoned) (after : Outcome)
    (r : Except Error Unit) : (c.killCheckedOut a after r).2.hand? = after.hand? := by
  cases r with
  | ok _ => rfl
  | error cause => exact hand_conclude ..

theorem hand_killReplied (c : Cursor) (a : Abandoned) (after : Outcome) (r : Except Error Unit) :
    (c.killReplied a after r).2.hand? = after.hand? := by
  cases r with
  | ok _ => exact hand_conclude ..
  | error cause => exact hand_conclude ..

theorem hand_resume {c : Cursor} {p : Point} (h : p.flight? = none) (a : Answer) :
    (c.resume p a).2.hand? = p.hand? := by
  cases p with
  | fetchCheckout f => cases h
  | fetchReply f n => cases h
  | killCheckout b after =>
    cases a with
    | checkout r => exact hand_killCheckedOut ..
    | reply r => rfl
    | kill r => rfl
  | killReply b after =>
    cases a with
    | checkout r => rfl
    | reply r => rfl
    | kill r => exact hand_killReplied ..

theorem hand_startTask (c : Cursor) (t : Task) : (c.startTask t).2.hand? = t.hand? := by
  cases t with
  | close => exact hand_close c
  | kill a => exact hand_kill ..
  | suspended p => rfl

theorem hands_cancel (c : Cursor) (p : Point) (runtime : Bool) :
    hands ↑(c.cancel p runtime).2.toList = 0 := by
  rcases left_cancel c p runtime with hnone | ⟨a, hone⟩
  · rw [hnone]
    rfl
  · rw [hone]
    rfl

theorem hands_discardTask (c : Cursor) (runtime : Bool) (t : Task) :
    hands ↑(c.discardTask runtime t).2.toList = 0 := by
  cases t with
  | close => rfl
  | kill a => rfl
  | suspended p => exact hands_cancel ..

theorem hands_drop (c : Cursor) (runtime : Bool) : hands ↑(c.drop runtime).2.toList = 0 := by
  rcases left_drop c runtime with hnone | hone
  · rw [hnone]
    rfl
  · rw [hone]
    rfl

end Cursor

namespace Schedule

/-- Every slot holds one call, and tasks are about no batch. -/
structure Orderly (s : Schedule) : Prop where
  /-- No slot holds two calls. -/
  slots : (s.calls.map (·.1)).Nodup
  /-- No task waits for a batch or has one in hand. -/
  tasks : Background ↑s.tasks

theorem orderly_ofCursor (c : Cursor) (runtime : Bool) : (ofCursor c runtime).Orderly :=
  ⟨List.nodup_nil, rfl, rfl⟩

theorem orderly_spawn {s : Schedule} (ho : s.Orderly) {t : Option Task}
    (ht : Background ↑t.toList) : (s.spawn t).Orderly :=
  ⟨ho.slots, background_add.mpr ⟨ho.tasks, ht⟩⟩

theorem orderly_letGo {s : Schedule} (h : s.Orderly) : s.letGo.Orderly := by
  simp only [letGo]
  split
  · have hspawned : Background ↑(s.cursor.drop s.runtime).2.toList :=
      ⟨Cursor.flights_drop .., Cursor.hands_drop ..⟩
    exact orderly_spawn (s := { s with cursor := (s.cursor.drop s.runtime).1 })
      ⟨h.slots, h.tasks⟩ hspawned
  · exact h

theorem coe_eraseIdx {tasks : List Task} {i : Nat} {t : Task} (h : tasks[i]? = some t) :
    (↑tasks : Multiset Task) = {t} + ↑(tasks.eraseIdx i) := by
  obtain ⟨hi, rfl⟩ := List.getElem?_eq_some_iff.mp h
  have hp := List.getElem_cons_eraseIdx_perm hi
  exact (Multiset.coe_eq_coe.mpr hp).symm

theorem coe_tasks_setTask (s : Schedule) {i : Nat} {t : Task} (h : s.tasks[i]? = some t)
    (r : Cursor × Progress) :
    (↑(s.setTask i r).tasks : Multiset Task) = r.2.left + ↑(s.tasks.eraseIdx i) := by
  obtain ⟨hi, rfl⟩ := List.getElem?_eq_some_iff.mp h
  obtain ⟨c, p | o⟩ := r
  · exact Multiset.coe_eq_coe.mpr (List.set_perm_cons_eraseIdx hi _)
  · exact (Multiset.zero_add _).symm

theorem calls_setTask (s : Schedule) (i : Nat) (r : Cursor × Progress) :
    (s.setTask i r).calls = s.calls := by
  obtain ⟨c, p | o⟩ := r <;> rfl

theorem handles_setTask (s : Schedule) (i : Nat) (r : Cursor × Progress) :
    (s.setTask i r).handles = s.handles := by
  obtain ⟨c, p | o⟩ := r <;> rfl

theorem cursor_setTask (s : Schedule) (i : Nat) (r : Cursor × Progress) :
    (s.setTask i r).cursor = r.1 := by
  obtain ⟨c, p | o⟩ := r <;> rfl

theorem orderly_setTask {s : Schedule} (ho : s.Orderly) {i : Nat} {t : Task}
    (h : s.tasks[i]? = some t) {r : Cursor × Progress} (hr : Background r.2.left) :
    (s.setTask i r).Orderly := by
  refine ⟨by rw [calls_setTask]; exact ho.slots, ?_⟩
  have hall := ho.tasks
  rw [coe_eraseIdx h, background_add] at hall
  rw [coe_tasks_setTask s h]
  exact background_add.mpr ⟨hr, hall.2⟩

theorem background_of_tasks {s : Schedule} (ho : s.Orderly) {i : Nat} {t : Task}
    (h : s.tasks[i]? = some t) : t.flight? = none ∧ t.hand? = none := by
  have hall := ho.tasks
  rw [coe_eraseIdx h, background_add] at hall
  exact background_singleton.mp hall.1

theorem perm_without {calls : List (Slot × Point)} (hn : (calls.map (·.1)).Nodup) {slot : Slot}
    {p : Point} (h : (calls.find? fun call => call.1 == slot).map (·.2) = some p) :
    calls.Perm ((slot, p) :: without calls slot) := by
  induction calls with
  | nil => cases h
  | cons call rest ih =>
    obtain ⟨name, q⟩ := call
    rw [List.map_cons, List.nodup_cons] at hn
    by_cases hs : name = slot
    · subst hs
      rw [List.find?_cons_of_pos (by simp)] at h
      cases h
      have hrest : without rest name = rest := by
        refine List.filter_eq_self.mpr fun other hother => ?_
        have hne : other.1 ≠ name := fun e => hn.1 (List.mem_map.mpr ⟨other, hother, e⟩)
        simpa using hne
      have hcall : without ((name, q) :: rest) name = without rest name := by simp [without]
      rw [hcall, hrest]
    · rw [List.find?_cons_of_neg (by simpa using hs)] at h
      have hcall : without ((name, q) :: rest) slot = (name, q) :: without rest slot := by
        simp [without, hs]
      rw [hcall]
      exact ((ih hn.2 h).cons _).trans (.swap ..)

theorem nodup_without {calls : List (Slot × Point)} (hn : (calls.map (·.1)).Nodup) (slot : Slot) :
    ((without calls slot).map (·.1)).Nodup :=
  hn.sublist (List.filter_sublist.map _)

theorem notMem_without (calls : List (Slot × Point)) (slot : Slot) :
    slot ∉ (without calls slot).map (·.1) := by
  simp [without]

theorem pending_of_waiting {s : Schedule} (ho : s.Orderly) {slot : Slot} {p : Point}
    (h : s.waitingIn? slot = some p) (c : Cursor) :
    s.pending = {.suspended p} + pending { s with cursor := c, calls := without s.calls slot } := by
  have hp := (perm_without ho.slots h).map fun call => Task.suspended call.2
  have hcalls : (↑(s.calls.map fun call => Task.suspended call.2) : Multiset Task) =
      {.suspended p} + ↑((without s.calls slot).map fun call => Task.suspended call.2) :=
    Multiset.coe_eq_coe.mpr hp
  rw [pending, hcalls, add_assoc]
  rfl

theorem mem_pending_of_waiting {s : Schedule} (ho : s.Orderly) {slot : Slot} {p : Point}
    (h : s.waitingIn? slot = some p) : Task.suspended p ∈ s.pending := by
  rw [pending_of_waiting ho h s.cursor]
  exact Multiset.mem_add.mpr (.inl (Multiset.mem_singleton_self _))

theorem pending_of_task (s : Schedule) {i : Nat} {t : Task} (h : s.tasks[i]? = some t)
    (c : Cursor) :
    s.pending = {t} + pending { s with cursor := c, tasks := s.tasks.eraseIdx i } := by
  rw [pending, coe_eraseIdx h, add_left_comm]
  rfl

theorem pending_setTask (s : Schedule) {i : Nat} {t : Task} (h : s.tasks[i]? = some t)
    (r : Cursor × Progress) :
    (s.setTask i r).pending =
      r.2.left + pending { s with cursor := r.1, tasks := s.tasks.eraseIdx i } := by
  rw [pending, coe_tasks_setTask s h, calls_setTask, add_left_comm]
  rfl

theorem pending_spawn (s : Schedule) (t : Option Task) :
    (s.spawn t).pending = ↑t.toList + s.pending := by
  rw [pending, spawn, ← Multiset.coe_add, ← add_assoc, add_comm]
  rfl

theorem isDropped_letGo (s : Schedule) : s.letGo.isDropped = s.isDropped := by
  simp only [letGo]
  split <;> rfl

theorem isDropped_iff (s : Schedule) : s.isDropped = true ↔ s.handles = 0 ∧ s.calls = [] := by
  simp [isDropped]

/-- Letting the cursor go is a turn if nothing is left that owns it, and nothing otherwise. -/
theorem play_letGo {start : Cursor} {ms : List Moment} {s : Schedule} (ho : s.Orderly)
    (hp : Play start ms s.cursor s.pending) :
    Play start (ms ++ if s.isDropped then [⟨s.cursor, .drop s.runtime⟩] else [])
      s.letGo.cursor s.letGo.pending := by
  by_cases hd : s.isDropped = true
  · have hd' := (isDropped_iff s).mp hd
    have hflights : flights s.pending = 0 := by
      rw [pending, hd'.2]
      simpa using ho.tasks.flights
    have hallowed : (Turn.drop s.runtime).Allowed s.pending := 
      ⟨fun _ => hflights, fun ht => Bool.noConfusion ht⟩
    have hparty : s.pending = (Turn.drop s.runtime).party + s.pending := (zero_add _).symm
    have hnext := Play.snoc (hparty ▸ hp) hallowed
    rw [if_pos hd]
    unfold letGo
    rw [if_pos hd']
    dsimp only
    rw [pending_spawn]
    exact hnext
  · have hd' : ¬ (s.handles = 0 ∧ s.calls = []) := fun h => hd ((isDropped_iff s).mpr h)
    rw [if_neg hd, List.append_nil]
    simp only [letGo]
    rw [if_neg hd']
    exact hp

/-- One turn, seen from the schedule. -/
theorem play_turn {start : Cursor} {ms : List Moment} {s next : Schedule} {t : Turn}
    {rest : Multiset Task} (hp : Play start ms s.cursor s.pending)
    (ht : t.Allowed rest) (hs : s.pending = t.party + rest)
    (hc : next.cursor = (t.effect s.cursor).cursor)
    (hn : next.pending = (t.effect s.cursor).left + rest) :
    Play start (ms ++ [⟨s.cursor, t⟩]) next.cursor next.pending := by
  rw [hs] at hp
  rw [hc, hn]
  exact .snoc hp ht

theorem turns_eq_nil {s : Schedule} {a : Action} (ht : s.turn? a = none)
    (hs : (s.step a).1.isDropped = s.isDropped) : s.turns a = [] := by
  simp [turns, ht, hs]

theorem turns_eq_singleton {s : Schedule} {a : Action} {t : Turn} (ht : s.turn? a = some t)
    (hs : (s.step a).1.isDropped = s.isDropped) : s.turns a = [⟨s.cursor, t⟩] := by
  simp [turns, ht, hs]

/-- After a turn that ends a call, the cursor is let go if that call was the last owner. -/
theorem play_turn_letGo {start : Cursor} {ms : List Moment} {s next : Schedule} {a : Action}
    {t : Turn} {rest : Multiset Task} (hp : Play start ms s.cursor s.pending)
    (hstep : (s.step a).1 = next.letGo) (hturn : s.turn? a = some t)
    (ht : t.Allowed rest) (hs : s.pending = t.party + rest)
    (hc : next.cursor = (t.effect s.cursor).cursor)
    (hn : next.pending = (t.effect s.cursor).left + rest) (ho : next.Orderly)
    (hr : next.runtime = s.runtime) (hd : s.isDropped = false) :
    Play start (ms ++ s.turns a) (s.step a).1.cursor (s.step a).1.pending := by
  have hall := play_letGo ho (play_turn hp ht hs hc hn)
  have hturns : s.turns a = [⟨s.cursor, t⟩] ++
      if next.isDropped then [⟨next.cursor, .drop next.runtime⟩] else [] := by
    simp [turns, hturn, hd, hstep, isDropped_letGo, afterTurn, hc, hr]
  rw [hturns, hstep, ← List.append_assoc]
  exact hall

theorem isDropped_of_waiting {s : Schedule} {slot : Slot} {p : Point}
    (h : s.waitingIn? slot = some p) : s.isDropped = false := by
  cases hc : s.calls with
  | nil => simp [waitingIn?, hc] at h
  | cons call rest => simp [isDropped, hc]

theorem isDropped_setTask (s : Schedule) (i : Nat) (r : Cursor × Progress) :
    (s.setTask i r).isDropped = s.isDropped := by
  rw [isDropped, isDropped, handles_setTask, calls_setTask]

section Step

variable {start : Cursor} {ms : List Moment} {s : Schedule}

theorem play_begin (hp : Play start ms s.cursor s.pending) (slot : Slot) (call : Call) :
    Play start (ms ++ s.turns (.begin slot call)) (s.begin slot call).1.cursor
      (s.begin slot call).1.pending := by
  by_cases h : s.handles = 0 ∨ (s.waitingIn? slot).isSome
  · have hstep : s.begin slot call = (s, none) := by simp only [begin, if_pos h]
    have hturns : s.turns (.begin slot call) = [] :=
      turns_eq_nil (by simp only [turn?, if_pos h]) (by rw [step, hstep])
    rw [hturns, hstep, List.append_nil]
    exact hp
  · have hturn : s.turn? (.begin slot call) = some (.begin call) := by simp only [turn?, if_neg h]
    have hopen : (s.handles == 0) = false := beq_false_of_ne fun e => h (.inl e)
    -- A call that begins has a handle, which outlives it.
    have hkept : (s.begin slot call).1.isDropped = s.isDropped := by
      simp only [begin, if_neg h]
      split <;> simp [isDropped, hopen]
    rw [turns_eq_singleton hturn (by rw [step, hkept])]
    have hparty : s.pending = (Turn.begin call).party + s.pending := (zero_add _).symm
    refine play_turn hp (Turn.allowed_of_other rfl rfl _) hparty ?_ ?_
    · simp only [begin, if_neg h, Turn.effect, Turn.Effect.ofCall]
      split <;> simp [*]
    · simp only [begin, if_neg h, Turn.effect, Turn.Effect.ofCall]
      split
      · rename_i c p hcall
        rw [hcall, pending, List.map_append, ← Multiset.coe_add, add_right_comm, add_comm]
        rfl
      · rename_i c o hcall
        rw [hcall]
        exact (zero_add _).symm

theorem play_answer (ho : s.Orderly) (hp : Play start ms s.cursor s.pending) (slot : Slot)
    (a : Answer) :
    Play start (ms ++ s.turns (.answer slot a)) (s.answer slot a).1.cursor
      (s.answer slot a).1.pending := by
  cases h : s.waitingIn? slot with
  | none =>
    have hstep : s.answer slot a = (s, none) := by simp only [answer, h]
    have hturns : s.turns (.answer slot a) = [] :=
      turns_eq_nil (by simp only [turn?, h]; rfl) (by rw [step, hstep])
    rw [hturns, hstep, List.append_nil]
    exact hp
  | some p =>
    have hturn : s.turn? (.answer slot a) = some (.answer p a) := by simp only [turn?, h]; rfl
    have hpend := pending_of_waiting ho h (s.cursor.resume p a).1
    have hd := isDropped_of_waiting h
    cases hr : s.cursor.resume p a with
    | mk c progress =>
      cases progress with
      | waiting q =>
        have hstep : s.answer slot a =
            ({ s with cursor := c, calls := without s.calls slot ++ [(slot, q)] }, none) := by
          simp only [answer, h, hr]
        have hkept : (s.answer slot a).1.isDropped = s.isDropped := by
          rw [hd, hstep]
          simp [isDropped]
        rw [turns_eq_singleton hturn hkept, hstep]
        refine play_turn hp (Turn.allowed_of_other rfl rfl _) hpend ?_ ?_
        · simp only [Turn.effect, Turn.Effect.ofCall, hr]
        · simp only [Turn.effect, Turn.Effect.ofCall, hr]
          rw [pending, List.map_append, ← Multiset.coe_add, add_right_comm, add_comm]
          rfl
      | done o =>
        have hstep : (s.step (.answer slot a)).1 =
            letGo { s with cursor := c, calls := without s.calls slot } := by
          simp only [step, answer, h, hr]
        refine play_turn_letGo hp hstep hturn (Turn.allowed_of_other rfl rfl _) hpend ?_ ?_
          ⟨nodup_without ho.slots slot, ho.tasks⟩ rfl hd
        · simp only [Turn.effect, Turn.Effect.ofCall, hr]
        · simp only [Turn.effect, Turn.Effect.ofCall, hr]
          exact (zero_add _).symm

theorem play_cancel (ho : s.Orderly) (hp : Play start ms s.cursor s.pending) (slot : Slot) :
    Play start (ms ++ s.turns (.cancel slot)) (s.cancel slot).cursor (s.cancel slot).pending := by
  cases h : s.waitingIn? slot with
  | none =>
    have hstep : s.cancel slot = s := by simp only [cancel, h]
    have hturns : s.turns (.cancel slot) = [] :=
      turns_eq_nil (by simp only [turn?, h]; rfl) (by rw [step, hstep])
    rw [hturns, hstep, List.append_nil]
    exact hp
  | some p =>
    have hturn : s.turn? (.cancel slot) = some (.cancel p s.runtime) := by
      simp only [turn?, h]; rfl
    have hstep : (s.step (.cancel slot)).1 = letGo (spawn { s with
        cursor := (s.cursor.cancel p s.runtime).1, calls := without s.calls slot }
        (s.cursor.cancel p s.runtime).2) := by
      simp only [step, cancel, h]
    have hclear : Background ↑(s.cursor.cancel p s.runtime).2.toList :=
      ⟨Cursor.flights_cancel .., Cursor.hands_cancel ..⟩
    refine play_turn_letGo hp hstep hturn (Turn.allowed_of_other rfl rfl _)
      (pending_of_waiting ho h (s.cursor.cancel p s.runtime).1) rfl (pending_spawn ..) ?_ rfl
      (isDropped_of_waiting h)
    exact ⟨nodup_without ho.slots slot, background_add.mpr ⟨ho.tasks, hclear⟩⟩

theorem play_dropHandle (ho : s.Orderly) (hp : Play start ms s.cursor s.pending) :
    Play start (ms ++ s.turns .drop) s.dropHandle.cursor s.dropHandle.pending := by
  by_cases h : s.handles = 0
  · have hstep : s.dropHandle = s := by simp only [dropHandle, if_pos h]
    have hturns : s.turns .drop = [] := turns_eq_nil rfl (by rw [step, hstep])
    rw [hturns, hstep, List.append_nil]
    exact hp
  · have hopen : s.isDropped = false := by simp [isDropped, h]
    have hstep : s.dropHandle = letGo { s with handles := s.handles - 1 } := by
      simp only [dropHandle, if_neg h]
    have hturns : s.turns .drop = if isDropped { s with handles := s.handles - 1 } then
        [⟨s.cursor, .drop s.runtime⟩] else [] := by
      simp [turns, turn?, hopen, step, hstep, isDropped_letGo, afterTurn]
    have hmid : Orderly { s with handles := s.handles - 1 } := ⟨ho.slots, ho.tasks⟩
    rw [hturns, hstep]
    exact play_letGo hmid hp

theorem play_setTask (hp : Play start ms s.cursor s.pending) {i : Nat} {t : Task} {u : Turn}
    (h : s.tasks[i]? = some t) (hparty : u.party = {t}) {r : Cursor × Progress}
    (hr : u.effect s.cursor = .ofTask r) (hu : ∀ rest, u.Allowed rest) :
    Play start (ms ++ [⟨s.cursor, u⟩]) (s.setTask i r).cursor (s.setTask i r).pending := by
  refine play_turn hp (hu _) (hparty ▸ pending_of_task s h r.1) ?_ ?_
  · rw [cursor_setTask, hr]; rfl
  · rw [pending_setTask s h, hr]; rfl

theorem play_startTask (ho : s.Orderly) (hp : Play start ms s.cursor s.pending) (i : Nat) :
    Play start (ms ++ s.turns (.startTask i)) (s.startTask i).cursor (s.startTask i).pending := by
  cases h : s.tasks[i]? with
  | none =>
    have hstep : s.startTask i = s := by simp only [startTask, h]
    have hturns : s.turns (.startTask i) = [] :=
      turns_eq_nil (by simp only [turn?, h]; rfl) (by rw [step, hstep])
    rw [hturns, hstep, List.append_nil]
    exact hp
  | some t =>
    have hstep : s.startTask i = s.setTask i (s.cursor.startTask t) := by simp only [startTask, h]
    have hturn : s.turn? (.startTask i) = some (.startTask t) := by simp only [turn?, h]; rfl
    rw [turns_eq_singleton hturn (by rw [step, hstep, isDropped_setTask]), hstep]
    have hidle := background_singleton.mpr (background_of_tasks ho h)
    exact play_setTask hp h rfl rfl (Turn.allowed_of_task rfl hidle)

theorem play_answerTask (ho : s.Orderly) (hp : Play start ms s.cursor s.pending) (i : Nat)
    (a : Answer) :
    Play start (ms ++ s.turns (.answerTask i a)) (s.answerTask i a).cursor
      (s.answerTask i a).pending := by
  by_cases h : ∃ p, s.tasks[i]? = some (.suspended p)
  · obtain ⟨p, h⟩ := h
    have hstep : s.answerTask i a = s.setTask i (s.cursor.resume p a) := by
      simp only [answerTask, h]
    have hturn : s.turn? (.answerTask i a) = some (.answerTask p a) := by simp only [turn?, h]
    rw [turns_eq_singleton hturn (by rw [step, hstep, isDropped_setTask]), hstep]
    have hidle := background_singleton.mpr (background_of_tasks ho h)
    exact play_setTask hp h rfl rfl (Turn.allowed_of_task rfl hidle)
  · have hstep : s.answerTask i a = s := by
      simp only [answerTask]
      split
      · exact absurd ⟨_, ‹_›⟩ h
      · rfl
    have hturn : s.turn? (.answerTask i a) = none := by
      simp only [turn?]
      split
      · exact absurd ⟨_, ‹_›⟩ h
      · rfl
    rw [turns_eq_nil hturn (by rw [step, hstep]), hstep, List.append_nil]
    exact hp

theorem play_discardTask (ho : s.Orderly) (hp : Play start ms s.cursor s.pending) (i : Nat) :
    Play start (ms ++ s.turns (.discardTask i)) (s.discardTask i).cursor
      (s.discardTask i).pending := by
  cases h : s.tasks[i]? with
  | none =>
    have hstep : s.discardTask i = s := by simp only [discardTask, h]
    have hturns : s.turns (.discardTask i) = [] :=
      turns_eq_nil (by simp only [turn?, h]; rfl) (by rw [step, hstep])
    rw [hturns, hstep, List.append_nil]
    exact hp
  | some t =>
    have hstep : s.discardTask i = spawn { s with
        cursor := (s.cursor.discardTask s.runtime t).1, tasks := s.tasks.eraseIdx i }
        (s.cursor.discardTask s.runtime t).2 := by
      simp only [discardTask, h]
    have hturn : s.turn? (.discardTask i) = some (.discardTask t s.runtime) := by
      simp only [turn?, h]; rfl
    rw [turns_eq_singleton hturn (by rw [step, hstep]; rfl), hstep]
    have hidle := background_singleton.mpr (background_of_tasks ho h)
    have hallowed := Turn.allowed_of_task (t := .discardTask t s.runtime) rfl hidle
    exact play_turn hp (hallowed _) (pending_of_task s h _) rfl
      (pending_spawn ..)

/-- Others change nothing but what is known of the resources. -/
theorem play_withLedger (hp : Play start ms s.cursor s.pending) {a : Action} {t : Turn} {l : Ledger}
    (hturn : s.turn? a = some t) (ht : t.Allowed s.pending) (hparty : t.party = 0)
    (hl : t.effect s.cursor = .ofLedger s.cursor l) (hstep : (s.step a).1 = s.withLedger l) :
    Play start (ms ++ s.turns a) (s.step a).1.cursor (s.step a).1.pending := by
  rw [turns_eq_singleton hturn (by rw [hstep]; rfl), hstep]
  have hs : s.pending = t.party + s.pending := by rw [hparty, zero_add]
  refine play_turn hp ht hs ?_ ?_
  · rw [hl]; rfl
  · rw [hl]; exact (zero_add _).symm

theorem play_retain (hp : Play start ms s.cursor s.pending) (r : Resource) :
    Play start (ms ++ s.turns (.retain r)) (s.step (.retain r)).1.cursor
      (s.step (.retain r)).1.pending := by
  refine play_withLedger hp rfl (Turn.allowed_of_other rfl rfl _) rfl rfl ?_
  cases h : s.cursor.ledger.retain r <;> simp only [step, retain, h]

theorem play_release (hp : Play start ms s.cursor s.pending) (r : Resource) :
    Play start (ms ++ s.turns (.release r)) (s.step (.release r)).1.cursor
      (s.step (.release r)).1.pending := by
  refine play_withLedger hp rfl (Turn.allowed_of_other rfl rfl _) rfl rfl ?_
  cases h : s.cursor.ledger.release r <;> simp only [step, release, h]

theorem play_step (ho : s.Orderly) (hp : Play start ms s.cursor s.pending) (a : Action) :
    Play start (ms ++ s.turns a) (s.step a).1.cursor (s.step a).1.pending := by
  cases a with
  | begin slot call => exact play_begin hp slot call
  | answer slot a => exact play_answer ho hp slot a
  | cancel slot => exact play_cancel ho hp slot
  | convert =>
    have hturns : s.turns .convert = [] := turns_eq_nil rfl (by rw [step, convert_eq])
    rw [hturns, step, convert_eq, List.append_nil]
    exact hp
  | drop => exact play_dropHandle ho hp
  | startTask i => exact play_startTask ho hp i
  | answerTask i a => exact play_answerTask ho hp i a
  | discardTask i => exact play_discardTask ho hp i
  | setRuntime present =>
    have hturns : s.turns (.setRuntime present) = [] := turns_eq_nil rfl rfl
    rw [hturns, List.append_nil]
    exact hp
  | retain r => exact play_retain hp r
  | release r => exact play_release hp r

end Step

theorem orderly_begin {s : Schedule} (ho : s.Orderly) (slot : Slot) (call : Call) :
    (s.begin slot call).1.Orderly := by
  simp only [begin]
  split
  · exact ho
  · rename_i h
    split
    · rename_i c p hcall
      refine ⟨?_, ho.tasks⟩
      have hfree : slot ∉ s.calls.map (·.1) := by
        intro hslot
        obtain ⟨call', hmem, heq⟩ := List.mem_map.mp hslot
        refine h (.inr ?_)
        have hfound : (s.calls.find? fun call => call.1 == slot).isSome :=
          List.find?_isSome.mpr ⟨call', hmem, by simpa using heq⟩
        simpa [waitingIn?] using hfound
      rw [List.map_append, List.map_singleton]
      exact List.nodup_append_comm.mp (List.nodup_cons.mpr ⟨hfree, ho.slots⟩)
    · exact ⟨ho.slots, ho.tasks⟩

theorem orderly_answer {s : Schedule} (ho : s.Orderly) (slot : Slot) (a : Answer) :
    (s.answer slot a).1.Orderly := by
  have hslots := nodup_without ho.slots slot
  simp only [answer]
  split
  · exact ho
  split
  · refine ⟨?_, ho.tasks⟩
    rw [List.map_append, List.map_singleton]
    exact List.nodup_append_comm.mp
      (List.nodup_cons.mpr ⟨notMem_without s.calls slot, hslots⟩)
  · exact orderly_letGo ⟨hslots, ho.tasks⟩

theorem orderly_step {s : Schedule} (ho : s.Orderly) (a : Action) : (s.step a).1.Orderly := by
  cases a with
  | begin slot call => exact orderly_begin ho slot call
  | answer slot a => exact orderly_answer ho slot a
  | cancel slot =>
    simp only [step, cancel]
    split
    · exact ho
    · refine orderly_letGo (orderly_spawn ?_ ⟨Cursor.flights_cancel .., Cursor.hands_cancel ..⟩)
      exact ⟨nodup_without ho.slots slot, ho.tasks⟩
  | convert => rw [step, convert_eq]; exact ho
  | drop =>
    simp only [step, dropHandle]
    split
    · exact ho
    · exact orderly_letGo ⟨ho.slots, ho.tasks⟩
  | startTask i =>
    simp only [step, startTask]
    split
    · exact ho
    · rename_i t h
      obtain ⟨hf, hh⟩ := background_of_tasks ho h
      have hleft := hands_left ((Cursor.hand_startTask s.cursor t).trans hh)
      exact orderly_setTask ho h ⟨Cursor.flights_startTask hf, hleft⟩
  | answerTask i a =>
    simp only [step, answerTask]
    split
    · rename_i p h
      obtain ⟨hf, hh⟩ := background_of_tasks ho h
      have hleft := hands_left ((Cursor.hand_resume (c := s.cursor) hf a).trans hh)
      exact orderly_setTask ho h ⟨Cursor.flights_resume hf a, hleft⟩
    · exact ho
  | discardTask i =>
    simp only [step, discardTask]
    split
    · exact ho
    · rename_i t h
      have htasks := ho.tasks
      rw [coe_eraseIdx h, background_add] at htasks
      refine orderly_spawn ?_ ⟨Cursor.flights_discardTask .., Cursor.hands_discardTask ..⟩
      exact ⟨ho.slots, htasks.2⟩
  | setRuntime present => exact ⟨ho.slots, ho.tasks⟩
  | retain r => simp only [step, retain]; split <;> exact ⟨ho.slots, ho.tasks⟩
  | release r => simp only [step, release]; split <;> exact ⟨ho.slots, ho.tasks⟩

theorem orderly_run {s : Schedule} (ho : s.Orderly) (history : List Action) :
    (s.run history).Orderly := by
  induction history generalizing s with
  | nil => exact ho
  | cons a rest ih => exact ih (orderly_step ho a)

theorem play_run_aux {start : Cursor} {ms : List Moment} {s : Schedule} (ho : s.Orderly)
    (hp : Play start ms s.cursor s.pending) (history : List Action) :
    Play start (ms ++ s.moments history) (s.run history).cursor (s.run history).pending := by
  induction history generalizing ms s with
  | nil => rw [moments, List.append_nil]; exact hp
  | cons a rest ih =>
    rw [moments, ← List.append_assoc]
    exact ih (orderly_step ho a) (play_step ho hp a)

theorem play_run (c : Cursor) (runtime : Bool) (history : List Action) :
    Play c ((ofCursor c runtime).moments history) ((ofCursor c runtime).run history).cursor
      ((ofCursor c runtime).run history).pending :=
  play_run_aux (orderly_ofCursor c runtime) .nil history

theorem play_run_append (c : Cursor) (runtime : Bool) (before after : List Action) :
    let s := (ofCursor c runtime).run before
    Play c ((ofCursor c runtime).moments before ++ s.moments after) (s.run after).cursor
      (s.run after).pending := by
  have hplay := play_run c runtime (before ++ after)
  rwa [moments_append, run_append] at hplay

end Schedule

end ServerCursor
