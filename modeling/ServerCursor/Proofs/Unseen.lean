import ServerCursor.Proofs.Hollow
import ServerCursor.Proofs.Race

/-!
# What a caller sees of discarding

While the server's cursor is discarded, the cursor is hollow and only one party waits. So two runs
that differ in what this party is told can be described alike from then on (`Clearing`,
`Schedule.Clears`): what is left to do, how the call of the party will end, and what the
surroundings count once it has given back what it holds. Every action changes this description in
the same way in both runs, unless a call or a task is given up.

Main statement: `kills_unseen` compares two histories that differ in nothing else.
-/

namespace ServerCursor

/-- Whether a call or a task is given up. -/
def Action.givesUp : Action → Bool
  | .cancel _ => true
  | .discardTask _ => true
  | _ => false

namespace Schedule

/-- Whether the slot of a call is free, or a resource that is to be joined has an owner. -/
def admits (s : Schedule) : Action → Bool
  | .begin slot _ => (s.waitingIn? slot).isNone
  | .retain r => s.cursor.ledger.owners r != 0
  | _ => true

/-- Nobody waits for a batch in a slot. -/
def Unasking (s : Schedule) (slot : Slot) : Prop :=
  (s.waitingIn? slot).bind Point.flight? = none

/-- The same happens to two schedules, but that a party that does not wait for a batch may be told
something else. -/
inductive Twin (s s' : Schedule) : Action → Action → Prop
  /-- The same action, and both can take it or neither can: a call that discards may end sooner in
  one of them, and leave its slot and what it holds. -/
  | same {a : Action} (kept : a.givesUp = false) (admits : s'.admits a = s.admits a) : Twin s s' a a
  | call {slot : Slot} (b b' : Answer) (here : s.Unasking slot) (there : s'.Unasking slot) :
      Twin s s' (.answer slot b) (.answer slot b')
  /-- No task waits for a batch. -/
  | task (i : Nat) (b b' : Answer) : Twin s s' (.answerTask i b) (.answerTask i b')

/-- Two histories that differ only in what is told to parties that do not wait for a batch. -/
inductive Twins : Schedule → Schedule → List Action → List Action → Prop
  | nil (s s' : Schedule) : Twins s s' [] []
  | cons {s s' : Schedule} {a a' : Action} {later later' : List Action} (first : s.Twin s' a a')
      (rest : Twins (s.step a).1 (s'.step a').1 later later') :
      Twins s s' (a :: later) (a' :: later')

theorem Twins.take {s s' : Schedule} {history history' : List Action}
    (h : Twins s s' history history') (n : Nat) :
    Twins s s' (history.take n) (history'.take n) := by
  induction h generalizing n with
  | nil s s' =>
    rw [List.take_nil]
    exact .nil s s'
  | cons first rest ih =>
    cases n with
    | zero => exact .nil _ _
    | succ n => exact .cons first (ih n)

/-- How the call in a slot ends with an action. -/
def heard (s : Schedule) (a : Action) (slot : Slot) : List Outcome :=
  if a.slot? = some slot then (s.step a).2.toList else []

/-- How the calls in a slot end, in order. -/
def results (s : Schedule) (slot : Slot) : List Action → List Outcome
  | [] => []
  | a :: rest => s.heard a slot ++ (s.step a).1.results slot rest

/-- How the call that waits in a slot will end, if that is settled. -/
def settled (s : Schedule) (slot : Slot) : List Outcome :=
  ((s.waitingIn? slot).bind Point.ending?).toList

/-- A task is left only when neither a handle nor a call is, and then it is the only one. -/
def Intact (s : Schedule) : Prop :=
  s.tasks = [] ∨ (∃ t, s.tasks = [t]) ∧ s.calls = [] ∧ s.handles = 0

section Intact

variable {s : Schedule}

theorem intact_letGo (h : s.tasks = []) : s.letGo.Intact := by
  unfold letGo
  split
  · rename_i hnone
    cases hdrop : s.cursor.drop s.runtime with
    | mk c t =>
      cases t with
      | none => exact .inl (by simp [spawn, h])
      | some t => exact .inr ⟨⟨t, by simp [spawn, h]⟩, hnone.2, hnone.1⟩
  · exact .inl h

theorem intact_setTask (h : s.Intact) (i : Nat) (r : Cursor × Progress) :
    (s.setTask i r).Intact := by
  rw [Intact, calls_setTask, handles_setTask]
  obtain ⟨c, progress⟩ := r
  rcases h with hnone | ⟨⟨t, hone⟩, hcalls, hhandles⟩
  · left
    cases progress <;> simp [setTask, hnone]
  · cases progress with
    | waiting p =>
      right
      refine ⟨?_, hcalls, hhandles⟩
      cases i with
      | zero => exact ⟨.suspended p, by simp [setTask, hone]⟩
      | succ i => exact ⟨t, by simp [setTask, hone]⟩
    | done o =>
      cases i with
      | zero => exact .inl (by simp [setTask, hone])
      | succ i => exact .inr ⟨⟨t, by simp [setTask, hone]⟩, hcalls, hhandles⟩

theorem intact_step (h : s.Intact) {a : Action} (ha : a.givesUp = false) : (s.step a).1.Intact := by
  cases a with
  | begin slot call =>
    by_cases hfree : s.handles ≠ 0 ∧ s.waitingIn? slot = none
    · rw [begin_of_free hfree.2 hfree.1]
      exact .inl (h.resolve_right fun hdropped => hfree.1 hdropped.2.2)
    · rw [begin_of_taken hfree]
      exact h
  | answer slot a =>
    cases hp : s.waitingIn? slot with
    | none =>
      simp only [step, answer, hp]
      exact h
    | some p =>
      rw [answer_of_waiting hp]
      refine intact_letGo (h.resolve_right fun hdropped => ?_)
      rw [waitingIn?, hdropped.2.1] at hp
      cases hp
  | cancel slot => cases ha
  | convert =>
    rw [step, convert_eq]
    exact h
  | drop =>
    simp only [step, dropHandle]
    split
    · exact h
    · rename_i hhandles
      exact intact_letGo (h.resolve_right fun hdropped => hhandles hdropped.2.2)
  | startTask i =>
    simp only [step, startTask]
    split
    · exact h
    · exact intact_setTask h i _
  | answerTask i a =>
    simp only [step, answerTask]
    split
    · exact intact_setTask h i _
    · exact h
  | discardTask i => cases ha
  | setRuntime present => exact h
  | retain r =>
    simp only [step, retain]
    split <;> exact h
  | release r =>
    simp only [step, release]
    split <;> exact h

end Intact

end Schedule

/-- What is going on while the server's cursor is discarded, apart from what the server says. -/
structure Clearing where
  /-- The slot of the call that has it discarded; a task has none. -/
  slot : Option Slot
  /-- How that call ends. -/
  after : Outcome
  /-- What it gives back when it ends. -/
  held : List Resource
  /-- What is counted, without what is given back. -/
  owners : Resource → Nat
  /-- The connections that were handed out before. -/
  issued : Nat
  /-- The state of the cursor, while it has a handle. -/
  state : State
  handles : Nat
  requests : List Message

namespace Clearing

/-- What an action changes. -/
def next (d : Clearing) : Action → Bool → Clearing
  | .begin _ _, true => { d with state := { d.state with closed := true } }
  | .drop, _ => { d with handles := d.handles - 1 }
  | .retain r, true => { d with owners := Ledger.put d.owners r (d.owners r + 1) }
  | .release r, _ => { d with owners := Ledger.put d.owners r (d.owners r - 1) }
  | _, _ => d

/-- How the call ends that an action is. -/
def hears (d : Clearing) : Action → Bool → List Outcome
  | .begin _ call, true => if d.handles = 0 then [] else [lastWord d.state.closed call]
  | _, _ => []

end Clearing

namespace Schedule

/-- The party still waits. -/
structure Awaits (s : Schedule) (d : Clearing) (p : Point) : Prop where
  discards : p.flight? = none
  proper : (Task.suspended p).Proper
  ending : p.ending? = some d.after
  calls : s.calls = (d.slot.map (·, p)).toList
  tasks : s.tasks = if d.slot.isNone then [.suspended p] else []
  held : ∀ r, r.Among d.issued → p.held.count r = d.held.count r
  owners : ∀ r, r.Among d.issued → s.cursor.ledger.owners r = d.owners r

/-- The party has given back what it held. -/
structure Cleared (s : Schedule) (d : Clearing) : Prop where
  calls : s.calls = []
  tasks : s.tasks = []
  owners : ∀ r, r.Among d.issued → s.cursor.ledger.owners r = d.owners r - d.held.count r

/-- A schedule is so far. -/
structure Clears (s : Schedule) (d : Clearing) : Prop where
  hollow : s.cursor.state.Hollow
  state : d.handles ≠ 0 → s.cursor.state = d.state
  handles : s.handles = d.handles
  /-- A task is left only when the cursor has no handle. -/
  dropped : d.slot = none → d.handles = 0
  issued : d.issued ≤ s.cursor.ledger.issued
  requests : s.cursor.ledger.requests = d.requests
  stage : (∃ p, s.Awaits d p) ∨ s.Cleared d

section Clears

variable {s : Schedule} {d : Clearing}

theorem Awaits.waitingIn? {p : Point} (h : s.Awaits d p) (slot : Slot) :
    s.waitingIn? slot = if d.slot = some slot then some p else none := by
  rw [Schedule.waitingIn?, h.calls]
  cases hslot : d.slot with
  | none => rfl
  | some other =>
    by_cases hother : other = slot
    · subst hother
      simp
    · simp [hother]

theorem Cleared.waitingIn? (h : s.Cleared d) (slot : Slot) : s.waitingIn? slot = none := by
  rw [Schedule.waitingIn?, h.calls]
  rfl

theorem Clears.cleared (h : s.Clears d) (hcalls : s.calls = []) (htasks : s.tasks = []) :
    s.Cleared d := by
  refine h.stage.resolve_left ?_
  rintro ⟨p, hp⟩
  have hslot := hp.calls
  have htask := hp.tasks
  rw [hcalls] at hslot
  rw [htasks] at htask
  cases hd : d.slot with
  | none =>
    rw [hd] at htask
    cases htask
  | some slot =>
    rw [hd] at hslot
    cases hslot

theorem Clears.unseen (h : s.Clears d) (hhandles : d.handles = 0) (t : State) :
    s.Clears { d with state := t } :=
  ⟨h.hollow, fun hne => absurd hhandles hne, h.handles, h.dropped, h.issued, h.requests,
    h.stage.imp (fun ⟨p, hp⟩ => ⟨p, hp.1, hp.2, hp.3, hp.4, hp.5, hp.6, hp.7⟩)
      fun hc => ⟨hc.1, hc.2, hc.3⟩⟩

theorem Clears.shut (h : s.Clears d) {c : Cursor} (hshuts : s.cursor.Shuts c) :
    Clears { s with cursor := c } { d with state := { d.state with closed := true } } := by
  have howners : ∀ r, r.Among d.issued → c.ledger.owners r = s.cursor.ledger.owners r :=
    fun r hr => hshuts.settles.owners r (Ledger.lasts_of_among hr h.issued _)
  refine ⟨?_, fun hne => ?_, h.handles, h.dropped, h.issued.trans hshuts.settles.issued,
    hshuts.settles.requests.trans h.requests, ?_⟩
  · change c.state.Hollow
    rw [hshuts.state]
    exact h.hollow.closed
  · change c.state = _
    rw [hshuts.state, h.state hne]
  · rcases h.stage with ⟨p, hp⟩ | hc
    · exact .inl ⟨p, hp.discards, hp.proper, hp.ending, hp.calls, hp.tasks, hp.held,
        fun r hr => (howners r hr).trans (hp.owners r hr)⟩
    · exact .inr ⟨hc.calls, hc.tasks, fun r hr => (howners r hr).trans (hc.owners r hr)⟩

theorem clears_letGo (h : s.Clears d) : s.letGo.Clears d := by
  unfold letGo
  split
  · rename_i hnone
    have hhandles : d.handles = 0 := h.handles.symm.trans hnone.1
    obtain ⟨ht, hshuts⟩ := Cursor.drop_of_hollow h.hollow s.runtime
    have hshut := (h.shut hshuts).unseen hhandles d.state
    change (spawn { s with cursor := (s.cursor.drop s.runtime).1 }
      (s.cursor.drop s.runtime).2).Clears d
    rw [ht, spawn, Option.toList_none, List.append_nil]
    exact hshut
  · exact h

/-- The party hears an answer. -/
theorem Clears.attend (h : s.Clears d) {p : Point} (hp : s.Awaits d p) {b : Answer} {s' : Schedule}
    (hcursor : s'.cursor = (s.cursor.resume p b).1) (hhandles : s'.handles = s.handles)
    (hcalls : s'.calls =
      (d.slot.bind fun slot => (s.cursor.resume p b).2.point?.map (slot, ·)).toList)
    (htasks : s'.tasks = if d.slot.isNone then
      ((s.cursor.resume p b).2.point?.map Task.suspended).toList else []) :
    s'.Clears d ∧ (s.cursor.resume p b).2.ending? = some d.after := by
  have hattends := s.cursor.attends_resume hp.discards hp.proper b
  have hkept : ∀ x : Resource, x.Among d.issued → x.Among s.cursor.ledger.issued := by
    intro x hx
    cases x with
    | source => trivial
    | connection n => exact Nat.le_trans hx h.issued
  have hending := hattends.ending.trans hp.ending
  refine ⟨⟨?_, fun hne => ?_, hhandles.trans h.handles, h.dropped, ?_, ?_, ?_⟩, hending⟩
  · rw [hcursor, hattends.state]
    exact h.hollow
  · rw [hcursor, hattends.state]
    exact h.state hne
  · rw [hcursor]
    exact h.issued.trans hattends.issued
  · rw [hcursor]
    exact hattends.requests.trans h.requests
  rcases hattends.stage with ⟨q, hq, hflight, hproper, hq'⟩ | ⟨o, ho, ho'⟩
  · rw [hq] at hending hcalls htasks
    refine .inl ⟨q, hflight, hproper, hending, ?_, htasks, fun x hx => ?_, fun x hx => ?_⟩
    · rw [hcalls]
      cases d.slot <;> rfl
    · exact (hq' x (hkept x hx)).1.trans (hp.held x hx)
    · rw [hcursor]
      exact (hq' x (hkept x hx)).2.trans (hp.owners x hx)
  · rw [ho] at hcalls htasks
    refine .inr ⟨?_, ?_, fun x hx => ?_⟩
    · rw [hcalls]
      cases d.slot <;> rfl
    · rw [htasks]
      split <;> rfl
    · rw [hcursor, ho' x (hkept x hx), hp.owners x hx, hp.held x hx]

theorem Clears.task (h : s.Clears d) {i : Nat} {t : Task} (ht : s.tasks[i]? = some t) :
    ∃ p, s.Awaits d p ∧ d.slot = none ∧ i = 0 ∧ t = .suspended p := by
  rcases h.stage with ⟨p, hp⟩ | hc
  · rw [hp.tasks] at ht
    cases hslot : d.slot with
    | some slot =>
      rw [hslot] at ht
      cases ht
    | none =>
      rw [hslot] at ht
      cases i with
      | zero =>
        cases ht
        exact ⟨p, hp, rfl, rfl, rfl⟩
      | succ i => cases ht
  · rw [hc.tasks] at ht
    cases ht

theorem heard_other {a : Action} {slot : Slot} (h : a.slot? ≠ some slot) :
    s.heard a slot ++ (s.step a).1.settled slot = s.settled slot := by
  rw [heard, if_neg h, List.nil_append, settled, waitingIn?_step h, settled]

theorem Clears.begin (h : s.Clears d) (slot : Slot) (call : Call) :
    let a : Action := .begin slot call
    (s.step a).1.Clears (d.next a (s.admits a)) ∧
      s.heard a slot ++ (s.step a).1.settled slot =
        s.settled slot ++ d.hears a (s.admits a) := by
  intro a
  have hheard : s.heard a slot = (s.step a).2.toList := if_pos rfl
  have hadmits : s.admits a = (s.waitingIn? slot).isNone := rfl
  rw [hheard, hadmits]
  by_cases hfree : s.handles ≠ 0 ∧ s.waitingIn? slot = none
  · obtain ⟨hdone, hshuts⟩ := Cursor.beginCall_of_hollow h.hollow call
    have hhandles : d.handles ≠ 0 := h.handles ▸ hfree.1
    have hshut := h.shut hshuts
    have hhears : d.hears a true = [lastWord s.cursor.state.closed call] := by
      rw [h.state hhandles]
      exact if_neg hhandles
    rw [begin_of_free hfree.2 hfree.1, hdone, hfree.2, Option.isNone_none, hhears]
    simp only [Progress.point?, Option.map_none, Option.toList_none, List.append_nil]
    refine ⟨hshut, ?_⟩
    have hnone : s.settled slot = [] := by rw [settled, hfree.2]; rfl
    have hafter : settled { s with cursor := (beginCall s.cursor call).1 } slot = s.settled slot :=
      rfl
    rw [hafter, hnone]
    rfl
  · rw [begin_of_taken hfree]
    cases hslot : s.waitingIn? slot with
    | some p => exact ⟨h, (List.append_nil _).symm⟩
    | none =>
      have hhandles : d.handles = 0 := by
        rw [← h.handles]
        by_contra hne
        exact hfree ⟨hne, hslot⟩
      have hhears : d.hears a true = [] := if_pos hhandles
      refine ⟨h.unseen hhandles _, ?_⟩
      rw [Option.isNone_none, hhears]
      exact (List.append_nil _).symm

/-- A call is answered: the party, or nobody. -/
theorem Clears.answer (h : s.Clears d) (slot : Slot) (b : Answer) :
    (s.step (.answer slot b)).1.Clears d ∧
      s.heard (.answer slot b) slot ++ (s.step (.answer slot b)).1.settled slot =
        s.settled slot := by
  have hheard : s.heard (.answer slot b) slot = (s.step (.answer slot b)).2.toList := if_pos rfl
  rw [hheard]
  cases hq : s.waitingIn? slot with
  | none =>
    have hvoid : s.step (.answer slot b) = (s, none) := by
      simp only [step, Schedule.answer, hq]
    rw [hvoid]
    exact ⟨h, rfl⟩
  | some q =>
    rcases h.stage with ⟨p, hp⟩ | hc
    swap
    · rw [hc.waitingIn?] at hq
      cases hq
    obtain ⟨hslot, rfl⟩ : d.slot = some slot ∧ p = q := by
      rw [hp.waitingIn?] at hq
      split at hq
      · rename_i hslot
        exact ⟨hslot, Option.some.inj hq⟩
      · cases hq
    have hwithout : without s.calls slot = [] := by
      rw [hp.calls, hslot]
      simp [without]
    let after : Schedule := { s with
      cursor := (s.cursor.resume p b).1
      calls := without s.calls slot ++ ((s.cursor.resume p b).2.point?.map (slot, ·)).toList }
    have hcalls : after.calls =
        (d.slot.bind fun slot => (s.cursor.resume p b).2.point?.map (slot, ·)).toList := by
      rw [hslot]
      exact congrArg (· ++ _) hwithout
    have htasks : after.tasks = if d.slot.isNone then
        ((s.cursor.resume p b).2.point?.map Task.suspended).toList else [] := by
      rw [hslot]
      exact hp.tasks.trans (by rw [hslot]; rfl)
    obtain ⟨hclears, hending⟩ := h.attend hp (rfl : after.cursor = (s.cursor.resume p b).1) rfl
      hcalls htasks
    have hhere := waitingIn?_answer hq b
    rw [answer_of_waiting hq] at hhere ⊢
    refine ⟨clears_letGo hclears, ?_⟩
    change (s.cursor.resume p b).2.outcome?.toList ++ after.letGo.settled slot = _
    rw [settled, hhere, settled, hq, Option.bind_some, hp.ending]
    cases hprogress : (s.cursor.resume p b).2 with
    | waiting q =>
      rw [hprogress] at hending
      exact congrArg Option.toList hending
    | done o =>
      rw [hprogress] at hending
      exact congrArg Option.toList hending

theorem Clears.answerTask (h : s.Clears d) {p : Point} (hp : s.Awaits d p) (hslot : d.slot = none)
    (b : Answer) : (s.setTask 0 (s.cursor.resume p b)).Clears d := by
  have htasks : s.tasks = [.suspended p] := by rw [hp.tasks, hslot]; rfl
  refine (h.attend hp (cursor_setTask ..) (handles_setTask ..) ?_ ?_).1
  · rw [calls_setTask, hp.calls, hslot]
    rfl
  · rw [hslot]
    cases hprogress : s.cursor.resume p b with
    | mk c progress =>
      cases progress <;> simp [Schedule.setTask, htasks, Progress.point?]

theorem Clears.keep (h : s.Clears d) {s' : Schedule} {n : Nat} (hcursor : s'.cursor = s.cursor)
    (hcalls : s'.calls = s.calls) (htasks : s'.tasks = s.tasks) (hhandles : s'.handles = n)
    (hle : n ≤ d.handles) : s'.Clears { d with handles := n } := by
  refine ⟨?_, fun hne => ?_, hhandles, fun hslot => ?_, ?_, ?_, ?_⟩
  · rw [hcursor]
    exact h.hollow
  · have hleft : d.handles ≠ 0 := fun hnone => hne (Nat.le_zero.mp (hnone ▸ hle))
    rw [hcursor]
    exact h.state hleft
  · exact Nat.le_zero.mp (h.dropped hslot ▸ hle)
  · rw [hcursor]
    exact h.issued
  · rw [hcursor]
    exact h.requests
  · rcases h.stage with ⟨p, hp⟩ | hc
    · exact .inl ⟨p, hp.discards, hp.proper, hp.ending, hcalls.trans hp.calls,
        htasks.trans hp.tasks, hp.held, hcursor ▸ hp.owners⟩
    · exact .inr ⟨hcalls.trans hc.calls, htasks.trans hc.tasks, hcursor ▸ hc.owners⟩

/-- Somebody else joins or leaves a resource. -/
theorem Clears.recount (h : s.Clears d) {l : Ledger} {owners : Resource → Nat}
    (hissued : l.issued = s.cursor.ledger.issued)
    (hmessages : l.messages = s.cursor.ledger.messages)
    (hawaits : ∀ r, s.cursor.ledger.owners r = d.owners r → l.owners r = owners r)
    (hcleared : ∀ r, s.cursor.ledger.owners r = d.owners r - d.held.count r →
      l.owners r = owners r - d.held.count r) :
    (s.withLedger l).Clears { d with owners := owners } := by
  refine ⟨h.hollow, h.state, h.handles, h.dropped, h.issued.trans hissued.ge,
    (Ledger.requests_congr hmessages).trans h.requests, ?_⟩
  rcases h.stage with ⟨p, hp⟩ | hc
  · exact .inl ⟨p, hp.discards, hp.proper, hp.ending, hp.calls, hp.tasks, hp.held,
      fun r hr => hawaits r (hp.owners r hr)⟩
  · exact .inr ⟨hc.calls, hc.tasks, fun r hr => hcleared r (hc.owners r hr)⟩

theorem Clears.retain (h : s.Clears d) (r : Resource) :
    (s.retain r).Clears (d.next (.retain r) (s.admits (.retain r))) := by
  have hadmits : s.admits (.retain r) = (s.cursor.ledger.owners r != 0) := rfl
  rw [hadmits]
  by_cases hr : s.cursor.ledger.owners r = 0
  · have hrefused : s.cursor.ledger.retain r = .error (s.cursor.ledger.emit .retainRefused) := by
      simp [Ledger.retain, Ownership.join, hr]
    have hno : (s.cursor.ledger.owners r != 0) = false := by simp [hr]
    rw [hno]
    simp only [Schedule.retain, hrefused]
    have hsame : Clears (s.withLedger (s.cursor.ledger.emit .retainRefused))
        { d with owners := d.owners } := h.recount rfl rfl (fun _ hx => hx) fun _ hx => hx
    exact hsame
  · have hyes : (s.cursor.ledger.owners r != 0) = true := by simpa using hr
    rw [hyes]
    simp only [Schedule.retain, Ledger.retain_of_pos (Nat.pos_of_ne_zero hr)]
    refine h.recount rfl rfl (fun x hx => ?_) fun x hx => ?_
    · simp only [Ledger.put_add_one, hx]
    · by_cases hxr : x = r
      · subst hxr
        simp only [Ledger.put_self]
        omega
      · simp only [Ledger.put_ne _ _ hxr, hx]

theorem Clears.release (h : s.Clears d) (r : Resource) (admitted : Bool) :
    (s.release r).Clears (d.next (.release r) admitted) := by
  obtain ⟨l, hl, hleft⟩ : ∃ l : Ledger, s.release r = s.withLedger l ∧
      (s.cursor.ledger.release r = .ok l ∨ s.cursor.ledger.release r = .error l) := by
    simp only [Schedule.release]
    cases s.cursor.ledger.release r with
    | ok l => exact ⟨l, rfl, .inl rfl⟩
    | error l => exact ⟨l, rfl, .inr rfl⟩
  obtain ⟨hissued, howners⟩ := Ledger.release_counts hleft
  rw [hl]
  refine h.recount hissued (Ledger.messages_release hleft) (fun x hx => ?_) fun x hx => ?_
  · rw [howners, Ledger.put_sub_one, hx]
  · rw [howners, Ledger.put_sub_one, hx]
    omega

theorem Clears.other (h : s.Clears d) {a : Action} (hslot : a.slot? = none)
    (ha : a.givesUp = false) : (s.step a).1.Clears (d.next a (s.admits a)) := by
  cases a with
  | begin slot call => cases hslot
  | answer slot b => cases hslot
  | cancel slot => cases hslot
  | convert =>
    rw [step, convert_eq]
    exact h
  | drop =>
    have hhandles := h.handles
    simp only [step, dropHandle]
    split
    · exact h.keep rfl rfl rfl (by omega) (Nat.sub_le _ _)
    · refine clears_letGo ?_
      exact h.keep rfl rfl rfl (congrArg (· - 1) hhandles) (Nat.sub_le _ _)
  | startTask i =>
    simp only [step, startTask]
    split
    · exact h
    · rename_i t ht
      obtain ⟨p, hp, hnone, rfl, rfl⟩ := h.task ht
      -- The party waits already.
      refine h.keep rfl rfl ?_ h.handles le_rfl
      have htasks : s.tasks = [.suspended p] := by rw [hp.tasks, hnone]; rfl
      simp [Schedule.setTask, Cursor.startTask, htasks]
  | answerTask i b =>
    simp only [step, Schedule.answerTask]
    split
    · rename_i p ht
      obtain ⟨q, hq, hnone, rfl, hsame⟩ := h.task ht
      cases hsame
      exact h.answerTask hq hnone b
    · exact h
  | discardTask i => cases ha
  | setRuntime present => exact h.keep rfl rfl rfl h.handles le_rfl
  | retain r => exact h.retain r
  | release r => exact h.release r _

/-- Every action but giving up keeps to the description, and what is heard goes with it. -/
theorem Clears.step (h : s.Clears d) {a : Action} (ha : a.givesUp = false) :
    (s.step a).1.Clears (d.next a (s.admits a)) ∧ ∀ slot,
      s.heard a slot ++ (s.step a).1.settled slot =
        s.settled slot ++ if a.slot? = some slot then d.hears a (s.admits a) else [] := by
  have hothers : ∀ {slot : Slot}, a.slot? ≠ some slot →
      s.heard a slot ++ (s.step a).1.settled slot =
        s.settled slot ++ if a.slot? = some slot then d.hears a (s.admits a) else [] := by
    intro slot hslot
    rw [heard_other hslot, if_neg hslot, List.append_nil]
  cases a with
  | begin here call =>
    obtain ⟨hclears, hhears⟩ := h.begin here call
    refine ⟨hclears, fun slot => ?_⟩
    by_cases hslot : Action.slot? (.begin here call) = some slot
    · rw [if_pos hslot]
      obtain rfl : here = slot := Option.some.inj hslot
      exact hhears
    · exact hothers hslot
  | answer here b =>
    obtain ⟨hclears, hhears⟩ := h.answer here b
    refine ⟨hclears, fun slot => ?_⟩
    by_cases hslot : Action.slot? (.answer here b) = some slot
    · rw [if_pos hslot]
      obtain rfl : here = slot := Option.some.inj hslot
      exact hhears.trans (List.append_nil _).symm
    · exact hothers hslot
  | cancel here => cases ha
  | _ => exact ⟨h.other rfl ha, fun slot => hothers nofun⟩

/-- Twin actions keep two schedules to the same description, and the same is heard in both. -/
theorem Clears.twin {s' : Schedule} {a a' : Action} (h : s.Clears d) (h' : s'.Clears d)
    (ht : s.Twin s' a a') : ∃ e : Clearing, e.issued = d.issued ∧
      (s.step a).1.Clears e ∧ (s'.step a').1.Clears e ∧ ∀ slot, ∃ more,
        s.heard a slot ++ (s.step a).1.settled slot = s.settled slot ++ more ∧
        s'.heard a' slot ++ (s'.step a').1.settled slot = s'.settled slot ++ more := by
  cases ht with
  | same kept admits =>
    obtain ⟨hclears, hheard⟩ := h.step kept
    obtain ⟨hclears', hheard'⟩ := h'.step kept
    rw [admits] at hclears' hheard'
    refine ⟨_, ?_, hclears, hclears', fun slot => ⟨_, hheard slot, hheard' slot⟩⟩
    unfold Clearing.next
    split <;> rfl
  | call b b' here there =>
    obtain ⟨hclears, hheard⟩ := h.step (a := .answer _ b) rfl
    obtain ⟨hclears', hheard'⟩ := h'.step (a := .answer _ b') rfl
    exact ⟨d, rfl, hclears, hclears', fun slot => ⟨_, hheard slot, hheard' slot⟩⟩
  | task i b b' =>
    obtain ⟨hclears, hheard⟩ := h.step (a := .answerTask i b) rfl
    obtain ⟨hclears', hheard'⟩ := h'.step (a := .answerTask i b') rfl
    exact ⟨d, rfl, hclears, hclears', fun slot => ⟨_, hheard slot, hheard' slot⟩⟩

end Clears

/-- A schedule to which a history leads in which nothing is given up. -/
structure Reached (start : Cursor) (s : Schedule) : Prop where
  orderly : s.Orderly
  intact : s.Intact
  play : ∃ ms, Play start ms s.cursor s.pending

section Reached

variable {start : Cursor} {first : Reply} {s s' : Schedule} {a a' : Action}

theorem Reached.step (h : Reached start s) (ha : a.givesUp = false) :
    Reached start (s.step a).1 := by
  obtain ⟨ms, hplay⟩ := h.play
  exact ⟨orderly_step h.orderly a, intact_step h.intact ha, _, play_step h.orderly hplay a⟩

theorem exists_ending {p : Point} (h : p.flight? = none) : ∃ o, p.ending? = some o := by
  cases p with
  | fetchCheckout f => cases h
  | fetchReply f n => cases h
  | killCheckout b after => exact ⟨after, rfl⟩
  | killReply b after => exact ⟨after, rfl⟩

/-- Two schedules are the same, or so far in discarding alike. -/
def Kin (start : Cursor) (s s' : Schedule) : Prop :=
  s' = s ∧ Reached start s ∨
    ∃ d : Clearing, start.ledger.issued ≤ d.issued ∧ s.Clears d ∧ s'.Clears d

/-- What has been heard in the slots of two schedules comes to the same with what is settled. -/
def Tallies (s s' : Schedule) (told told' : Slot → List Outcome) : Prop :=
  ∀ slot, told' slot ++ s'.settled slot = told slot ++ s.settled slot

theorem kin_of_clears {d : Clearing} (hissued : start.ledger.issued ≤ d.issued) (h : s.Clears d)
    (h' : s'.Clears d) (ht : s.Twin s' a a') {told told' : Slot → List Outcome}
    (htold : Tallies s s' told told') :
    Kin start (s.step a).1 (s'.step a').1 ∧
      Tallies (s.step a).1 (s'.step a').1 (fun slot => told slot ++ s.heard a slot)
        (fun slot => told' slot ++ s'.heard a' slot) := by
  obtain ⟨e, he, hclears, hclears', hheard⟩ := h.twin h' ht
  refine ⟨.inr ⟨e, hissued.trans he.ge, hclears, hclears'⟩, fun slot => ?_⟩
  obtain ⟨more, hmore, hmore'⟩ := hheard slot
  rw [List.append_assoc, List.append_assoc, hmore, hmore', ← List.append_assoc, htold slot,
    List.append_assoc]

variable (hsound : start.state.Sound 0) (htracked : Tracked start first.id [] start 0)

include hsound htracked

theorem Reached.clears_call (h : Reached start s) {slot : Slot} {p : Point}
    (hslot : s.waitingIn? slot = some p) (hflight : p.flight? = none) :
    ∃ d : Clearing, d.issued = s.cursor.ledger.issued ∧ s.Clears d := by
  obtain ⟨ms, hplay⟩ := h.play
  obtain ⟨o, ho⟩ := exists_ending hflight
  have hpending := pending_of_waiting h.orderly hslot s.cursor
  have hmem := mem_pending_of_waiting h.orderly hslot
  have hwithout : without s.calls slot = [] := by
    rw [hpending] at hplay
    have hidle := sole_waiting hsound htracked hplay
    refine List.eq_nil_iff_forall_not_mem.mpr fun call hcall => ?_
    have hclose := hidle (.suspended call.2) (Multiset.mem_add.mpr (.inl
      (Multiset.mem_coe.mpr (List.mem_map_of_mem hcall))))
    cases hclose
  have hcalls : s.calls = [(slot, p)] := by
    have hperm := perm_without h.orderly.slots hslot
    rw [hwithout] at hperm
    exact List.perm_singleton.mp hperm
  have htasks : s.tasks = [] := by
    refine h.intact.resolve_right fun hdropped => ?_
    rw [hdropped.2.1] at hcalls
    cases hcalls
  let d : Clearing := ⟨some slot, o, p.held, s.cursor.ledger.owners, s.cursor.ledger.issued,
    s.cursor.state, s.handles, s.cursor.ledger.requests⟩
  refine ⟨d, rfl, hollow_play hsound htracked hplay hmem ⟨nofun, hflight⟩, fun _ => rfl, rfl, nofun,
    le_rfl, rfl, .inl ⟨p, hflight, proper_play hplay _ hmem, ho, hcalls, htasks, fun _ _ => rfl,
      fun _ _ => rfl⟩⟩

theorem Reached.clears_task (h : Reached start s) {i : Nat} {p : Point}
    (hi : s.tasks[i]? = some (.suspended p)) :
    ∃ d : Clearing, d.issued = s.cursor.ledger.issued ∧ s.Clears d := by
  obtain ⟨ms, hplay⟩ := h.play
  have hflight : p.flight? = none := (background_of_tasks h.orderly hi).1
  obtain ⟨o, ho⟩ := exists_ending hflight
  have hmem : Task.suspended p ∈ s.pending := by
    rw [pending_of_task s hi s.cursor]
    exact Multiset.mem_add.mpr (.inl (Multiset.mem_singleton_self _))
  obtain ⟨htasks, hcalls, hhandles⟩ : s.tasks = [.suspended p] ∧ s.calls = [] ∧ s.handles = 0 := by
    rcases h.intact with hnone | ⟨⟨t, hone⟩, hdropped⟩
    · rw [hnone] at hi
      cases hi
    · rw [hone] at hi
      cases i with
      | zero =>
        cases hi
        exact ⟨hone, hdropped⟩
      | succ i => cases hi
  let d : Clearing := ⟨none, o, p.held, s.cursor.ledger.owners, s.cursor.ledger.issued,
    s.cursor.state, s.handles, s.cursor.ledger.requests⟩
  exact ⟨d, rfl, hollow_play hsound htracked hplay hmem ⟨nofun, hflight⟩, fun _ => rfl, rfl,
    fun _ => hhandles, le_rfl, rfl, .inl ⟨p, hflight, proper_play hplay _ hmem, ho, hcalls, htasks,
      fun _ _ => rfl, fun _ _ => rfl⟩⟩

theorem kin_step (h : Kin start s s') (ht : s.Twin s' a a') {told told' : Slot → List Outcome}
    (htold : Tallies s s' told told') :
    Kin start (s.step a).1 (s'.step a').1 ∧
      Tallies (s.step a).1 (s'.step a').1 (fun slot => told slot ++ s.heard a slot)
        (fun slot => told' slot ++ s'.heard a' slot) := by
  rcases h with ⟨rfl, hreached⟩ | ⟨d, hissued, hclears, hclears'⟩
  swap
  · exact kin_of_clears hissued hclears hclears' ht htold
  have hissued : start.ledger.issued ≤ s'.cursor.ledger.issued := by
    obtain ⟨ms, hplay⟩ := hreached.play
    exact issued_play hplay
  have hvoid : ∀ {b b' : Action}, s'.step b = (s', none) → s'.step b' = (s', none) →
      Kin start (s'.step b).1 (s'.step b').1 ∧
        Tallies (s'.step b).1 (s'.step b').1 (fun slot => told slot ++ s'.heard b slot)
          (fun slot => told' slot ++ s'.heard b' slot) := by
    intro b b' hb hb'
    have hnone : ∀ {x : Action} (slot : Slot), s'.step x = (s', none) → s'.heard x slot = [] := by
      intro x slot hx
      rw [heard, hx]
      split <;> rfl
    rw [hb, hb']
    refine ⟨.inl ⟨rfl, hreached⟩, fun slot => ?_⟩
    dsimp only
    rw [hnone slot hb, hnone slot hb', List.append_nil, List.append_nil]
    exact htold slot
  cases ht with
  | same kept admits =>
    refine ⟨.inl ⟨rfl, hreached.step kept⟩, fun slot => ?_⟩
    have htold := List.append_cancel_right (htold slot)
    dsimp only
    rw [htold]
  | @call slot b b' here there =>
    cases hslot : s'.waitingIn? slot with
    | none =>
      exact hvoid (by simp only [step, answer, hslot]) (by simp only [step, answer, hslot])
    | some p =>
      have hflight : p.flight? = none := by
        rw [Unasking, hslot] at here
        exact here
      obtain ⟨d, hd, hclears⟩ := hreached.clears_call hsound htracked hslot hflight
      exact kin_of_clears (hissued.trans hd.ge) hclears hclears (.call b b' here there) htold
  | task i b b' =>
    cases hi : s'.tasks[i]? with
    | none =>
      exact hvoid (by simp only [step, answerTask, hi]) (by simp only [step, answerTask, hi])
    | some t =>
      cases t with
      | suspended p =>
        obtain ⟨d, hd, hclears⟩ := hreached.clears_task hsound htracked hi
        exact kin_of_clears (hissued.trans hd.ge) hclears hclears (.task i b b') htold
      | _ => exact hvoid (by simp only [step, answerTask, hi]) (by simp only [step, answerTask, hi])

/-- Two such histories keep two schedules akin. -/
theorem kin_run {history history' : List Action} (h : Kin start s s')
    (ht : Twins s s' history history') {told told' : Slot → List Outcome}
    (htold : Tallies s s' told told') :
    Kin start (s.run history) (s'.run history') ∧
      Tallies (s.run history) (s'.run history') (fun slot => told slot ++ s.results slot history)
        (fun slot => told' slot ++ s'.results slot history') := by
  induction ht generalizing told told' with
  | nil s s' =>
    refine ⟨h, fun slot => ?_⟩
    dsimp only [results]
    rw [List.append_nil, List.append_nil]
    exact htold slot
  | cons first rest ih =>
    obtain ⟨hkin, hfirst⟩ := kin_step hsound htracked h first htold
    obtain ⟨hafter, hrest⟩ := ih hkin hfirst
    refine ⟨hafter, fun slot => ?_⟩
    have hslot := hrest slot
    dsimp only [results] at hslot ⊢
    rw [← List.append_assoc (told slot), ← List.append_assoc (told' slot)]
    exact hslot

end Reached

end Schedule

section Create

variable (reply : Reply) (options : Options) (server : ServerDescription)
  (connection : Option (Nat × ConnectionDescription)) (l : Ledger)

/-- Two histories in which no call and no task is given up differ only in what is told to whoever
has the server's cursor discarded. The cursor, its calls, its requests and in the end its resources
are alike. -/
theorem kills_unseen (runtime : Bool) (history history' : List Action) (n : Nat) :
    let start := Schedule.opened reply options server connection l runtime
    let s := start.run (history.take n)
    let s' := start.run (history'.take n)
    Schedule.Twins start start history history' →
    s'.cursor.state.id = s.cursor.state.id ∧ s'.handles = s.handles ∧
    (s.handles ≠ 0 → s'.cursor.state = s.cursor.state) ∧
    (∀ slot, start.results slot (history'.take n) ++ s'.settled slot =
      start.results slot (history.take n) ++ s.settled slot) ∧
    s'.cursor.ledger.requests = s.cursor.ledger.requests ∧
    (s.calls = [] → s.tasks = [] → s'.calls = [] → s'.tasks = [] → ∀ r, r.Among l.issued →
      s'.cursor.ledger.owners r = s.cursor.ledger.owners r) := by
  intro start s s' htwins
  have hsound := sound_create reply options server connection l
  have htracked := tracked_create reply options server connection l
  have hstart : Schedule.Reached (Cursor.create reply options server connection l) start :=
    ⟨Schedule.orderly_ofCursor _ _, .inl rfl, [], .nil⟩
  have hnothing : Schedule.Tallies start start (fun _ => []) (fun _ => []) := fun _ => rfl
  obtain ⟨hkin, htold⟩ :=
    Schedule.kin_run hsound htracked (.inl ⟨rfl, hstart⟩) (htwins.take n) hnothing
  have hresults : ∀ slot, start.results slot (history'.take n) ++ s'.settled slot =
      start.results slot (history.take n) ++ s.settled slot := htold
  rcases hkin with ⟨hsame, -⟩ | ⟨d, hissued, hclears, hclears'⟩
  · have hsame : s' = s := hsame
    rw [hsame] at hresults ⊢
    exact ⟨rfl, rfl, fun _ => rfl, hresults, rfl, fun _ _ _ _ _ _ => rfl⟩
  · have hlast : l.issued ≤ d.issued :=
      (issued_create reply options server connection l).ge.trans hissued
    refine ⟨hclears'.hollow.id.trans hclears.hollow.id.symm,
      hclears'.handles.trans hclears.handles.symm, fun hhandles => ?_, hresults,
      hclears'.requests.trans hclears.requests.symm, fun hcalls htasks hcalls' htasks' r hr => ?_⟩
    · have hleft : d.handles ≠ 0 := hclears.handles ▸ hhandles
      exact (hclears'.state hleft).trans (hclears.state hleft).symm
    · have hr : r.Among d.issued := by
        cases r with
        | source => trivial
        | connection m => exact Nat.le_trans hr hlast
      rw [(hclears.cleared hcalls htasks).owners r hr,
        (hclears'.cleared hcalls' htasks').owners r hr]

end Create

/-- There is no connection to discard the server's cursor over. -/
def Schedule.limitedUnrouted : List Action :=
  Schedule.limitedRequest ++ [.answer .stream (.reply (.ok Schedule.limitedReply)),
    .answer .stream (.checkout (.error .noRoute)), .answer .stream (.kill (.ok ()))]

/-- The server discards its cursor. -/
def Schedule.limitedDiscarded : List Action :=
  Schedule.limitedRequest ++ [.answer .stream (.reply (.ok Schedule.limitedReply)),
    .answer .stream (.checkout (.ok ())), .answer .stream (.kill (.ok ()))]

theorem kills_unseen_limited :
    let s := Schedule.limited.run Schedule.limitedDiscarded
    let s' := Schedule.limited.run Schedule.limitedUnrouted
    Schedule.Twins Schedule.limited Schedule.limited Schedule.limitedDiscarded
      Schedule.limitedUnrouted ∧
    s'.cursor.state = s.cursor.state ∧
    Schedule.limited.results .stream Schedule.limitedUnrouted =
      Schedule.limited.results .stream Schedule.limitedDiscarded ∧
    s'.cursor.ledger.owners .source = s.cursor.ledger.owners .source ∧
    s'.cursor.ledger.messages ≠ s.cursor.ledger.messages := by
  intro s s'
  have htwins : Schedule.Twins Schedule.limited Schedule.limited Schedule.limitedDiscarded
      Schedule.limitedUnrouted :=
    .cons (.same rfl rfl) <| .cons (.same rfl rfl) <| .cons (.same rfl rfl) <|
      .cons (.same rfl rfl) <| .cons (.call _ _ (by rfl) (by rfl)) <|
        .cons (.call _ _ (by rfl) (by rfl)) <| .nil _ _
  obtain ⟨-, -, hstate, hresults, -, howners⟩ :=
    kills_unseen ⟨⟨"db", "items"⟩, [[("n", .int32 1)]], 7, .localhost⟩ ⟨-3, 0, none, none⟩ .blank
      none Ledger.start true Schedule.limitedDiscarded Schedule.limitedUnrouted 6 htwins
  refine ⟨htwins, hstate Nat.one_ne_zero, ?_, howners rfl rfl rfl rfl .source trivial, ?_⟩
  · exact (List.append_nil _).symm.trans ((hresults .stream).trans (List.append_nil _))
  · intro hsame
    have hlength := congrArg List.length hsame
    cases hlength

end ServerCursor
