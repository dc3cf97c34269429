import Mathlib.Data.Multiset.AddSub
import Mathlib.Data.Multiset.Filter
import ServerCursor.Schedule

/-!
# Turns

Calls, tasks and other owners of its resources take turns with a cursor. Every action on a schedule
is at most one turn, after which the last owner may let the cursor go, and that is a turn as well.
`Turn.effect` says what a turn leaves behind: the cursor, what the party still has to do, and how
its call ends.

`Schedule.moments` are the turns of a history with the cursor that each of them met; statements
about what was answered, given up or handed out in a history are statements about its moments.
-/

namespace ServerCursor

/-- What a call that has come so far still has to do. -/
def Progress.left : Progress → Multiset Task
  | .waiting p => {.suspended p}
  | .done _ => 0

/-- How a call that has come so far has ended. -/
def Progress.outcome? : Progress → Option Outcome
  | .waiting _ => none
  | .done o => some o

theorem Progress.eq_done {p : Progress} {o : Outcome} (h : p.outcome? = some o) : p = .done o := by
  cases p with
  | waiting p => cases h
  | done o =>
    cases h
    rfl

/-- A request for the next batch and the connection over which it was sent, if it was. -/
abbrev Flight := Fetch × Option Nat

/-- The request that a point waits for. -/
def Point.flight? : Point → Option Flight
  | .fetchCheckout f => some (f, none)
  | .fetchReply f n => some (f, some n)
  | _ => none

/-- The documents with which a call ends. -/
def Outcome.hand? : Outcome → Option (List Document)
  | .batch documents => some documents
  | _ => none

/-- The documents that a call has in hand while the server's cursor is discarded. -/
def Point.hand? : Point → Option (List Document)
  | .killCheckout _ after => after.hand?
  | .killReply _ after => after.hand?
  | _ => none

/-- The documents that a call has come by. -/
def Progress.hand? : Progress → Option (List Document)
  | .waiting p => p.hand?
  | .done o => o.hand?

/-- The documents that a party has in hand. -/
def Task.hand? : Task → Option (List Document)
  | .suspended p => p.hand?
  | _ => none

/-- What a request for a batch hears from its server, and over which connection. -/
def Point.heard? : Point → Answer → Option (Nat × Except Error Reply)
  | .fetchReply _ n, .reply r => some (n, r)
  | _, _ => none

theorem Point.flight?_of_hand {p : Point} {batch : List Document} (h : p.hand? = some batch) :
    p.flight? = none := by
  cases p with
  | fetchCheckout f => cases h
  | fetchReply f n => cases h
  | killCheckout a after => rfl
  | killReply a after => rfl

theorem Point.heard?_of_flight {p : Point} (h : p.flight? = none) (a : Answer) :
    p.heard? a = none := by
  cases p with
  | fetchCheckout f => rfl
  | fetchReply f n => cases h
  | killCheckout b after => rfl
  | killReply b after => rfl

/-- The request that a task waits for. -/
def Task.flight? : Task → Option Flight
  | .suspended p => p.flight?
  | _ => none

/-- What one party does with a cursor, or is told. -/
inductive Turn where
  | begin (call : Call)
  | answer (p : Point) (a : Answer)
  | cancel (p : Point) (runtime : Bool)
  | startTask (t : Task)
  | answerTask (p : Point) (a : Answer)
  | discardTask (t : Task) (runtime : Bool)
  /-- The last owner lets the cursor go. -/
  | drop (runtime : Bool)
  /-- Somebody else joins a resource. -/
  | retain (r : Resource)
  /-- Somebody else leaves a resource. -/
  | release (r : Resource)

namespace Turn

/-- What the party had to do before its turn. -/
def party : Turn → Multiset Task
  | answer p _ => {.suspended p}
  | cancel p _ => {.suspended p}
  | startTask t => {t}
  | answerTask p _ => {.suspended p}
  | discardTask t _ => {t}
  | _ => 0

/-- The answer of the server that a request for a batch hears, and the connection. -/
def heard? : Turn → Option (Nat × Except Error Reply)
  | answer p a => p.heard? a
  | answerTask p a => p.heard? a
  | _ => none

/-- What a turn leaves behind. -/
structure Effect where
  cursor : Cursor
  /-- What the party still has to do. -/
  left : Multiset Task
  outcome : Option Outcome

/-- A call has come so far. -/
def Effect.ofCall (r : Cursor × Progress) : Effect :=
  ⟨r.1, r.2.left, r.2.outcome?⟩

/-- A task has come so far. -/
def Effect.ofTask (r : Cursor × Progress) : Effect :=
  ⟨r.1, r.2.left, none⟩

/-- Something was given up. -/
def Effect.ofLoss (r : Cursor × Option Task) : Effect :=
  ⟨r.1, r.2.toList, none⟩

/-- Only what is known of the resources has changed. -/
def Effect.ofLedger (c : Cursor) (l : Ledger) : Effect :=
  ⟨{ c with ledger := l }, 0, none⟩

/-- What a turn leaves behind. -/
def effect (c : Cursor) : Turn → Effect
  | begin call => .ofCall (Schedule.beginCall c call)
  | answer p a => .ofCall (c.resume p a)
  | cancel p runtime => .ofLoss (c.cancel p runtime)
  | startTask t => .ofTask (c.startTask t)
  | answerTask p a => .ofTask (c.resume p a)
  | discardTask t runtime => .ofLoss (c.discardTask runtime t)
  | drop runtime => .ofLoss (c.drop runtime)
  | retain r => .ofLedger c (match c.ledger.retain r with | .ok l => l | .error l => l)
  | release r => .ofLedger c (match c.ledger.release r with | .ok l => l | .error l => l)

end Turn

/-- A turn and the cursor that the party met. -/
structure Moment where
  cursor : Cursor
  turn : Turn

/-- How the call of the party ended, if it did. -/
def Moment.outcome? (m : Moment) : Option Outcome :=
  (m.turn.effect m.cursor).outcome

/-- The reply that a request for a batch has in a turn. -/
def Moment.reply? (m : Moment) : Option Reply :=
  match m.turn.heard? with
  | some (_, .ok reply) => some reply
  | _ => none

theorem heard_of_reply {m : Moment} {reply : Reply} (h : m.reply? = some reply) :
    ∃ n, m.turn.heard? = some (n, .ok reply) := by
  unfold Moment.reply? at h
  split at h
  · cases h
    exact ⟨_, ‹_›⟩
  · cases h

/-- Which turn an action can be. -/
inductive Action.Makes : Action → Turn → Prop
  | begin (slot : Slot) (call : Call) : Makes (.begin slot call) (.begin call)
  | answer (slot : Slot) (p : Point) (a : Answer) : Makes (.answer slot a) (.answer p a)
  | cancel (slot : Slot) (p : Point) (runtime : Bool) : Makes (.cancel slot) (.cancel p runtime)
  | startTask (i : Nat) (t : Task) : Makes (.startTask i) (.startTask t)
  | answerTask (i : Nat) (p : Point) (a : Answer) : Makes (.answerTask i a) (.answerTask p a)
  | discardTask (i : Nat) (t : Task) (runtime : Bool) :
      Makes (.discardTask i) (.discardTask t runtime)
  | retain (r : Resource) : Makes (.retain r) (.retain r)
  | release (r : Resource) : Makes (.release r) (.release r)

namespace Schedule

/-- A new cursor with one handle, and nothing else. -/
def opened (reply : Reply) (options : Options) (server : ServerDescription)
    (connection : Option (Nat × ConnectionDescription)) (l : Ledger) (runtime : Bool) : Schedule :=
  ofCursor (Cursor.create reply options server connection l) runtime

/-- What all parties still have to do. -/
def pending (s : Schedule) : Multiset Task :=
  ↑(s.calls.map fun call => Task.suspended call.2) + ↑s.tasks

/-- The turn that an action is, besides letting the cursor go. -/
def turn? (s : Schedule) : Action → Option Turn
  | .begin slot call =>
    if s.handles = 0 ∨ (s.waitingIn? slot).isSome then none else some (.begin call)
  | .answer slot a => (s.waitingIn? slot).map (Turn.answer · a)
  | .cancel slot => (s.waitingIn? slot).map (Turn.cancel · s.runtime)
  | .startTask i => s.tasks[i]?.map .startTask
  | .answerTask i a =>
    match s.tasks[i]? with
    | some (.suspended p) => some (.answerTask p a)
    | _ => none
  | .discardTask i => s.tasks[i]?.map (Turn.discardTask · s.runtime)
  | .retain r => some (.retain r)
  | .release r => some (.release r)
  | _ => none

/-- The cursor after the turn that an action is. -/
def afterTurn (s : Schedule) (a : Action) : Cursor :=
  match s.turn? a with
  | some t => (t.effect s.cursor).cursor
  | none => s.cursor

theorem afterTurn_answer {s : Schedule} {slot : Slot} {p : Point}
    (h : s.waitingIn? slot = some p) (a : Answer) :
    s.afterTurn (.answer slot a) = (s.cursor.resume p a).1 := by
  simp only [afterTurn, turn?, h]
  rfl

/-- Whether neither a handle nor a call is left. -/
def isDropped (s : Schedule) : Bool :=
  s.handles == 0 && s.calls.isEmpty

/-- The turns of one action: the one that it is, and letting the cursor go if the action takes
away the last handle or call. -/
def turns (s : Schedule) (a : Action) : List Moment :=
  (s.turn? a).toList.map (Moment.mk s.cursor) ++
    if !s.isDropped && (s.step a).1.isDropped then [⟨s.afterTurn a, .drop s.runtime⟩] else []

/-- The turns of a history. -/
def moments (s : Schedule) : List Action → List Moment
  | [] => []
  | a :: rest => s.turns a ++ (s.step a).1.moments rest

/-- How the calls of a history end, in order. -/
def outcomes (s : Schedule) : List Action → List Outcome
  | [] => []
  | a :: rest => (s.step a).2.toList ++ (s.step a).1.outcomes rest

theorem moments_append (s : Schedule) (before after : List Action) :
    s.moments (before ++ after) = s.moments before ++ (s.run before).moments after := by
  induction before generalizing s with
  | nil => rfl
  | cons a rest ih => simp [moments, ih, run]

theorem moments_singleton (s : Schedule) (a : Action) : s.moments [a] = s.turns a := by
  simp [moments]

theorem makes_of_turn? {s : Schedule} {a : Action} {t : Turn} (h : s.turn? a = some t) :
    a.Makes t := by
  cases a with
  | begin slot call =>
    simp only [turn?] at h
    split at h
    · cases h
    · cases h
      exact .begin slot call
  | answer slot a =>
    obtain ⟨p, -, rfl⟩ := Option.map_eq_some_iff.mp h
    exact .answer slot p a
  | cancel slot =>
    obtain ⟨p, -, rfl⟩ := Option.map_eq_some_iff.mp h
    exact .cancel slot p s.runtime
  | startTask i =>
    obtain ⟨t, -, rfl⟩ := Option.map_eq_some_iff.mp h
    exact .startTask i t
  | answerTask i a =>
    simp only [turn?] at h
    split at h
    · cases h
      exact .answerTask i _ a
    · cases h
  | discardTask i =>
    obtain ⟨t, -, rfl⟩ := Option.map_eq_some_iff.mp h
    exact .discardTask i t s.runtime
  | retain r =>
    cases h
    exact .retain r
  | release r =>
    cases h
    exact .release r
  | convert => cases h
  | drop => cases h
  | setRuntime present => cases h

theorem exists_of_mem_moments {s : Schedule} {history : List Action} {m : Moment}
    (h : m ∈ s.moments history) :
    ∃ before a after, history = before ++ a :: after ∧ m ∈ (s.run before).turns a := by
  induction history generalizing s with
  | nil => cases h
  | cons a rest ih =>
    rcases List.mem_append.mp h with h | h
    · exact ⟨[], a, rest, rfl, h⟩
    · obtain ⟨before, b, after, rfl, hb⟩ := ih h
      exact ⟨a :: before, b, after, rfl, hb⟩

theorem turn?_of_mem_turns {s : Schedule} {a : Action} {m : Moment} (h : m ∈ s.turns a) :
    s.turn? a = some m.turn ∨ ∃ runtime, m.turn = .drop runtime := by
  rcases List.mem_append.mp h with h | h
  · obtain ⟨t, ht, rfl⟩ := List.mem_map.mp h
    exact .inl (Option.mem_toList.mp ht)
  · split at h
    · rw [List.mem_singleton.mp h]
      exact .inr ⟨_, rfl⟩
    · cases h

theorem makes_of_mem_moments {s : Schedule} {history : List Action} {m : Moment}
    (h : m ∈ s.moments history) :
    (∃ a ∈ history, a.Makes m.turn) ∨ ∃ runtime, m.turn = .drop runtime := by
  obtain ⟨before, a, after, rfl, hturns⟩ := exists_of_mem_moments h
  exact (turn?_of_mem_turns hturns).imp_left fun ht =>
    ⟨a, List.mem_append_right _ List.mem_cons_self, makes_of_turn? ht⟩

theorem answer_mem_history {s : Schedule} {history : List Action} {m : Moment}
    (h : m ∈ s.moments history) {p : Point} {a : Answer} (hm : m.turn = .answer p a) :
    ∃ slot, .answer slot a ∈ history := by
  have hmakes := makes_of_mem_moments h
  rw [hm] at hmakes
  obtain ⟨b, hb, hmakes⟩ := hmakes.resolve_right nofun
  cases hmakes with
  | answer slot => exact ⟨slot, hb⟩

theorem cancel_mem_history {s : Schedule} {history : List Action} {m : Moment}
    (h : m ∈ s.moments history) {p : Point} {runtime : Bool} (hm : m.turn = .cancel p runtime) :
    ∃ slot, .cancel slot ∈ history := by
  have hmakes := makes_of_mem_moments h
  rw [hm] at hmakes
  obtain ⟨a, ha, hmakes⟩ := hmakes.resolve_right nofun
  cases hmakes with
  | cancel slot => exact ⟨slot, ha⟩

theorem discardTask_mem_history {s : Schedule} {history : List Action} {m : Moment}
    (h : m ∈ s.moments history) {t : Task} {runtime : Bool}
    (hm : m.turn = .discardTask t runtime) : ∃ i, .discardTask i ∈ history := by
  have hmakes := makes_of_mem_moments h
  rw [hm] at hmakes
  obtain ⟨a, ha, hmakes⟩ := hmakes.resolve_right nofun
  cases hmakes with
  | discardTask i => exact ⟨i, ha⟩

theorem exists_drop {s : Schedule} {history : List Action} (h₀ : s.isDropped = false)
    (h : (s.run history).isDropped = true) :
    ∃ m ∈ s.moments history, ∃ runtime, m.turn = .drop runtime := by
  induction history generalizing s with
  | nil =>
    have hd : s.isDropped = true := h
    rw [h₀] at hd
    cases hd
  | cons a rest ih =>
    by_cases hstep : (s.step a).1.isDropped = true
    · have hturns : ⟨s.afterTurn a, .drop s.runtime⟩ ∈ s.turns a := by
        simp [turns, h₀, hstep]
      exact ⟨_, List.mem_append_left _ hturns, _, rfl⟩
    · obtain ⟨m, hm, hdrop⟩ := ih (Bool.eq_false_iff.mpr hstep) h
      exact ⟨m, List.mem_append_right _ hm, hdrop⟩

theorem outcome_step (s : Schedule) (a : Action) :
    (s.step a).2 = (s.turn? a).bind fun t => (t.effect s.cursor).outcome := by
  cases a with
  | begin slot call =>
    simp only [step, begin, turn?]
    split
    · rfl
    · simp only [Option.bind_some, Turn.effect, Turn.Effect.ofCall]
      split
      · rename_i h
        rw [h]
        rfl
      · rename_i h
        rw [h]
        rfl
  | answer slot a =>
    simp only [step, answer, turn?]
    cases s.waitingIn? slot with
    | none => rfl
    | some p =>
      simp only [Option.map_some, Option.bind_some, Turn.effect, Turn.Effect.ofCall]
      split
      · rename_i h
        rw [h]
        rfl
      · rename_i h
        rw [h]
        rfl
  | cancel slot => simp only [step, turn?]; cases s.waitingIn? slot <;> rfl
  | startTask i => simp only [step, turn?]; cases s.tasks[i]? <;> rfl
  | answerTask i a =>
    simp only [step, turn?]
    split <;> rfl
  | discardTask i => simp only [step, turn?]; cases s.tasks[i]? <;> rfl
  | convert => rfl
  | drop => rfl
  | setRuntime present => rfl
  | retain r => rfl
  | release r => rfl

theorem outcomes_eq (s : Schedule) (history : List Action) :
    s.outcomes history = (s.moments history).filterMap Moment.outcome? := by
  induction history generalizing s with
  | nil => rfl
  | cons a rest ih =>
    have hturns : (s.turns a).filterMap Moment.outcome? = (s.step a).2.toList := by
      rw [outcome_step, turns, List.filterMap_append]
      have hdrop : ∀ b : Bool, List.filterMap Moment.outcome?
          (if b then [⟨s.afterTurn a, .drop s.runtime⟩] else []) = [] := fun b => by
        cases b <;> rfl
      rw [hdrop, List.append_nil]
      cases s.turn? a with
      | none => rfl
      | some t =>
        change List.filterMap Moment.outcome? [⟨s.cursor, t⟩] =
          (Moment.outcome? ⟨s.cursor, t⟩).toList
        cases h : Moment.outcome? ⟨s.cursor, t⟩ with
        | none => exact List.filterMap_cons_none h
        | some o => exact List.filterMap_cons_some h
    rw [outcomes, moments, List.filterMap_append, hturns, ih]

end Schedule

end ServerCursor
