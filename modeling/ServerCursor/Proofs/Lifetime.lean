import Mathlib.Data.List.Basic
import ServerCursor.Ownership.Registry

/-!
# The life of a counted resource

A history of a resource is a list of calls on its handles. It is recorded with the answers
(`Registry.history`): a call that sets the teardown off is followed in the record by the start of
the teardown and by the calls that the teardown makes itself. Those calls are plain ones, and that
is no restriction: the resource has no owner left by then, and a call on a resource without owners
never sets anything off (`call_unowned`).

The number of owners is a function of the record alone (`tally`), and `Fits` says what may be
recorded next. Main statement: `counted_history`.
-/

namespace ServerCursor.Ownership

/-- What happens to a resource: a call is made and answered, or the teardown starts. -/
inductive Entry where
  | made (what : Call) (answer : Answer)
  | torndown
  deriving DecidableEq, Repr

/-- What a call on a handle adds to the record, if the teardown makes the calls `inner`. -/
def Effect.entries (e : Effect) (what : Call) (inner : List Call) : List Entry :=
  .made what e.answer :: match e.torndown with
    | none => []
    | some (_, answers) => .torndown :: List.zipWith .made inner answers

/-- One call of a history. A handle that was never made cannot be called. -/
def Registry.proceed (inner : List Call) :
    Registry × List Entry → Nat × Call → Registry × List Entry
  | (r, log), (handle, what) => match r.call handle what with
    | none => (r, log)
    | some e => (e.registry, log ++ e.entries what inner)

/-- A history of calls on handles: what is left in the end, and the record. -/
def Registry.history (r : Registry) (inner : List Call) (calls : List (Nat × Call)) :
    Registry × List Entry :=
  calls.foldl (Registry.proceed inner) (r, [])

def Entry.isRetained : Entry → Bool
  | .made .retain (.count _) => true
  | _ => false

def Entry.isReleased : Entry → Bool
  | .made .release (.count _) => true
  | _ => false

/-- How often an owner has joined. -/
def retained (log : List Entry) : Nat := log.countP Entry.isRetained

/-- How often an owner has left. -/
def released (log : List Entry) : Nat := log.countP Entry.isReleased

/-- The owners that there are after what is recorded. -/
def tally (log : List Entry) : Int := 1 + retained log - released log

/-- What a resource without owners answers. -/
def Call.unowned : Call → Answer
  | .retain => .refused .retainReleased
  | .release => .refused .releaseReleased
  | .count => .count 0
  | .forget => .nothing

/-- What may be recorded after `before`. -/
inductive Fits (before : List Entry) : Entry → Prop
  | retained {n : Nat} : tally before = n → 0 < n → Fits before (.made .retain (.count (n + 1)))
  | released {n : Nat} : tally before = n + 1 → Fits before (.made .release (.count n))
  | counted {n : Nat} : tally before = n → Fits before (.made .count (.count n))
  | forgotten : Fits before (.made .forget .nothing)
  | unowned {what : Call} : tally before = 0 → Fits before (.made what what.unowned)
  | torndown {earlier : List Entry} :
      before = earlier ++ [.made .release (.count 0)] → Fits before .torndown

/-! ## Calls on a resource -/

/-- A resource with so many owners. Without any, its teardown has been used up. -/
def Counted.owned (teardown : Option (List Call)) (owners : Nat) : Counted :=
  ⟨owners, if owners = 0 then none else teardown⟩

theorem call_unowned (teardown : Option (List Call)) (what : Call) :
    (⟨0, teardown⟩ : Counted).call what = (⟨0, teardown⟩, what.unowned, none) := by
  cases what <;> rfl

theorem plainCalls_unowned (teardown : Option (List Call)) (calls : List Call) :
    (⟨0, teardown⟩ : Counted).plainCalls calls = (⟨0, teardown⟩, calls.map Call.unowned) := by
  induction calls with
  | nil => rfl
  | cons what rest ih =>
    have hplain : (⟨0, teardown⟩ : Counted).plainCall what = (⟨0, teardown⟩, what.unowned) := by
      cases what <;> rfl
    simp only [Counted.plainCalls, hplain, ih, List.map_cons]

theorem retain_owned (teardown : Option (List Call)) (n : Nat) :
    (Counted.owned teardown (n + 1)).call .retain =
      (.owned teardown (n + 2), .count (n + 2), none) := rfl

/-- Only the last owner's release sets the teardown off, and every call of it is refused. -/
theorem release_owned (teardown : Option (List Call)) (n : Nat) :
    (Counted.owned teardown (n + 1)).call .release =
      (.owned teardown n, .count n,
        if n = 0 then teardown.map (List.map Call.unowned) else none) := by
  cases n with
  | succ n => rfl
  | zero =>
    cases teardown with
    | none => rfl
    | some calls =>
      have hplain := plainCalls_unowned none calls
      simp only [Counted.call, Counted.owned, Counted.plainCall, Counted.triggered, leave]
      simp [hplain]

theorem count_owned (teardown : Option (List Call)) (n : Nat) :
    (Counted.owned teardown n).call .count = (.owned teardown n, .count n, none) := rfl

theorem forget_owned (teardown : Option (List Call)) (n : Nat) :
    (Counted.owned teardown n).call .forget = (.owned teardown n, .nothing, none) := rfl

/-! ## Calls on its handles -/

/-- One resource with so many owners, and so many handles. -/
def Registry.alone (name : String) (teardown : Option (List Call)) (owners handles : Nat) :
    Registry :=
  ⟨[⟨name, .owned teardown owners⟩], List.replicate handles 0⟩

section

variable {name : String} {teardown : Option (List Call)} {owners handles handle : Nat}
  {what : Call} {e : Effect}

theorem call_alone_isSome :
    ((Registry.alone name teardown owners handles).call handle what).isSome ↔ handle < handles := by
  by_cases h : handle < handles
  · simp [Registry.call, Registry.alone, h]
  · simp [Registry.call, Registry.alone, h]

/-- A call on a handle is one on the resource. -/
theorem call_alone {c : Counted} {answer : Answer} {inner : Option (List Answer)}
    (hcall : (Counted.owned teardown owners).call what = (c, answer, inner))
    (h : (Registry.alone name teardown owners handles).call handle what = some e) :
    e.answer = answer ∧ e.torndown = inner.map (fun answers => (name, answers)) ∧
      e.registry.resources = [⟨name, c⟩] ∧
      e.registry.handles =
        List.replicate (if (Entry.made what answer).isRetained then handles + 1 else handles)
          0 := by
  have hlt : handle < handles := call_alone_isSome.mp (Option.isSome_of_eq_some h)
  have hplace : (List.replicate handles 0)[handle]? = some 0 := by simp [hlt]
  simp only [Registry.call, Registry.alone, hplace, Option.bind_eq_bind, Option.bind_some,
    List.getElem?_cons_zero, hcall, Option.pure_def, Option.some.injEq] at h
  subst h
  refine ⟨rfl, rfl, rfl, ?_⟩
  cases what <;> cases answer <;> simp [Entry.isRetained, List.replicate_succ']

/-- Everything that a call on a handle can do. -/
theorem call_alone_cases
    (h : (Registry.alone name teardown owners handles).call handle what = some e) :
    (0 < owners ∧ what = .retain ∧ e.answer = .count (owners + 1) ∧ e.torndown = none ∧
      e.registry = .alone name teardown (owners + 1) (handles + 1)) ∨
    (∃ n, owners = n + 1 ∧ what = .release ∧ e.answer = .count n ∧
      e.torndown = (if n = 0 then teardown.map (List.map Call.unowned) else none).map (name, ·) ∧
      e.registry = .alone name teardown n handles) ∨
    (what = .count ∧ e.answer = .count owners ∧ e.torndown = none ∧
      e.registry = .alone name teardown owners handles) ∨
    (what = .forget ∧ e.answer = .nothing ∧ e.torndown = none ∧
      e.registry = .alone name teardown owners handles) ∨
    (owners = 0 ∧ e.answer = what.unowned ∧ e.torndown = none ∧
      e.registry = .alone name teardown owners handles) := by
  obtain ⟨⟨resources, places⟩, answer, torndown, events⟩ := e
  cases owners with
  | zero =>
    obtain ⟨rfl, rfl, rfl, rfl⟩ := call_alone (call_unowned none what) h
    refine .inr (.inr (.inr (.inr ⟨rfl, rfl, rfl, ?_⟩)))
    cases what <;> rfl
  | succ n =>
    cases what with
    | retain =>
      obtain ⟨rfl, rfl, rfl, rfl⟩ := call_alone (retain_owned teardown n) h
      exact .inl ⟨n.succ_pos, rfl, rfl, rfl, rfl⟩
    | release =>
      obtain ⟨rfl, rfl, rfl, rfl⟩ := call_alone (release_owned teardown n) h
      exact .inr (.inl ⟨n, rfl, rfl, rfl, rfl, rfl⟩)
    | count =>
      obtain ⟨rfl, rfl, rfl, rfl⟩ := call_alone (count_owned teardown (n + 1)) h
      exact .inr (.inr (.inl ⟨rfl, rfl, rfl, rfl⟩))
    | forget =>
      obtain ⟨rfl, rfl, rfl, rfl⟩ := call_alone (forget_owned teardown (n + 1)) h
      exact .inr (.inr (.inr (.inl ⟨rfl, rfl, rfl, rfl⟩)))

end

/-! ## The record -/

/-- Whatever is recorded fits what was recorded before it. -/
def Fitting (log : List Entry) : Prop :=
  ∀ before x after, log = before ++ x :: after → Fits before x

theorem fitting_nil : Fitting [] := by
  intro before x after h
  cases before <;> cases h

theorem Fitting.snoc {log : List Entry} {x : Entry} (hlog : Fitting log) (hx : Fits log x) :
    Fitting (log ++ [x]) := by
  intro before y after h
  rcases List.eq_nil_or_concat after with rfl | ⟨rest, z, rfl⟩
  · obtain ⟨rfl, hlast⟩ := List.append_inj' h rfl
    cases hlast
    exact hx
  · rw [List.concat_eq_append, ← List.cons_append, ← List.append_assoc] at h
    obtain ⟨hinit, -⟩ := List.append_inj' h rfl
    exact hlog before y rest hinit

/-- The calls of a teardown, as they are recorded. -/
def refusals (inner : List Call) : List Entry :=
  inner.map fun what => .made what what.unowned

theorem zipWith_made (inner : List Call) :
    List.zipWith Entry.made inner (inner.map Call.unowned) = refusals inner := by
  rw [List.zipWith_map_right, List.zipWith_self]
  rfl

theorem counts_unowned (what : Call) :
    (Entry.made what what.unowned).isRetained = false ∧
      (Entry.made what what.unowned).isReleased = false := by
  cases what <;> exact ⟨rfl, rfl⟩

theorem retained_append (log more : List Entry) :
    retained (log ++ more) = retained log + retained more :=
  List.countP_append

theorem released_append (log more : List Entry) :
    released (log ++ more) = released log + released more :=
  List.countP_append

theorem tally_append (log more : List Entry) :
    tally (log ++ more) = tally log + retained more - released more := by
  simp only [tally, retained_append, released_append]
  omega

theorem tally_retain (log : List Entry) (n : Nat) :
    tally (log ++ [.made .retain (.count n)]) = tally log + 1 := by
  rw [tally_append]
  change tally log + 1 - 0 = _
  omega

theorem tally_release (log : List Entry) (n : Nat) :
    tally (log ++ [.made .release (.count n)]) = tally log - 1 := by
  rw [tally_append]
  change tally log + 0 - 1 = _
  omega

theorem retained_refusals (inner : List Call) : retained (refusals inner) = 0 := by
  simp [retained, refusals, List.countP_eq_zero, counts_unowned]

theorem released_refusals (inner : List Call) : released (refusals inner) = 0 := by
  simp [released, refusals, List.countP_eq_zero, counts_unowned]

theorem tally_refusals (log : List Entry) (inner : List Call) :
    tally (log ++ refusals inner) = tally log := by
  rw [tally_append, retained_refusals, released_refusals]
  omega

theorem Fitting.refusals {log : List Entry} (hlog : Fitting log) (hnone : tally log = 0)
    (inner : List Call) : Fitting (log ++ refusals inner) := by
  induction inner generalizing log with
  | nil => simpa [Ownership.refusals] using hlog
  | cons what rest ih =>
    have hone : tally (log ++ Ownership.refusals [what]) = 0 := by rw [tally_refusals, hnone]
    have hfits : Fits log (.made what what.unowned) := .unowned hnone
    have hnext := ih (hlog.snoc hfits) hone
    simpa [Ownership.refusals] using hnext

/-- Right after the teardown has started come the calls it makes, each refused. -/
def Opened (inner : List Call) (log : List Entry) : Prop :=
  ∀ before after, log = before ++ .torndown :: after → ∃ rest, after = refusals inner ++ rest

theorem Opened.snoc {inner : List Call} {log : List Entry} {x : Entry} (h : Opened inner log)
    (hx : x ≠ .torndown) : Opened inner (log ++ [x]) := by
  intro before after heq
  rcases List.eq_nil_or_concat after with rfl | ⟨init, z, rfl⟩
  · obtain ⟨-, hlast⟩ := List.append_inj' heq rfl
    exact absurd (List.cons.inj hlast).1 hx
  · rw [List.concat_eq_append, ← List.cons_append, ← List.append_assoc] at heq
    obtain ⟨hinit, -⟩ := List.append_inj' heq rfl
    obtain ⟨rest, rfl⟩ := h before init hinit
    exact ⟨rest ++ [z], by rw [List.concat_eq_append, List.append_assoc]⟩

theorem torndown_notMem_refusals (inner : List Call) : Entry.torndown ∉ refusals inner := by
  simp [refusals]

theorem lastRelease_notMem_refusals (inner : List Call) :
    Entry.made .release (.count 0) ∉ refusals inner := by
  intro h
  obtain ⟨what, -, heq⟩ := List.mem_map.mp h
  cases what <;> cases heq

theorem opened_torndown {inner : List Call} {log : List Entry} (h : Entry.torndown ∉ log) :
    Opened inner (log ++ .torndown :: refusals inner) := by
  intro before after heq
  obtain ⟨-, -, rfl⟩ :=
    (List.append_cons_inj_of_notMem h (torndown_notMem_refusals inner)).mp heq
  exact ⟨[], (List.append_nil _).symm⟩

/-- What holds of a resource and its record. -/
structure Lived (name : String) (teardown : Option (List Call)) (r : Registry)
    (log : List Entry) : Prop where
  owners : ∃ owners : Nat, tally log = owners ∧
    r = .alone name teardown owners (1 + retained log)
  fitting : Fitting log
  /-- The last owner has left if none is left, and once. -/
  ended : log.count (.made .release (.count 0)) = if tally log = 0 then 1 else 0
  torndown : log.count .torndown = if teardown.isSome ∧ tally log = 0 then 1 else 0
  opened : Opened (teardown.getD []) log

section

variable {name : String} {teardown : Option (List Call)} {r : Registry} {log : List Entry}

theorem lived_single : Lived name teardown (.single name teardown) [] where
  owners := ⟨1, rfl, rfl⟩
  fitting := fitting_nil
  ended := rfl
  torndown := by simp [tally, retained, released]
  opened := by
    intro before after h
    cases before <;> cases h

theorem Lived.still {x : Entry} (h : Lived name teardown r log) (hfits : Fits log x)
    (hretained : x.isRetained = false) (hreleased : x.isReleased = false)
    (hx : x ≠ .torndown) : Lived name teardown r (log ++ [x]) := by
  have hmore : retained [x] = 0 ∧ released [x] = 0 := by
    simp [retained, released, hretained, hreleased]
  have htally : tally (log ++ [x]) = tally log := by
    rw [tally_append]
    omega
  have hlast : x ≠ .made .release (.count 0) := by
    rintro rfl
    cases hreleased
  obtain ⟨owners, hn, hr⟩ := h.owners
  constructor
  · exact ⟨owners, htally.trans hn, by rw [retained_append, hmore.1, hr]; rfl⟩
  · exact h.fitting.snoc hfits
  · rw [List.count_append, List.count_singleton, htally, h.ended]
    simp [hlast]
  · rw [List.count_append, List.count_singleton, htally, h.torndown]
    simp [hx]
  · exact h.opened.snoc hx

/-- An owner joins, and there is one more handle. -/
theorem Lived.join {owners : Nat} (h : Lived name teardown r log) (hn : tally log = owners)
    (hpos : 0 < owners) :
    Lived name teardown (.alone name teardown (owners + 1) (1 + retained log + 1))
      (log ++ [.made .retain (.count (owners + 1))]) := by
  have htally : tally (log ++ [.made .retain (.count (owners + 1))]) = (owners + 1 : Nat) := by
    rw [tally_retain, hn]
    rfl
  have hzero : ¬tally log = 0 := by omega
  have hzero' : ¬tally (log ++ [.made .retain (.count (owners + 1))]) = 0 := by omega
  constructor
  · exact ⟨owners + 1, htally, by rw [retained_append]; rfl⟩
  · exact h.fitting.snoc (.retained hn hpos)
  · rw [List.count_append, h.ended, if_neg hzero, if_neg hzero']
    rfl
  · rw [List.count_append, h.torndown, if_neg (fun h => hzero h.2), if_neg (fun h => hzero' h.2)]
    rfl
  · exact h.opened.snoc (fun h => by cases h)

theorem Lived.leave {n : Nat} (h : Lived name teardown r log) (hn : tally log = n + 2) :
    Lived name teardown (.alone name teardown (n + 1) (1 + retained log))
      (log ++ [.made .release (.count (n + 1))]) := by
  have htally : tally (log ++ [.made .release (.count (n + 1))]) = (n + 1 : Nat) := by
    rw [tally_release, hn]
    omega
  have hzero : ¬tally log = 0 := by omega
  have hzero' : ¬tally (log ++ [.made .release (.count (n + 1))]) = 0 := by omega
  constructor
  · exact ⟨n + 1, htally, by rw [retained_append]; rfl⟩
  · exact h.fitting.snoc (.released (by rw [hn]; rfl))
  · rw [List.count_append, h.ended, if_neg hzero, if_neg hzero', List.count_singleton]
    simp
  · rw [List.count_append, h.torndown, if_neg (fun h => hzero h.2), if_neg (fun h => hzero' h.2)]
    rfl
  · exact h.opened.snoc (fun h => by cases h)

end

/-- What the last owner's leaving adds to the record. -/
def lastEntries : Option (List Call) → List Entry
  | none => [.made .release (.count 0)]
  | some inner => [.made .release (.count 0)] ++ .torndown :: refusals inner

theorem tally_lastEntries (teardown : Option (List Call)) (log : List Entry) :
    tally (log ++ lastEntries teardown) = tally log - 1 := by
  cases teardown with
  | none => exact tally_release log 0
  | some inner =>
    have hstart : tally (log ++ [.made .release (.count 0)] ++ [.torndown]) = tally log - 1 := by
      rw [tally_append, tally_release]
      change tally log - 1 + 0 - 0 = _
      omega
    rw [lastEntries, ← List.append_assoc, List.append_cons, tally_refusals, hstart]

theorem retained_lastEntries (teardown : Option (List Call)) :
    retained (lastEntries teardown) = 0 := by
  cases teardown with
  | none => rfl
  | some inner => exact retained_refusals inner

theorem count_release_lastEntries (teardown : Option (List Call)) :
    (lastEntries teardown).count (.made .release (.count 0)) = 1 := by
  cases teardown with
  | none => rfl
  | some inner =>
    have hnone := List.count_eq_zero_of_not_mem (lastRelease_notMem_refusals inner)
    simp [lastEntries, hnone]

theorem count_torndown_lastEntries (teardown : Option (List Call)) :
    (lastEntries teardown).count .torndown = if teardown.isSome then 1 else 0 := by
  cases teardown with
  | none => rfl
  | some inner =>
    have hnone := List.count_eq_zero_of_not_mem (torndown_notMem_refusals inner)
    simp [lastEntries, hnone]

theorem Fitting.last {log : List Entry} (h : Fitting log) (hn : tally log = 1)
    (teardown : Option (List Call)) : Fitting (log ++ lastEntries teardown) := by
  have hfirst : Fitting (log ++ [.made .release (.count 0)]) := h.snoc (.released (by rw [hn]; rfl))
  cases teardown with
  | none => exact hfirst
  | some inner =>
    have hzero : tally (log ++ [.made .release (.count 0)] ++ [.torndown]) = 0 := by
      rw [tally_append, tally_release, hn]
      rfl
    have hall := (hfirst.snoc (.torndown rfl)).refusals hzero inner
    rwa [List.append_assoc, List.append_assoc] at hall

theorem Opened.last {teardown : Option (List Call)} {log : List Entry}
    (h : Opened (teardown.getD []) log) (hnone : Entry.torndown ∉ log) :
    Opened (teardown.getD []) (log ++ lastEntries teardown) := by
  cases teardown with
  | none => exact h.snoc nofun
  | some inner =>
    rw [lastEntries, ← List.append_assoc]
    refine opened_torndown ?_
    intro hmem
    rcases List.mem_append.mp hmem with hmem | hmem
    · exact hnone hmem
    · cases List.mem_singleton.mp hmem

/-- The last owner leaves. -/
theorem Lived.last {name : String} {teardown : Option (List Call)} {r : Registry}
    {log : List Entry} (h : Lived name teardown r log) (hn : tally log = 1) :
    Lived name teardown (.alone name teardown 0 (1 + retained log))
      (log ++ lastEntries teardown) := by
  have hbefore : ¬tally log = 0 := by omega
  have hafter : tally (log ++ lastEntries teardown) = 0 := by
    rw [tally_lastEntries, hn]
    rfl
  have hnone : log.count .torndown = 0 := by
    rw [h.torndown, if_neg fun h => hbefore h.2]
  constructor
  · exact ⟨0, hafter, by rw [retained_append, retained_lastEntries, Nat.add_zero]⟩
  · exact h.fitting.last hn teardown
  · rw [List.count_append, h.ended, if_neg hbefore, count_release_lastEntries, if_pos hafter]
  · rw [List.count_append, hnone, count_torndown_lastEntries, Nat.zero_add]
    simp [hafter]
  · exact h.opened.last (List.count_eq_zero.mp hnone)

/-! ## Histories -/

section

variable {name : String} {teardown : Option (List Call)} {r : Registry} {log : List Entry}

theorem lived_proceed (h : Lived name teardown r log) (call : Nat × Call) :
    Lived name teardown (Registry.proceed (teardown.getD []) (r, log) call).1
      (Registry.proceed (teardown.getD []) (r, log) call).2 := by
  obtain ⟨handle, what⟩ := call
  obtain ⟨owners, hn, rfl⟩ := h.owners
  simp only [Registry.proceed]
  split
  · exact h
  · rename_i e heq
    simp only [Effect.entries]
    obtain ⟨hpos, rfl, ha, ht, hr⟩ | ⟨n, rfl, rfl, ha, ht, hr⟩ | ⟨rfl, ha, ht, hr⟩ |
      ⟨rfl, ha, ht, hr⟩ | ⟨rfl, ha, ht, hr⟩ := call_alone_cases heq
    · rw [ha, ht, hr]
      exact h.join hn hpos
    · rw [ha, ht, hr]
      cases n with
      | succ n => exact h.leave hn
      | zero =>
        have hlast := h.last hn
        cases teardown with
        | none => exact hlast
        | some inner =>
          simp only [if_true, Option.map_some, Option.getD_some, zipWith_made]
          exact hlast
    · rw [ha, ht, hr]
      exact h.still (.counted hn) rfl rfl nofun
    · rw [ha, ht, hr]
      exact h.still .forgotten rfl rfl nofun
    · rw [ha, ht, hr]
      exact h.still (.unowned hn) (counts_unowned what).1 (counts_unowned what).2 nofun

theorem lived_foldl (calls : List (Nat × Call)) (h : Lived name teardown r log) :
    Lived name teardown (calls.foldl (Registry.proceed (teardown.getD [])) (r, log)).1
      (calls.foldl (Registry.proceed (teardown.getD [])) (r, log)).2 := by
  induction calls generalizing r log with
  | nil => exact h
  | cons call rest ih => exact ih (lived_proceed h call)

end

/-- One more call: only the release that leaves no owner sets anything off, and a call on a
resource without owners leaves everything as it is. -/
theorem next_call {name : String} {teardown : Option (List Call)} {owners handles handle : Nat}
    {what : Call} {e : Effect}
    (h : (Registry.alone name teardown owners handles).call handle what = some e) :
    (what = .count ∨ what = .forget → e.registry = .alone name teardown owners handles) ∧
    (e.torndown.isSome ↔ teardown.isSome ∧ what = .release ∧ e.answer = .count 0) ∧
    (owners = 0 → e.registry = .alone name teardown owners handles ∧ e.answer = what.unowned ∧
      e.torndown = none) := by
  obtain ⟨hpos, rfl, ha, ht, hr⟩ | ⟨n, rfl, rfl, ha, ht, hr⟩ | ⟨rfl, ha, ht, hr⟩ |
    ⟨rfl, ha, ht, hr⟩ | ⟨rfl, ha, ht, hr⟩ := call_alone_cases h
  · refine ⟨by simp, by simp [ht], fun hzero => ?_⟩
    omega
  · refine ⟨by simp, ?_, fun hzero => by cases hzero⟩
    rw [ht, ha]
    by_cases hn : n = 0
    · simp [hn]
    · simp [hn]
  · exact ⟨fun _ => hr, by simp [ht], fun hzero => ⟨hr, by rw [ha, hzero]; rfl, ht⟩⟩
  · exact ⟨fun _ => hr, by simp [ht], fun _ => ⟨hr, ha, ht⟩⟩
  · refine ⟨fun _ => hr, ?_, fun _ => ⟨hr, ha, ht⟩⟩
    rw [ht, ha]
    cases what <;> simp [Call.unowned]

theorem counted_history (name : String) (teardown : Option (List Call))
    (calls : List (Nat × Call)) :
    let last := ((Registry.single name teardown).history (teardown.getD []) calls).1
    let log := ((Registry.single name teardown).history (teardown.getD []) calls).2
    -- Every entry fits those before it, also the entries of the calls that the teardown makes.
    Fitting log ∧
    -- There are as many owners as the record says.
    (∃ counted, last.resources = [⟨name, counted⟩] ∧ (counted.owners : Int) = tally log) ∧
    -- The teardown that was given has started once if no owner is left, and else not at all.
    log.count .torndown = (if teardown.isSome ∧ tally log = 0 then 1 else 0) ∧
    log.count (.made .release (.count 0)) = (if tally log = 0 then 1 else 0) ∧
    Opened (teardown.getD []) log ∧
    -- One more call, on any of the handles.
    (∀ handle what, (last.call handle what).isSome ↔ handle ≤ retained log) ∧
    ∀ handle what e, last.call handle what = some e →
      (what = .count ∨ what = .forget → e.registry = last) ∧
      (e.torndown.isSome ↔ teardown.isSome ∧ what = .release ∧ e.answer = .count 0) ∧
      (tally log = 0 → e.registry = last ∧ e.answer = what.unowned ∧ e.torndown = none) := by
  intro last log
  have h : Lived name teardown last log := lived_foldl calls lived_single
  obtain ⟨owners, hn, hlast⟩ := h.owners
  refine ⟨h.fitting, ?_, h.torndown, h.ended, h.opened, ?_, ?_⟩
  · exact ⟨.owned teardown owners, by rw [hlast]; rfl, hn.symm⟩
  · intro handle what
    rw [hlast, call_alone_isSome]
    omega
  · intro handle what e he
    rw [hlast] at he ⊢
    obtain ⟨hsame, htorn, hnone⟩ := next_call he
    exact ⟨hsame, htorn, fun hzero => hnone (by omega)⟩

end ServerCursor.Ownership
