import ServerCursor.Proofs.Settle

/-!
# Closing a cursor while a request is under way

A call has a slot to itself: what happens to it is what happens when it is answered alone
(`Schedule.Stands`). So two calls that come to their ends one after the other can be followed one
after the other.

The request is one whose reply brings documents, or says that the server's cursor is gone, or whose
call does not go on without documents. In the end connections that were handed out meanwhile have no
owners, and the message that discards the server's cursor is the last one if the reply says that it
is open. A call that is overtaken fails.

Main statement: `close_race_confluent` says that it makes no difference to the cursor, to the owners
of its resources and to its server whether a cursor is closed before or after a request has its
reply.
-/

namespace ServerCursor

namespace Schedule

/-- The call in one slot has come so far since a schedule, in which the other slots stayed as they
are. -/
structure Stands (s₀ : Schedule) (slot : Slot) (r : Cursor × Progress) (s : Schedule) : Prop where
  cursor : s.cursor = r.1
  here : s.waitingIn? slot = r.2.point?
  others : ∀ other, other ≠ slot → s.waitingIn? other = s₀.waitingIn? other
  handles : s.handles = s₀.handles

theorem letGo_of_handles {s : Schedule} (h : s.handles ≠ 0) : s.letGo = s := by
  unfold letGo
  exact if_neg fun hnone => h hnone.1

section Stands

variable {s₀ s : Schedule} {slot : Slot} {r : Cursor × Progress}

theorem stands_waiting {p : Point} (h : s.waitingIn? slot = some p) :
    s.Stands slot (s.cursor, .waiting p) s :=
  ⟨rfl, h, fun _ _ => rfl, rfl⟩

theorem stands_begin (h : s.waitingIn? slot = none) (hhandles : s.handles ≠ 0) (call : Call) :
    s.Stands slot (beginCall s.cursor call) (s.step (.begin slot call)).1 := by
  have hnone : s.calls.find? (fun call => call.1 == slot) = none := Option.map_eq_none_iff.mp h
  rw [begin_of_free h hhandles]
  refine ⟨rfl, find?_append_here s.calls slot _ hnone, fun other hother => ?_, rfl⟩
  exact congrArg (Option.map _) (find?_append_other s.calls _ hother)

theorem stands_answer (h : s₀.Stands slot r s) (hhandles : s₀.handles ≠ 0) (a : Answer) :
    s₀.Stands slot (Cursor.goOn r a) (s.step (.answer slot a)).1 := by
  obtain ⟨hcursor, hhere, hothers, hkept⟩ := h
  obtain ⟨c, progress⟩ := r
  cases progress with
  | done o =>
    have hstep : (s.step (.answer slot a)).1 = s := by
      simp only [step, answer]
      rw [show s.waitingIn? slot = none from hhere]
    rw [hstep]
    exact ⟨hcursor, hhere, hothers, hkept⟩
  | waiting p =>
    subst hcursor
    rw [answer_of_waiting hhere, letGo_of_handles (hkept ▸ hhandles)]
    refine ⟨rfl, find?_append_here _ slot _ (find?_without s.calls slot), fun other hother => ?_,
      hkept⟩
    refine Eq.trans ?_ (hothers other hother)
    refine congrArg (Option.map _) ?_
    exact (find?_append_other _ _ hother).trans (find?_without_other s.calls hother)

theorem outcome_answer (h : s₀.Stands slot r s) (a : Answer) :
    (s.step (.answer slot a)).2 =
      if r.2.point?.isSome then (Cursor.goOn r a).2.outcome? else none := by
  obtain ⟨hcursor, hhere, -, -⟩ := h
  obtain ⟨c, progress⟩ := r
  cases progress with
  | done o =>
    simp only [step, answer]
    rw [show s.waitingIn? slot = none from hhere]
    rfl
  | waiting p =>
    subst hcursor
    rw [answer_of_waiting hhere]
    rfl

theorem stands_answers (h : s₀.Stands slot r s) (hhandles : s₀.handles ≠ 0)
    (answers : List Answer) :
    s₀.Stands slot (Cursor.answered r answers) (s.run (answers.map (.answer slot))) := by
  induction answers generalizing s r with
  | nil => exact h
  | cons a rest ih => exact ih (stands_answer h hhandles a)

/-- A call ends once. -/
theorem outcomes_answers (h : s₀.Stands slot r s) (hhandles : s₀.handles ≠ 0)
    (answers : List Answer) :
    s.outcomes (answers.map (.answer slot)) =
      if r.2.point?.isSome then (Cursor.answered r answers).2.outcome?.toList else [] := by
  induction answers generalizing s r with
  | nil =>
    obtain ⟨c, progress⟩ := r
    cases progress <;> rfl
  | cons a rest ih =>
    have hrest := ih (stands_answer h hhandles a)
    have hfirst := outcome_answer h a
    rw [List.map_cons, outcomes, hfirst, hrest]
    obtain ⟨c, progress⟩ := r
    cases progress with
    | done o => rfl
    | waiting p =>
      change _ = (Cursor.answered (Cursor.goOn (c, .waiting p) a) rest).2.outcome?.toList
      cases hgo : Cursor.goOn (c, .waiting p) a with
      | mk d progress =>
        cases progress with
        | waiting q => rfl
        | done o =>
          rw [Cursor.answered_done]
          rfl

end Stands

/-- A call begins in a slot, and then has these answers. -/
def calling (slot : Slot) (call : Call) (answers : List Answer) : List Action :=
  .begin slot call :: answers.map (.answer slot)

/-- A call in a slot that was free before. -/
def withCall (s : Schedule) (slot : Slot) (r : Cursor × Progress) : Schedule :=
  { s with cursor := r.1, calls := s.calls ++ (r.2.point?.map (slot, ·)).toList }

theorem withCall_done (s : Schedule) (slot : Slot) (c : Cursor) (o : Outcome) :
    s.withCall slot (c, .done o) = { s with cursor := c } := by
  simp [withCall, Progress.point?]

section Calling

variable {s : Schedule} {slot : Slot} (hfree : s.waitingIn? slot = none) (hhandles : s.handles ≠ 0)

include hfree

theorem waitingIn?_withCall (r : Cursor × Progress) :
    (s.withCall slot r).waitingIn? slot = r.2.point? :=
  find?_append_here s.calls slot _ (Option.map_eq_none_iff.mp hfree)

theorem without_withCall (r : Cursor × Progress) :
    without (s.withCall slot r).calls slot = s.calls := by
  have hnone : ∀ call ∈ s.calls, call.1 ≠ slot := by
    have hfind := Option.map_eq_none_iff.mp hfree
    simpa using List.find?_eq_none.mp hfind
  have hkept : without s.calls slot = s.calls :=
    List.filter_eq_self.mpr fun call hcall => bne_iff_ne.mpr (hnone call hcall)
  have hgone : without (r.2.point?.map (slot, ·)).toList slot = [] := by
    cases r.2.point? <;> simp [without]
  rw [withCall, without, List.filter_append]
  exact (congrArg₂ (· ++ ·) hkept hgone).trans (List.append_nil _)

include hhandles

theorem step_withCall (r : Cursor × Progress) (a : Answer) :
    ((s.withCall slot r).step (.answer slot a)).1 = s.withCall slot (Cursor.goOn r a) := by
  have hslot := waitingIn?_withCall hfree r
  have hwithout := without_withCall hfree r
  obtain ⟨c, p | o⟩ := r
  · rw [answer_of_waiting hslot, hwithout]
    exact letGo_of_handles hhandles
  · simp only [step, answer]
    rw [show (s.withCall slot (c, .done o)).waitingIn? slot = none from hslot]
    rfl

theorem run_withCall (r : Cursor × Progress) (answers : List Answer) :
    (s.withCall slot r).run (answers.map (.answer slot)) =
      s.withCall slot (Cursor.answered r answers) := by
  induction answers generalizing r with
  | nil => rfl
  | cons a rest ih =>
    change ((s.withCall slot r).step (.answer slot a)).1.run _ = _
    rw [step_withCall hfree hhandles]
    exact ih _

theorem run_calling (call : Call) (answers : List Answer) :
    s.run (calling slot call answers) =
      s.withCall slot (Cursor.answered (beginCall s.cursor call) answers) := by
  change (s.step (.begin slot call)).1.run _ = _
  rw [begin_of_free hfree hhandles]
  exact run_withCall hfree hhandles _ answers

theorem outcomes_calling (call : Call) (answers : List Answer) :
    s.outcomes (calling slot call answers) =
      (Cursor.answered (beginCall s.cursor call) answers).2.outcome?.toList := by
  have hstands := stands_begin hfree hhandles call
  have hfirst : (s.step (.begin slot call)).2 = (beginCall s.cursor call).2.outcome? := by
    rw [begin_of_free hfree hhandles]
  rw [calling, outcomes, hfirst, outcomes_answers hstands hhandles]
  cases hbegin : beginCall s.cursor call with
  | mk c progress =>
    cases progress with
    | waiting p => rfl
    | done o => rw [Cursor.answered_done]; rfl

end Calling

theorem outcomes_append (s : Schedule) (before after : List Action) :
    s.outcomes (before ++ after) = s.outcomes before ++ (s.run before).outcomes after := by
  induction before generalizing s with
  | nil => rfl
  | cons a rest ih =>
    rw [List.cons_append, outcomes, ih, outcomes, List.append_assoc]
    rfl

/-- The actions by which the request of the call in a slot comes to its end. -/
def completing (slot : Slot) (reply : Reply) (k : Except Error Unit) : List Action :=
  (Cursor.completing reply k).map (.answer slot)

/-- The actions by which a cursor is closed. -/
def closing (slot : Slot) (k : Except Error Unit) : List Action :=
  .begin slot .close :: (Cursor.discarding k).map (.answer slot)

section

variable {s : Schedule} {slot : Slot}

theorem stands_completing {p : Point} (h : s.waitingIn? slot = some p) (hhandles : s.handles ≠ 0)
    (reply : Reply) (k : Except Error Unit) :
    let r := Cursor.answered (s.cursor, .waiting p) (Cursor.completing reply k)
    s.Stands slot r (s.run (completing slot reply k)) ∧
      s.outcomes (completing slot reply k) = r.2.outcome?.toList :=
  ⟨stands_answers (stands_waiting h) hhandles _, outcomes_answers (stands_waiting h) hhandles _⟩

theorem stands_closing (h : s.waitingIn? slot = none) (hhandles : s.handles ≠ 0)
    (k : Except Error Unit) :
    let r := Cursor.answered s.cursor.close (Cursor.discarding k)
    s.Stands slot r (s.run (closing slot k)) ∧
      s.outcomes (closing slot k) = r.2.outcome?.toList := by
  exact ⟨stands_answers (stands_begin h hhandles .close) hhandles _,
    outcomes_calling h hhandles .close _⟩

end

end Schedule

namespace Cursor

variable {c : Cursor}

/-- What a cursor is that is closed while a request is under way. -/
def deferred (c : Cursor) : Cursor :=
  (c.withState { c.state with closed := true, buffer := [] }).emit
    (.closeDeferred c.state.id c.config.ns)

theorem close_of_fetching (hopen : c.state.closed = false) (hf : c.state.fetching = true) :
    c.close = (c.deferred, .done .closed) := by
  unfold close
  rw [if_neg (Bool.eq_false_iff.mp hopen)]
  exact if_pos hf

end Cursor

/-- An open cursor with a request under way, and the call that waits for the reply. -/
structure Schedule.Races (s : Schedule) (slot other : Slot) (p : Point) (f : Flight) : Prop where
  opened : s.cursor.state.closed = false
  handles : s.handles ≠ 0
  waiting : s.waitingIn? slot = some p
  flight : p.flight? = some f
  free : s.waitingIn? other = none
  sound : s.cursor.state.Sound {f}
  room : s.cursor.state.Room s.cursor.config

/-- The two calls have come to their ends, and everything was given back and told. -/
structure Schedule.Raced (s : Schedule) (slot other : Slot) (back : List Resource)
    (sent : List Message) (s' : Schedule) : Prop where
  cursor : s'.cursor.state.Over
  here : s'.waitingIn? slot = none
  there : s'.waitingIn? other = none
  settles : s.cursor.ledger.Settles back sent s'.cursor.ledger

namespace Schedule

variable {s : Schedule} {slot other : Slot} {p : Point} {f : Flight}

theorem Races.slots (h : s.Races slot other p f) : slot ≠ other := by
  intro e
  have hnone := h.free
  rw [← e, h.waiting] at hnone
  cases hnone

theorem Races.fetching (h : s.Races slot other p f) : s.cursor.state.fetching = true := by
  have hs : s.cursor.state.Sound ({f} + 0) := h.sound
  exact hs.sole.1

/-- The cursor is closed first. The request then clears up. -/
theorem raced_close_first (h : s.Races slot other p f) (answer : Reply) (k k' : Except Error Unit) :
    s.Raced slot other (p.held ++ s.cursor.state.held)
      (p.unsent s.cursor ++ s.cursor.dues answer.id)
      (s.run (closing other k ++ completing slot answer k')) ∧
    s.outcomes (closing other k ++ completing slot answer k') =
      [.closed, .failed (.illegalState .closedWhileFetching)] := by
  have hclose := Cursor.close_of_fetching h.opened h.fetching
  obtain ⟨hclosing, houtcomes⟩ := stands_closing h.free h.handles k
  rw [hclose, Cursor.answered_done] at hclosing houtcomes
  have hwaiting : (s.run (closing other k)).waitingIn? slot = some p :=
    (hclosing.others slot h.slots).trans h.waiting
  have hhandles : (s.run (closing other k)).handles ≠ 0 := hclosing.handles ▸ h.handles
  obtain ⟨hcompleting, houtcome⟩ := stands_completing hwaiting hhandles answer k'
  have hsound : s.cursor.deferred.state.Sound {f} := by
    have hafter := Cursor.sound_close h.sound
    rw [SoundAfter, hclose] at hafter
    exact (zero_add (M := Multiset Flight) {f}) ▸ hafter
  obtain ⟨hdone, hover, hsettles⟩ :=
    Cursor.settled_completing_overtaken hsound h.flight rfl answer k'
  rw [hclosing.cursor] at hcompleting houtcome
  refine ⟨⟨?_, ?_, ?_, ?_⟩, ?_⟩
  · rw [run_append, hcompleting.cursor]
    exact hover
  · rw [run_append, hcompleting.here, hdone]
    rfl
  · rw [run_append, hcompleting.others other h.slots.symm, hclosing.here]
    rfl
  · rw [run_append, hcompleting.cursor]
    exact (s.cursor.ledger.settles_emit _).trans hsettles
  · rw [outcomes_append, houtcomes, houtcome, hdone]
    rfl

/-- The request has its reply first. The cursor is then closed like any other. -/
theorem raced_close_last (h : s.Races slot other p f) {answer : Reply}
    (hanswer : answer.documents ≠ [] ∨ answer.id = 0 ∨ f.1.wait = false)
    (k k' : Except Error Unit) :
    s.Raced slot other (p.held ++ s.cursor.state.held)
      (p.unsent s.cursor ++ s.cursor.dues answer.id)
      (s.run (completing slot answer k ++ closing other k')) ∧
    ∃ o, s.outcomes (completing slot answer k ++ closing other k') = [o, .closed] := by
  obtain ⟨hcompleting, houtcome⟩ := stands_completing h.waiting h.handles answer k
  have hfree : (s.run (completing slot answer k)).waitingIn? other = none :=
    (hcompleting.others other h.slots.symm).trans h.free
  have hhandles : (s.run (completing slot answer k)).handles ≠ 0 :=
    hcompleting.handles ▸ h.handles
  obtain ⟨hclosing, houtcomes⟩ := stands_closing hfree hhandles k'
  obtain ⟨⟨o, hdone⟩, hclosed, hover, hsettles⟩ :=
    Cursor.settled_completing_replied h.sound h.flight h.room h.opened hanswer k k'
  rw [hcompleting.cursor] at hclosing houtcomes
  refine ⟨⟨?_, ?_, ?_, ?_⟩, o, ?_⟩
  · rw [run_append, hclosing.cursor]
    exact hover
  · rw [run_append, hclosing.others slot h.slots, hcompleting.here, hdone]
    rfl
  · rw [run_append, hclosing.here, hclosed]
    rfl
  · rw [run_append, hclosing.cursor]
    exact hsettles
  · rw [outcomes_append, houtcome, houtcomes, hdone, hclosed]
    rfl

end Schedule

section Create

variable (reply : Reply) (options : Options) (server : ServerDescription)
  (connection : Option (Nat × ConnectionDescription)) (l : Ledger)

/-- Whether a cursor is closed before a request has its reply or after the call has ended with it,
in the end it is closed and holds nothing, every resource has the same owners, and the same messages
were sent. -/
theorem close_race_confluent (runtime : Bool) (history : List Action) (slot other : Slot)
    (p : Point) (f : Flight) (answer : Reply) (k₁ k₂ k₃ k₄ : Except Error Unit) :
    let s := (Schedule.opened reply options server connection l runtime).run history
    let closeFirst := Schedule.closing other k₁ ++ Schedule.completing slot answer k₂
    let closeLast := Schedule.completing slot answer k₃ ++ Schedule.closing other k₄
    let first := s.run closeFirst
    let last := s.run closeLast
    let sent := p.unsent s.cursor ++
      if answer.id = 0 then [] else [s.cursor.config.requester.kill answer.id]
    s.cursor.state.closed = false → s.handles ≠ 0 → s.waitingIn? slot = some p →
    p.flight? = some f → s.waitingIn? other = none →
    (answer.documents ≠ [] ∨ answer.id = 0 ∨ f.1.wait = false) →
    (first.cursor.state.Over ∧ last.cursor.state.Over) ∧
    (first.waitingIn? slot = none ∧ first.waitingIn? other = none ∧
      last.waitingIn? slot = none ∧ last.waitingIn? other = none) ∧
    (∀ r, s.cursor.ledger.Lasts first.cursor.ledger r → s.cursor.ledger.Lasts last.cursor.ledger r →
      first.cursor.ledger.owners r = last.cursor.ledger.owners r) ∧
    (∀ n, s.cursor.ledger.issued < n →
      (n ≤ first.cursor.ledger.issued → first.cursor.ledger.owners (.connection n) = 0) ∧
      (n ≤ last.cursor.ledger.issued → last.cursor.ledger.owners (.connection n) = 0)) ∧
    first.cursor.ledger.messages = s.cursor.ledger.messages ++ sent ∧
    last.cursor.ledger.messages = s.cursor.ledger.messages ++ sent ∧
    s.outcomes closeFirst = [.closed, .failed (.illegalState .closedWhileFetching)] ∧
    (∃ o, s.outcomes closeLast = [o, .closed]) ∧
    IllegalState.closedWhileFetching.message =
      "The cursor was closed before getMore completed" := by
  intro s closeFirst closeLast first last sent hopen hhandles hslot hflight hother hanswer
  have hsound := sound_create reply options server connection l
  have hplay := Schedule.play_run (Cursor.create reply options server connection l) runtime history
  have hs : s.Coherent := Schedule.coherent_run hsound runtime history
  have hraces : s.Races slot other p f := ⟨hopen, hhandles, hslot, hflight, hother,
    hs.sole hslot hflight, room_play hsound (room_create reply options server connection l) hplay⟩
  have hcloseFirst := Schedule.raced_close_first hraces answer k₁ k₂
  have hcloseLast := Schedule.raced_close_last hraces hanswer k₃ k₄
  have hfirst : s.Raced slot other (p.held ++ s.cursor.state.held) sent first := hcloseFirst.1
  have hlast : s.Raced slot other (p.held ++ s.cursor.state.held) sent last := hcloseLast.1
  refine ⟨⟨hfirst.cursor, hlast.cursor⟩, ⟨hfirst.here, hfirst.there, hlast.here, hlast.there⟩,
    fun r hr hr' => ?_, fun n hn => ⟨hfirst.settles.fresh n hn, hlast.settles.fresh n hn⟩,
    hfirst.settles.messages, hlast.settles.messages, hcloseFirst.2, hcloseLast.2, rfl⟩
  rw [hfirst.settles.owners r hr, hlast.settles.owners r hr']

end Create

/-- A cursor that may bring two documents more is asked for them. -/
def Schedule.limitedRequest : List Action :=
  [.begin .stream .next, .begin .stream .next, .answer .stream (.checkout (.ok ()))]

/-- The reply has more than the limit allows, and the server's cursor is still open. -/
def Schedule.limitedReply : Reply :=
  ⟨⟨"db", "items"⟩, [[("n", .int32 2)], [("n", .int32 3)], [("n", .int32 4)]], 7, .localhost⟩

theorem close_race_confluent_limited :
    let s := Schedule.limited.run Schedule.limitedRequest
    let close := Schedule.closing .blocking (.ok ())
    let complete := Schedule.completing .stream Schedule.limitedReply (.ok ())
    (s.cursor.state.closed = false ∧
      s.waitingIn? .stream = some (.fetchReply ⟨7, 2, true, true⟩ 1)) ∧
    ((s.run (close ++ complete)).cursor.state.Over ∧
      (s.run (complete ++ close)).cursor.state.Over) ∧
    (s.run (close ++ complete)).cursor.ledger.owners .source =
      (s.run (complete ++ close)).cursor.ledger.owners .source ∧
    (s.run (close ++ complete)).cursor.ledger.messages =
      s.cursor.ledger.messages ++ [s.cursor.config.requester.kill 7] ∧
    (s.run (complete ++ close)).cursor.ledger.messages =
      s.cursor.ledger.messages ++ [s.cursor.config.requester.kill 7] := by
  have hall := close_race_confluent ⟨⟨"db", "items"⟩, [[("n", .int32 1)]], 7, .localhost⟩
    ⟨-3, 0, none, none⟩ .blank none Ledger.start true Schedule.limitedRequest .stream .blocking
    (.fetchReply ⟨7, 2, true, true⟩ 1) (⟨7, 2, true, true⟩, some 1) Schedule.limitedReply
    (.ok ()) (.ok ()) (.ok ()) (.ok ()) rfl Nat.one_ne_zero rfl rfl rfl
    (.inl (List.cons_ne_nil _ _))
  obtain ⟨hover, -, howners, -, hfirst, hlast, -⟩ := hall
  have hsource := howners .source (Ledger.lasts_source _ _) (Ledger.lasts_source _ _)
  exact ⟨⟨rfl, rfl⟩, hover, hsource, hfirst, hlast⟩

end ServerCursor
