import Mathlib
import ServerCursor.Proofs.Stream

/-!
# Iterating by blocking calls

The iteration of a cursor that is used by blocking calls gives batch after batch. The first call
that does not hand out documents ends it: the results have ended, and the cursor is closed, or there
is an error, and then the iteration closes the cursor itself. After that it gives nothing and does
nothing.

A stream that is drained under a runtime does the same in another way: it lets the cursor go, and a
task closes it. Calls that block take no notice of a runtime (`Session.iterated_under`), so the
iteration may have one or none. The two are followed side by side (`Session.Paired`): between two
batches the cursor and all else but the runtime are the same (`Session.Abreast`), and in the end one
has closed the cursor where the other has let it go, and once its task has run the two are the same
again (`Session.Finished`).

Main statement: `iteration_agrees`. How the calls are told what they are told is left open, and a
script in which no gate is held is one way to tell them (`Session.exists_iterates_eq`).
-/

namespace ServerCursor

variable {α : Type}

namespace Schedule

theorem run_close_of_closed {s : Schedule} (hcalls : s.calls = []) (hone : s.handles = 1)
    (hclosed : s.cursor.state.closed = true) (slot : Slot) (answers : List Answer) :
    s.run (calling slot .close answers) = s := by
  have hclose : beginCall s.cursor .close = (s.cursor, .done .closed) := if_pos hclosed
  rw [run_calling (waitingIn?_of_no_calls hcalls slot) (hone ▸ Nat.one_ne_zero), hclose,
    Cursor.answered_done, withCall_done]

/-- The same with a runtime, or without one. -/
def under (s : Schedule) (present : Bool) : Schedule :=
  { s with runtime := present }

section Under

variable {s : Schedule} (hhandles : s.handles ≠ 0) (present : Bool) (slot : Slot)

include hhandles

theorem begin_under (call : Call) :
    (s.under present).step (.begin slot call) =
        ((s.step (.begin slot call)).1.under present, (s.step (.begin slot call)).2) ∧
      (s.step (.begin slot call)).1.handles = s.handles := by
  have hpresent : (s.under present).handles ≠ 0 := hhandles
  cases hfree : s.waitingIn? slot with
  | none =>
    have hfree' : (s.under present).waitingIn? slot = none := hfree
    rw [begin_of_free hfree hhandles, begin_of_free hfree' hpresent]
    exact ⟨rfl, rfl⟩
  | some p =>
    have hbusy : ∀ r : Schedule, r.waitingIn? slot = some p →
        r.step (.begin slot call) = (r, none) := by
      intro r hr
      exact if_pos (.inr (by rw [hr]; rfl))
    rw [hbusy s hfree, hbusy (s.under present) hfree]
    exact ⟨rfl, rfl⟩

/-- The cursor is let go only where no handle is left. -/
theorem answer_under (a : Answer) :
    (s.under present).step (.answer slot a) =
        ((s.step (.answer slot a)).1.under present, (s.step (.answer slot a)).2) ∧
      (s.step (.answer slot a)).1.handles = s.handles := by
  cases hp : s.waitingIn? slot with
  | none =>
    have hidle : ∀ r : Schedule, r.waitingIn? slot = none →
        r.step (.answer slot a) = (r, none) := by
      intro r hr
      simp only [step, answer, hr]
    rw [hidle s hp, hidle (s.under present) hp]
    exact ⟨rfl, rfl⟩
  | some p =>
    have hp' : (s.under present).waitingIn? slot = some p := hp
    rw [answer_of_waiting hp, answer_of_waiting hp']
    simp [letGo, under, hhandles]

/-- A call takes no notice of a runtime while there is a handle. -/
theorem calling_under (call : Call) (answers : List Answer) :
    (s.under present).run (calling slot call answers) =
        (s.run (calling slot call answers)).under present ∧
      (s.under present).outcomes (calling slot call answers) =
        s.outcomes (calling slot call answers) ∧
      (s.run (calling slot call answers)).handles = s.handles := by
  have hanswers : ∀ {r : Schedule}, r.handles ≠ 0 →
      (r.under present).run (answers.map (.answer slot)) =
          (r.run (answers.map (.answer slot))).under present ∧
        (r.under present).outcomes (answers.map (.answer slot)) =
          r.outcomes (answers.map (.answer slot)) ∧
        (r.run (answers.map (.answer slot))).handles = r.handles := by
    intro r hr
    induction answers generalizing r with
    | nil => exact ⟨rfl, rfl, rfl⟩
    | cons a rest ih =>
      obtain ⟨hstep, hsame⟩ := answer_under hr present slot a
      obtain ⟨hrun, houtcomes, hkept⟩ := ih (r := (r.step (.answer slot a)).1) (hsame ▸ hr)
      rw [List.map_cons, outcomes, outcomes, hstep, houtcomes]
      refine ⟨?_, rfl, hkept.trans hsame⟩
      change ((r.under present).step (.answer slot a)).1.run _ = _
      rw [hstep]
      exact hrun
  obtain ⟨hbegin, hsame⟩ := begin_under hhandles present slot call
  obtain ⟨hrun, houtcomes, hkept⟩ :=
    hanswers (r := (s.step (.begin slot call)).1) (hsame ▸ hhandles)
  rw [calling, outcomes, outcomes, hbegin, houtcomes]
  refine ⟨?_, rfl, hkept.trans hsame⟩
  change ((s.under present).step (.begin slot call)).1.run _ = _
  rw [hbegin]
  exact hrun

end Under

/-- An iteration `b` goes on, and so does a stream `z` under a runtime. -/
structure Abreast (t : Schedule) (b z : Session α) : Prop where
  blocks : b.front = .blocking false
  streams : z.front = .stream []
  schedule : b.schedule = t
  same : z.schedule = t.under true

/-- An iteration `b` has ended with `last` and closed the cursor, unless that was closed already. A
stream `z` has ended too, and its task, if it is told the same, leaves the cursor the same. -/
structure Finished (t : Schedule) (closing : List Answer) (last : Result α) (b z : Session α) :
    Prop where
  ends : last = .none ∧ b.schedule = t ∨ ∃ cause, last = .error cause
  blocks : b.front = .blocking true
  streams : z.front = .ended
  closes : b.schedule = t.run (calling .blocking .close closing)
  calls : b.schedule.calls = []
  emptied : b.cursor.state.Over
  /-- What was held is given back, and the server's cursor is discarded as by any such call. -/
  ceases : t.cursor.Ceases b.cursor
  logs : (z.schedule.run (tasking t.tasks.length closing)).cursor.Logs
    (if t.cursor.state.closed = false ∧ t.cursor.state.id = 0 then [.closed t.cursor.config.ns]
      else []) b.cursor
  tasks : (z.schedule.run (tasking t.tasks.length closing)).tasks = b.schedule.tasks

theorem Finished.cleared {t : Schedule} {closing : List Answer} {last : Result α} {b z : Session α}
    (h : t.Finished closing last b z) {i : Nat} (hi : t.tasks.length = i) :
    let cleared := z.schedule.run (tasking i closing)
    cleared.cursor.ledger.wire = b.cursor.ledger.wire ∧ cleared.tasks = b.schedule.tasks := by
  subst hi
  exact ⟨h.logs.wire.symm, h.tasks⟩

end Schedule

namespace Session

/-- The same with a runtime, or without one. -/
def under (x : Session α) (present : Bool) : Session α :=
  { x with schedule := x.schedule.under present }

/-- The iteration of a cursor that is used by blocking calls goes on. Its call is told so much, and
so much the one that closes the cursor after an error. -/
def nextTold (x : Session α) (answers closing : List Answer) : Session α × Result α :=
  match x.front with
  | .blocking false =>
    let asked := { x with schedule := x.schedule.run (Schedule.calling .blocking .next answers) }
    match x.result (x.schedule.outcomes (Schedule.calling .blocking .next answers)).head? with
    | .batch items => (asked, .batch items)
    | .error cause =>
      ({ asked with
          front := .blocking true
          schedule := asked.schedule.run (Schedule.calling .blocking .close closing) },
        .error cause)
    | r => ({ asked with front := .blocking true }, r)
  | _ => (x, .none)

/-- The iteration goes on several times. -/
def iterated (x : Session α) (closing : List Answer) :
    List (List Answer) → Session α × List (Result α)
  | [] => (x, [])
  | answers :: rest =>
    let later := (x.nextTold answers closing).1.iterated closing rest
    (later.1, (x.nextTold answers closing).2 :: later.2)

/-- The iteration goes on so many times, and its calls are answered from the script. -/
def iterates (x : Session α) : Nat → Session α × List (Result α)
  | 0 => (x, [])
  | n + 1 =>
    let later := x.iterate.1.iterates n
    (later.1, x.iterate.2 :: later.2)

/-- The number of documents that a stream has ready. -/
def readyCount (x : Session α) : Nat :=
  match x.front with
  | .stream ready => ready.length
  | _ => 0

/-- Polls that tell the call of a stream so much and then take what it has handed out. -/
def pollsFor (x : Session α) (answers : List Answer) : List (List Answer) :=
  answers :: List.replicate (x.pollTold answers).1.readyCount []

/-- Polls that drain a stream whose calls are told so much. -/
def draining (x : Session α) : List (List Answer) → List (List Answer)
  | [] => []
  | answers :: rest => x.pollsFor answers ++ (x.polled (x.pollsFor answers)).1.draining rest

/-- The schedule after so many calls for documents. -/
def called (x : Session α) (told : List (List Answer)) : Schedule :=
  x.schedule.run (told.flatMap (Schedule.calling .blocking .next))

/-- The iteration has given so many batches. -/
structure Going (x : Session α) (told : List (List Answer)) (results : List (Result α))
    (b z : Session α) (batches : List (List α)) : Prop where
  abreast : (x.called told).Abreast b z
  calls : b.schedule.calls = []
  handles : b.schedule.handles = 1
  count : told.length = batches.length
  results : results = batches.map .batch

/-- The iteration has ended where the stream has let the cursor go. -/
structure Through (x : Session α) (closing : List Answer) (told : List (List Answer))
    (results : List (Result α)) (b z : Session α) (batches : List (List α)) (last : Result α)
    (t : Schedule) : Prop where
  blocks : b.front = .blocking true
  streams : z.front = .ended
  count : batches.length < told.length
  reached : t = x.called (told.take (batches.length + 1))
  calls : t.calls = []
  handles : t.handles = 1
  drops : z.schedule = ((t.under true).step .drop).1
  closes : b.schedule = t.run (Schedule.calling .blocking .close closing)
  ends : last = .none ∧ b.schedule = t ∨ ∃ cause, last = .error cause
  results : ∃ again, results = batches.map .batch ++ last :: List.replicate again .none

/-- An iteration and a stream that is drained, whose calls have been told the same. -/
structure Paired (x : Session α) (closing : List Answer) (told : List (List Answer))
    (results shown : List (Result α)) (b z : Session α) : Prop where
  reads : b.read = x.read ∧ z.read = x.read
  items : settled shown = results.flatMap Result.items
  stage : ∃ batches : List (List α), (∀ records ∈ batches, records ≠ []) ∧
    (x.Going told results b z batches ∨ ∃ last t, x.Through closing told results b z batches last t)

theorem polled_append (x : Session α) (polls more : List (List Answer)) :
    x.polled (polls ++ more) =
      (((x.polled polls).1.polled more).1,
        (x.polled polls).2 ++ ((x.polled polls).1.polled more).2) := by
  induction polls generalizing x with
  | nil => rfl
  | cons answers rest ih =>
    rw [List.cons_append, polled, ih]
    rfl

theorem nextTold_under {x : Session α} (hhandles : x.schedule.handles ≠ 0) (present : Bool)
    (answers closing : List Answer) :
    (x.under present).nextTold answers closing =
        ((x.nextTold answers closing).1.under present, (x.nextTold answers closing).2) ∧
      (x.nextTold answers closing).1.schedule.handles = x.schedule.handles := by
  obtain ⟨hrun, houtcomes, hkept⟩ :=
    Schedule.calling_under hhandles present .blocking .next answers
  obtain ⟨hclose, -, hclosed⟩ :=
    Schedule.calling_under (hkept ▸ hhandles) present .blocking .close closing
  have hresult : ∀ o, (x.under present).result o = x.result o := fun o => result_congr rfl o
  unfold nextTold
  rw [hresult]
  simp only [under]
  rw [hrun, houtcomes, hclose]
  split
  · split
    · exact ⟨rfl, hkept⟩
    · exact ⟨rfl, hclosed.trans hkept⟩
    · exact ⟨rfl, hkept⟩
  · exact ⟨rfl, rfl⟩

/-- An iteration takes no notice of a runtime. -/
theorem iterated_under {x : Session α} (hhandles : x.schedule.handles ≠ 0) (present : Bool)
    (closing : List Answer) (calls : List (List Answer)) :
    (x.under present).iterated closing calls =
      ((x.iterated closing calls).1.under present, (x.iterated closing calls).2) := by
  induction calls generalizing x with
  | nil => rfl
  | cons answers rest ih =>
    obtain ⟨hnext, hkept⟩ := nextTold_under hhandles present answers closing
    rw [iterated, iterated, hnext, ih (hkept ▸ hhandles)]

variable {x : Session α}

theorem polled_ready {ready : List α} (hfront : x.front = .stream ready) :
    x.polled (List.replicate ready.length []) =
      ({ x with front := .stream [] }, ready.map .item) := by
  induction ready generalizing x with
  | nil =>
    rw [← hfront]
    rfl
  | cons first rest ih =>
    obtain ⟨hpoll, -⟩ := pollTold_ready hfront []
    rw [List.length_cons, List.replicate_succ, polled, hpoll]
    have hlater := ih (x := { x with front := .stream rest }) rfl
    dsimp only
    rw [hlater]
    rfl

section Done

variable {answers : List Answer} {c : Cursor} {o : Outcome}
  (hcalls : x.schedule.calls = []) (hone : x.schedule.handles = 1)
  (hdone : Cursor.answered (x.schedule.cursor.next true false) answers = (c, .done o))

include hcalls hone hdone

theorem run_calling_done (slot : Slot) :
    x.schedule.run (Schedule.calling slot .next answers) = { x.schedule with cursor := c } ∧
      x.schedule.outcomes (Schedule.calling slot .next answers) = [o] := by
  have hfree := Schedule.waitingIn?_of_no_calls hcalls slot
  have hhandles : x.schedule.handles ≠ 0 := hone ▸ Nat.one_ne_zero
  have hended : Cursor.answered (Schedule.beginCall x.schedule.cursor .next) answers =
      (c, .done o) := hdone
  rw [Schedule.run_calling hfree hhandles, Schedule.outcomes_calling hfree hhandles, hended,
    Schedule.withCall_done]
  exact ⟨rfl, rfl⟩

theorem nextTold_eq (hfront : x.front = .blocking false) (closing : List Answer) :
    let asked : Session α := { x with schedule := { x.schedule with cursor := c } }
    x.nextTold answers closing =
      match x.result (some o) with
      | .batch records => (asked, .batch records)
      | .error cause =>
        ({ asked with
            front := .blocking true
            schedule := asked.schedule.run (Schedule.calling .blocking .close closing) },
          .error cause)
      | r => ({ asked with front := .blocking true }, r) := by
  obtain ⟨hrun, houtcomes⟩ := run_calling_done hcalls hone hdone .blocking
  unfold nextTold
  rw [hfront, houtcomes, hrun]
  rfl

variable (hfront : x.front = .stream [])

include hfront

theorem pollTold_eq :
    x.pollTold answers =
      flow { x with schedule := { x.schedule with cursor := c } } (x.result (some o)) := by
  obtain ⟨hrun, houtcomes⟩ := run_calling_done hcalls hone hdone .stream
  have hasks : x.asks answers = Schedule.calling .stream .next answers := by
    simp [asks, hfront, Schedule.waitingIn?_of_no_calls hcalls]
  unfold pollTold
  rw [hfront, hasks, houtcomes, hrun]
  rfl

/-- A stream that is drained shows the documents of a batch one by one. -/
theorem drain_batch {records : List α} (hresult : x.result (some o) = .batch records)
    (hsome : records ≠ []) :
    x.polled (x.pollsFor answers) =
      ({ x with schedule := { x.schedule with cursor := c } }, records.map .item) := by
  cases records with
  | nil => exact absurd rfl hsome
  | cons first rest =>
    have hpoll := pollTold_eq hcalls hone hdone hfront
    rw [hresult] at hpoll
    have hready : (x.pollTold answers).1.front = .stream rest := by
      rw [hpoll]
      rfl
    have hlater := polled_ready hready
    have hcount : (x.pollTold answers).1.readyCount = rest.length := by
      simp only [readyCount, hready]
    rw [pollsFor, hcount, polled, hlater, hpoll]
    simp [flow, hfront]

/-- It ends where there are no more, or where there is an error. -/
theorem drain_last {last : Result α} (hresult : x.result (some o) = last)
    (hlast : last = .none ∨ ∃ cause, last = .error cause) :
    x.polled (x.pollsFor answers) =
      (endStream { x with schedule := { x.schedule with cursor := c } }, [last]) := by
  have hpoll : x.pollTold answers =
      (endStream { x with schedule := { x.schedule with cursor := c } }, last) := by
    rw [pollTold_eq hcalls hone hdone hfront, hresult]
    exact flow_last _ hlast
  rw [pollsFor, polled, hpoll]
  rfl

end Done

theorem closed_of_none {s : State} {o : Outcome} (h : o.EndsCall s)
    (hnone : x.result (some o) = .none) : s.closed = true := by
  cases o with
  | nothing => exact h
  | batch documents =>
    cases hdecode : documents.mapM x.read with
    | ok records => simp [result, hdecode] at hnone
    | error cause => simp [result, hdecode] at hnone
  | _ => cases hnone

/-- A call of the iteration that shows something has ended. -/
theorem exists_done (hfront : x.front = .blocking false) (hcalls : x.schedule.calls = [])
    (hone : x.schedule.handles = 1) {answers closing : List Answer}
    (hshows : (x.nextTold answers closing).2.isPending = false) :
    ∃ c o, Cursor.answered (x.schedule.cursor.next true false) answers = (c, .done o) := by
  have hfree := Schedule.waitingIn?_of_no_calls hcalls .blocking
  have hhandles : x.schedule.handles ≠ 0 := hone ▸ Nat.one_ne_zero
  have houtcomes := Schedule.outcomes_calling hfree hhandles .next answers
  cases hended : Cursor.answered (x.schedule.cursor.next true false) answers with
  | mk c progress =>
    cases progress with
    | done o => exact ⟨c, o, rfl⟩
    | waiting p =>
      have hwaiting : Cursor.answered (Schedule.beginCall x.schedule.cursor .next) answers =
          (c, .waiting p) := hended
      have hnone : x.schedule.outcomes (Schedule.calling .blocking .next answers) = [] := by
        rw [houtcomes, hwaiting]
        rfl
      unfold nextTold at hshows
      rw [hfront, hnone] at hshows
      cases hshows

theorem nextTold_over (hfront : x.front = .blocking true) (answers closing : List Answer) :
    x.nextTold answers closing = (x, .none) := by
  simp only [nextTold, hfront]

theorem iterate_over (hfront : x.front = .blocking true) : x.iterate = (x, .none) := by
  simp [iterate, iterateBatches, hfront]

theorem iterated_over (hfront : x.front = .blocking true) (closing : List Answer)
    (calls : List (List Answer)) :
    x.iterated closing calls = (x, List.replicate calls.length .none) := by
  induction calls with
  | nil => rfl
  | cons answers rest ih =>
    rw [iterated, nextTold_over hfront, ih]
    rfl

theorem iterates_over (hfront : x.front = .blocking true) (n : Nat) :
    x.iterates n = (x, List.replicate n .none) := by
  induction n with
  | zero => rfl
  | succ n ih =>
    rw [iterates, iterate_over hfront, ih]
    rfl

theorem called_append (x : Session α) (told more : List (List Answer)) :
    x.called (told ++ more) =
      (x.called told).run (more.flatMap (Schedule.calling .blocking .next)) := by
  unfold called
  rw [List.flatMap_append, Schedule.run_append]

section Paired

variable {b z : Session α} {closing : List Answer} {told : List (List Answer)}
  {results shown : List (Result α)} {batches : List (List α)}

section Going

variable (hgoing : x.Going told results b z batches)

include hgoing

theorem Going.same : z.schedule = b.schedule.under true := by
  rw [hgoing.abreast.same, hgoing.abreast.schedule]

variable {answers : List Answer} {c : Cursor} {o : Outcome}
  (hdone : Cursor.answered (b.schedule.cursor.next true false) answers = (c, .done o))

include hdone

theorem Going.streaming :
    Cursor.answered (z.schedule.cursor.next true false) answers = (c, .done o) := by
  rw [hgoing.same]
  exact hdone

theorem Going.called_snoc : x.called (told ++ [answers]) = { b.schedule with cursor := c } := by
  rw [called_append, ← hgoing.abreast.schedule, List.flatMap_singleton]
  exact (run_calling_done hgoing.calls hgoing.handles hdone .blocking).1

variable (hreads : b.read = x.read ∧ z.read = x.read)
  (hitems : settled shown = results.flatMap Result.items)
  (hsome : ∀ records ∈ batches, records ≠ [])

include hreads hitems hsome

/-- Both go on with a batch. -/
theorem paired_batch {records : List α} (hresult : b.result (some o) = .batch records)
    (hrecords : records ≠ []) :
    x.Paired closing (told ++ [answers]) (results ++ [(b.nextTold answers closing).2])
      (shown ++ (z.polled (z.pollsFor answers)).2) (b.nextTold answers closing).1
      (z.polled (z.pollsFor answers)).1 := by
  have hsame := hgoing.same
  have hstreaming := hgoing.streaming hdone
  have hcalled := hgoing.called_snoc hdone
  obtain ⟨⟨hblocks, hstreams, -, -⟩, hcalls, hhandles, hcount, hresults⟩ := hgoing
  have hnext := nextTold_eq hcalls hhandles hdone hblocks closing
  have hread : z.result (some o) = .batch records :=
    (result_congr (hreads.2.trans hreads.1.symm) _).trans hresult
  have hdrain := drain_batch (hsame ▸ hcalls) (hsame ▸ hhandles) hstreaming hstreams hread hrecords
  rw [hresult] at hnext
  rw [hnext, hdrain]
  refine ⟨hreads, ?_, batches ++ [records], ?_, .inl ⟨⟨hblocks, hstreams, hcalled.symm, ?_⟩, hcalls,
    hhandles, ?_, ?_⟩⟩
  · rw [settled_append, hitems, List.flatMap_append]
    simp [settled, Result.items, Result.isPending]
  · intro read hmem
    obtain hbefore | hlast := List.mem_append.mp hmem
    · exact hsome read hbefore
    · exact List.mem_singleton.mp hlast ▸ hrecords
  · rw [hcalled, hsame]
    rfl
  · simp [hcount]
  · simp [hresults]

/-- Both end with the same. -/
theorem paired_last {last : Result α} (hresult : b.result (some o) = last)
    (hlast : last = .none ∧ c.state.closed = true ∨ ∃ cause, last = .error cause) :
    x.Paired closing (told ++ [answers]) (results ++ [(b.nextTold answers closing).2])
      (shown ++ (z.polled (z.pollsFor answers)).2) (b.nextTold answers closing).1
      (z.polled (z.pollsFor answers)).1 := by
  have hsame := hgoing.same
  have hstreaming := hgoing.streaming hdone
  have hcalled := hgoing.called_snoc hdone
  obtain ⟨⟨hblocks, hstreams, -, -⟩, hcalls, hhandles, hcount, hresults⟩ := hgoing
  let t : Schedule := { b.schedule with cursor := c }
  have hnext := nextTold_eq hcalls hhandles hdone hblocks closing
  have hread : z.result (some o) = last :=
    (result_congr (hreads.2.trans hreads.1.symm) _).trans hresult
  have hdrain := drain_last (hsame ▸ hcalls) (hsame ▸ hhandles) hstreaming hstreams hread
    (hlast.imp And.left id)
  obtain ⟨hshown, hover, hkept, hcloses, hends⟩ :
      (b.nextTold answers closing).2 = last ∧
      (b.nextTold answers closing).1.front = .blocking true ∧
      (b.nextTold answers closing).1.read = x.read ∧
      (b.nextTold answers closing).1.schedule =
        t.run (Schedule.calling .blocking .close closing) ∧
      (last = .none ∧ (b.nextTold answers closing).1.schedule = t ∨
        ∃ cause, last = .error cause) := by
    rw [hresult] at hnext
    rw [hnext]
    obtain ⟨rfl, hclosed⟩ | ⟨cause, rfl⟩ := hlast
    · have hstays := Schedule.run_close_of_closed (s := t) hcalls hhandles hclosed .blocking closing
      exact ⟨rfl, rfl, hreads.1, hstays.symm, .inl ⟨rfl, rfl⟩⟩
    · exact ⟨rfl, rfl, hreads.1, rfl, .inr ⟨cause, rfl⟩⟩
  rw [hdrain, hshown]
  refine ⟨⟨hkept, hreads.2⟩, ?_, batches, hsome, .inr ⟨last, t, hover, rfl, ?_, ?_, hcalls,
    hhandles, ?_, hcloses, hends, 0, ?_⟩⟩
  · obtain ⟨hone, hshows⟩ := items_last (hlast.imp And.left id)
    rw [settled_append, hitems, List.flatMap_append, hshows]
    simp [hone]
  · simp [hcount]
  · rw [List.take_of_length_le (by simp [hcount]), hcalled]
  · simp [endStream, perform, act, t, hsame, Schedule.under]
  · simp [hresults]

end Going

/-- Both show nothing more. -/
theorem paired_through {last : Result α} {t : Schedule} (hreads : b.read = x.read ∧ z.read = x.read)
    (hitems : settled shown = results.flatMap Result.items)
    (hsome : ∀ records ∈ batches, records ≠ [])
    (h : x.Through closing told results b z batches last t) (answers : List Answer) :
    x.Paired closing (told ++ [answers]) (results ++ [(b.nextTold answers closing).2])
      (shown ++ (z.polled (z.pollsFor answers)).2) (b.nextTold answers closing).1
      (z.polled (z.pollsFor answers)).1 := by
  obtain ⟨hblocks, hstreams, hcount, hreached, hcalls, hhandles, hdrops, hcloses, hlast, again,
    hresults⟩ := h
  obtain ⟨hpoll, -⟩ := pollTold_ended hstreams answers
  have hready : z.readyCount = 0 := by simp only [readyCount, hstreams]
  have hdrain : z.polled (z.pollsFor answers) = (z, [.none]) := by
    rw [pollsFor, hpoll, hready, polled, hpoll]
    rfl
  rw [nextTold_over hblocks, hdrain]
  refine ⟨hreads, ?_, batches, hsome, .inr ⟨last, t, hblocks, hstreams, ?_, ?_, hcalls, hhandles,
    hdrops, hcloses, hlast, again + 1, ?_⟩⟩
  · rw [settled_append, hitems, List.flatMap_append]
    rfl
  · rw [List.length_append]
    omega
  · rw [List.take_append_of_le_length (by omega)]
    exact hreached
  · simp [hresults, List.replicate_succ']

/-- What one call of the iteration does, and the polls that drain the stream. -/
theorem paired_next (h : x.Paired closing told results shown b z)
    (hsome : ∀ actions documents, .batch documents ∈ x.schedule.outcomes actions → documents ≠ [])
    {answers : List Answer} (hshows : (b.nextTold answers closing).2.isPending = false) :
    x.Paired closing (told ++ [answers]) (results ++ [(b.nextTold answers closing).2])
      (shown ++ (z.polled (z.pollsFor answers)).2) (b.nextTold answers closing).1
      (z.polled (z.pollsFor answers)).1 := by
  obtain ⟨hreads, hitems, batches, hbatches, hgoing | ⟨last, t, hthrough⟩⟩ := h
  · obtain ⟨c, o, hdone⟩ := exists_done hgoing.abreast.blocks hgoing.calls hgoing.handles hshows
    have hends := Cursor.endsCall_of_answered hdone
    obtain ⟨documents, records, rfl, hresult, -⟩ | hnone | ⟨cause, herror⟩ :=
      b.result_of_answers hends
    · have hmem : Outcome.batch documents ∈ x.schedule.outcomes
          (told.flatMap (Schedule.calling .blocking .next) ++
            Schedule.calling .blocking .next answers) := by
        rw [Schedule.outcomes_append]
        apply List.mem_append_right
        change _ ∈ (x.called told).outcomes _
        rw [← hgoing.abreast.schedule, (run_calling_done hgoing.calls hgoing.handles hdone _).2]
        exact List.mem_singleton_self _
      have hrecords : records ≠ [] := by
        apply ne_nil_of_result _ hresult
        rintro documents ⟨⟩
        exact hsome _ documents hmem
      exact paired_batch hgoing hdone hreads hitems hbatches hresult hrecords
    · exact paired_last hgoing hdone hreads hitems hbatches hnone
        (.inl ⟨rfl, closed_of_none hends hnone⟩)
    · exact paired_last hgoing hdone hreads hitems hbatches herror (.inr ⟨cause, rfl⟩)
  · exact paired_through hreads hitems hbatches hthrough answers

/-- The iteration and the stream that is drained stay side by side. -/
theorem paired_iterated (h : x.Paired closing told results shown b z)
    (hsome : ∀ actions documents, .batch documents ∈ x.schedule.outcomes actions → documents ≠ [])
    {calls : List (List Answer)}
    (hshows : ∀ r ∈ (b.iterated closing calls).2, r.isPending = false) :
    x.Paired closing (told ++ calls) (results ++ (b.iterated closing calls).2)
      (shown ++ (z.polled (z.draining calls)).2) (b.iterated closing calls).1
      (z.polled (z.draining calls)).1 := by
  induction calls generalizing told results shown b z with
  | nil =>
    simp only [iterated, draining, polled, List.append_nil]
    exact h
  | cons answers rest ih =>
    have hnext := paired_next h hsome (hshows _ List.mem_cons_self)
    have hlater := ih hnext fun r hr => hshows r (List.mem_cons_of_mem _ hr)
    rw [draining, polled_append, iterated]
    simpa [List.append_assoc] using hlater

/-- Where the iteration has closed the cursor the task of the stream, if it is told the same, leaves
the same. -/
theorem Through.finished {last : Result α} {t : Schedule} {r k : Except Error Unit}
    (h : x.Through (Cursor.clearing r k) told results b z batches last t)
    (hs : t.cursor.state.Sound 0) : t.Finished (Cursor.clearing r k) last b z := by
  obtain ⟨hblocks, hstreams, -, -, hcalls, hhandles, hdrops, hcloses, hlast, -⟩ := h
  have hclosed := hcloses.trans (Schedule.run_close_clearing hcalls hhandles .blocking r k)
  have hcursor : b.cursor = (Cursor.answered t.cursor.close (Cursor.clearing r k)).1 :=
    congrArg Schedule.cursor hclosed
  have hceases : t.cursor.Ceases b.cursor := hcursor ▸ (Cursor.ceases_close hs r k).2
  have hsame : b.cursor = ((t.under true).run
      (Schedule.calling .blocking .close (Cursor.clearing r k))).cursor := by
    have hhandles' : t.handles ≠ 0 := hhandles ▸ Nat.one_ne_zero
    rw [(Schedule.calling_under hhandles' true .blocking .close _).1, ← hcloses]
    rfl
  obtain ⟨hlogs, -, -⟩ := Schedule.logs_drop (s := t.under true) hs hcalls hhandles rfl .blocking
    (Cursor.clearing r k)
  obtain ⟨-, htasks⟩ := Schedule.ceases_drop (s := t.under true) hs hcalls hhandles rfl r k
  rw [← hsame, ← hdrops] at hlogs
  rw [← hdrops] at htasks
  refine ⟨hlast, hblocks, hstreams, hcloses, ?_, hceases.state, hceases, hlogs, ?_⟩
  · rw [hclosed]
    exact hcalls
  · rw [hclosed]
    exact htasks

theorem paired_start (hfront : x.front = .blocking false) (hcalls : x.schedule.calls = [])
    (hone : x.schedule.handles = 1) :
    x.Paired closing [] [] [] x (under { x with front := .stream [] } true) :=
  ⟨⟨rfl, rfl⟩, rfl, [], fun _ h => absurd h List.not_mem_nil,
    .inl ⟨⟨hfront, rfl, rfl, rfl⟩, hcalls, hone, rfl, rfl⟩⟩

end Paired

end Session

theorem Script.held_told {script : Script} (hheld : script.held = []) (r : Cursor × Progress)
    (fuel : Nat) : (script.told r fuel).2.held = [] := by
  induction fuel generalizing script r with
  | zero => exact hheld
  | succ fuel ih =>
    obtain ⟨c, p | o⟩ := r
    · obtain ⟨a, rest, ha, hrest, -⟩ := advances hheld c p
      rw [told_of_answer rfl ha]
      exact ih hrest _
    · rw [told_done script rfl]
      exact hheld

namespace Session

variable {x : Session α}

theorem nextTold_withScript (x : Session α) (script : Script) (answers closing : List Answer) :
    let y := x.nextTold answers closing
    nextTold { x with script := script } answers closing =
      ({ y.1 with script := script }, y.2) := by
  unfold nextTold
  dsimp only
  split
  · have hsame : ∀ o, result { x with script := script } o = x.result o := fun o =>
      result_congr (x := x) rfl o
    rw [hsame]
    split <;> rfl
  · rfl

theorem iterated_withScript (x : Session α) (script : Script) (closing : List Answer)
    (calls : List (List Answer)) :
    iterated { x with script := script } closing calls =
      ({ (x.iterated closing calls).1 with script := script }, (x.iterated closing calls).2) := by
  induction calls generalizing x with
  | nil => rfl
  | cons answers rest ih =>
    rw [iterated, nextTold_withScript, ih]
    rfl

/-- A script in which no gate is held tells a call of the iteration as much as it needs, and that is
all it does. How the call that closes the cursor is told matters only where the iteration ends. -/
theorem exists_iterate_eq (hfront : x.front = .blocking false) (hcalls : x.schedule.calls = [])
    (hone : x.schedule.handles = 1) (hheld : x.script.held = []) :
    ∃ answers r k rest,
      let y := x.nextTold answers (Cursor.clearing r k)
      x.iterate = ({ y.1 with script := rest }, y.2) ∧ y.2.isPending = false ∧
      (y.1.front = .blocking true ∨
        y.1.front = .blocking false ∧ y.1.schedule.calls = [] ∧ y.1.schedule.handles = 1 ∧
          rest.held = [] ∧ ∀ closing, x.nextTold answers closing = y) := by
  have hfree := Schedule.waitingIn?_of_no_calls hcalls .blocking
  have hhandles : x.schedule.handles ≠ 0 := hone ▸ Nat.one_ne_zero
  let q := x.schedule.cursor.next true false
  let answers := (x.script.told q x.script.bound).1
  let rest := (x.script.told q x.script.bound).2
  have hrest : rest.held = [] := Script.held_told hheld q _
  obtain ⟨o, ho⟩ := Script.told_next hheld x.schedule.cursor
  let c := (Cursor.answered q answers).1
  have hdone : Cursor.answered (x.schedule.cursor.next true false) answers = (c, .done o) :=
    Prod.ext rfl ho
  have hends := Cursor.endsCall_of_answered hdone
  let asked : Session α := { x with schedule := { x.schedule with cursor := c } }
  have hnext := nextTold_eq hcalls hone hdone hfront
  have hcall : x.callResult .blocking .next =
      ({ asked with script := rest }, x.result (some o)) := by
    have hcall : x.call .blocking .next = ({ asked with script := rest }, some o) := by
      refine (call_eq hfree hhandles .next).trans (Prod.ext ?_ (congrArg Progress.outcome? ho))
      exact congrArg (fun s => { x with schedule := s, script := rest })
        (run_calling_done hcalls hone hdone .blocking).1
    unfold callResult
    rw [hcall]
    rfl
  have hiterate : x.iterate = x.iterateBatches false := by
    simp only [iterate, hfront]
  obtain ⟨documents, records, -, hresult, -⟩ | hnone | ⟨cause, herror⟩ := x.result_of_answers hends
  · rw [hresult] at hnext hcall
    refine ⟨answers, .ok (), .ok (), rest, ?_⟩
    rw [hnext, hiterate, iterateBatches, hcall]
    exact ⟨rfl, rfl, .inr ⟨hfront, hcalls, hone, hrest, fun closing => hnext closing⟩⟩
  · rw [hnone] at hnext hcall
    refine ⟨answers, .ok (), .ok (), rest, ?_⟩
    rw [hnext, hiterate, iterateBatches, hcall]
    exact ⟨rfl, rfl, .inl rfl⟩
  · rw [herror] at hnext hcall
    let failed : Session α := { asked with script := rest, front := .blocking true }
    have hfree' : failed.schedule.waitingIn? .blocking = none := hfree
    obtain ⟨r, k, left, hclose⟩ := call_close hfree' hhandles hrest
    refine ⟨answers, r, k, left, ?_⟩
    rw [hnext, hiterate, iterateBatches, hcall]
    refine ⟨?_, rfl, .inl rfl⟩
    change ((failed.call .blocking .close).1, Result.error cause) = _
    rw [hclose]

/-- So does it tell all calls of the iteration. -/
theorem exists_iterates_eq (hfront : x.front = .blocking false) (hcalls : x.schedule.calls = [])
    (hone : x.schedule.handles = 1) (hheld : x.script.held = []) (n : Nat) :
    ∃ calls r k rest, calls.length = n ∧
      let y := x.iterated (Cursor.clearing r k) calls
      x.iterates n = ({ y.1 with script := rest }, y.2) ∧ ∀ r ∈ y.2, r.isPending = false := by
  induction n generalizing x with
  | zero => exact ⟨[], .ok (), .ok (), x.script, rfl, rfl, fun r h => absurd h List.not_mem_nil⟩
  | succ n ih =>
    obtain ⟨answers, r, k, rest, hiterate, hshows, hover | ⟨hgoes, hnone, hkept, hrest, hany⟩⟩ :=
      exists_iterate_eq hfront hcalls hone hheld
    · let y : Session α := { (x.nextTold answers (Cursor.clearing r k)).1 with script := rest }
      have hlater : y.iterates n = (y, List.replicate n .none) :=
        iterates_over (x := y) hover n
      refine ⟨answers :: List.replicate n [], r, k, rest, by simp, ?_⟩
      rw [iterated, iterated_over hover, List.length_replicate, iterates, hiterate, hlater]
      refine ⟨rfl, fun result hmem => ?_⟩
      obtain rfl | hmem := List.mem_cons.mp hmem
      · exact hshows
      · rw [List.eq_of_mem_replicate hmem]
        rfl
    · let y : Session α := { (x.nextTold answers (Cursor.clearing r k)).1 with script := rest }
      obtain ⟨calls, q, m, left, hcount, hlater, hmore⟩ := ih (x := y) hgoes hnone hkept hrest
      refine ⟨answers :: calls, q, m, left, by simp [hcount], ?_⟩
      rw [iterated_withScript] at hlater hmore
      rw [iterated, hany, iterates, hiterate, hlater]
      refine ⟨rfl, fun result hmem => ?_⟩
      obtain rfl | hmem := List.mem_cons.mp hmem
      · exact hshows
      · exact hmore result hmem

end Session

section Create

variable (reply : Reply) (options : Options) (server : ServerDescription)
  (connection : Option (Nat × ConnectionDescription)) (l : Ledger)

/-- A cursor on which no call waits is iterated by blocking calls, with a runtime or without, and a
stream of it is drained under a runtime, with calls that are told the same. Both give the same. -/
theorem iteration_agrees (runtime : Bool) (history : List Action) (read : Reader α)
    (script : Script) (handedOver : Bool) :
    let start := Schedule.opened reply options server connection l runtime
    let s := start.run history
    let x : Session α := ⟨s, .blocking false, read, script, handedOver⟩
    let stream : Session α := Session.under { x with front := .stream [] } true
    s.calls = [] → s.handles ≠ 0 →
    (∀ calls r k,
      let closing := Cursor.clearing r k
      let b := x.iterated closing calls
      let z := stream.polled (stream.draining calls)
      (∀ result ∈ b.2, result.isPending = false) →
      settled z.2 = b.2.flatMap Result.items ∧
      ∃ batches : List (List α), (∀ items ∈ batches, items ≠ []) ∧
        let asked := (calls.take (batches.length + 1)).flatMap (Schedule.calling .blocking .next)
        let t := s.run asked
        (b.2 = batches.map .batch ∧ t.Abreast b.1 z.1 ∨
        ∃ last again, b.2 = batches.map .batch ++ last :: List.replicate again .none ∧
          t.Finished closing last b.1 z.1 ∧
          (l.Fresh → l.Covers ↑(handed connection) →
            let actions := history ++ (asked ++ Schedule.calling .blocking .close closing)
            isFair (spare l connection) (start.moments actions) = true →
            b.1.cursor.state.held = [] ∧ ∀ q, b.1.cursor.ledger.owners q =
              (holdings ↑b.1.schedule.tasks).count q +
                othersAfter (spare l connection) (start.moments actions) q))) ∧
    (∀ y : Session α, y.front = .blocking true → y.iterate = (y, .none) ∧ ∀ closing calls,
      y.iterated closing calls = (y, List.replicate calls.length .none)) ∧
    (script.held = [] → ∀ n, ∃ calls r k rest, calls.length = n ∧
      let y := x.iterated (Cursor.clearing r k) calls
      x.iterates n = ({ y.1 with script := rest }, y.2) ∧
        ∀ result ∈ y.2, result.isPending = false) := by
  intro start s x stream hcalls hhandles
  have hone : s.handles = 1 := Schedule.handles_eq_one hhandles
  have hsome : ∀ actions documents, .batch documents ∈ s.outcomes actions → documents ≠ [] := by
    intro actions documents hmem
    apply Schedule.ne_nil_of_batch reply options server connection l runtime (history ++ actions)
    rw [Schedule.outcomes_append]
    exact List.mem_append_right _ hmem
  refine ⟨?_, fun y hfront => ⟨Session.iterate_over hfront, Session.iterated_over hfront⟩,
    fun hheld => Session.exists_iterates_eq (x := x) rfl hcalls hone hheld⟩
  intro calls r k closing b z hshows
  obtain ⟨-, hitems, batches, hbatches, hstage⟩ : x.Paired closing calls b.2 z.2 b.1 z.1 :=
    Session.paired_iterated (Session.paired_start (x := x) rfl hcalls hone) hsome hshows
  refine ⟨hitems, batches, hbatches, ?_⟩
  intro asked t
  obtain hgoing | ⟨last, reached, hthrough⟩ := hstage
  · have ht : t = x.called calls := by
      change x.called (calls.take _) = _
      rw [List.take_of_length_le (by have := hgoing.count; omega)]
    exact .inl ⟨hgoing.results, ht ▸ hgoing.abreast⟩
  · have hsame : reached = t := hthrough.reached
    rw [hsame] at hthrough
    have ht : t = start.run (history ++ asked) := (Schedule.run_append start history _).symm
    have hts : t.cursor.state.Sound 0 := by
      rw [ht]
      exact Schedule.sound_of_no_calls (ht ▸ hthrough.calls)
    have hfinished := hthrough.finished hts
    obtain ⟨again, hresults⟩ := hthrough.results
    refine .inr ⟨last, again, hresults, hfinished, fun hfresh hhanded => ?_⟩
    intro actions hfair
    have hrun : b.1.schedule = start.run actions := by
      rw [hfinished.closes, Schedule.run_append, Schedule.run_append]
    have hheld := hfinished.emptied.held
    have hnone := hfinished.calls
    refine ⟨hheld, ?_⟩
    unfold Session.cursor at hheld ⊢
    rw [hrun] at hnone hheld ⊢
    exact owners_of_held reply options server connection l runtime actions hfresh hhanded hfair
      hnone hheld

end Create

/-- The request for more documents fails. -/
def Session.failingCalls : List (List Answer) :=
  [[], [.checkout (.ok ()), .reply (.error (.invalidReply .noOutcome))], []]

/-- Without a runtime the iteration gives two documents, then the error, and then nothing, and so
does the stream under one; in the end both have sent the same, and nothing is left to do. -/
theorem iteration_agrees_failing :
    let s := (Schedule.opened
      ⟨⟨"db", "items"⟩, [[("n", .int32 1)], [("n", .int32 2)]], 7, .localhost⟩ .default .blank none
      Ledger.start false).run []
    let x : Session :=
      ⟨s, .blocking false, Record.decode .document, ⟨.localhost, [], [], 0, []⟩, false⟩
    let stream := Session.under { x with front := .stream [] } true
    let closing := Cursor.clearing (.ok ()) (.ok ())
    let b := x.iterated closing Session.failingCalls
    let z := stream.polled (stream.draining Session.failingCalls)
    let cleared := z.1.schedule.run (Schedule.tasking 0 closing)
    s.runtime = false ∧
    b.2 = [.batch [.document [("n", .int32 1)], .document [("n", .int32 2)]],
      .error (.invalidReply .noOutcome), .none] ∧
    settled z.2 = b.2.flatMap Result.items ∧ b.1.cursor.state.Over ∧
    cleared.cursor.ledger.wire = b.1.cursor.ledger.wire ∧ cleared.tasks = [] ∧
    b.1.cursor.state.held = [] := by
  intro s x stream closing b z cleared
  have hshown : b.2 = [.batch [.document [("n", .int32 1)], .document [("n", .int32 2)]],
      .error (.invalidReply .noOutcome), .none] := by cbv
  have hblocks : b.1.front = .blocking true := by cbv
  obtain ⟨hall, -, -⟩ :=
    iteration_agrees ⟨⟨"db", "items"⟩, [[("n", .int32 1)], [("n", .int32 2)]], 7, .localhost⟩
      .default .blank none Ledger.start false [] (Record.decode .document)
      ⟨.localhost, [], [], 0, []⟩ false rfl Nat.one_ne_zero
  have hsettled : ∀ result ∈ b.2, result.isPending = false := by
    rw [hshown]
    simp [Result.isPending]
  have hboth := hall Session.failingCalls (.ok ()) (.ok ())
  dsimp only at hboth
  generalize hiterated : Session.iterated _ _ _ = iterated at hboth
  generalize hdrained : Session.polled _ _ = drained at hboth
  have hb : iterated = b := hiterated.symm
  have hz : drained = z := hdrained.symm
  rw [hb, hz] at hboth
  obtain ⟨hitems, batches, -, ⟨-, hgoes⟩ | ⟨last, again, hresults, hfinished, hgiven⟩⟩ :=
    hboth hsettled
  · cases hblocks.symm.trans hgoes.blocks
  · have hcount : batches.length = 1 := by
      have hparts := hshown.symm.trans hresults
      obtain _ | ⟨first, _ | ⟨second, rest⟩⟩ := batches
      · obtain ⟨hfirst, -⟩ := List.cons.inj hparts
        have hlast := hfinished.ends
        rw [← hfirst] at hlast
        obtain ⟨hnone, -⟩ | ⟨cause, herror⟩ := hlast
        · cases hnone
        · cases herror
      · rfl
      · obtain ⟨-, hlater⟩ := List.cons.inj hparts
        obtain ⟨hsecond, -⟩ := List.cons.inj hlater
        cases hsecond
    rw [hcount] at hfinished hgiven
    obtain ⟨hheld, -⟩ := hgiven Ledger.fresh_start Ledger.covers_start (by decide +kernel)
    -- When the cursor is let go there is no other task.
    obtain ⟨hwire, htasks⟩ := hfinished.cleared (i := 0) (by decide +kernel)
    have hcleared : z.1.schedule.run
        (Schedule.tasking 0 (Cursor.clearing (.ok ()) (.ok ()))) = cleared := rfl
    rw [hcleared] at hwire htasks
    have hnone : b.1.schedule.tasks = [] := List.isEmpty_iff.mp (by decide +kernel)
    exact ⟨rfl, hshown, hitems, hfinished.emptied, hwire, htasks.trans hnone, hheld⟩

end ServerCursor
