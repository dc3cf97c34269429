import ServerCursor.Proofs.Asking
import ServerCursor.Proofs.Drop
import ServerCursor.Proofs.Readers

/-!
# A cursor as a stream

A stream hands out one document at a time. It makes a call for the next batch only when all
documents of the last one have been taken, and it ends with the first call that does not hand out
documents that can be read. What it does when it is polled depends on what its call is told in the
meantime (`Session.pollTold`); a script is one way of telling it (`Session.iterate_eq`).

The invariant of a stream is `Session.Streamed`: the documents that were shown and those that are
ready are, in order, what the calls have handed out.

When a stream has ended, or is let go at any time, it is as if its call had been given up and then
the handle of the cursor let go (`Session.LetsGo`). With a runtime the task that is spawned then
comes, whatever it is told, as far as a call would that closes the cursor; without one the cursor is
closed at once, and the server is not told (`Schedule.Forsakes`).

Main statement: `stream_flattens`. Its parts are `Session.Flattens`, `Session.LetsGo` and
`Schedule.Forsakes`.
-/

namespace ServerCursor

variable {α : Type}

/-- Whether nothing is known yet. -/
def Result.isPending : Result α → Bool
  | .pending => true
  | _ => false

/-- The documents of a batch one by one; anything else as it is. -/
def Result.items : Result α → List (Result α)
  | .batch items => items.map .item
  | r => [r]

/-- What was shown, without the polls that showed nothing. -/
def settled (results : List (Result α)) : List (Result α) :=
  results.filter fun r => !r.isPending

namespace Schedule

theorem cancel_of_free {s : Schedule} {slot : Slot} (h : s.waitingIn? slot = none) :
    s.cancel slot = s := by
  unfold cancel
  rw [h]

/-- It makes no difference whether the only call is given up before the last handle is let go or
after. -/
theorem cancel_dropHandle {s : Schedule} {slot : Slot} (hone : s.handles = 1)
    (hcalls : s.calls = [] ∨ ∃ p, s.calls = [(slot, p)]) :
    (s.cancel slot).calls = [] ∧ (s.cancel slot).handles = 1 ∧
      s.dropHandle.cancel slot = (s.cancel slot).dropHandle := by
  obtain hcalls | ⟨p, hcalls⟩ := hcalls
  · have hdropped : s.dropHandle.calls = [] := by
      rw [show s.dropHandle = (s.step .drop).1 from rfl, step_drop hcalls hone]
      exact hcalls
    rw [cancel_of_free (waitingIn?_of_no_calls hcalls slot),
      cancel_of_free (waitingIn?_of_no_calls hdropped slot)]
    exact ⟨hcalls, hone, rfl⟩
  · have hwaiting : s.waitingIn? slot = some p := by
      simp [waitingIn?, hcalls]
    have hdropped : s.dropHandle = { s with handles := 0 } := by
      simp [dropHandle, hone, letGo, hcalls]
    have hcancel : s.cancel slot = spawn { s with
        cursor := (s.cursor.cancel p s.runtime).1
        calls := [] } (s.cursor.cancel p s.runtime).2 := by
      unfold cancel
      rw [hwaiting, hcalls]
      simp [without, letGo, spawn, hone]
    have hwaiting' : ({ s with handles := 0 } : Schedule).waitingIn? slot = some p := hwaiting
    refine ⟨?_, ?_, ?_⟩
    · rw [hcancel]
      rfl
    · rw [hcancel]
      exact hone
    · rw [hdropped, hcancel, cancel, hwaiting']
      simp [hcalls, without, letGo, spawn, dropHandle, hone]

theorem forsaken_run {s : Schedule} (hhandles : s.handles = 0) (hcalls : s.calls = [])
    (later : List Action) : (s.run later).handles = 0 ∧ (s.run later).calls = [] := by
  induction later generalizing s with
  | nil => exact ⟨hhandles, hcalls⟩
  | cons a rest ih =>
    have hfree := fun slot => waitingIn?_of_no_calls hcalls slot
    have hnone : (s.step a).1.handles = 0 := by
      have hle := handles_step_le s a
      omega
    have hsame : (s.step a).1.calls = s.calls := by
      cases a with
      | begin slot call => simp [step, begin, hhandles]
      | answer slot a => simp [step, answer, hfree]
      | cancel slot => simp [step, cancel, hfree]
      | _ => exact calls_step rfl
    exact ih hnone (hsame.trans hcalls)

/-- A cursor has one handle as long as it has any. -/
theorem handles_eq_one {reply : Reply} {options : Options} {server : ServerDescription}
    {connection : Option (Nat × ConnectionDescription)} {l : Ledger} {runtime : Bool}
    {history : List Action} :
    let s := (opened reply options server connection l runtime).run history
    s.handles ≠ 0 → s.handles = 1 := by
  intro s hhandles
  have hle : s.handles ≤ 1 :=
    handles_run_le (opened reply options server connection l runtime) history
  omega

/-- While no call waits a cursor is at rest. -/
theorem sound_of_no_calls {reply : Reply} {options : Options} {server : ServerDescription}
    {connection : Option (Nat × ConnectionDescription)} {l : Ledger} {runtime : Bool}
    {history : List Action} :
    let s := (opened reply options server connection l runtime).run history
    s.calls = [] → s.cursor.state.Sound 0 := by
  intro s hcalls
  have hcoherent : s.Coherent :=
    coherent_run (sound_create reply options server connection l) runtime history
  have hsound := hcoherent.sound
  rw [flights_pending hcoherent.orderly, roundTrips, hcalls] at hsound
  exact hsound

end Schedule

namespace Session

/-- What calls that end so show, document by document. -/
def shown (x : Session α) (outcomes : List Outcome) : List (Result α) :=
  outcomes.flatMap fun o => (x.result (some o)).items

/-- How far the call of the stream has come; one begins if none waits. -/
def underway (x : Session α) : Cursor × Progress :=
  match x.schedule.waitingIn? .stream with
  | some p => (x.schedule.cursor, .waiting p)
  | none => x.schedule.cursor.next true false

/-- What a stream that is polled does with the cursor, if its call is told so much. -/
def asks (x : Session α) (answers : List Answer) : List Action :=
  match x.front with
  | .stream [] =>
    if (x.schedule.waitingIn? .stream).isSome then answers.map (.answer .stream)
    else Schedule.calling .stream .next answers
  | _ => []

/-- What a stream shows of what its call gives. -/
def flow (x : Session α) : Result α → Session α × Result α
  | .batch (first :: rest) => ({ x with front := .stream rest }, .item first)
  | .batch [] => (x, .pending)
  | .pending => (x, .pending)
  | .error cause => (x.endStream, .error cause)
  | _ => (x.endStream, .none)

/-- A stream is polled, and its call is told so much. -/
def pollTold (x : Session α) (answers : List Answer) : Session α × Result α :=
  match x.front with
  | .stream [] =>
    flow { x with schedule := x.schedule.run (x.asks answers) }
      (x.result (x.schedule.outcomes (x.asks answers)).head?)
  | _ => x.iterate

/-- A stream is polled several times, and its calls are told so much each time. -/
def polled (x : Session α) : List (List Answer) → Session α × List (Result α)
  | [] => (x, [])
  | answers :: rest =>
    let later := (x.pollTold answers).1.polled rest
    (later.1, (x.pollTold answers).2 :: later.2)

/-- What a stream that is polled several times does with the cursor. -/
def asked (x : Session α) : List (List Answer) → List Action
  | [] => []
  | answers :: rest => x.asks answers ++ (x.pollTold answers).1.asked rest

/-- The stream has shown some results, and has more documents ready. -/
structure Flows (x : Session α) (history : List Action) (results : List (Result α)) (y : Session α)
    (ready : List α) : Prop where
  front : y.front = .stream ready
  schedule : y.schedule = x.schedule.run history
  handles : y.schedule.handles = 1
  /-- A call waits only while nothing is ready. -/
  waits : y.schedule.calls = [] ∨ ready = [] ∧ ∃ p, y.schedule.calls = [(.stream, p)] ∧ p.Seeks
  items : ∃ records : List α, x.shown (x.schedule.outcomes history) = records.map .item ∧
    settled results ++ ready.map .item = records.map .item

/-- The stream has shown all its results, and has let the cursor go. -/
structure Ends (x : Session α) (history : List Action) (results : List (Result α)) (y : Session α) :
    Prop where
  front : y.front = .ended
  schedule : y.schedule = ((x.schedule.run history).step .drop).1
  handles : (x.schedule.run history).handles = 1
  calls : (x.schedule.run history).calls = []
  items : ∃ (records : List α) (last : Result α) (again : Nat),
    (last = .none ∨ ∃ cause, last = .error cause) ∧
    x.shown (x.schedule.outcomes history) = records.map .item ++ [last] ∧
    settled results = records.map .item ++ last :: List.replicate again .none

/-- How far a stream has come that was polled and did so much with the cursor. -/
structure Streamed (x : Session α) (history : List Action) (results : List (Result α))
    (y : Session α) : Prop where
  reads : y.read = x.read
  stage : (∃ ready, x.Flows history results y ready) ∨ x.Ends history results y

section Asks

variable {y : Session α} (hfront : y.front = .stream []) (hhandles : y.schedule.handles = 1)
  (hwaits : y.schedule.calls = [] ∨ ∃ p, y.schedule.calls = [(.stream, p)] ∧ p.Seeks)

include hwaits

theorem seeks_underway : Cursor.Seeks y.underway := by
  unfold underway
  obtain hcalls | ⟨p, hcalls, hseeks⟩ := hwaits
  · rw [Schedule.waitingIn?_of_no_calls hcalls]
    exact Cursor.seeks_next ..
  · have hwaiting : y.schedule.waitingIn? .stream = some p := by
      simp [Schedule.waitingIn?, hcalls]
    rw [hwaiting]
    exact hseeks

include hfront hhandles

theorem run_asks (answers : List Answer) :
    let r := Cursor.answered y.underway answers
    y.schedule.run (y.asks answers) =
        Schedule.withCall { y.schedule with calls := [] } .stream r ∧
      y.schedule.outcomes (y.asks answers) = r.2.outcome?.toList := by
  intro r
  let base : Schedule := { y.schedule with calls := [] }
  have hbase : base.handles ≠ 0 := hhandles ▸ Nat.one_ne_zero
  obtain hcalls | ⟨p, hcalls, -⟩ := hwaits
  · have hsame : base = y.schedule := by
      simp only [base, ← hcalls]
    have hfree := Schedule.waitingIn?_of_no_calls hcalls .stream
    have hasks : y.asks answers = Schedule.calling .stream .next answers := by
      simp [asks, hfront, hfree]
    have hunder : y.underway = Schedule.beginCall y.schedule.cursor .next := by
      simp only [underway, hfree]
      rfl
    rw [hasks, show r = Cursor.answered (Schedule.beginCall y.schedule.cursor .next) answers from
      congrArg (Cursor.answered · answers) hunder]
    change y.schedule.run _ = base.withCall _ _ ∧ _
    rw [hsame] at hbase ⊢
    exact ⟨Schedule.run_calling hfree hbase .next answers,
      Schedule.outcomes_calling hfree hbase .next answers⟩
  · have hwaiting : y.schedule.waitingIn? .stream = some p := by
      simp [Schedule.waitingIn?, hcalls]
    have hasks : y.asks answers = answers.map (.answer .stream) := by
      simp [asks, hfront, hwaiting]
    have hunder : y.underway = (y.schedule.cursor, .waiting p) := by
      simp only [underway, hwaiting]
    have hsame : y.schedule = base.withCall .stream (y.schedule.cursor, .waiting p) := by
      change y.schedule = { y.schedule with calls := [] ++ [(.stream, p)] }
      rw [List.nil_append, ← hcalls]
    have hfree : base.waitingIn? .stream = none := rfl
    have hstands := Schedule.stands_waiting hwaiting
    rw [hasks, show r = Cursor.answered (y.schedule.cursor, .waiting p) answers from
      congrArg (Cursor.answered · answers) hunder]
    constructor
    · rw [hsame]
      exact Schedule.run_withCall hfree hbase _ answers
    · exact Schedule.outcomes_answers hstands hbase answers

end Asks

variable {x y : Session α} {history : List Action} {results : List (Result α)}

theorem settled_append (results more : List (Result α)) :
    settled (results ++ more) = settled results ++ settled more :=
  List.filter_append ..

theorem shown_append (x : Session α) (outcomes more : List Outcome) :
    x.shown (outcomes ++ more) = x.shown outcomes ++ x.shown more :=
  List.flatMap_append

theorem items_last {last : Result α} (hlast : last = .none ∨ ∃ cause, last = .error cause) :
    last.items = [last] ∧ settled [last] = [last] := by
  obtain rfl | ⟨cause, rfl⟩ := hlast
  · exact ⟨rfl, rfl⟩
  · exact ⟨rfl, rfl⟩

theorem flow_last (x : Session α) {last : Result α}
    (hlast : last = .none ∨ ∃ cause, last = .error cause) : x.flow last = (x.endStream, last) := by
  obtain rfl | ⟨cause, rfl⟩ := hlast
  · rfl
  · rfl

theorem result_congr (hreads : y.read = x.read) (o : Option Outcome) : y.result o = x.result o := by
  unfold result
  rw [hreads]

theorem pollTold_ready {first : α} {rest : List α}
    (hfront : x.front = .stream (first :: rest)) (answers : List Answer) :
    x.pollTold answers = ({ x with front := .stream rest }, .item first) ∧
      x.asks answers = [] := by
  simp only [pollTold, asks, iterate, hfront, and_self]

theorem pollTold_ended (hfront : x.front = .ended) (answers : List Answer) :
    x.pollTold answers = (x, .none) ∧ x.asks answers = [] := by
  simp only [pollTold, asks, iterate, hfront, and_self]

theorem pollTold_of_asking (hfront : y.front = .stream []) (hhandles : y.schedule.handles = 1)
    (hwaits : y.schedule.calls = [] ∨ ∃ p, y.schedule.calls = [(.stream, p)] ∧ p.Seeks)
    (answers : List Answer) :
    y.pollTold answers = flow { y with schedule := y.schedule.run (y.asks answers) }
      (y.result (Cursor.answered y.underway answers).2.outcome?) := by
  obtain ⟨-, houtcomes⟩ := run_asks hfront hhandles hwaits answers
  unfold pollTold
  rw [hfront, houtcomes]
  cases (Cursor.answered y.underway answers).2.outcome? <;> rfl

/-- A call for documents shows documents, or that there are no more, or an error. -/
theorem result_of_answers (x : Session α) {s : State} {o : Outcome} (h : o.EndsCall s) :
    (∃ documents records, o = .batch documents ∧ x.result (some o) = .batch records ∧
      documents.mapM x.read = .ok records) ∨
    x.result (some o) = .none ∨ ∃ cause, x.result (some o) = .error cause := by
  cases o with
  | batch documents =>
    cases hdecode : documents.mapM x.read with
    | ok records => exact .inl ⟨documents, records, rfl, by simp [result, hdecode], hdecode⟩
    | error cause => exact .inr (.inr ⟨.decode cause, by simp [result, hdecode]⟩)
  | nothing => exact .inr (.inl rfl)
  | failed cause => exact .inr (.inr ⟨cause, rfl⟩)
  | closed => exact h.elim
  | cleared => exact h.elim

section Flow

variable {z : Session α} {asked : List Action} {records : List α} (hreads : z.read = x.read)
  (hschedule : z.schedule = x.schedule.run asked) (hhandles : z.schedule.handles = 1)
  (hsettled : settled results = records.map .item)

include hreads hschedule hhandles hsettled

/-- A stream goes on with the documents of a batch. -/
theorem streamed_batch (hfront : z.front = .stream []) (hcalls : z.schedule.calls = [])
    {read : List α} (hshown : x.shown (x.schedule.outcomes asked) =
      records.map .item ++ (Result.batch read).items) :
    x.Streamed asked (results ++ [(z.flow (.batch read)).2]) (z.flow (.batch read)).1 := by
  change _ = _ ++ read.map Result.item at hshown
  rw [← List.map_append] at hshown
  cases read with
  | nil =>
    refine ⟨hreads, .inl ⟨[], hfront, hschedule, hhandles, .inl hcalls, _, hshown, ?_⟩⟩
    rw [settled_append, hsettled]
    simp [settled, flow, Result.isPending]
  | cons first rest =>
    refine ⟨hreads, .inl ⟨rest, rfl, hschedule, hhandles, .inl hcalls, _, hshown, ?_⟩⟩
    rw [settled_append, hsettled]
    simp [settled, flow, Result.isPending]

/-- It ends where there are no more, or where there is an error. -/
theorem streamed_last (hcalls : z.schedule.calls = []) {last : Result α}
    (hlast : last = .none ∨ ∃ cause, last = .error cause)
    (hshown : x.shown (x.schedule.outcomes asked) = records.map .item ++ last.items) :
    x.Streamed asked (results ++ [(z.flow last).2]) (z.flow last).1 := by
  obtain ⟨hitems, hshows⟩ := items_last hlast
  have hended : z.endStream.schedule = ((x.schedule.run asked).step .drop).1 :=
    congrArg (fun s => (Schedule.step s .drop).1) hschedule
  rw [hitems] at hshown
  rw [flow_last z hlast]
  refine ⟨hreads, .inr ⟨rfl, hended, hschedule ▸ hhandles, hschedule ▸ hcalls, records, last, 0,
    hlast, hshown, ?_⟩⟩
  rw [settled_append, hsettled, hshows]
  rfl

end Flow

/-- The call of a stream is told so much, and goes on or ends. -/
theorem streamed_flow {z : Session α} {more : List Action} {records : List α}
    {c : Cursor} {progress : Progress} (hreads : z.read = x.read) (hfront : z.front = .stream [])
    (hschedule : z.schedule = x.schedule.run (history ++ more)) (hhandles : z.schedule.handles = 1)
    (hcalls : z.schedule.calls = (progress.point?.map (Slot.stream, ·)).toList)
    (houtcomes : x.schedule.outcomes (history ++ more) =
      x.schedule.outcomes history ++ progress.outcome?.toList)
    (hshown : x.shown (x.schedule.outcomes history) = records.map .item)
    (hsettled : settled results = records.map .item) (hseeks : Cursor.Seeks (c, progress)) :
    x.Streamed (history ++ more) (results ++ [(z.flow (x.result progress.outcome?)).2])
      (z.flow (x.result progress.outcome?)).1 := by
  cases progress with
  | waiting p =>
    have hnothing : x.schedule.outcomes (history ++ more) = x.schedule.outcomes history :=
      houtcomes.trans (List.append_nil _)
    refine ⟨hreads, .inl ⟨[], hfront, hschedule, hhandles, .inr ⟨rfl, p, hcalls, hseeks⟩, records,
      hnothing ▸ hshown, ?_⟩⟩
    rw [settled_append, hsettled]
    exact (List.append_nil _).trans (List.append_nil _)
  | done o =>
    have hmore : x.shown (x.schedule.outcomes (history ++ more)) =
        records.map .item ++ (x.result (some o)).items := by
      rw [houtcomes, shown_append, hshown]
      simp [shown, Progress.outcome?]
    change x.Streamed _ (results ++ [(z.flow (x.result (some o))).2]) (z.flow (x.result (some o))).1
    obtain ⟨documents, read, -, hresult, -⟩ | hnone | ⟨cause, herror⟩ := x.result_of_answers hseeks
    · rw [hresult] at hmore ⊢
      exact streamed_batch hreads hschedule hhandles hsettled hfront hcalls hmore
    · rw [hnone] at hmore ⊢
      exact streamed_last hreads hschedule hhandles hsettled hcalls (.inl rfl) hmore
    · rw [herror] at hmore ⊢
      exact streamed_last hreads hschedule hhandles hsettled hcalls (.inr ⟨cause, rfl⟩) hmore

theorem Streamed.asking (h : x.Streamed history results y) (hfront : y.front = .stream []) :
    y.schedule = x.schedule.run history ∧ y.schedule.handles = 1 ∧
      (y.schedule.calls = [] ∨ ∃ p, y.schedule.calls = [(.stream, p)] ∧ p.Seeks) := by
  obtain ⟨-, ⟨ready, -, hschedule, hhandles, hwaits, -⟩ | hends⟩ := h
  · exact ⟨hschedule, hhandles, hwaits.imp id And.right⟩
  · cases hends.front.symm.trans hfront

theorem streamed_pollTold (h : x.Streamed history results y) (answers : List Answer) :
    x.Streamed (history ++ y.asks answers) (results ++ [(y.pollTold answers).2])
      (y.pollTold answers).1 := by
  have hasking := h.asking
  obtain ⟨hreads, ⟨ready, hfront, hschedule, hhandles, hwaits, records, hshown, hsettled⟩ |
    ⟨hfront, hschedule, hhandles, hcalls, records, last, again, hlast, hshown, hsettled⟩⟩ := h
  · cases ready with
    | cons first rest =>
      obtain ⟨hpoll, hasks⟩ := pollTold_ready hfront answers
      have hcalls : y.schedule.calls = [] := by
        obtain hcalls | ⟨hnil, -⟩ := hwaits
        · exact hcalls
        · cases hnil
      rw [hasks, hpoll, List.append_nil]
      refine ⟨hreads, .inl ⟨rest, rfl, hschedule, hhandles, .inl hcalls, records, hshown, ?_⟩⟩
      rw [settled_append, ← hsettled]
      simp [settled, Result.isPending]
    | nil =>
      obtain ⟨-, -, hwaits'⟩ := hasking hfront
      obtain ⟨hrun, houtcomes⟩ := run_asks hfront hhandles hwaits' answers
      have hseeks := Cursor.seeks_answered (seeks_underway hwaits') answers
      rw [pollTold_of_asking hfront hhandles hwaits', result_congr hreads]
      refine streamed_flow hreads hfront ?_ ?_ ?_ ?_ hshown ?_ hseeks
      · rw [Schedule.run_append, ← hschedule]
      · change (y.schedule.run _).handles = 1
        rw [hrun]
        exact hhandles
      · change (y.schedule.run _).calls = _
        rw [hrun]
        rfl
      · rw [Schedule.outcomes_append, ← hschedule, houtcomes]
      · rw [← hsettled]
        exact (List.append_nil _).symm
  · obtain ⟨hpoll, hasks⟩ := pollTold_ended hfront answers
    rw [hasks, hpoll, List.append_nil]
    refine ⟨hreads, .inr ⟨hfront, hschedule, hhandles, hcalls, records, last, again + 1, hlast,
      hshown, ?_⟩⟩
    rw [settled_append, hsettled, List.replicate_succ']
    simp [settled, Result.isPending]

theorem streamed_polled (h : x.Streamed history results y) (polls : List (List Answer)) :
    x.Streamed (history ++ y.asked polls) (results ++ (y.polled polls).2) (y.polled polls).1 := by
  induction polls generalizing history results y with
  | nil =>
    rw [asked, polled, List.append_nil, List.append_nil]
    exact h
  | cons answers rest ih =>
    have hlater := ih (streamed_pollTold h answers)
    rw [List.append_assoc, List.append_assoc] at hlater
    exact hlater

theorem Streamed.withScript (h : x.Streamed history results y) (script : Script) :
    x.Streamed history results { y with script := script } := by
  obtain ⟨hreads, ⟨ready, hflows⟩ | hends⟩ := h
  · exact ⟨hreads, .inl ⟨ready, hflows.front, hflows.schedule, hflows.handles, hflows.waits,
      hflows.items⟩⟩
  · exact ⟨hreads, .inr ⟨hends.front, hends.schedule, hends.handles, hends.calls, hends.items⟩⟩

theorem streamed_start (hfront : x.front = .stream []) (hcalls : x.schedule.calls = [])
    (hone : x.schedule.handles = 1) : x.Streamed [] [] x :=
  ⟨rfl, .inl ⟨[], hfront, rfl, hone, .inl hcalls, [], rfl, rfl⟩⟩

/-- While a document is ready, and once a stream has ended, a poll leaves the cursor alone. -/
theorem schedule_pollTold (h : x.Streamed history results y) (answers : List Answer) :
    y.front = .stream [] ∧ settled results = x.shown (x.schedule.outcomes history) ∨
      y.asks answers = [] ∧ (y.pollTold answers).1.schedule = y.schedule ∧
        (y.pollTold answers).2.isPending = false := by
  obtain ⟨-, ⟨ready, hfront, -, -, -, records, hshown, hsettled⟩ | hends⟩ := h
  · cases ready with
    | nil =>
      refine .inl ⟨hfront, ?_⟩
      rw [hshown, ← hsettled]
      exact (List.append_nil _).symm
    | cons first rest =>
      obtain ⟨hpoll, hasks⟩ := pollTold_ready hfront answers
      rw [hpoll]
      exact .inr ⟨hasks, rfl, rfl⟩
  · obtain ⟨hpoll, hasks⟩ := pollTold_ended hends.front answers
    rw [hpoll]
    exact .inr ⟨hasks, rfl, rfl⟩

/-- What a stream does with a cursor is to call for documents again and again. -/
theorem exists_asked_eq (h : x.Streamed history results y) (polls : List (List Answer)) :
    ∃ (answers : List Answer) (calls : List (List Answer)), y.asked polls =
      answers.map (.answer .stream) ++ calls.flatMap (Schedule.calling .stream .next) ∧
        (y.schedule.waitingIn? .stream = none → answers = []) := by
  induction polls generalizing history results y with
  | nil => exact ⟨[], [], rfl, fun _ => rfl⟩
  | cons answers rest ih =>
    obtain ⟨more, calls, hlater, hfree⟩ := ih (streamed_pollTold h answers)
    rw [asked, hlater]
    obtain ⟨hfront, -⟩ | ⟨hasks, hsame, -⟩ := schedule_pollTold h answers
    · cases hwaiting : y.schedule.waitingIn? .stream with
      | none =>
        have hasks : y.asks answers = Schedule.calling .stream .next answers := by
          simp [asks, hfront, hwaiting]
        refine ⟨[], (answers ++ more) :: calls, ?_, fun _ => rfl⟩
        simp [hasks, Schedule.calling]
      | some p =>
        have hasks : y.asks answers = answers.map (.answer .stream) := by
          simp [asks, hfront, hwaiting]
        refine ⟨answers ++ more, calls, by simp [hasks], ?_⟩
        intro hnone
        cases hnone
    · rw [hsame] at hfree
      exact ⟨more, calls, by rw [hasks, List.nil_append], hfree⟩

/-- When a stream is let go, its request is given up, and the cursor with it. A stream that has
ended has done so before. -/
theorem drop_streamed (h : x.Streamed history results y) :
    let t := x.schedule.run (history ++ [.cancel .stream])
    t.calls = [] ∧ t.handles = 1 ∧ y.drop.1.schedule = (t.step .drop).1 ∧
      (y.front = .ended → y.schedule = (t.step .drop).1) := by
  intro t
  obtain ⟨-, ⟨ready, hfront, hschedule, hhandles, hwaits, -⟩ |
    ⟨hfront, hschedule, hhandles, hcalls, -⟩⟩ := h
  · have ht : t = y.schedule.cancel .stream := by
      change x.schedule.run _ = _
      rw [Schedule.run_append, ← hschedule]
      rfl
    have hdrop : y.drop.1.schedule = y.schedule.dropHandle.cancel .stream := by
      simp only [drop, hfront]
      rfl
    have honly : y.schedule.calls = [] ∨ ∃ p, y.schedule.calls = [(.stream, p)] :=
      hwaits.imp id fun ⟨_, p, hp, _⟩ => ⟨p, hp⟩
    obtain ⟨hcalls, hhandles', hsame⟩ := Schedule.cancel_dropHandle hhandles honly
    rw [ht, hdrop]
    refine ⟨hcalls, hhandles', hsame, fun hended => ?_⟩
    rw [hfront] at hended
    cases hended
  · have hfree := Schedule.waitingIn?_of_no_calls hcalls .stream
    have ht : t = x.schedule.run history := by
      change x.schedule.run _ = _
      rw [Schedule.run_append]
      exact Schedule.cancel_of_free hfree
    have hdrop : y.drop.1.schedule = y.schedule := by
      simp only [drop, hfront]
    rw [ht, hdrop]
    exact ⟨hcalls, hhandles, hschedule, fun _ => hschedule⟩

/-- What the script tells the call of a stream that is polled, and what is left of the script. -/
def heard (x : Session α) : List Answer × Script :=
  match x.front with
  | .stream [] => x.script.told x.underway x.script.bound
  | _ => ([], x.script)

section Asking

variable (hfront : y.front = .stream []) (hhandles : y.schedule.handles = 1)
  (hwaits : y.schedule.calls = [] ∨ ∃ p, y.schedule.calls = [(.stream, p)] ∧ p.Seeks)

include hfront hhandles hwaits

/-- The call of a stream is answered from the script as far as possible. -/
theorem asking_eq :
    (if (y.schedule.waitingIn? .stream).isSome then y.drive .stream y.script.bound
      else y.call .stream .next) =
      ({ y with
          schedule := y.schedule.run (y.asks y.heard.1)
          script := y.heard.2 },
        (Cursor.answered y.underway y.heard.1).2.outcome?) := by
  have hone : y.schedule.handles ≠ 0 := hhandles ▸ Nat.one_ne_zero
  have hheard : y.heard = y.script.told y.underway y.script.bound := by
    simp only [heard, hfront]
  obtain ⟨hrun, -⟩ := run_asks hfront hhandles hwaits y.heard.1
  obtain hcalls | ⟨p, hcalls, -⟩ := hwaits
  · have hfree := Schedule.waitingIn?_of_no_calls hcalls .stream
    have hunder : y.underway = Schedule.beginCall y.schedule.cursor .next := by
      simp only [underway, hfree]
      rfl
    have hasks : ∀ answers, y.asks answers = Schedule.calling .stream .next answers := by
      intro answers
      simp [asks, hfront, hfree]
    rw [hfree, hasks, hheard, hunder]
    exact call_eq hfree hone .next
  · have hwaiting : y.schedule.waitingIn? .stream = some p := by
      simp [Schedule.waitingIn?, hcalls]
    have hunder : y.underway = (y.schedule.cursor, .waiting p) := by
      simp only [underway, hwaiting]
    let base : Session α := { y with schedule := { y.schedule with calls := [] } }
    have hsame : y = base.withCall .stream (y.schedule.cursor, .waiting p) y.script := by
      change y = { y with schedule := { y.schedule with calls := [] ++ [(.stream, p)] } }
      rw [List.nil_append, ← hcalls]
    have hbase : base.schedule.waitingIn? .stream = none := rfl
    have hdrive := drive_eq hbase hone y.schedule.cursor p y.script y.script.bound
    rw [← hsame] at hdrive
    rw [hwaiting, hrun, hheard, hunder]
    exact hdrive

end Asking

theorem ne_nil_of_mapM {read : Reader α} {documents : List Document} {records : List α}
    (h : documents.mapM read = .ok records)
    (hsome : documents ≠ []) : records ≠ [] := by
  have hlength := (Decode.mapM_eq_ok_iff.mp h).length_eq
  intro hnil
  rw [hnil] at hlength
  exact hsome (List.eq_nil_of_length_eq_zero hlength)

theorem ne_nil_of_result {o : Outcome} (hsome : ∀ documents, o = .batch documents → documents ≠ [])
    {records : List α} (h : y.result (some o) = .batch records) : records ≠ [] := by
  cases o with
  | batch documents =>
    cases hdecode : documents.mapM y.read with
    | ok read =>
      simp only [result, hdecode] at h
      cases h
      exact ne_nil_of_mapM hdecode (hsome documents rfl)
    | error cause => simp [result, hdecode] at h
  | _ => cases h

/-- A poll shows nothing only while the call of the stream waits. -/
theorem isSome_of_pending (h : x.Streamed history results y) {answers : List Answer}
    (hsome : y.front = .stream [] → ∀ documents,
      (Cursor.answered y.underway answers).2 = .done (.batch documents) → documents ≠ [])
    (hpending : (y.pollTold answers).2.isPending = true) :
    ((y.pollTold answers).1.schedule.waitingIn? .stream).isSome = true := by
  obtain ⟨hfront, -⟩ | ⟨-, -, hshows⟩ := schedule_pollTold h answers
  · obtain ⟨-, hhandles, hwaits⟩ := h.asking hfront
    obtain ⟨hrun, -⟩ := run_asks hfront hhandles hwaits answers
    have hseeks := Cursor.seeks_answered (seeks_underway hwaits) answers
    rw [pollTold_of_asking hfront hhandles hwaits] at hpending ⊢
    cases hended : (Cursor.answered y.underway answers).2 with
    | waiting p =>
      change ((y.schedule.run (y.asks answers)).waitingIn? .stream).isSome = true
      rw [hrun, Schedule.waitingIn?_withCall rfl, hended]
      rfl
    | done o =>
      rw [hended] at hpending
      change (flow _ (y.result (some o))).2.isPending = true at hpending
      obtain ⟨documents, records, rfl, hresult, -⟩ | hnone | ⟨cause, herror⟩ :=
        y.result_of_answers (hseeks.ends hended)
      · have hrecords := ne_nil_of_result
          (fun documents h => hsome hfront documents (hended.trans (congrArg _ h))) hresult
        rw [hresult] at hpending
        cases records with
        | nil => exact absurd rfl hrecords
        | cons first rest => cases hpending
      · rw [hnone] at hpending
        cases hpending
      · rw [herror] at hpending
        cases hpending
  · rw [hshows] at hpending
    cases hpending

/-- A script tells the calls of a stream something, and that is all it does. -/
theorem iterate_eq (h : x.Streamed history results y)
    (hsome : y.front = .stream [] → ∀ documents,
      (Cursor.answered y.underway y.heard.1).2 = .done (.batch documents) → documents ≠ []) :
    y.iterate = ({ (y.pollTold y.heard.1).1 with script := y.heard.2 },
      (y.pollTold y.heard.1).2) := by
  have hasking := h.asking
  obtain ⟨hreads, ⟨ready, hfront, -⟩ | hends⟩ := h
  · cases ready with
    | cons first rest => simp [iterate, pollTold, heard, hfront]
    | nil =>
      obtain ⟨-, hhandles, hwaits⟩ := hasking hfront
      have hpoll : y.iterate = y.pollStream (2 * y.script.replies.length + 7 + 1) := by
        unfold iterate
        rw [hfront]
        rfl
      rw [hpoll, pollStream, asking_eq hfront hhandles hwaits,
        pollTold_of_asking hfront hhandles hwaits]
      cases hended : (Cursor.answered y.underway y.heard.1).2 with
      | waiting p => rfl
      | done o =>
        have hread : ∀ records, y.result (some o) = .batch records → records ≠ [] := by
          intro records hresult
          apply ne_nil_of_result _ hresult
          intro documents hbatch
          exact hsome hfront documents (hended.trans (congrArg _ hbatch))
        let z : Session α :=
          { y with schedule := y.schedule.run (y.asks y.heard.1), script := y.heard.2 }
        have hshown : z.result (Progress.done o).outcome? = y.result (some o) :=
          result_congr (y := z) rfl _
        have hsame : y.result (Progress.done o).outcome? = y.result (some o) := rfl
        dsimp only
        rw [hshown, hsame]
        cases hresult : y.result (some o) with
        | batch records =>
          cases records with
          | nil => exact absurd rfl (hread [] hresult)
          | cons first rest => rfl
        | _ => rfl
  · have hfront := hends.front
    have hheard : y.heard = ([], y.script) := by simp only [heard, hfront]
    have hiterate : y.iterate = (y, .none) := by simp only [iterate, hfront]
    rw [(pollTold_ended hfront _).1, hheard, hiterate]

/-- What a stream has shown that has been polled, and what the next poll does. -/
structure Flattens (x : Session α) (polls : List (List Answer)) : Prop where
  /-- What it does with the cursor is to call for documents again and again. -/
  calls : ∃ calls : List (List Answer),
    x.asked polls = calls.flatMap (Schedule.calling .stream .next)
  /-- What it has shown and what it has ready is what these calls have handed out. A call that finds
  no more documents, or fails, or whose batch cannot be read, is shown as the last thing. -/
  items : ∃ records : List α,
    (∃ ready, (x.polled polls).1.front = .stream ready ∧
      x.shown (x.schedule.outcomes (x.asked polls)) = records.map .item ∧
      settled (x.polled polls).2 ++ ready.map .item = records.map .item) ∨
    ∃ last again, (x.polled polls).1.front = .ended ∧
      (last = .none ∨ ∃ cause, last = .error cause) ∧
      x.shown (x.schedule.outcomes (x.asked polls)) = records.map .item ++ [last] ∧
      settled (x.polled polls).2 = records.map .item ++ last :: List.replicate again .none
  /-- A poll shows nothing only while a call waits. -/
  waits : ∀ answers,
    let z := (x.polled polls).1.pollTold answers
    z.2.isPending = true → (z.1.schedule.waitingIn? .stream).isSome = true
  /-- If a poll sends anything, all documents before were taken. -/
  taken : ∀ answers,
    let z := (x.polled polls).1.pollTold answers
    z.1.cursor.ledger.messages ≠ (x.polled polls).1.cursor.ledger.messages →
    settled (x.polled polls).2 = x.shown (x.schedule.outcomes (x.asked polls))
  /-- A script is one way to tell the calls what they are told. -/
  script : ∀ told : Script,
    let z : Session α := { (x.polled polls).1 with script := told }
    z.iterate = ({ (z.pollTold z.heard.1).1 with script := z.heard.2 }, (z.pollTold z.heard.1).2)

/-- A stream that ends or is let go leaves its cursor as if its call had been given up, which gives
such a schedule, and then the handle let go. -/
structure LetsGo (y : Session α) (t : Schedule) : Prop where
  calls : t.calls = []
  drop : y.drop.1.schedule = (t.step .drop).1
  ended : y.front = .ended → y.schedule = y.drop.1.schedule

theorem flattens_of_streamed {polls : List (List Answer)} (hfront : x.front = .stream [])
    (hcalls : x.schedule.calls = []) (hone : x.schedule.handles = 1)
    (hsome : (x.polled polls).1.front = .stream [] → ∀ answers documents,
      (Cursor.answered (x.polled polls).1.underway answers).2 = .done (.batch documents) →
        documents ≠ []) : x.Flattens polls := by
  have hstart := streamed_start hfront hcalls hone
  have hstreamed := streamed_polled hstart polls
  obtain ⟨answers, calls, hasked, hnone⟩ := exists_asked_eq hstart polls
  rw [hnone (Schedule.waitingIn?_of_no_calls hcalls .stream), List.map_nil,
    List.nil_append] at hasked
  refine ⟨⟨calls, hasked⟩, ?_, fun answers => ?_, fun answers hsent => ?_, fun told => ?_⟩
  · obtain ⟨-, ⟨ready, hready, -, -, -, records, hshown, hsettled⟩ |
      ⟨hended, -, -, -, records, last, again, hlast, hshown, hsettled⟩⟩ := hstreamed
    · exact ⟨records, .inl ⟨ready, hready, hshown, hsettled⟩⟩
    · exact ⟨records, .inr ⟨last, again, hended, hlast, hshown, hsettled⟩⟩
  · exact isSome_of_pending hstreamed fun hready => hsome hready answers
  · obtain ⟨-, hall⟩ | ⟨-, hsame, -⟩ := schedule_pollTold hstreamed answers
    · exact hall
    · exact absurd (congrArg (fun s => s.cursor.ledger.messages) hsame) hsent
  · exact iterate_eq (hstreamed.withScript told) fun hready => hsome hready _

end Session

/-- What becomes of a cursor on which no call waits when its last handle is let go. -/
structure Schedule.Forsakes (t gone : Schedule) : Prop where
  /-- A task comes as far as a call would that closes the cursor, -/
  logs : t.runtime = true → ∀ slot answers,
    let closed := t.run (calling slot .close answers)
    let cleared := gone.run (tasking t.tasks.length answers)
    cleared.cursor.Logs
      (if t.cursor.state.closed = false ∧ t.cursor.state.id = 0 then [.closed t.cursor.config.ns]
        else []) closed.cursor ∧
    cleared.tasks = t.tasks ++ ((closed.waitingIn? slot).map Task.suspended).toList
  /-- and if it is told all it asks, the cursor is closed and gives back what it held. -/
  ceases : t.runtime = true → ∀ r k,
    let cleared := gone.run (tasking t.tasks.length (Cursor.clearing r k))
    t.cursor.Ceases cleared.cursor ∧ cleared.tasks = t.tasks
  /-- Without a runtime that is so at once, and the server is not told. -/
  quits : t.runtime = false →
    t.cursor.Quits
      (if t.cursor.state.closed = false ∧ t.cursor.state.id ≠ 0 then
        [.droppedUnkilled t.cursor.state.id t.cursor.config.ns] else []) gone.cursor ∧
    gone.tasks = t.tasks

theorem Schedule.forsakes_drop {t : Schedule} (hsound : t.cursor.state.Sound 0)
    (hcalls : t.calls = []) (hone : t.handles = 1) : t.Forsakes (t.step .drop).1 := by
  refine ⟨fun hruntime slot answers => ?_, fun hruntime r k => ?_, fun hruntime => ?_⟩
  · obtain ⟨hlogs, -, htasks⟩ := logs_drop hsound hcalls hone hruntime slot answers
    exact ⟨hlogs, htasks⟩
  · exact ceases_drop hsound hcalls hone hruntime r k
  · have hdropped : (t.step .drop).1 = _ := step_drop hcalls hone
    obtain ⟨hspawned, hquits⟩ := Cursor.quits_drop hsound (.inl hruntime)
    rw [hspawned] at hdropped
    rw [hdropped]
    exact ⟨hquits, List.append_nil _⟩

section Create

variable (reply : Reply) (options : Options) (server : ServerDescription)
  (connection : Option (Nat × ConnectionDescription)) (l : Ledger)

theorem owners_of_held (runtime : Bool) (history : List Action) (hfresh : l.Fresh)
    (hhanded : l.Covers ↑(handed connection)) :
    let start := Schedule.opened reply options server connection l runtime
    let s := start.run history
    isFair (spare l connection) (start.moments history) = true → s.calls = [] →
      s.cursor.state.held = [] → ∀ q, s.cursor.ledger.owners q = (holdings ↑s.tasks).count q +
        othersAfter (spare l connection) (start.moments history) q := by
  intro start s hfair hcalls hheld q
  have hbalanced :=
    balanced_run reply options server connection l runtime history hfresh hhanded hfair
  have howners := hbalanced.owners q
  have hpending : s.pending = ↑s.tasks := by
    rw [Schedule.pending, hcalls]
    exact Multiset.zero_add _
  rw [hpending, hheld] at howners
  exact howners.trans (congrArg (· + _) (congrArg (Multiset.count q) (Multiset.zero_add _)))

theorem held_of_forsaken (runtime : Bool) (history later : List Action) (hfresh : l.Fresh)
    (hhanded : l.Covers ↑(handed connection)) :
    let start := Schedule.opened reply options server connection l runtime
    let gone := start.run history
    isFair (spare l connection) (start.moments (history ++ later)) = true →
      gone.handles = 0 ∧ gone.calls = [] → (∀ i, .discardTask i ∉ history ++ later) →
      (gone.run later).tasks = [] → (gone.run later).cursor.state.held = [] ∧
        ∀ r, (gone.run later).cursor.ledger.owners r =
          othersAfter (spare l connection) (start.moments (history ++ later)) r := by
  intro start gone hfair hforsaken hkept htasks
  obtain ⟨hhandles, hcalls⟩ := Schedule.forsaken_run hforsaken.1 hforsaken.2 later
  have hrun : gone.run later = start.run (history ++ later) :=
    (Schedule.run_append start history later).symm
  rw [hrun] at hhandles hcalls htasks ⊢
  obtain ⟨-, -, hsource, hpin⟩ := cleared_of_over reply options server connection l runtime
    (history ++ later) (.inr ⟨hhandles, hkept⟩) hcalls htasks
  have hheld : (start.run (history ++ later)).cursor.state.held = [] := by
    rw [State.held, hsource, hpin]
    rfl
  refine ⟨hheld, fun r => ?_⟩
  have howners := owners_of_held reply options server connection l runtime (history ++ later) hfresh
    hhanded hfair hcalls hheld r
  rw [htasks] at howners
  exact howners.trans (Nat.zero_add _)

/-- A stream of a cursor that no call waits on is polled, and its calls are told so much each time.
It shows the batches that its calls hand out document by document, and when it has ended or is let
go, nothing is left of the cursor in the end. -/
theorem stream_flattens (runtime : Bool) (history : List Action) (read : Reader α)
    (script : Script) (handedOver : Bool) (polls : List (List Answer)) :
    let start := Schedule.opened reply options server connection l runtime
    let s := start.run history
    let x : Session α := ⟨s, .stream [], read, script, handedOver⟩
    let y := (x.polled polls).1
    let asked := x.asked polls
    let t := s.run (asked ++ [.cancel .stream])
    let gone := y.drop.1.schedule
    s.calls = [] → s.handles ≠ 0 →
    x.Flattens polls ∧ y.LetsGo t ∧ t.Forsakes gone ∧
    (l.Fresh → l.Covers ↑(handed connection) → ∀ later,
      let actions := history ++ (asked ++ [.cancel .stream, .drop] ++ later)
      isFair (spare l connection) (start.moments actions) = true →
      (∀ i, .discardTask i ∉ history ++ later) → (gone.run later).tasks = [] →
      (gone.run later).cursor.state.held = [] ∧
      ∀ r, (gone.run later).cursor.ledger.owners r =
        othersAfter (spare l connection) (start.moments actions) r) := by
  intro start s x y asked t gone hcalls hhandles
  have hone : s.handles = 1 := Schedule.handles_eq_one hhandles
  have hstreamed : x.Streamed asked (x.polled polls).2 y :=
    Session.streamed_polled (Session.streamed_start rfl hcalls hone) polls
  -- What the call of the stream ends with is an outcome of the whole history.
  have hsome : y.front = .stream [] → ∀ answers documents,
      (Cursor.answered y.underway answers).2 = .done (.batch documents) → documents ≠ [] := by
    intro hfront answers documents hdone
    obtain ⟨hschedule, hkept, hwaits⟩ := hstreamed.asking hfront
    have hrun := Session.run_asks hfront hkept hwaits answers
    have hmem : .batch documents ∈ start.outcomes (history ++ (asked ++ y.asks answers)) := by
      rw [Schedule.outcomes_append, Schedule.outcomes_append]
      refine List.mem_append_right _ (List.mem_append_right _ ?_)
      rw [← hschedule, hrun.2, hdone]
      exact List.mem_singleton_self _
    exact Schedule.ne_nil_of_batch reply options server connection l runtime _ hmem
  have hflattens : x.Flattens polls := Session.flattens_of_streamed rfl hcalls hone hsome
  obtain ⟨htcalls, htone, hgone, hended⟩ : t.calls = [] ∧ t.handles = 1 ∧
      gone = (t.step .drop).1 ∧ (y.front = .ended → y.schedule = (t.step .drop).1) :=
    Session.drop_streamed hstreamed
  have ht : t = start.run (history ++ (asked ++ [.cancel .stream])) :=
    (Schedule.run_append start history _).symm
  have htsound : t.cursor.state.Sound 0 := by
    rw [ht]
    exact Schedule.sound_of_no_calls (ht ▸ htcalls)
  have hforsakes : t.Forsakes gone := hgone ▸ Schedule.forsakes_drop htsound htcalls htone
  refine ⟨hflattens, ⟨htcalls, hgone, fun hfront => (hended hfront).trans hgone.symm⟩, hforsakes,
    fun hfresh hhanded later => ?_⟩
  intro actions hfair hkept htasks
  have hactions : actions = history ++ (asked ++ [.cancel .stream]) ++ [.drop] ++ later := by
    simp [actions]
  have hstart : gone = start.run (history ++ (asked ++ [.cancel .stream]) ++ [.drop]) := by
    rw [Schedule.run_append, ← ht, hgone]
    rfl
  have hforsaken : gone.handles = 0 ∧ gone.calls = [] := by
    rw [hgone, show (t.step .drop).1 = _ from Schedule.step_drop htcalls htone]
    exact ⟨rfl, htcalls⟩
  have hdiscard : ∀ i, .discardTask i ∉ actions := by
    intro i hi
    obtain ⟨calls, hasked⟩ := hflattens.calls
    have hasking : .discardTask i ∉ asked := by
      change _ ∉ x.asked polls
      rw [hasked]
      simp [Schedule.calling]
    have hmem : .discardTask i ∈ history ++ later := by
      simpa [actions, hasking] using hi
    exact hkept i hmem
  rw [hactions] at hfair hdiscard ⊢
  rw [hstart] at hforsaken htasks ⊢
  exact held_of_forsaken reply options server connection l runtime _ later hfresh hhanded hfair
    hforsaken hdiscard htasks

end Create

/-- Two documents have arrived, and the server has more. -/
def Session.flowing : Session :=
  ⟨Schedule.opened ⟨⟨"db", "items"⟩, [[("n", .int32 1)], [("n", .int32 2)]], 7, .localhost⟩
    .default .blank none Ledger.start true, .stream [], Record.decode .document,
    ⟨.localhost, [], [], 0, []⟩, false⟩

/-- The request for more fails. -/
def Session.failingPolls : List (List Answer) :=
  [[], [], [.checkout (.ok ()), .reply (.error (.invalidReply .noOutcome))], []]

/-- Both documents are shown, then the error, and then nothing; the server's cursor is discarded by
a task. -/
theorem stream_flattens_failing :
    let y := (Session.flowing.polled Session.failingPolls).1
    let cleared := y.schedule.run (Schedule.tasking 0 (Cursor.clearing (.ok ()) (.ok ())))
    settled (Session.flowing.polled Session.failingPolls).2 =
      [.item (.document [("n", .int32 1)]), .item (.document [("n", .int32 2)]),
        .error (.invalidReply .noOutcome), .none] ∧
    cleared.cursor.state.Over ∧ cleared.tasks = [] ∧ cleared.cursor.state.held = [] ∧
    cleared.cursor.ledger.owners .source = 0 := by
  intro y cleared
  have hended : y.front = .ended := rfl
  obtain ⟨-, hends, hforsakes, hgiven⟩ :=
    stream_flattens ⟨⟨"db", "items"⟩, [[("n", .int32 1)], [("n", .int32 2)]], 7, .localhost⟩
      .default .blank none Ledger.start true [] (Record.decode .document)
      ⟨.localhost, [], [], 0, []⟩ false Session.failingPolls rfl Nat.one_ne_zero
  have hsame := hends.ended hended
  obtain ⟨hceases, htasks⟩ := hforsakes.ceases rfl (.ok ()) (.ok ())
  rw [← hsame] at hceases htasks hgiven
  obtain ⟨hheld, howners⟩ := hgiven Ledger.fresh_start Ledger.covers_start
    (Schedule.tasking 0 (Cursor.clearing (.ok ()) (.ok ()))) rfl (by simp [Schedule.tasking]) htasks
  exact ⟨rfl, hceases.state, htasks, hheld, (howners .source).trans rfl⟩

end ServerCursor
