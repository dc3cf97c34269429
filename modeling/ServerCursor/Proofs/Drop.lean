import ServerCursor.Proofs.Driving
import ServerCursor.Proofs.Return

/-!
# Letting a cursor go

Who lets a cursor go closes it. With a runtime a task does what a call that closes the cursor would
do; if the server need not be told, the cursor is closed at once and no task is needed. Without a
runtime nobody can tell the server, so everything is given back in silence (`Cursor.Quits`) and a
warning remains. A cursor that is used by blocking calls need not leave the server in the dark then,
as it can wait itself.

The task comes, whatever it is told, as far as the call would that is told the same; the call would
only have said in the end that the cursor was closed. Once the task has been told about a connection
and the server's cursor it is gone, the cursor is closed, and what it held is given back. The
warning is logged if and only if the cursor was open and the server's cursor too. While nobody else
gives back what is not theirs, the owners of what the cursor holds do not run out.

Main statement: `drop_eq_close`.
-/

namespace ServerCursor

namespace Ledger

theorem events_giveBackAll (l : Ledger) (rs : List Resource) :
    ∃ refused, (l.giveBackAll rs).events = l.events ++ refused ∧
      (∀ e ∈ refused, e.topic = .reference) ∧ (l.Covers ↑rs → refused = []) := by
  induction rs generalizing l with
  | nil =>
    refine ⟨[], (List.append_nil _).symm, fun e he => ?_, fun _ => rfl⟩
    exact absurd he List.not_mem_nil
  | cons r rest ih =>
    obtain ⟨refused, hevents, htopic, hquiet⟩ := ih (l.giveBack r)
    by_cases hr : l.owners r = 0
    · let refusal : List Event := [.releaseRefused, .releaseFailed (.illegalState .releaseReleased)]
      have hgiven : (l.giveBack r).events = l.events ++ refusal := by
        unfold giveBack release
        simp [Ownership.leave, hr, emit, refusal]
      have hreference : ∀ e ∈ refusal, e.topic = .reference := by simp [refusal, Event.topic]
      refine ⟨refusal ++ refused, ?_, ?_, fun hcovers => ?_⟩
      · rw [← List.append_assoc, ← hgiven]
        exact hevents
      · exact fun e he => (List.mem_append.mp he).elim (hreference e) (htopic e)
      · have hone := hcovers r
        rw [Multiset.coe_count, List.count_cons_self, hr] at hone
        omega
    · have hgiven := events_giveBack (Nat.pos_of_ne_zero hr)
      refine ⟨refused, hevents.trans (congrArg (· ++ refused) hgiven), htopic, fun hcovers => ?_⟩
      refine hquiet fun q => ?_
      have hq := hcovers q
      rw [Multiset.coe_count, ← List.singleton_append, List.count_append] at hq
      rw [Multiset.coe_count, owners_giveBack_eq]
      omega

end Ledger

namespace Cursor

/-- Another cursor is in the same state, and everything has gone the same way; only the log says
more. -/
structure Logs (c : Cursor) (more : List Event) (d : Cursor) : Prop where
  config : d.config = c.config
  state : d.state = c.state
  owners : d.ledger.owners = c.ledger.owners
  issued : d.ledger.issued = c.ledger.issued
  wire : d.ledger.wire = c.ledger.wire
  events : d.ledger.events = c.ledger.events ++ more

/-- A cursor is closed in the end and has given back what it held. Nothing but the message that
discards the server's cursor is sent, if that is. -/
structure Ceases (c d : Cursor) : Prop where
  state : d.state.Over
  frees : c.ledger.Frees c.state.held (c.config.requester.kill c.state.id) d.ledger

/-- A cursor is closed and has given back what it held. Nothing is sent, and the source is not
asked. -/
structure Quits (c : Cursor) (warned : List Event) (d : Cursor) : Prop where
  state : d.state.Over
  traffic : d.ledger.traffic = c.ledger.traffic
  issued : d.ledger.issued = c.ledger.issued
  owners : ∀ r, d.ledger.owners r = c.ledger.owners r - c.state.held.count r
  /-- Besides the warning only resources without owners are worth telling. -/
  events : ∃ refused, d.ledger.events = c.ledger.events ++ refused ++ warned ∧
    (∀ e ∈ refused, e.topic = .reference) ∧ (c.ledger.Covers ↑c.state.held → refused = [])

variable {c : Cursor}

theorem Logs.refl (c : Cursor) : c.Logs [] c :=
  ⟨rfl, rfl, rfl, rfl, rfl, (List.append_nil _).symm⟩

theorem logs_emit (c : Cursor) (e : Event) : c.Logs [e] (c.emit e) :=
  ⟨rfl, rfl, rfl, rfl, rfl, rfl⟩

theorem Ceases.of_logs {d e : Cursor} {more : List Event} (h : c.Ceases e) (hlogs : d.Logs more e) :
    c.Ceases d := by
  obtain ⟨hover, told, htold, hsettles⟩ := h
  refine ⟨hlogs.state ▸ hover, told, htold, ?_, ?_, fun r hr => ?_, fun n hn hle => ?_⟩
  · rw [← hsettles.messages, Ledger.messages, Ledger.messages, hlogs.wire]
  · exact hlogs.issued ▸ hsettles.issued
  · rw [← hlogs.owners]
    exact hsettles.owners r fun n hn hlt => hlogs.issued ▸ hr n hn hlt
  · rw [← hlogs.owners]
    exact hsettles.fresh n hn (hlogs.issued ▸ hle)

theorem needsKill_eq_true_iff : c.needsKill = true ↔ c.state.closed = false ∧ c.state.id ≠ 0 := by
  simp [needsKill]

/-- Closing a cursor ends at once if the server need not be told. It does what is done in silence,
and says so. -/
theorem close_of_spared (hidle : c.state.fetching = false) (h : c.needsKill = false) :
    c.close.2 = .done .closed ∧ c.closeQuietly.1.Logs
      (if c.state.closed = false ∧ c.state.id = 0 then [.closed c.config.ns] else [])
      c.close.1 := by
  by_cases hclosed : c.state.closed = true
  · have hclose : c.close = (c, .done .closed) := if_pos hclosed
    have hquiet : c.closeQuietly = (c, none) := if_pos hclosed
    rw [hclose, hquiet, if_neg (by simp [hclosed])]
    exact ⟨rfl, .refl c⟩
  · have hopen := Bool.eq_false_iff.mpr hclosed
    have hid : c.state.id = 0 := by
      by_contra hne
      have hneeds := needsKill_eq_true_iff.mpr ⟨hopen, hne⟩
      rw [h] at hneeds
      cases hneeds
    have hclose : c.close = (c.closeQuietly.1.emit (.closed c.config.ns), .done .closed) := by
      rw [close_of_open hopen hidle, kill_of_gone _ hid, closeQuietly_of_open hopen]
      rfl
    rw [hclose, if_pos ⟨hopen, hid⟩]
    exact ⟨rfl, logs_emit _ _⟩

theorem quits_closeQuietly (hs : c.state.Sound 0) : c.Quits [] c.closeQuietly.1 := by
  by_cases hclosed : c.state.closed = true
  · have hquiet : c.closeQuietly = (c, none) := if_pos hclosed
    have hover := hs.over_of_closed hclosed
    rw [hquiet]
    refine ⟨hover, rfl, rfl, fun r => ?_, [], by simp, fun e he => ?_, fun _ => rfl⟩
    · rw [hover.held]
      rfl
    · exact absurd he List.not_mem_nil
  · obtain ⟨refused, hevents, htopic, hcovers⟩ := c.ledger.events_giveBackAll c.state.held
    rw [closeQuietly_of_open (Bool.eq_false_iff.mpr hclosed)]
    refine ⟨⟨rfl, rfl, rfl, hs.resting, rfl, rfl⟩, Ledger.traffic_giveBackAll ..,
      Ledger.issued_giveBackAll .., Ledger.owners_giveBackAll c.ledger c.state.held, refused, ?_,
      htopic, hcovers⟩
    rw [List.append_nil]
    exact hevents

/-- Without a runtime, or if the server need not be told, a cursor that is let go is closed in
silence, with a warning if the server's cursor is left open. -/
theorem quits_drop (hs : c.state.Sound 0) {runtime : Bool}
    (h : runtime = false ∨ c.state.closed = true ∨ c.state.id = 0) :
    (c.drop runtime).2 = none ∧ c.Quits
      (if c.state.closed = false ∧ c.state.id ≠ 0 then [.droppedUnkilled c.state.id c.config.ns]
        else []) (c.drop runtime).1 := by
  obtain ⟨hover, htraffic, hissued, howners, refused, hevents, htopic, hcovers⟩ :=
    quits_closeQuietly hs
  by_cases hneeds : c.needsKill = true
  · have hwarns := needsKill_eq_true_iff.mp hneeds
    have hdrop : c.drop runtime =
        (c.closeQuietly.1.emit (.droppedUnkilled c.state.id c.config.ns), none) := by
      obtain ⟨hopen, hid⟩ := hwarns
      have halone : runtime = false := by simpa [hopen, hid] using h
      simp [drop, halone, hneeds, closeQuietly, hopen, hid]
    rw [hdrop, if_pos hwarns]
    refine ⟨rfl, hover, htraffic, hissued, howners, refused, ?_, htopic, hcovers⟩
    exact congrArg (· ++ _) (hevents.trans (List.append_nil _))
  · have hdrop : c.drop runtime = (c.closeQuietly.1, none) := by simp [drop, hneeds]
    rw [hdrop, if_neg (mt needsKill_eq_true_iff.mpr hneeds)]
    exact ⟨rfl, hover, htraffic, hissued, howners, refused, hevents, htopic, hcovers⟩

theorem ceases_close (hs : c.state.Sound 0) (r k : Except Error Unit) :
    let q := answered c.close (clearing r k)
    q.2 = .done .closed ∧ c.Ceases q.1 := by
  by_cases hclosed : c.state.closed = true
  · have hclose : c.close = (c, .done .closed) := if_pos hclosed
    have hover := hs.over_of_closed hclosed
    rw [hclose, answered_done]
    refine ⟨rfl, hover, ?_⟩
    rw [hover.held]
    exact (Ledger.Settles.refl _).frees_none
  · let s : State := { c.state with closed := true, buffer := [] }
    have hclose : c.close = (c.withState s.bare).kill s.abandoned .closed :=
      close_of_open (Bool.eq_false_iff.mpr hclosed) hs.resting
    obtain ⟨hdone, hstate, hfrees⟩ := ends_clearing (c.withState s.bare) s.abandoned .closed r k
    rw [hclose]
    refine ⟨hdone, ?_, hfrees⟩
    rw [hstate]
    exact ⟨rfl, rfl, rfl, hs.resting, rfl, rfl⟩

end Cursor

namespace Schedule

variable {s : Schedule}

theorem step_drop (hcalls : s.calls = []) (hone : s.handles = 1) :
    (s.step .drop).1 = { s with
      cursor := (s.cursor.drop s.runtime).1
      handles := 0
      tasks := s.tasks ++ (s.cursor.drop s.runtime).2.toList } := by
  simp only [step, dropHandle, hone, letGo, hcalls]
  rfl

theorem step_drop_of_closed (hcalls : s.calls = []) (hone : s.handles = 1)
    (hclosed : s.cursor.state.closed = true) : (s.step .drop).1 = { s with handles := 0 } := by
  rw [step_drop hcalls hone, Cursor.drop_of_closed hclosed]
  exact congrArg (fun tasks => { s with handles := 0, tasks := tasks }) (List.append_nil _)

/-- A call that closes the cursor leaves nothing but what it did to the cursor. -/
theorem run_close_clearing (hcalls : s.calls = []) (hone : s.handles = 1) (slot : Slot)
    (r k : Except Error Unit) :
    s.run (calling slot .close (Cursor.clearing r k)) =
      { s with cursor := (Cursor.answered s.cursor.close (Cursor.clearing r k)).1 } := by
  have hended : Cursor.answered (beginCall s.cursor .close) (Cursor.clearing r k) =
      ((Cursor.answered s.cursor.close (Cursor.clearing r k)).1, .done .closed) :=
    Prod.ext rfl (Cursor.close_clearing s.cursor r k)
  rw [run_calling (waitingIn?_of_no_calls hcalls slot) (hone ▸ Nat.one_ne_zero), hended,
    withCall_done]

theorem run_tasking_of_none {i : Nat} (h : s.tasks[i]? = none) (answers : List Answer) :
    s.run (tasking i answers) = s := by
  have hstart : (s.step (.startTask i)).1 = s := by simp only [step, startTask, h]
  have hanswers : s.run (answers.map (.answerTask i)) = s := by
    induction answers with
    | nil => rfl
    | cons a rest ih =>
      have hstep : (s.step (.answerTask i a)).1 = s := by simp only [step, answerTask, h]
      change (s.step (.answerTask i a)).1.run _ = _
      rw [hstep]
      exact ih
  change (s.step (.startTask i)).1.run _ = _
  rw [hstart]
  exact hanswers

section Drop

variable (hs : s.cursor.state.Sound 0) (hcalls : s.calls = []) (hone : s.handles = 1)

include hs hcalls hone

/-- With a runtime the task that was spawned for it does what a call would do that closes the
cursor; if none was spawned, such a call would have ended at once. -/
theorem logs_drop (hruntime : s.runtime = true) (slot : Slot) (answers : List Answer) :
    let closed := s.run (calling slot .close answers)
    let cleared := (s.step .drop).1.run (tasking s.tasks.length answers)
    cleared.cursor.Logs
      (if s.cursor.state.closed = false ∧ s.cursor.state.id = 0 then [.closed s.cursor.config.ns]
        else []) closed.cursor ∧
      cleared.calls = [] ∧
      cleared.tasks = s.tasks ++ ((closed.waitingIn? slot).map Task.suspended).toList := by
  intro closed cleared
  have hfree : s.waitingIn? slot = none := waitingIn?_of_no_calls hcalls slot
  have hhandles : s.handles ≠ 0 := hone ▸ Nat.one_ne_zero
  have hclosed : closed = s.withCall slot (Cursor.answered s.cursor.close answers) :=
    run_calling hfree hhandles .close answers
  have hwaiting : closed.waitingIn? slot = (Cursor.answered s.cursor.close answers).2.point? := by
    rw [hclosed, waitingIn?_withCall hfree]
  have hdropped := step_drop hcalls hone
  rw [hruntime] at hdropped
  by_cases hneeds : s.cursor.needsKill = true
  · have hdrop : s.cursor.drop true = (s.cursor, some .close) := by
      simp [Cursor.drop, hneeds]
    have htasks : (s.step .drop).1.tasks = s.tasks ++ [.close] := by
      rw [hdropped, hdrop]
      rfl
    have hcleared : cleared = _ := run_tasking htasks answers
    have hcursor : (s.step .drop).1.cursor = s.cursor := by rw [hdropped, hdrop]
    obtain ⟨-, hid⟩ := Cursor.needsKill_eq_true_iff.mp hneeds
    rw [if_neg fun h => hid h.2, hwaiting, hclosed, hcleared, hcursor]
    refine ⟨.refl _, ?_, ?_⟩
    · rw [hdropped]
      exact hcalls
    · rfl
  · have hdrop : s.cursor.drop true = (s.cursor.closeQuietly.1, none) := by
      simp [Cursor.drop, hneeds]
    have hnone : (s.step .drop).1.tasks[s.tasks.length]? = none := by
      rw [hdropped, hdrop]
      simp
    have hcleared : cleared = (s.step .drop).1 := run_tasking_of_none hnone answers
    obtain ⟨hdone, hlogs⟩ :=
      Cursor.close_of_spared hs.resting (Bool.eq_false_iff.mpr hneeds)
    have hended := Cursor.answered_of_done hdone answers
    rw [hwaiting, hclosed, hcleared, hdropped, hdrop, hended, hdone]
    exact ⟨hlogs, hcalls, rfl⟩

theorem ceases_drop (hruntime : s.runtime = true) (r k : Except Error Unit) :
    let cleared := (s.step .drop).1.run (tasking s.tasks.length (Cursor.clearing r k))
    s.cursor.Ceases cleared.cursor ∧ cleared.tasks = s.tasks := by
  intro cleared
  have hfree : s.waitingIn? .blocking = none := waitingIn?_of_no_calls hcalls _
  have hhandles : s.handles ≠ 0 := hone ▸ Nat.one_ne_zero
  obtain ⟨hlogs, -, htasks⟩ := logs_drop hs hcalls hone hruntime .blocking (Cursor.clearing r k)
  obtain ⟨hdone, hceases⟩ := Cursor.ceases_close hs r k
  rw [run_calling hfree hhandles] at hlogs htasks
  refine ⟨hceases.of_logs hlogs, ?_⟩
  rw [htasks, waitingIn?_withCall hfree]
  change s.tasks ++ ((Cursor.answered s.cursor.close _).2.point?.map _).toList = _
  rw [hdone]
  exact List.append_nil _

end Drop

end Schedule

namespace Session

section Drop

variable {α : Type} {x : Session α} (hs : x.schedule.cursor.state.Sound 0)
  (hcalls : x.schedule.calls = []) (hone : x.schedule.handles = 1)

include hs hcalls hone

theorem drop_blocking {finished : Bool} (hfront : x.front = .blocking finished)
    (hruntime : x.schedule.runtime = false) (hheld : x.script.held = []) :
    let closed := x.call .blocking .close
    closed.2 = some .closed ∧
      (∃ r k, closed.1.schedule =
        x.schedule.run (Schedule.calling .blocking .close (Cursor.clearing r k))) ∧
      x.schedule.cursor.Ceases closed.1.schedule.cursor ∧
      closed.1.schedule.calls = [] ∧ closed.1.schedule.tasks = x.schedule.tasks ∧
      x.drop = ({ closed.1 with
        front := .gone
        schedule := { closed.1.schedule with handles := 0 } }, .ok) := by
  intro closed
  have hfree : x.schedule.waitingIn? .blocking = none := Schedule.waitingIn?_of_no_calls hcalls _
  have hhandles : x.schedule.handles ≠ 0 := hone ▸ Nat.one_ne_zero
  obtain ⟨r, k, rest, hcall⟩ := call_close hfree hhandles hheld
  obtain ⟨-, hceases⟩ := Cursor.ceases_close hs r k
  let d : Cursor := (Cursor.answered x.schedule.cursor.close (Cursor.clearing r k)).1
  have hschedule : x.schedule.run (Schedule.calling .blocking .close (Cursor.clearing r k)) =
      { x.schedule with cursor := d } := Schedule.run_close_clearing hcalls hone .blocking r k
  have hclosed : closed =
      ({ x with schedule := { x.schedule with cursor := d }, script := rest }, some .closed) := by
    rw [← hschedule]
    exact hcall
  have hdrop : x.drop = ({ closed.1 with
      front := .gone
      schedule := (closed.1.schedule.step .drop).1 }, .ok) := by
    unfold drop
    rw [hfront]
    by_cases hbefore : x.schedule.cursor.state.closed = true
    · -- The call would have changed nothing.
      have hsame : closed = (x, some .closed) := by
        have hbegin : x.schedule.step (.begin .blocking .close) = (x.schedule, some .closed) :=
          Schedule.begin_of_refused hfree hhandles (if_pos hbefore)
        change x.call .blocking .close = _
        unfold Session.call act
        rw [hbegin]
      rw [hsame]
      exact if_pos (by simp [cursor, hbefore])
    · exact if_neg (by simp [cursor, hbefore, hruntime])
  have hlast : (closed.1.schedule.step .drop).1 = { closed.1.schedule with handles := 0 } := by
    rw [hclosed]
    exact Schedule.step_drop_of_closed (s := { x.schedule with cursor := d }) hcalls hone
      hceases.state.closed
  rw [hlast] at hdrop
  refine ⟨?_, ⟨r, k, ?_⟩, ?_, ?_, ?_, hdrop⟩
  · rw [hclosed]
  · rw [hclosed, hschedule]
  · rw [hclosed]
    exact hceases
  · rw [hclosed]
    exact hcalls
  · rw [hclosed]

end Drop

end Session

section Create

variable (reply : Reply) (options : Options) (server : ServerDescription)
  (connection : Option (Nat × ConnectionDescription)) (l : Ledger)

/-- No call waits on a cursor, and its last handle is let go. With a runtime this is to close the
cursor by a task, and without one to close it in silence, unless it is used by blocking calls. -/
theorem drop_eq_close (runtime : Bool) (history : List Action) :
    let start := Schedule.opened reply options server connection l runtime
    let s := start.run history
    let c := s.cursor
    let dropped := (s.step .drop).1
    s.calls = [] → s.handles ≠ 0 →
    (s.runtime = true → ∀ slot,
      (∀ answers,
        let closed := s.run (Schedule.calling slot .close answers)
        let cleared := dropped.run (Schedule.tasking s.tasks.length answers)
        cleared.cursor.Logs
          (if c.state.closed = false ∧ c.state.id = 0 then [.closed c.config.ns] else [])
          closed.cursor ∧
        cleared.calls = [] ∧
        cleared.tasks = s.tasks ++ ((closed.waitingIn? slot).map Task.suspended).toList) ∧
      ∀ r k,
        let cleared := dropped.run (Schedule.tasking s.tasks.length (Cursor.clearing r k))
        s.outcomes (Schedule.calling slot .close (Cursor.clearing r k)) = [.closed] ∧
        c.Ceases cleared.cursor ∧ cleared.tasks = s.tasks) ∧
    (s.runtime = false ∨ c.state.closed = true ∨ c.state.id = 0 →
      let warning : Event := .droppedUnkilled c.state.id c.config.ns
      c.Quits (if c.state.closed = false ∧ c.state.id ≠ 0 then [warning] else [])
        dropped.cursor ∧
      dropped.calls = [] ∧ dropped.tasks = s.tasks ∧
      warning.level = .warn ∧ warning.message =
        "cursor dropped outside of a tokio runtime; the server cursor was not killed") ∧
    (∀ (α : Type) finished (read : Reader α) script handedOver,
      let x : Session α := ⟨s, .blocking finished, read, script, handedOver⟩
      (s.runtime = false → script.held = [] →
        let closed := x.call .blocking .close
        closed.2 = some .closed ∧
        (∃ r k, closed.1.schedule =
          s.run (Schedule.calling .blocking .close (Cursor.clearing r k))) ∧
        c.Ceases closed.1.cursor ∧
        closed.1.schedule.calls = [] ∧ closed.1.schedule.tasks = s.tasks ∧
        x.drop = ({ closed.1 with
          front := .gone
          schedule := { closed.1.schedule with handles := 0 } }, .ok)) ∧
      (s.runtime = true →
        x.drop = Session.drop { x with front := .concurrent } ∧
        x.drop.1.schedule = dropped)) ∧
    (l.Fresh → l.Covers ↑(handed connection) →
      isFair (spare l connection) (start.moments history) = true →
      c.ledger.Covers ↑c.state.held) := by
  intro start s c dropped hcalls hhandles
  have hcoherent : s.Coherent := Schedule.coherent_run
    (sound_create reply options server connection l) runtime history
  have hs : c.state.Sound 0 := by
    have hsound := hcoherent.sound
    rw [Schedule.flights_pending hcoherent.orderly, Schedule.roundTrips, hcalls] at hsound
    exact hsound
  have hone : s.handles = 1 := by
    have hle : s.handles ≤ 1 := Schedule.handles_run_le start history
    omega
  refine ⟨fun hruntime slot => ⟨fun answers => ?_, fun r k => ?_⟩, fun hsilent => ?_,
    fun _ finished read script handedOver => ⟨fun hruntime hheld => ?_, fun hruntime => ?_⟩,
    fun hfresh hhanded hfair => ?_⟩
  · exact Schedule.logs_drop hs hcalls hone hruntime slot answers
  · obtain ⟨hceases, htasks⟩ := Schedule.ceases_drop hs hcalls hone hruntime r k
    refine ⟨?_, hceases, htasks⟩
    have hfree : s.waitingIn? slot = none := Schedule.waitingIn?_of_no_calls hcalls slot
    rw [Schedule.outcomes_calling hfree hhandles]
    exact congrArg (Option.toList ∘ Progress.outcome?) (Cursor.ceases_close hs r k).1
  · obtain ⟨hnone, hquits⟩ := Cursor.quits_drop hs hsilent
    have hdropped : dropped = _ := Schedule.step_drop hcalls hone
    rw [hnone] at hdropped
    rw [hdropped]
    exact ⟨hquits, hcalls, List.append_nil _, rfl, rfl⟩
  · exact Session.drop_blocking hs hcalls hone rfl hruntime hheld
  · have hdrop : Session.drop ⟨s, .blocking finished, read, script, handedOver⟩ =
        Session.drop ⟨s, .concurrent, read, script, handedOver⟩ := if_pos (by simp [hruntime])
    exact ⟨hdrop, by rw [hdrop]; rfl⟩
  · exact (balanced_run reply options server connection l runtime history hfresh hhanded
      hfair).covers

end Create

/-- A document was read, and the server has more. -/
def Schedule.halfRead (runtime : Bool) : Schedule :=
  (Schedule.opened ⟨⟨"db", "items"⟩, [[("n", .int32 1)]], 7, .localhost⟩ ⟨0, 0, none, none⟩ .blank
    none Ledger.start runtime).run [.begin .stream .next]

/-- The server's cursor is discarded by a task, or with a warning not at all, or by a blocking
call. -/
theorem drop_eq_close_halfRead :
    let answers := Cursor.clearing (.ok ()) (.ok ())
    let cleared := ((Schedule.halfRead true).step .drop).1.run (Schedule.tasking 0 answers)
    let closed := (Schedule.halfRead true).run (Schedule.calling .stream .close answers)
    let dropped := ((Schedule.halfRead false).step .drop).1
    let blocking : Session :=
      ⟨Schedule.halfRead false, .blocking false, Record.decode .document,
        ⟨.localhost, [], [], 0, []⟩, false⟩
    (cleared.cursor.state.Over ∧ cleared.cursor.ledger.owners = closed.cursor.ledger.owners ∧
      cleared.cursor.ledger.wire = closed.cursor.ledger.wire) ∧
    (dropped.cursor.state.Over ∧ dropped.cursor.ledger.owners .source = 0 ∧
      dropped.cursor.ledger.messages = [] ∧ dropped.cursor.ledger.events =
        (Schedule.halfRead false).cursor.ledger.events ++ [.droppedUnkilled 7 ⟨"db", "items"⟩]) ∧
    (blocking.drop.1.cursor.state.Over ∧
      blocking.drop.1.cursor = (blocking.call .blocking .close).1.cursor) := by
  intro answers cleared closed dropped blocking
  have hall : ∀ runtime, _ := fun runtime =>
    drop_eq_close ⟨⟨"db", "items"⟩, [[("n", .int32 1)]], 7, .localhost⟩ ⟨0, 0, none, none⟩ .blank
      none Ledger.start runtime [.begin .stream .next] rfl Nat.one_ne_zero
  obtain ⟨hspawned, -⟩ := hall true
  obtain ⟨-, hquits, hblocking, hcovers⟩ := hall false
  obtain ⟨htask, hended⟩ := hspawned rfl .stream
  obtain ⟨hlogs, -⟩ := htask answers
  obtain ⟨-, hceases, -⟩ := hended (.ok ()) (.ok ())
  obtain ⟨⟨hover, htraffic, -, howners, refused, hevents, -, hnone⟩, -⟩ := hquits (.inl rfl)
  obtain ⟨hwaits, -⟩ := hblocking Record false (Record.decode .document)
    ⟨.localhost, [], [], 0, []⟩ false
  obtain ⟨-, -, hclosed, -, -, hdrop⟩ := hwaits rfl rfl
  have hsame : blocking.drop.1.cursor = (blocking.call .blocking .close).1.cursor :=
    congrArg (fun r => r.1.cursor) hdrop
  refine ⟨⟨hceases.state, hlogs.owners.symm, hlogs.wire.symm⟩, ⟨hover, ?_, ?_, ?_⟩, ?_, ?_⟩
  · exact howners .source
  · exact Ledger.messages_congr htraffic
  · have hquiet := hnone (hcovers Ledger.fresh_start Ledger.covers_start rfl)
    rw [hquiet, List.append_nil] at hevents
    exact hevents
  · rw [hsame]
    exact hclosed.state
  · exact hsame

end ServerCursor
