import ServerCursor.Proofs.Forgone
import ServerCursor.Proofs.Stream

/-!
# The task that a cursor leaves behind

A cursor that is let go in a runtime leaves the server's cursor, and all that it holds, to a task
that is to close it. Before the task has control these still lie in the cursor; then it takes them
out, and gives them back even if it is thrown away. So whatever becomes of the task afterwards,
everything is given back (`Schedule.GivesBack`), as it is by the task that a request leaves which is
given up.

A task that is thrown away before it had control gives nothing back. Nobody is left then who could:
the cursor keeps what it holds for good.

A request that is given up leaves a task only if the cursor is closed. When the last handle is let
go in a runtime and the server need not be told, the cursor holds nothing from the beginning.

Main statement: `given_back_unless_forsaken`.
-/

namespace ServerCursor

/-- A call that is given up leaves a task only if the cursor is closed, and one that is to discard
the server's cursor. -/
theorem Cursor.cancel_eq_some {c : Cursor} {p : Point} {runtime : Bool} {t : Task}
    (h : (c.cancel p runtime).2 = some t) : c.state.closed = true ∧ ∃ a, t = .kill a := by
  have hfetch : ∀ back : List Resource, (c.cancelFetch back runtime).2 = some t →
      c.state.closed = true ∧ ∃ a, t = .kill a := by
    intro back hback
    unfold cancelFetch at hback
    dsimp only at hback
    split at hback
    · rename_i hclosed
      refine ⟨hclosed, ?_⟩
      split at hback
      · cases hback
      · split at hback
        · exact ⟨_, (Option.some.inj hback).symm⟩
        · cases hback
    · cases hback
  cases p with
  | fetchCheckout f => exact hfetch _ h
  | fetchReply f n => exact hfetch _ h
  | killCheckout a after => cases h
  | killReply a after => cases h

/-- Nothing is left behind that is to close a cursor, unless the cursor is let go. -/
theorem close_notMem_left (c : Cursor) {t : Turn} (h : t.isDrop = false) :
    Task.close ∉ (t.effect c).left := by
  have hprogress : ∀ progress : Progress, Task.close ∉ progress.left := by
    rintro (p | o)
    · exact fun hmem => nomatch Multiset.mem_singleton.mp hmem
    · exact Multiset.notMem_zero _
  have hcancel : ∀ (p : Point) (runtime : Bool),
      Task.close ∉ (↑(c.cancel p runtime).2.toList : Multiset Task) := by
    intro p runtime hmem
    obtain ⟨-, a, ha⟩ := Cursor.cancel_eq_some (Option.mem_toList.mp (Multiset.mem_coe.mp hmem))
    cases ha
  cases t with
  | begin call => exact hprogress _
  | answer p a => exact hprogress _
  | cancel p runtime => exact hcancel p runtime
  | startTask t => exact hprogress _
  | answerTask p a => exact hprogress _
  | discardTask t runtime =>
    cases t with
    | close => exact Multiset.notMem_zero _
    | kill a => exact Multiset.notMem_zero _
    | suspended p => exact hcancel p runtime
  | drop runtime => cases h
  | retain r => exact Multiset.notMem_zero _
  | release r => exact Multiset.notMem_zero _

theorem close_notMem_play {start c : Cursor} {ms : List Moment} {pending : Multiset Task}
    (hp : Play start ms c pending) (h : ∀ m ∈ ms, m.turn.isDrop = false) :
    Task.close ∉ pending := by
  induction hp with
  | nil => exact Multiset.notMem_zero _
  | @snoc ms c rest t before allowed ih =>
    have hbefore := ih fun m hm => h m (List.mem_append_left _ hm)
    intro hmem
    rcases Multiset.mem_add.mp hmem with hleft | hrest
    · exact close_notMem_left c (h ⟨c, t⟩ List.mem_concat_self) hleft
    · exact hbefore (Multiset.mem_add.mpr (.inr hrest))

namespace Schedule

theorem isDropped_of_mem_moments {s : Schedule} {history : List Action} {m : Moment}
    (h : m ∈ s.moments history) (hdrop : m.turn.isDrop = true) :
    (s.run history).isDropped = true := by
  induction history generalizing s with
  | nil => cases h
  | cons a rest ih =>
    rcases List.mem_append.mp h with hfirst | hlater
    · have hstep : (s.step a).1.isDropped = true := by
        rcases List.mem_append.mp hfirst with hturn | hlast
        · obtain ⟨t, ht, rfl⟩ := List.mem_map.mp hturn
          cases makes_of_turn? (Option.mem_toList.mp ht) <;> cases hdrop
        · split at hlast
          · rename_i hcond
            exact (Bool.and_eq_true_iff.mp hcond).2
          · cases hlast
      obtain ⟨hhandles, hcalls⟩ := (isDropped_iff _).mp hstep
      exact (isDropped_iff _).mpr (forsaken_run hhandles hcalls rest)
    · exact ih hlater

theorem inert_run {s : Schedule} (hhandles : s.handles = 0) (hcalls : s.calls = [])
    (htasks : s.tasks = []) (later : List Action) :
    (s.run later).cursor.state = s.cursor.state ∧ (s.run later).tasks = [] := by
  induction later generalizing s with
  | nil => exact ⟨rfl, htasks⟩
  | cons a rest ih =>
    have hfree := fun slot => waitingIn?_of_no_calls hcalls slot
    obtain ⟨hhandles', hcalls'⟩ := forsaken_run hhandles hcalls [a]
    have hsame : (s.step a).1.cursor.state = s.cursor.state ∧ (s.step a).1.tasks = [] := by
      cases a with
      | begin slot call => simp [step, begin, hhandles, htasks]
      | answer slot a => simp [step, answer, hfree, htasks]
      | cancel slot => simp [step, cancel, hfree, htasks]
      | convert => simp [step, convert, hhandles, htasks]
      | drop => simp [step, dropHandle, hhandles, htasks]
      | startTask i => simp [step, startTask, htasks]
      | answerTask i a => simp [step, answerTask, htasks]
      | discardTask i => simp [step, discardTask, htasks]
      | setRuntime present => exact ⟨rfl, htasks⟩
      | retain r =>
        simp only [step, retain]
        split <;> exact ⟨rfl, htasks⟩
      | release r =>
        simp only [step, release]
        split <;> exact ⟨rfl, htasks⟩
    obtain ⟨hstate, hnone⟩ := ih hhandles' hcalls' hsame.2
    exact ⟨hstate.trans hsame.1, hnone⟩

/-- Whatever happens after this history, once no call waits and no task is left the cursor holds
nothing, and only others own the source and the connections. -/
def GivesBack (others : Resource → Nat) (start : Schedule) (history : List Action) : Prop :=
  ∀ later, isFair others (start.moments (history ++ later)) = true →
    let s := start.run (history ++ later)
    s.calls = [] → s.tasks = [] → s.cursor.state.held = [] ∧
      ∀ r, s.cursor.ledger.owners r = othersAfter others (start.moments (history ++ later)) r

end Schedule

section Create

variable (reply : Reply) (options : Options) (server : ServerDescription)
  (connection : Option (Nat × ConnectionDescription)) (l : Ledger)

theorem owners_of_still (runtime : Bool) (history : List Action) (hfresh : l.Fresh)
    (hhanded : l.Covers ↑(handed connection)) :
    let start := Schedule.opened reply options server connection l runtime
    let s := start.run history
    isFair (spare l connection) (start.moments history) = true → s.calls = [] → s.tasks = [] →
      ∀ r, s.cursor.ledger.owners r = s.cursor.state.held.count r +
        othersAfter (spare l connection) (start.moments history) r := by
  intro start s hfair hcalls htasks r
  have hbalanced :=
    balanced_run reply options server connection l runtime history hfresh hhanded hfair
  have howners := hbalanced.owners r
  have hpending : s.pending = 0 := by
    rw [Schedule.pending, hcalls, htasks]
    rfl
  rw [hpending, holdings_zero, add_zero, Multiset.coe_count] at howners
  exact howners

/-- A closed cursor gives everything back, whatever becomes of its tasks. -/
theorem givesBack_of_closed (runtime : Bool) (history : List Action) (hfresh : l.Fresh)
    (hhanded : l.Covers ↑(handed connection)) :
    let start := Schedule.opened reply options server connection l runtime
    (start.run history).cursor.state.closed = true →
      start.GivesBack (spare l connection) history := by
  intro start hclosed later hfair s hcalls htasks
  let opened := Cursor.create reply options server connection l
  have hstays : s.cursor.state.closed = true := by
    have hend := Schedule.play_run_append opened runtime history later
    have hrun : s = (start.run history).run later := Schedule.run_append start history later
    rw [hrun]
    exact Play.onward (I := fun _ d _ => d.state.closed = true)
      (Schedule.play_run opened runtime history) hend hclosed
      fun {_ d _ t} _ _ hd => closed_effect hd t
  obtain ⟨-, -, hsource, hpin⟩ := cleared_of_over reply options server connection l runtime
    (history ++ later) (.inl hstays) hcalls htasks
  have hheld : s.cursor.state.held = [] := by
    rw [State.held, hsource, hpin]
    rfl
  refine ⟨hheld, fun r => ?_⟩
  have howners := owners_of_still reply options server connection l runtime (history ++ later)
    hfresh hhanded hfair hcalls htasks r
  rw [hheld] at howners
  exact howners.trans (Nat.zero_add _)

theorem State.Sound.held_ne_nil {s : State} {fs : Multiset Flight} (h : s.Sound fs)
    (hid : s.id ≠ 0) : s.held ≠ [] := by
  rw [State.held]
  rcases h.routed hid with hsource | hpin
  · rw [hsource]
    exact List.append_ne_nil_of_right_ne_nil _ (List.cons_ne_nil _ _)
  · obtain ⟨n, hn⟩ := Option.ne_none_iff_exists'.mp (mt Pin.connection?_eq_none_iff.mp hpin)
    rw [hn]
    exact List.cons_ne_nil _ _

theorem tasks_of_live (runtime : Bool) (history : List Action) :
    let s := (Schedule.opened reply options server connection l runtime).run history
    s.calls = [] → s.handles ≠ 0 → s.cursor.state.id ≠ 0 → s.tasks = [] := by
  intro s hcalls hhandles hid
  have hsound := sound_create reply options server connection l
  have hplay := Schedule.play_run (Cursor.create reply options server connection l) runtime history
  obtain ⟨kills, htracked⟩ :=
    tracked_play hsound (tracked_create reply options server connection l) hplay
  have horderly : s.Orderly := (Schedule.coherent_run hsound runtime history).orderly
  obtain ⟨-, hkills, (howes : owes s.pending = 0)⟩ := htracked.of_live hid
  have hawaits : awaits s.pending = 0 := by
    have hle := htracked.awaits
    rw [hkills] at hle
    exact Multiset.le_zero.mp hle
  have hflights : flights s.pending = 0 := by
    rw [Schedule.flights_pending horderly, Schedule.roundTrips, hcalls]
    rfl
  have hties : ties s.pending = 0 := by
    rw [ties, hflights, howes, hawaits]
    rfl
  have hopen : s.isDropped = false :=
    Bool.eq_false_iff.mpr fun hdropped => hhandles ((Schedule.isDropped_iff s).mp hdropped).1
  have hnever : Task.close ∉ s.pending := close_notMem_play hplay fun m hm =>
    Bool.eq_false_iff.mpr fun hdrop => by
      have hdropped := Schedule.isDropped_of_mem_moments hm hdrop
      exact absurd hdropped (Bool.eq_false_iff.mp hopen)
  rw [List.eq_nil_iff_forall_not_mem]
  intro t ht
  have hpending : t ∈ s.pending := Multiset.mem_add.mpr (.inr ht)
  have hne : t ≠ .close := fun heq => hnever (heq ▸ hpending)
  obtain ⟨rest, hrest⟩ := Multiset.exists_cons_of_mem hpending
  rw [hrest, ← Multiset.singleton_add, ties_add, ties_singleton hne] at hties
  omega

/-- A request is given up, and a task is left. The cursor was closed, so everything is given
back. -/
theorem givesBack_of_cancel (runtime : Bool) (history : List Action) (hfresh : l.Fresh)
    (hhanded : l.Covers ↑(handed connection)) (slot : Slot) :
    let start := Schedule.opened reply options server connection l runtime
    let s := start.run history
    s.handles ≠ 0 → (s.step (.cancel slot)).1.tasks ≠ s.tasks →
      start.GivesBack (spare l connection) (history ++ [.cancel slot]) := by
  intro start s hhandles htasks
  refine givesBack_of_closed reply options server connection l runtime _ hfresh hhanded ?_
  rw [Schedule.run_append]
  cases hp : s.waitingIn? slot with
  | none =>
    have hsame : (s.step (.cancel slot)).1 = s := by simp only [Schedule.step, Schedule.cancel, hp]
    exact absurd (congrArg Schedule.tasks hsame) htasks
  | some p =>
    have hstep := (Schedule.cancel_of_waiting hp).trans (Schedule.letGo_of_handles hhandles)
    rw [hstep] at htasks
    have hclosed : s.cursor.state.closed = true := by
      cases ht : (s.cursor.cancel p s.runtime).2 with
      | none =>
        rw [ht] at htasks
        exact absurd (List.append_nil _) htasks
      | some t => exact (Cursor.cancel_eq_some ht).1
    change (s.step (.cancel slot)).1.cursor.state.closed = true
    rw [hstep]
    exact Cursor.closed_cancel hclosed p s.runtime

theorem givesBack_of_spared (runtime : Bool) (history : List Action) (hfresh : l.Fresh)
    (hhanded : l.Covers ↑(handed connection)) :
    let start := Schedule.opened reply options server connection l runtime
    let s := start.run history
    let dropped := (s.step .drop).1
    s.calls = [] → s.handles ≠ 0 → s.cursor.needsKill = false →
      dropped.tasks = s.tasks ∧ dropped.cursor.state.held = [] ∧
      start.GivesBack (spare l connection) (history ++ [.drop]) := by
  intro start s dropped hcalls hhandles hspared
  have hdropped : dropped = _ := Schedule.step_drop hcalls (Schedule.handles_eq_one hhandles)
  have hsilent : s.runtime = false ∨ s.cursor.state.closed = true ∨ s.cursor.state.id = 0 := by
    by_contra hneither
    rw [not_or, not_or, Bool.not_eq_true s.cursor.state.closed] at hneither
    rw [Cursor.needsKill_eq_true_iff.mpr hneither.2] at hspared
    cases hspared
  obtain ⟨hnone, hquits⟩ := Cursor.quits_drop (Schedule.sound_of_no_calls hcalls) hsilent
  rw [hnone] at hdropped
  have htasks : dropped.tasks = s.tasks := by
    rw [hdropped]
    exact List.append_nil _
  have hheld : dropped.cursor.state.held = [] := by
    rw [hdropped]
    exact hquits.state.held
  have hclosed : dropped.cursor.state.closed = true := by
    rw [hdropped]
    exact hquits.state.closed
  refine ⟨htasks, hheld,
    givesBack_of_closed reply options server connection l runtime _ hfresh hhanded ?_⟩
  rw [Schedule.run_append]
  exact hclosed

/-- Nobody has anything to do with a cursor any more. It keeps what it holds. -/
theorem keeps_of_inert (runtime : Bool) (history later : List Action) (hfresh : l.Fresh)
    (hhanded : l.Covers ↑(handed connection)) {s : Schedule}
    (hs : (Schedule.opened reply options server connection l runtime).run history = s)
    (hhandles : s.handles = 0) (hcalls : s.calls = []) (htasks : s.tasks = []) :
    let last := s.run later
    let made := (Schedule.opened reply options server connection l runtime).moments
      (history ++ later)
    last.handles = 0 ∧ last.calls = [] ∧ last.tasks = [] ∧
    last.cursor.state = s.cursor.state ∧
    (isFair (spare l connection) made = true → ∀ r, last.cursor.ledger.owners r =
      s.cursor.state.held.count r + othersAfter (spare l connection) made r) := by
  intro last made
  obtain ⟨hhandles', hcalls'⟩ := Schedule.forsaken_run hhandles hcalls later
  obtain ⟨hstate, htasks'⟩ := Schedule.inert_run hhandles hcalls htasks later
  refine ⟨hhandles', hcalls', htasks', hstate, fun hfair r => ?_⟩
  have howners := owners_of_still reply options server connection l runtime (history ++ later)
    hfresh hhanded hfair
  rw [Schedule.run_append, hs] at howners
  rw [howners hcalls' htasks' r, hstate]

/-- Once all tasks are gone, everything is given back, whatever has become of them, unless a task
that was to close the cursor was thrown away before it had control. Then nobody gives back what the
open cursor holds. -/
theorem given_back_unless_forsaken (runtime : Bool) (history : List Action) (hfresh : l.Fresh)
    (hhanded : l.Covers ↑(handed connection)) :
    let start := Schedule.opened reply options server connection l runtime
    let others := spare l connection
    let s := start.run history
    (∀ slot, s.handles ≠ 0 → (s.step (.cancel slot)).1.tasks ≠ s.tasks →
      start.GivesBack others (history ++ [.cancel slot])) ∧
    (s.calls = [] → s.handles ≠ 0 → s.runtime = true →
      let dropped := (s.step .drop).1
      (s.cursor.needsKill = false → dropped.tasks = s.tasks ∧ dropped.cursor.state.held = [] ∧
        start.GivesBack others (history ++ [.drop])) ∧
      (s.cursor.needsKill = true →
        dropped = { s with handles := 0, tasks := [.close] } ∧
        start.GivesBack others (history ++ [.drop, .startTask 0]) ∧
        let forsaken := (dropped.step (.discardTask 0)).1
        forsaken = { s with handles := 0 } ∧
        ∀ later,
          let last := forsaken.run later
          let all := history ++ [.drop, .discardTask 0] ++ later
          last.handles = 0 ∧ last.calls = [] ∧ last.tasks = [] ∧
          last.cursor.state = s.cursor.state ∧ s.cursor.state.held ≠ [] ∧
          (isFair others (start.moments all) = true → ∀ r, last.cursor.ledger.owners r =
            s.cursor.state.held.count r + othersAfter others (start.moments all) r))) := by
  intro start others s
  refine ⟨fun slot => givesBack_of_cancel reply options server connection l runtime history hfresh
    hhanded slot, fun hcalls hhandles hruntime => ?_⟩
  intro dropped
  refine ⟨givesBack_of_spared reply options server connection l runtime history hfresh hhanded
    hcalls hhandles, fun hneeds => ?_⟩
  obtain ⟨hopen, hid⟩ := Cursor.needsKill_eq_true_iff.mp hneeds
  have htasks : s.tasks = [] :=
    tasks_of_live reply options server connection l runtime history hcalls hhandles hid
  have hdropped : dropped = { s with handles := 0, tasks := [.close] } := by
    have hleft : s.cursor.drop s.runtime = (s.cursor, some .close) := by
      rw [Cursor.drop, hneeds, hruntime]
      rfl
    have hstep : dropped = _ := Schedule.step_drop hcalls (Schedule.handles_eq_one hhandles)
    rw [hleft, htasks] at hstep
    exact hstep
  have hforsaken : (dropped.step (.discardTask 0)).1 = { s with handles := 0 } := by
    have hnone : ({ s with handles := 0 } : Schedule) = { s with handles := 0, tasks := [] } :=
      congrArg (fun tasks => { s with handles := 0, tasks := tasks }) htasks
    rw [hdropped, hnone]
    rfl
  have hheld : s.cursor.state.held ≠ [] :=
    (Schedule.sound_of_no_calls hcalls).held_ne_nil hid
  have hrun : ∀ actions, start.run (history ++ .drop :: actions) = dropped.run actions :=
    fun actions => Schedule.run_append start history (.drop :: actions)
  refine ⟨hdropped, ?_, hforsaken, fun later => ?_⟩
  · refine givesBack_of_closed reply options server connection l runtime _ hfresh hhanded ?_
    have hstart : start.run (history ++ [.drop, .startTask 0]) =
        dropped.setTask 0 s.cursor.close := by
      rw [hrun, hdropped]
      rfl
    rw [hstart, Schedule.cursor_setTask]
    exact Cursor.closed_close s.cursor
  · have hgone : start.run (history ++ [.drop, .discardTask 0]) = { s with handles := 0 } :=
      (hrun [.discardTask 0]).trans hforsaken
    rw [hforsaken]
    obtain ⟨hhandles', hcalls', htasks', hstate, howners⟩ := keeps_of_inert reply options server
      connection l runtime _ later hfresh hhanded hgone rfl hcalls htasks
    exact ⟨hhandles', hcalls', htasks', hstate, hheld, howners⟩

end Create

/-- The cursor is let go before anything was asked, and its task gives back the source: once it has
had control even if it is thrown away then. -/
theorem given_back_unless_forsaken_unread :
    let dropped := (Schedule.unread.step .drop).1
    let discarded := dropped.run [.startTask 0, .discardTask 0]
    let forsaken := dropped.run [.discardTask 0]
    Schedule.unread.cursor.needsKill = true ∧ dropped.cursor.ledger.owners .source = 1 ∧
    discarded.tasks = [] ∧ discarded.cursor.ledger.owners .source = 0 ∧
    forsaken.tasks = [] ∧ forsaken.cursor.ledger.owners .source = 1 := by
  intro dropped discarded forsaken
  obtain ⟨-, hdrop⟩ := given_back_unless_forsaken ⟨⟨"db", "items"⟩, [], 7, .localhost⟩ .default
    .blank none Ledger.start true [] Ledger.fresh_start Ledger.covers_start
  obtain ⟨-, hkill⟩ := hdrop rfl Nat.one_ne_zero rfl
  obtain ⟨-, hgives, -, hkeeps⟩ := hkill (by decide)
  obtain ⟨-, howners⟩ := hgives [.discardTask 0] (by decide) rfl rfl
  obtain ⟨-, -, htasks, -, -, hleft⟩ := hkeeps []
  exact ⟨by decide, by decide, rfl, howners .source, htasks, hleft (by decide) .source⟩

/-- Its task is thrown away before it had control. Nobody has anything to do any more and nobody
else owns the source, but the cursor holds it for good. -/
theorem Schedule.unread_forsaken :
    let forsaken := Schedule.unread.run [.drop, .discardTask 0]
    forsaken.handles = 0 ∧ forsaken.calls = [] ∧ forsaken.tasks = [] ∧
    forsaken.cursor.state.closed = false ∧
    spare Ledger.start none .source = 0 ∧ forsaken.cursor.ledger.owners .source = 1 ∧
    ∀ later, (forsaken.run later).tasks = [] ∧
      (forsaken.run later).cursor.state.held = [.source] := by
  intro forsaken
  refine ⟨rfl, rfl, rfl, by decide, by decide, by decide, fun later => ?_⟩
  obtain ⟨hstate, htasks⟩ := Schedule.inert_run (s := forsaken) rfl rfl rfl later
  exact ⟨htasks, (congrArg State.held hstate).trans rfl⟩

end ServerCursor
