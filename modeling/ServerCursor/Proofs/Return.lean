import ServerCursor.Proofs.Balance

/-!
# Everything is given back

A new cursor takes over one owner of the source and, if it was handed a connection, one owner of
that. Others may join and leave the same resources at any time, if they leave only what they own
(`isFair`).

Main statements: `balanced_play` says who the owners are after every play, and
`everything_given_back` that a cursor which is closed or dropped, with nobody left who has something
to do, owns nothing any more, and that no release has failed on the way.
-/

namespace ServerCursor

/-- What a new cursor takes over. -/
def handed (connection : Option (Nat × ConnectionDescription)) : List Resource :=
  .source :: connectionIf (connection.map (·.1))

/-- What others own of each resource when a cursor takes over what it is handed. -/
def spare (l : Ledger) (connection : Option (Nat × ConnectionDescription)) (r : Resource) : Nat :=
  l.owners r - (handed connection).count r

theorem Ledger.fresh_start : Ledger.start.Fresh :=
  fun _ _ => rfl

theorem Ledger.covers_start : Ledger.start.Covers ↑(handed none) := by
  intro r
  cases r with
  | source => decide
  | connection n => exact Nat.zero_le _

/-- What others own after a turn. A resource without owners is refused to them. -/
def Moment.others (m : Moment) (others : Resource → Nat) : Resource → Nat :=
  match m.turn with
  | .retain r =>
    if m.cursor.ledger.owners r = 0 then others else Ledger.put others r (others r + 1)
  | .release r => Ledger.put others r (others r - 1)
  | _ => others

/-- What others own after some turns. -/
def othersAfter (others : Resource → Nat) (ms : List Moment) : Resource → Nat :=
  ms.foldl (fun others m => m.others others) others

/-- Whether a turn takes an owner from others only if they own the resource. -/
def Moment.isFair (m : Moment) (others : Resource → Nat) : Bool :=
  match m.turn with
  | .release r => 0 < others r
  | _ => true

/-- Whether others leave only what they own. -/
def isFair (others : Resource → Nat) : List Moment → Bool
  | [] => true
  | m :: rest => m.isFair others && isFair (m.others others) rest

theorem othersAfter_snoc (others : Resource → Nat) (ms : List Moment) (m : Moment) :
    othersAfter others (ms ++ [m]) = m.others (othersAfter others ms) := by
  simp [othersAfter]

theorem isFair_snoc {others : Resource → Nat} {ms : List Moment} {m : Moment}
    (h : isFair others (ms ++ [m]) = true) :
    isFair others ms = true ∧ m.isFair (othersAfter others ms) = true := by
  induction ms generalizing others with
  | nil => exact ⟨rfl, (Bool.and_eq_true_iff.mp h).1⟩
  | cons first rest ih =>
    obtain ⟨hfirst, hrest⟩ := Bool.and_eq_true_iff.mp h
    obtain ⟨hbefore, hlast⟩ := ih hrest
    exact ⟨Bool.and_eq_true_iff.mpr ⟨hfirst, hbefore⟩, hlast⟩

/-- Every owner is the cursor, a party, or somebody else, and no release has failed since. -/
structure Balanced (refused : List Event) (c : Cursor) (pending : Multiset Task)
    (others : Resource → Nat) : Prop where
  /-- Connections that were not handed out yet have no owners. -/
  fresh : c.ledger.Fresh
  /-- No release has failed. -/
  refused : c.ledger.refusedReleases = refused
  /-- Nobody else owns anything. -/
  owners : ∀ r, c.ledger.owners r = (↑c.state.held + holdings pending).count r + others r

theorem Balanced.covers {refused : List Event} {c : Cursor} {pending : Multiset Task}
    {others : Resource → Nat} (h : Balanced refused c pending others) :
    c.ledger.Covers ↑c.state.held := fun r => by
  rw [h.owners, Multiset.count_add, Nat.add_assoc]
  exact Nat.le_add_right ..

section Effect

variable {refused : List Event} {c : Cursor} {rest : Multiset Task} {others : Resource → Nat}

/-- Holders who turn what they hold into something else keep the balance with what all others
hold. -/
theorem balanced_of_moves {before after : Multiset Resource} {c' : Cursor} {rest' : Multiset Task}
    {others' : Resource → Nat} (h : Balanced refused c rest others) (kept : Resource → Nat)
    (hmoves : c.ledger.Moves before c'.ledger after)
    (hbefore : ∀ r, (↑c.state.held + holdings rest).count r + others r = before.count r + kept r)
    (hafter : ∀ r, (↑c'.state.held + holdings rest').count r + others' r = after.count r + kept r) :
    Balanced refused c' rest' others' := by
  have hcovers : c.ledger.Covers before := by
    intro r
    rw [h.owners r, hbefore r]
    exact Nat.le_add_right ..
  have hmoved := hmoves h.fresh hcovers
  refine ⟨hmoved.fresh, hmoved.refused.trans h.refused, fun r => ?_⟩
  have howners := hmoved.owners r
  rw [h.owners r, hbefore r] at howners
  rw [hafter r]
  omega

theorem balanced_own {t : Turn} (h : Balanced refused c (t.party + rest) others)
    (ht : t.isOthers = false) (hp : AllProper t.party) :
    Balanced refused (t.effect c).cursor ((t.effect c).left + rest) others := by
  refine balanced_of_moves h (fun r => (holdings rest).count r + others r)
    (moves_effect ht c hp) (fun r => ?_) fun r => ?_
  · simp only [holdings_add, Multiset.count_add]
    omega
  · simp only [holdings_add, Multiset.count_add]
    omega

theorem balanced_retain (h : Balanced refused c rest others) (r : Resource) :
    Balanced refused ((Turn.retain r).effect c).cursor rest
      (Moment.others ⟨c, .retain r⟩ others) := by
  simp only [Turn.effect, Turn.Effect.ofLedger, Moment.others]
  by_cases hr : c.ledger.owners r = 0
  · have hrefused : c.ledger.retain r = .error (c.ledger.emit .retainRefused) := by
      simp [Ledger.retain, Ownership.join, hr]
    rw [if_pos hr, hrefused]
    have hmoved := c.ledger.moves_emit (e := .retainRefused) rfl 0 h.fresh fun q => Nat.zero_le _
    exact ⟨hmoved.fresh, hmoved.refused.trans h.refused, h.owners⟩
  · have hjoined := Ledger.retain_of_pos (Nat.pos_of_ne_zero hr)
    have hcovers : c.ledger.Covers {r} := fun q => by
      rw [Multiset.count_singleton]
      split
      · rename_i e
        rw [e]
        exact Nat.pos_of_ne_zero hr
      · exact Nat.zero_le _
    have hmoved := Ledger.moves_retain hjoined h.fresh hcovers
    rw [if_neg hr, hjoined]
    refine ⟨hmoved.fresh, hmoved.refused.trans h.refused, fun q => ?_⟩
    have hq := h.owners q
    change Ledger.put c.ledger.owners r (c.ledger.owners r + 1) q = _
    rw [Ledger.count_put, Ledger.count_put]
    split
    · rename_i e
      rw [← e, hq]
      exact Nat.add_assoc ..
    · exact hq

/-- A resource that somebody else leaves is owned once less. -/
theorem balanced_release (h : Balanced refused c rest others) {r : Resource}
    (hr : 0 < others r) :
    Balanced refused ((Turn.release r).effect c).cursor rest
      (Moment.others ⟨c, .release r⟩ others) := by
  have hpos : 0 < c.ledger.owners r := by
    rw [h.owners r]
    omega
  have hcovers : c.ledger.Covers {r} := fun q => by
    rw [Multiset.count_singleton]
    split
    · rename_i e
      rw [e]
      exact hpos
    · exact Nat.zero_le _
  have hleft : ((Turn.release r).effect c).cursor = { c with ledger := c.ledger.giveBack r } := by
    simp only [Turn.effect, Turn.Effect.ofLedger, Ledger.giveBack]
    cases hl : c.ledger.release r with
    | ok l => rfl
    | error l =>
      have hne : c.ledger.owners r ≠ 0 := by omega
      simp [Ledger.release, Ownership.leave, hne] at hl
  have hmoved := c.ledger.moves_giveBack r h.fresh hcovers
  rw [hleft]
  simp only [Moment.others]
  refine ⟨hmoved.fresh, hmoved.refused.trans h.refused, fun q => ?_⟩
  have hq := h.owners q
  rw [Ledger.owners_giveBack hpos, Ledger.count_put, Ledger.count_put]
  change _ = (↑c.state.held + holdings rest : Multiset Resource).count q + _
  split
  · rename_i e
    rw [← e, hq]
    rw [← e] at hr
    omega
  · exact hq

theorem balanced_turn {t : Turn} (h : Balanced refused c (t.party + rest) others)
    (hp : AllProper t.party) (hfair : Moment.isFair ⟨c, t⟩ others = true) :
    Balanced refused (t.effect c).cursor ((t.effect c).left + rest)
      (Moment.others ⟨c, t⟩ others) := by
  cases t with
  | retain r =>
    have hrest : (Turn.retain r).party + rest = rest := zero_add rest
    rw [hrest] at h
    exact (zero_add rest).symm ▸ balanced_retain h r
  | release r =>
    have hrest : (Turn.release r).party + rest = rest := zero_add rest
    rw [hrest] at h
    exact (zero_add rest).symm ▸ balanced_release h (of_decide_eq_true hfair)
  | _ => exact balanced_own h rfl hp

end Effect

/-- Who the owners are after every play. -/
theorem balanced_play {refused : List Event} {start c : Cursor} {ms : List Moment}
    {pending : Multiset Task} {others : Resource → Nat} (h : Balanced refused start 0 others)
    (hp : Play start ms c pending) (hfair : isFair others ms = true) :
    Balanced refused c pending (othersAfter others ms) := by
  induction hp with
  | nil => exact h
  | snoc before _ ih =>
    obtain ⟨hbefore, hlast⟩ := isFair_snoc hfair
    rw [othersAfter_snoc]
    exact balanced_turn (ih hbefore) (proper_party before) hlast

namespace Cursor

theorem closed_next {c : Cursor} (h : c.state.closed = true) (wait fetched : Bool) :
    (c.next wait fetched).1.state.closed = true := by
  simp only [next]
  rw [if_pos h]
  exact h

theorem closed_close (c : Cursor) : c.close.1.state.closed = true := by
  unfold close
  split
  · assumption
  dsimp only
  split
  · rfl
  · rw [state_kill]
    rfl

theorem state_fetchRepliedClosed (c : Cursor) (f : Fetch) (n : Nat) (r : Except Error Reply) :
    (c.fetchRepliedClosed f n r).1.state = { c.state with fetching := false }.bare := by
  simp only [fetchRepliedClosed]
  rw [state_kill]
  rfl

theorem closed_fetchUnrouted {c : Cursor} (h : c.state.closed = true) (f : Fetch) (cause : Error) :
    (c.fetchUnrouted f cause).1.state.closed = true := by
  have hc : (c.giveBack f.held).state.closed = true := h
  simp only [fetchUnrouted]
  rw [if_pos hc, state_kill]
  exact h

theorem closed_resume {c : Cursor} (h : c.state.closed = true) (p : Point) (a : Answer) :
    (c.resume p a).1.state.closed = true := by
  cases p with
  | fetchCheckout f =>
    cases a with
    | checkout r =>
      cases r with
      | ok _ => exact h
      | error cause => exact closed_fetchUnrouted (c := c.record .unavailable) h f cause
    | reply r => exact h
    | kill r => exact h
  | fetchReply f n =>
    cases a with
    | checkout r => exact h
    | reply r =>
      rw [resume, fetchReplied, if_pos h, state_fetchRepliedClosed]
      exact h
    | kill r => exact h
  | killCheckout b after =>
    cases a with
    | checkout r =>
      cases r with
      | ok _ => exact h
      | error cause =>
        rw [resume, killCheckedOut, state_conclude]
        exact h
    | reply r => exact h
    | kill r => exact h
  | killReply b after =>
    cases a with
    | checkout r => exact h
    | reply r => exact h
    | kill r => cases r <;> rw [resume, killReplied, state_conclude] <;> exact h

theorem closed_startTask {c : Cursor} (h : c.state.closed = true) (t : Task) :
    (c.startTask t).1.state.closed = true := by
  cases t with
  | close => exact closed_close c
  | kill a => rw [startTask, state_kill]; exact h
  | suspended p => exact h

theorem closed_cancelFetch {c : Cursor} (h : c.state.closed = true) (back : List Resource)
    (runtime : Bool) : (c.cancelFetch back runtime).1.state.closed = true := by
  simp only [cancelFetch]
  rw [if_pos h]
  split
  · exact h
  split
  · exact h
  · exact h

theorem closed_cancel {c : Cursor} (h : c.state.closed = true) (p : Point) (runtime : Bool) :
    (c.cancel p runtime).1.state.closed = true := by
  cases p with
  | fetchCheckout f => exact closed_cancelFetch h _ runtime
  | fetchReply f n => exact closed_cancelFetch h _ runtime
  | killCheckout a after => exact h
  | killReply a after => exact h

theorem closed_closeQuietly (c : Cursor) : c.closeQuietly.1.state.closed = true := by
  simp only [closeQuietly]
  split
  · assumption
  · rfl

theorem closed_drop (c : Cursor) (runtime : Bool) :
    (c.drop runtime).1.state.closed = true ∨ (c.drop runtime).2 = some .close := by
  have hquiet := closed_closeQuietly c
  simp only [drop]
  split
  · exact .inl hquiet
  split
  · exact .inr rfl
  split
  · rename_i d id hd
    rw [hd] at hquiet
    exact .inl hquiet
  · rename_i d hd
    rw [hd] at hquiet
    exact .inl hquiet

end Cursor

theorem closed_effect {c : Cursor} (h : c.state.closed = true) (t : Turn) :
    (t.effect c).cursor.state.closed = true := by
  cases t with
  | begin call =>
    cases call with
    | next => exact Cursor.closed_next h true false
    | tryNext => exact Cursor.closed_next h false false
    | close => exact Cursor.closed_close c
  | answer p a => exact Cursor.closed_resume h p a
  | cancel p runtime => exact Cursor.closed_cancel h p runtime
  | startTask t => exact Cursor.closed_startTask h t
  | answerTask p a => exact Cursor.closed_resume h p a
  | discardTask t runtime =>
    cases t with
    | close => exact h
    | kill a => exact h
    | suspended p => exact Cursor.closed_cancel h p runtime
  | drop runtime =>
    have hneeds : (!c.needsKill) = true := by simp [Cursor.needsKill, h]
    rw [Turn.effect, Cursor.drop, if_pos hneeds]
    exact Cursor.closed_closeQuietly c
  | retain r => exact h
  | release r => exact h

/-- A cursor that was let go is closed, or waits for the task that closes it, unless that task was
thrown away. -/
theorem closed_or_close_mem {start c : Cursor} {ms : List Moment} {pending : Multiset Task}
    (hp : Play start ms c pending)
    (hkept : ∀ m ∈ ms, ∀ t runtime, m.turn ≠ .discardTask t runtime)
    (hdrop : ∃ m ∈ ms, ∃ runtime, m.turn = .drop runtime) :
    c.state.closed = true ∨ Task.close ∈ pending := by
  induction hp with
  | nil =>
    obtain ⟨m, hm, -⟩ := hdrop
    cases hm
  | @snoc ms c rest t before allowed ih =>
    have hkept' : ∀ m ∈ ms, ∀ t runtime, m.turn ≠ .discardTask t runtime := fun m hm =>
      hkept m (List.mem_append_left _ hm)
    by_cases hlast : ∃ runtime, t = .drop runtime
    · obtain ⟨runtime, rfl⟩ := hlast
      rcases Cursor.closed_drop c runtime with hclosed | hclose
      · exact .inl hclosed
      · right
        refine Multiset.mem_add.mpr (.inl ?_)
        change Task.close ∈ (c.drop runtime).2.toList
        rw [hclose]
        exact List.mem_singleton_self _
    · obtain ⟨m, hm, runtime, hturn⟩ := hdrop
      have hearlier : m ∈ ms := by
        rcases List.mem_append.mp hm with hm | hm
        · exact hm
        · rw [List.mem_singleton.mp hm] at hturn
          exact absurd ⟨runtime, hturn⟩ hlast
      rcases ih hkept' ⟨m, hearlier, runtime, hturn⟩ with hclosed | hclose
      · exact .inl (closed_effect hclosed t)
      rcases Multiset.mem_add.mp hclose with hparty | hrest
      · -- Only the task itself can take the closing away, and then it closes.
        left
        have hsuspended : ∀ p : Point, Task.close ∉ ({.suspended p} : Multiset Task) := by
          intro p hmem
          cases Multiset.mem_singleton.mp hmem
        cases t with
        | startTask task =>
          rw [← Multiset.mem_singleton.mp hparty]
          exact Cursor.closed_close c
        | discardTask task runtime =>
          exact absurd rfl (hkept ⟨c, _⟩ List.mem_concat_self _ _)
        | answer p a => exact absurd hparty (hsuspended p)
        | cancel p runtime => exact absurd hparty (hsuspended p)
        | answerTask p a => exact absurd hparty (hsuspended p)
        | _ => exact absurd hparty (Multiset.notMem_zero _)
      · exact .inr (Multiset.mem_add.mpr (.inr hrest))

section Create

variable (reply : Reply) (options : Options) (server : ServerDescription)
  (connection : Option (Nat × ConnectionDescription)) (l : Ledger)

theorem moves_create :
    let c := Cursor.create reply options server connection l
    l.Moves ↑(handed connection) c.ledger ↑c.state.held := by
  have hcreated := Ledger.moves_emit l
    (e := .created reply.id reply.ns
      (Protocol.ofWireVersion ((connection.bind fun h => h.2.wireVersion).or server.wireVersion))
      reply.documents.length) rfl
  -- The cursor before it gives everything back for want of a server's cursor.
  have hbare : ∀ c : Cursor, l.Moves ↑(handed connection) c.ledger ↑c.state.held →
      let c' := if reply.id = 0 then (c.withState c.state.bare).giveBack c.state.abandoned.held
        else c
      l.Moves ↑(handed connection) c'.ledger ↑c'.state.held := by
    intro c hc
    dsimp only
    split
    · exact hc.trans (Ledger.moves_giveBackAll _ _)
    · exact hc
  refine hbare _ ?_
  cases connection with
  | none => exact hcreated _
  | some h =>
    have hback : ∀ (l : Ledger) (kept given : Resource),
        l.Moves ({kept} + {given}) (l.giveBackAll [given]) {kept} := fun l kept given =>
      (l.moves_giveBackAll [given]).frame_left {kept}
    have hboth : (↑(handed (some h)) : Multiset Resource) = {.connection h.1} + {.source} :=
      add_comm {Resource.source} {Resource.connection h.1}
    dsimp only
    split
    · rw [hboth]
      exact (hcreated _).trans (hback _ (.connection h.1) .source)
    · exact (hcreated _).trans (hback _ .source (.connection h.1))

theorem balanced_create (hfresh : l.Fresh) (hhanded : l.Covers ↑(handed connection)) :
    Balanced l.refusedReleases (Cursor.create reply options server connection l) 0
      (spare l connection) := by
  have hmoved := moves_create reply options server connection l hfresh hhanded
  refine ⟨hmoved.fresh, hmoved.refused, fun r => ?_⟩
  have hafter := hmoved.owners r
  have hbefore := hhanded r
  rw [Multiset.coe_count] at hafter hbefore
  rw [holdings_zero, add_zero, spare]
  omega

theorem balanced_run (runtime : Bool) (history : List Action) (hfresh : l.Fresh)
    (hhanded : l.Covers ↑(handed connection)) :
    let start := Schedule.opened reply options server connection l runtime
    let s := start.run history
    isFair (spare l connection) (start.moments history) = true →
      Balanced l.refusedReleases s.cursor s.pending
        (othersAfter (spare l connection) (start.moments history)) := by
  intro start s hfair
  have hplay : Play _ (start.moments history) s.cursor s.pending :=
    Schedule.play_run (Cursor.create reply options server connection l) runtime history
  exact balanced_play (balanced_create reply options server connection l hfresh hhanded) hplay hfair

/-- Once a cursor is closed or dropped and nobody has anything to do any more, nothing of its server
is left in its state. -/
theorem cleared_of_over (runtime : Bool) (history : List Action) :
    let start := Schedule.opened reply options server connection l runtime
    let s := start.run history
    (s.cursor.state.closed = true ∨ s.handles = 0 ∧ ∀ i, .discardTask i ∉ history) →
      s.calls = [] → s.tasks = [] →
      s.pending = 0 ∧ s.cursor.state.id = 0 ∧ s.cursor.state.source = false ∧
        s.cursor.state.pin = .unpinned := by
  intro start s hend hcalls htasks
  have hplay : Play _ (start.moments history) s.cursor s.pending :=
    Schedule.play_run (Cursor.create reply options server connection l) runtime history
  have hpending : s.pending = 0 := by
    rw [Schedule.pending, hcalls, htasks]
    rfl
  have hclosed : s.cursor.state.closed = true := by
    rcases hend with hclosed | ⟨hhandles, hkept⟩
    · exact hclosed
    have hdropped : s.isDropped = true := (Schedule.isDropped_iff s).mpr ⟨hhandles, hcalls⟩
    have hdrop := Schedule.exists_drop (s := start) rfl hdropped
    have hdiscard : ∀ m ∈ start.moments history, ∀ t runtime, m.turn ≠ .discardTask t runtime :=
      fun m hm t runtime ht =>
        (Schedule.discardTask_mem_history hm ht).elim fun i hi => hkept i hi
    rcases closed_or_close_mem hplay hdiscard hdrop with hclosed | hclose
    · exact hclosed
    · rw [hpending] at hclose
      exact absurd hclose (Multiset.notMem_zero _)
  have hsound := sound_play (sound_create reply options server connection l) hplay
  rw [hpending] at hsound
  exact ⟨hpending, hsound.cleared hclosed hsound.resting⟩

/-- Once a cursor is closed or dropped and nobody has anything to do any more, the cursor owns
nothing: only others own the source and the connections, as many times as they have joined them. No
release has failed on the way. -/
theorem everything_given_back (runtime : Bool) (history : List Action) (hfresh : l.Fresh)
    (hhanded : l.Covers ↑(handed connection)) :
    let start := Schedule.opened reply options server connection l runtime
    let s := start.run history
    isFair (spare l connection) (start.moments history) = true →
    s.cursor.ledger.refusedReleases = l.refusedReleases ∧
    ((s.cursor.state.closed = true ∨ s.handles = 0 ∧ ∀ i, .discardTask i ∉ history) →
      s.calls = [] → s.tasks = [] →
      s.cursor.state.held = [] ∧
      ∀ r, s.cursor.ledger.owners r =
        othersAfter (spare l connection) (start.moments history) r) := by
  intro start s hfair
  have hplay : Play _ (start.moments history) s.cursor s.pending :=
    Schedule.play_run (Cursor.create reply options server connection l) runtime history
  have hbalanced := balanced_play (balanced_create reply options server connection l hfresh hhanded)
    hplay hfair
  refine ⟨hbalanced.refused, fun hend hcalls htasks => ?_⟩
  obtain ⟨hpending, -, hsource, hpin⟩ :=
    cleared_of_over reply options server connection l runtime history hend hcalls htasks
  have hheld : s.cursor.state.held = [] := by
    rw [State.held, hsource, hpin]
    rfl
  refine ⟨hheld, fun r => ?_⟩
  have howners := hbalanced.owners r
  rw [hheld, hpending] at howners
  exact howners.trans (Nat.zero_add _)

end Create

/-- Behind a load balancer a cursor is bound to the connection it is handed. -/
def Schedule.bound : Schedule :=
  opened ⟨⟨"db", "items"⟩, [], 7, .localhost⟩ .default .blank
    (some (1, ⟨1, .localhost, .loadBalancer, none⟩)) Ledger.start.checkout false

/-- Somebody else joins that connection while a batch is fetched, and leaves it alone. -/
def Schedule.boundHistory : List Action :=
  [.begin .stream .next, .retain (.connection 1),
    .answer .stream (.reply (.ok ⟨⟨"db", "items"⟩, [], 0, .localhost⟩)), .drop]

theorem everything_given_back_bound :
    Ledger.start.checkout.owners (.connection 1) = 1 ∧
      (Schedule.bound.run Schedule.boundHistory).cursor.ledger.refusedReleases = [] ∧
      (Schedule.bound.run Schedule.boundHistory).cursor.state.held = [] ∧
      (Schedule.bound.run Schedule.boundHistory).cursor.ledger.owners .source = 0 ∧
      (Schedule.bound.run Schedule.boundHistory).cursor.ledger.owners (.connection 1) = 1 := by
  have hfresh : Ledger.start.checkout.Fresh :=
    (Ledger.start.moves_checkout (fun _ _ => rfl) fun _ => Nat.zero_le _).fresh
  have hhanded : Ledger.start.checkout.Covers
      ↑(handed (some (1, ⟨1, .localhost, .loadBalancer, none⟩))) := by
    intro r
    cases r with
    | source => decide
    | connection n =>
      by_cases hn : n = 1
      · rw [hn]
        decide
      · simp [handed, connectionIf, Ne.symm hn]
  have hall := everything_given_back ⟨⟨"db", "items"⟩, [], 7, .localhost⟩ .default .blank
    (some (1, ⟨1, .localhost, .loadBalancer, none⟩)) Ledger.start.checkout false
    Schedule.boundHistory hfresh hhanded (by decide)
  have hcalls : (Schedule.bound.run Schedule.boundHistory).calls = [] :=
    List.isEmpty_iff.mp (by decide)
  have htasks : (Schedule.bound.run Schedule.boundHistory).tasks = [] :=
    List.isEmpty_iff.mp (by decide)
  have hclosed : (Schedule.bound.run Schedule.boundHistory).cursor.state.closed = true := by decide
  obtain ⟨hheld, howners⟩ := hall.2 (.inl hclosed) hcalls htasks
  exact ⟨rfl, hall.1, hheld, (howners _).trans (by decide), (howners _).trans (by decide)⟩

end ServerCursor
