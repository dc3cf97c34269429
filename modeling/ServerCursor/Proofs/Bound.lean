import ServerCursor.Proofs.Binding
import ServerCursor.Proofs.Flight
import ServerCursor.Proofs.Settle
import ServerCursor.Proofs.Sole
import ServerCursor.Proofs.Spared
import ServerCursor.Proofs.Traffic

/-!
# A cursor that is bound to a connection

Behind a load balancer a cursor is bound to the connection that it was handed with the first reply.
It asks the source for no other, and nobody who acts for it sends anything over another
(`Task.At`).

A request that fails with a network error, or is given up, may leave the connection in the middle of
a reply (`Moment.interrupts`). From then on the cursor and its parties are mute: they send nothing,
whatever they have to do (`Muted`).

Main statement: `bound_connection_only` says both for every history.
-/

namespace ServerCursor

/-- Nobody waits for a connection, and who waits for the server does so at this one. -/
def Task.At (n : Nat) : Task → Prop
  | .suspended (.fetchCheckout _) => False
  | .suspended (.fetchReply _ m) => m = n
  | .suspended (.killCheckout _ _) => False
  | .suspended (.killReply a _) => a.route? = some n
  | _ => True

theorem Task.At.said {n : Nat} {t : Task} (h : t.At n) (r : Requester) :
    ∀ w ∈ t.said r, ∃ message, w = .sent n message := by
  intro w hw
  cases t with
  | close => cases hw
  | kill a => cases hw
  | suspended p =>
    cases p with
    | fetchCheckout f => exact h.elim
    | fetchReply f m =>
      have hm : m = n := h
      rw [← hm]
      exact ⟨_, List.mem_singleton.mp hw⟩
    | killCheckout a after => exact h.elim
    | killReply a after =>
      have hroute : a.route? = some n := h
      simp only [Task.said, Point.said, hroute] at hw
      exact ⟨_, List.mem_singleton.mp hw⟩

theorem opening_of_at {n : Nat} {t : Turn} (h : ∀ x ∈ t.party, x.At n) (c : Cursor) :
    t.opening c = [] := by
  have hpoint : ∀ p a, (Task.suspended p).At n → p.opening c.ledger.issued a = [] := by
    intro p a hp
    cases p with
    | fetchCheckout f => exact hp.elim
    | fetchReply f m => cases a <;> rfl
    | killCheckout b after => exact hp.elim
    | killReply b after => cases a <;> rfl
  cases t with
  | answer p a => exact hpoint p a (h _ (Multiset.mem_singleton_self _))
  | answerTask p a => exact hpoint p a (h _ (Multiset.mem_singleton_self _))
  | _ => rfl

theorem at_of_bound {c : Cursor} {pending : Multiset Task} {n : Nat}
    (hs : c.state.Sound (flights pending)) (hp : AllProper pending)
    (hb : BoundAfter (some n) c pending) : ∀ t ∈ pending, t.At n := by
  intro t ht
  have hflight : ∀ f, t.flight? = some f → f.2 = some n := by
    intro f hf
    obtain ⟨rest, rfl⟩ := Multiset.exists_cons_of_mem ht
    rw [← Multiset.singleton_add, flights_add, flights_singleton, hf] at hs
    obtain ⟨-, -, hc⟩ := hs.sole
    have hpin := hb.state.live hc.live
    rcases hc.bound with hfree | hsame
    · rw [hfree] at hpin
      cases hpin
    · exact hsame.symm.trans hpin
  cases t with
  | close => trivial
  | kill a => trivial
  | suspended p =>
    cases p with
    | fetchCheckout f => cases hflight _ rfl
    | fetchReply f m => exact Option.some.inj (hflight _ rfl)
    | killCheckout a after =>
      obtain ⟨⟨-, hsource, -⟩, -⟩ := hp _ ht
      have hbound : a.BoundTo (some n) := hb.left _ ht
      rw [hbound.source nofun] at hsource
      cases hsource
    | killReply a after =>
      have hbound : a.BoundTo (some n) := hb.left _ ht
      have hroute : a.route? = some n := by
        rw [Abandoned.route?, hbound.pin]
        rfl
      exact hroute

/-- Everything that goes over the wire for a bound cursor is sent over its connection. -/
theorem traffic_bound {start c : Cursor} {ms : List Moment} {pending : Multiset Task} {n : Nat}
    (hsound : start.state.Sound 0) (hb : start.state.BoundTo (some n))
    (hp : Play start ms c pending) :
    ∃ w, c.ledger.traffic = start.ledger.traffic ++ w ∧
      ∀ e ∈ w, ∃ message, e = .sent n message := by
  induction hp with
  | nil => exact ⟨[], (List.append_nil _).symm, nofun⟩
  | @snoc ms c rest t before allowed ih =>
    obtain ⟨w, htraffic, hw⟩ := ih
    rcases traffic_effect (c := c) (proper_party before) with ⟨hkept, -⟩ | ⟨more, hmore, hsaid⟩
    · rw [hkept]
      exact ⟨w, htraffic, hw⟩
    have hat : ∀ {d : Cursor} {all : List Moment} {m : Multiset Task}, Play start all d m →
        ∀ x ∈ m, x.At n := fun hplay =>
      at_of_bound (sound_play hsound hplay) (proper_play hplay) (bound_play hsound hb hplay)
    have hopening : t.opening c = [] :=
      opening_of_at (fun x hx => hat before x (Multiset.mem_add.mpr (.inl hx))) c
    have hleft : ∀ x ∈ (t.effect c).left, x.At n := fun x hx =>
      hat (.snoc before allowed) x (Multiset.mem_add.mpr (.inl hx))
    refine ⟨w ++ more, ?_, fun e he => ?_⟩
    · rw [hmore, hopening, htraffic, List.append_nil, List.append_assoc]
    rcases List.mem_append.mp he with he | he
    · exact hw e he
    · have hmem : e ∈ said c.config.requester (t.effect c).left :=
        hsaid ▸ Multiset.mem_coe.mpr he
      obtain ⟨x, hx, hex⟩ := Multiset.mem_bind.mp hmem
      exact (hleft x hx).said _ e hex

/-- Whether a request ends in a turn although its connection may be in the middle of a reply: it
fails with a network error, or it is given up. -/
def Moment.interrupts (m : Moment) : Bool :=
  (m.failure?.any fun f => f.2.isNetwork) ||
    match m.turn with
    | .cancel p _ => p.flight?.isSome
    | _ => false

/-- The connection of a cursor has failed, and nobody sends anything any more. -/
structure Muted (s : State) (pending : Multiset Task) : Prop where
  idle : s.fetching = false
  /-- The cursor is closed, or it would need the connection for all that it has to do. -/
  state : s.closed = true ∧ s.id = 0 ∨
    s.closed = false ∧ s.id ≠ 0 ∧ s.buffer = [] ∧ s.pin.isFailed = true
  /-- Nobody waits, and who is to discard the server's cursor has the failed connection for it. -/
  parties : ∀ t ∈ pending, t = .close ∨ ∃ a, t = .kill a ∧ a.pin.isFailed = true

theorem muted_alone {s : State} (hidle : s.fetching = false)
    (hstate : s.closed = true ∧ s.id = 0 ∨
      s.closed = false ∧ s.id ≠ 0 ∧ s.buffer = [] ∧ s.pin.isFailed = true) : Muted s 0 :=
  ⟨hidle, hstate, fun t ht => absurd ht (Multiset.notMem_zero t)⟩

namespace Cursor

variable {c : Cursor} {pending rest : Multiset Task}

theorem kill_of_failed {a : Abandoned} (h : a.id = 0 ∨ a.pin.isFailed = true) (after : Outcome) :
    (c.kill a after).2 = .done after := by
  unfold kill
  split
  · exact done_conclude c a after
  rename_i hid
  rw [if_pos (h.resolve_left hid)]
  exact done_conclude _ a after

theorem beginCall_of_muted (h : Muted c.state pending) {call : Call} (hcall : call ≠ .close) :
    Schedule.beginCall c call = (c, .done (.failed (.illegalState
      (if c.state.closed then .closed else .connectionFailed)))) := by
  have hnext : ∀ wait, c.next wait false = (c, .done (.failed (.illegalState
      (if c.state.closed then .closed else .connectionFailed)))) := by
    intro wait
    unfold next
    rcases h.state with ⟨hclosed, -⟩ | ⟨hopen, hid, hbuffer, hfailed⟩
    · simp only [hclosed, if_true]
      rfl
    · simp only [hopen, h.idle, hid, hbuffer, hfailed, Bool.false_eq_true, if_false, if_true,
        List.isEmpty_nil, Bool.not_true, Bool.false_and]
      rfl
  cases call with
  | next => exact hnext true
  | tryNext => exact hnext false
  | close => exact absurd rfl hcall

theorem close_of_muted (h : Muted c.state pending) :
    c.close.2 = .done .closed ∧ c.close.1.state.closed = true ∧ c.close.1.state.id = 0 ∧
      c.close.1.state.fetching = false := by
  unfold close
  rcases h.state with ⟨hclosed, hid⟩ | ⟨hopen, -, -, hfailed⟩
  · rw [if_pos hclosed]
    exact ⟨rfl, hclosed, hid, h.idle⟩
  · rw [if_neg (Bool.eq_false_iff.mp hopen)]
    dsimp only
    rw [if_neg (Bool.eq_false_iff.mp h.idle), state_kill]
    exact ⟨kill_of_failed (.inr hfailed) _, rfl, rfl, h.idle⟩

theorem muted_cancelFetch {g : Flight} {n : Nat} (hc : c.state.Carries g)
    (hpin : c.state.pin.connection? = some n) (back : List Resource) (runtime : Bool) :
    Muted (c.cancelFetch back runtime).1.state ↑(c.cancelFetch back runtime).2.toList := by
  have hfailed : c.state.pin.invalidate.isFailed = true := by
    cases hp : c.state.pin with
    | unpinned =>
      rw [hp] at hpin
      cases hpin
    | valid m => rfl
    | failed m => rfl
  simp only [cancelFetch]
  split
  · rename_i hclosed
    split
    · exact muted_alone rfl (.inl ⟨hclosed, rfl⟩)
    split
    · refine ⟨rfl, .inl ⟨hclosed, rfl⟩, fun t ht => ?_⟩
      rw [List.mem_singleton.mp ht]
      exact .inr ⟨_, rfl, hfailed⟩
    · exact muted_alone rfl (.inl ⟨hclosed, rfl⟩)
  · rename_i hopen
    exact muted_alone rfl (.inr ⟨Bool.eq_false_iff.mpr hopen, hc.live, hc.buffer, hfailed⟩)

/-- A request that fails with a network error mutes the cursor. -/
theorem muted_fetchReplied {f : Fetch} {m n : Nat} {cause : Error}
    (hc : c.state.Carries (f, some m)) (hpin : c.state.pin.connection? = some n)
    (hnetwork : cause.isNetwork = true) :
    (∃ o, (c.fetchReplied f m (.error cause)).2 = .done o) ∧
      Muted (c.fetchReplied f m (.error cause)).1.state 0 := by
  have hfound : cause.isCursorNotFound = false := by
    cases cause with
    | transport _ => rfl
    | _ => cases hnetwork
  have hvalid : c.state.pin = .valid n := by
    have hintact := hc.intact
    cases hp : c.state.pin with
    | unpinned =>
      rw [hp] at hpin
      cases hpin
    | valid m =>
      rw [hp] at hpin
      exact congrArg Pin.valid (Option.some.inj hpin)
    | failed m =>
      rw [hp] at hintact
      cases hintact
  unfold fetchReplied
  split
  · rename_i hclosed
    rw [state_fetchRepliedClosed]
    exact ⟨⟨_, kill_of_failed (.inl rfl) _⟩, muted_alone rfl (.inl ⟨hclosed, rfl⟩)⟩
  · rename_i hopen
    refine ⟨⟨_, rfl⟩, ?_⟩
    have hstate : afterFailure { c.state with fetching := false } cause =
        { c.state with fetching := false, pin := .failed n } := by
      simp only [afterFailure, hfound, hnetwork, hvalid]
      rfl
    refine muted_alone (congrArg State.fetching hstate) (.inr ⟨?_, ?_, ?_, ?_⟩)
    · exact (congrArg State.closed hstate).trans (Bool.eq_false_iff.mpr hopen)
    · exact fun h0 => hc.live ((congrArg State.id hstate).symm.trans h0)
    · exact (congrArg State.buffer hstate).trans hc.buffer
    · exact congrArg (fun s => s.pin.isFailed) hstate

theorem muted_closeQuietly (h : Muted c.state pending) : Muted c.closeQuietly.1.state 0 := by
  unfold closeQuietly
  split
  · exact muted_alone h.idle h.state
  · exact muted_alone h.idle (.inl ⟨rfl, rfl⟩)

theorem muted_drop (h : Muted c.state pending) (runtime : Bool) :
    Muted (c.drop runtime).1.state ↑(c.drop runtime).2.toList := by
  have hquiet := muted_closeQuietly h
  simp only [drop]
  split
  · exact hquiet
  split
  · exact ⟨h.idle, h.state, fun t ht => .inl (List.mem_singleton.mp ht)⟩
  split
  · rename_i e
    rw [e] at hquiet
    exact hquiet
  · rename_i e
    rw [e] at hquiet
    exact hquiet

end Cursor

theorem Muted.unwaiting {s : State} {pending : Multiset Task} (h : Muted s pending) :
    ∀ x ∈ pending, ∀ p, x ≠ .suspended p := by
  rintro x hx p rfl
  rcases h.parties _ hx with hclose | ⟨a, hkill, -⟩
  · cases hclose
  · cases hkill

theorem Muted.add {s : State} {m rest : Multiset Task} (h : Muted s m)
    (hrest : ∀ t ∈ rest, t = .close ∨ ∃ a, t = .kill a ∧ a.pin.isFailed = true) :
    Muted s (m + rest) :=
  ⟨h.idle, h.state, fun t ht => (Multiset.mem_add.mp ht).elim (h.parties t) (hrest t)⟩

theorem muted_effect {c : Cursor} {t : Turn} {rest : Multiset Task}
    (h : Muted c.state (t.party + rest)) :
    Muted (t.effect c).cursor.state (t.effect c).left := by
  have hwaits : ∀ p, t.party ≠ {.suspended p} := fun p hp => by
    refine h.unwaiting _ (Multiset.mem_add.mpr (.inl ?_)) p rfl
    rw [hp]
    exact Multiset.mem_singleton_self _
  have hclose : Muted c.close.1.state c.close.2.left := by
    obtain ⟨hdone, hclosed, hid, hidle⟩ := Cursor.close_of_muted h
    rw [hdone]
    exact muted_alone hidle (.inl ⟨hclosed, hid⟩)
  have hcall : ∀ call, call ≠ .close → Muted (Schedule.beginCall c call).1.state
      (Schedule.beginCall c call).2.left := by
    intro call hne
    rw [Cursor.beginCall_of_muted h hne]
    exact muted_alone h.idle h.state
  cases t with
  | begin call =>
    cases call with
    | next => exact hcall .next nofun
    | tryNext => exact hcall .tryNext nofun
    | close => exact hclose
  | answer p a => exact absurd rfl (hwaits p)
  | cancel p runtime => exact absurd rfl (hwaits p)
  | startTask t =>
    cases t with
    | close => exact hclose
    | kill a =>
      have hfailed : a.pin.isFailed = true := by
        have hparty := h.parties _ (Multiset.mem_add.mpr (.inl (Multiset.mem_singleton_self _)))
        obtain ⟨b, hb, hfailed⟩ := hparty.resolve_left nofun
        cases hb
        exact hfailed
      have hleft : (c.kill a .cleared).2.left = 0 := by
        rw [Cursor.kill_of_failed (.inr hfailed)]
        rfl
      have hstate : (c.kill a .cleared).1.state = c.state := Cursor.state_kill ..
      have hafter : Muted (c.kill a .cleared).1.state (c.kill a .cleared).2.left := by
        rw [hleft, hstate]
        exact muted_alone h.idle h.state
      exact hafter
    | suspended p => exact absurd rfl (hwaits p)
  | answerTask p a => exact absurd rfl (hwaits p)
  | discardTask t runtime =>
    cases t with
    | close => exact muted_alone h.idle h.state
    | kill a => exact muted_alone h.idle h.state
    | suspended p => exact absurd rfl (hwaits p)
  | drop runtime => exact Cursor.muted_drop h runtime
  | retain r => exact muted_alone h.idle h.state
  | release r => exact muted_alone h.idle h.state

theorem heard_of_failure {m : Moment} {n : Nat} {cause : Error}
    (h : m.failure? = some (n, cause)) : m.turn.heard? = some (n, .error cause) := by
  unfold Moment.failure? at h
  split at h
  · cases h
    assumption
  · cases h

/-- An interrupted request mutes the cursor and sends nothing itself. -/
theorem muted_of_interrupts {c : Cursor} {t : Turn} {rest : Multiset Task} {n : Nat}
    (hs : c.state.Sound (flights (t.party + rest))) (ha : t.Allowed rest)
    (hb : c.state.BoundTo (some n)) (h : Moment.interrupts ⟨c, t⟩ = true) :
    (∃ p, t.party = {.suspended p}) ∧ Muted (t.effect c).cursor.state (t.effect c).left ∧
      (t.effect c).cursor.ledger.traffic = c.ledger.traffic := by
  rw [flights_add] at hs
  rcases Bool.or_eq_true_iff.mp h with hfailure | hcancel
  · -- The request has failed with a network error.
    obtain ⟨⟨m, cause⟩, hsome, hnetwork⟩ := (Option.any_eq_true _ _).mp hfailure
    obtain ⟨f, rfl⟩ := answer_of_heard ha (heard_of_failure hsome)
    rw [Turn.party, flights_singleton] at hs
    obtain ⟨-, -, hc⟩ := hs.sole
    obtain ⟨⟨o, hdone⟩, hmuted⟩ :=
      Cursor.muted_fetchReplied hc (hb.live hc.live) hnetwork
    have hleft : (c.fetchReplied f m (.error cause)).2.left = 0 := by
      rw [hdone]
      rfl
    refine ⟨⟨_, rfl⟩, ?_, (Cursor.says_fetchReplied c f m _).of_done hdone⟩
    have hafter : Muted (c.fetchReplied f m (.error cause)).1.state
        (c.fetchReplied f m (.error cause)).2.left := hleft ▸ hmuted
    exact hafter
  · cases t with
    | cancel p runtime =>
      obtain ⟨f, hf⟩ := Option.isSome_iff_exists.mp hcancel
      have hflight : (Task.suspended p).flight? = some f := hf
      rw [Turn.party, flights_singleton, hflight] at hs
      obtain ⟨-, -, hc⟩ := hs.sole
      have hpin := hb.live hc.live
      refine ⟨⟨p, rfl⟩, ?_, Cursor.traffic_cancel c p runtime⟩
      cases p with
      | fetchCheckout g => exact Cursor.muted_cancelFetch hc hpin _ runtime
      | fetchReply g m => exact Cursor.muted_cancelFetch hc hpin _ runtime
      | killCheckout a after => cases hf
      | killReply a after => cases hf
    | _ => cases hcancel

/-- Once a request was interrupted, the cursor is mute and nothing was sent. -/
theorem muted_play {start c : Cursor} {first : Reply} {before after : List Moment} {m : Moment}
    {pending : Multiset Task} {n : Nat} (hsound : start.state.Sound 0)
    (htracked : Tracked start first.id [] start 0) (hb : start.state.BoundTo (some n))
    (hp : Play start (before ++ m :: after) c pending) (hm : m.interrupts = true) :
    Muted c.state pending ∧ c.ledger.traffic = m.cursor.ledger.traffic := by
  obtain ⟨rest, hbefore, hallowed⟩ := hp.until
  have hs := sound_play hsound hbefore
  obtain ⟨⟨p, hparty⟩, hmuted, htraffic⟩ :=
    muted_of_interrupts hs hallowed (bound_play hsound hb hbefore).state hm
  have hidle : Idle rest := by
    have hsole := hbefore
    rw [hparty] at hsole
    exact sole_waiting hsound htracked hsole
  have hall : before ++ m :: after = (before ++ [m]) ++ after := by simp
  rw [hall] at hp
  refine Play.onward
    (I := fun _ d pending => Muted d.state pending ∧
      d.ledger.traffic = m.cursor.ledger.traffic)
    (.snoc hbefore hallowed) hp ⟨hmuted.add fun t ht => .inl (hidle t ht), htraffic⟩ ?_
  rintro ms d rest t hplay - ⟨hmuted, htraffic⟩
  have hafter := muted_effect hmuted
  have hrest : ∀ x ∈ rest, x = .close ∨ ∃ a, x = .kill a ∧ a.pin.isFailed = true := fun x hx =>
    hmuted.parties x (Multiset.mem_add.mpr (.inr hx))
  refine ⟨hafter.add hrest, ?_⟩
  have hsame := traffic_of_unwaiting (c := d) (proper_party hplay)
    (fun x hx => hmuted.unwaiting x (Multiset.mem_add.mpr (.inl hx))) hafter.unwaiting
  exact hsame.trans htraffic

section Create

variable (reply : Reply) (options : Options) (server : ServerDescription) (l : Ledger)

/-- A cursor that is bound to the connection that it was handed gives the source back at once and
sends everything over this connection, or nothing any more once that is interrupted. -/
theorem bound_connection_only (n : Nat) (d : ConnectionDescription) (runtime : Bool)
    (history : List Action) (hkind : d.kind = .loadBalancer) (hlive : reply.id ≠ 0) :
    let start := Schedule.opened reply options server (some (n, d)) l runtime
    let s := start.run history
    start.cursor.state.source = false ∧ start.cursor.state.pin = .valid n ∧
    l.Settles [.source] [] start.cursor.ledger ∧
    (∃ w, s.cursor.ledger.traffic = l.traffic ++ w ∧ ∀ e ∈ w, ∃ message, e = .sent n message) ∧
    ∀ m ∈ start.moments history, m.interrupts = true →
      s.cursor.ledger.traffic = m.cursor.ledger.traffic ∧
      ∀ slot call, call ≠ .close → s.handles ≠ 0 → s.waitingIn? slot = none →
        s.step (.begin slot call) = (s, some (.failed (.illegalState
          (if s.cursor.state.closed then .closed else .connectionFailed)))) := by
  intro start s
  have hsound := sound_create reply options server (some (n, d)) l
  have htracked := tracked_create reply options server (some (n, d)) l
  have hbound : (Cursor.create reply options server (some (n, d)) l).state.BoundTo (some n) := by
    have hcreate := bound_create reply options server (some (n, d)) l
    rwa [boundAt, if_pos ⟨hkind, hlive⟩] at hcreate
  have hplay : Play _ (start.moments history) s.cursor s.pending :=
    Schedule.play_run (Cursor.create reply options server (some (n, d)) l) runtime history
  have hkept : start.cursor.state.pin = .valid n ∧
      l.Settles [.source] [] start.cursor.ledger := by
    have hpinned : d.kind = .loadBalancer ∧ reply.id ≠ 0 := ⟨hkind, hlive⟩
    simp only [start, Schedule.opened, Schedule.ofCursor, Cursor.create, Option.map_some,
      Option.getD_some, if_pos hpinned, if_neg hlive]
    exact ⟨rfl, (l.settles_emit _).trans (Ledger.settles_giveBackAll _ [.source])⟩
  refine ⟨hbound.source (Option.some_ne_none n), hkept.1, hkept.2, ?_, fun m hm hinterrupts => ?_⟩
  · obtain ⟨w, htraffic, hw⟩ := traffic_bound hsound hbound hplay
    rw [traffic_create] at htraffic
    exact ⟨w, htraffic, hw⟩
  · obtain ⟨before, after, hmoments⟩ := List.append_of_mem hm
    rw [hmoments] at hplay
    obtain ⟨hmuted, htraffic⟩ := muted_play hsound htracked hbound hplay hinterrupts
    refine ⟨htraffic, fun slot call hcall hhandles hfree => ?_⟩
    exact Schedule.begin_of_refused hfree hhandles (Cursor.beginCall_of_muted hmuted hcall)

end Create

/-- The request of a bound cursor is given up. -/
def Schedule.interruptedHistory : List Action :=
  [.begin .stream .next, .cancel .stream]

/-- It was sent over the connection, and it is the last message: the next call is refused. -/
theorem bound_connection_only_interrupted :
    let s := Schedule.bound.run Schedule.interruptedHistory
    s.cursor.ledger.traffic.length = 2 ∧ s.cursor.ledger.messages.length = 1 ∧
    s.step (.begin .stream .next) = (s, some (.failed (.illegalState .connectionFailed))) := by
  intro s
  let m : Moment := ⟨(Schedule.bound.run [.begin .stream .next]).cursor,
    .cancel (.fetchReply ⟨7, 0, false, true⟩ 1) false⟩
  have hm : m ∈ Schedule.bound.moments Schedule.interruptedHistory :=
    List.mem_cons_of_mem _ List.mem_cons_self
  obtain ⟨-, -, -, -, hmuted⟩ := bound_connection_only ⟨⟨"db", "items"⟩, [], 7, .localhost⟩
    .default .blank Ledger.start.checkout 1 ⟨1, .localhost, .loadBalancer, none⟩ false
    Schedule.interruptedHistory rfl (by decide)
  obtain ⟨-, hrefused⟩ := hmuted m hm rfl
  refine ⟨rfl, rfl, ?_⟩
  exact hrefused .stream .next nofun (by decide) rfl

end ServerCursor
