import ServerCursor.Proofs.Bound
import ServerCursor.Proofs.Closed
import ServerCursor.Proofs.Hollow
import ServerCursor.Proofs.Issued
import ServerCursor.Proofs.Retry
import ServerCursor.Proofs.Tasks

/-!
# A request that is given up

A call that waits for a batch may be given up before its request has a connection or a reply. The
request then gives back what it holds and the cursor is what it was when the request started, but
that a connection to which it is bound is used no more. If the cursor was closed meanwhile, nothing
is left to it: a task discards the server's cursor, or without a runtime all is given back at once.

The task goes through a few stages (`Disposal`), and no turn of anybody else has to do with them. It
comes to its end whatever it is told, and whatever happens until then, everything is given back in
the end. Nothing is sent if the cursor was bound to a connection; otherwise the source is asked
once, and if there is a connection, which is a new one, the server is told over it.

Main statement: `given_up_request_undone`. Its parts are `Schedule.GivesUp`, `Schedule.Reverts`,
`Schedule.Leaves` and `Schedule.Disposed`.
-/

namespace ServerCursor

/-- What is put on the wire to discard a server's cursor over a connection from the source. -/
def discardOver (n : Nat) (message : Message) : Except Error Unit → List Wire
  | .ok () => [.asked, .checkedOut n, .sent n message]
  | .error _ => [.asked, .unavailable]

/-- What a cursor leaves that was closed while a request was under way, once that is given up. -/
def State.forgone (s : State) : Abandoned :=
  { s.abandoned with pin := s.pin.invalidate }

theorem Pin.invalidate_eq_unpinned {p : Pin} : p.invalidate = .unpinned ↔ p = .unpinned := by
  cases p <;> simp [invalidate]

theorem State.held_forgone (s : State) : s.forgone.held = s.held := by
  have hpin : s.forgone.held = connectionIf s.pin.invalidate.connection? ++ sourceIf s.source := rfl
  rw [hpin, Pin.connection?_invalidate]
  rfl

/-- What a task has to discard and give back. -/
structure Abandoned.Orphaned (a : Abandoned) : Prop where
  live : a.id ≠ 0
  unconnected : a.connection = none
  /-- There is a source to take a connection from. -/
  sourced : a.pin = .unpinned → a.source = true
  /-- There is a connection, which is used no more. -/
  failed : a.pin ≠ .unpinned → a.pin.isFailed = true

theorem State.orphaned_forgone {s : State} {f : Flight} (h : s.Sound {f}) :
    s.forgone.Orphaned := by
  have hcarries := h.carries
  refine ⟨hcarries.live, rfl, fun hfree => ?_, fun hbound => ?_⟩
  · have hpin : s.pin = .unpinned := Pin.invalidate_eq_unpinned.mp hfree
    exact (h.routed hcarries.live).resolve_right fun hne => hne hpin
  · have hpin : s.pin ≠ .unpinned := fun e => hbound (Pin.invalidate_eq_unpinned.mpr e)
    change s.pin.invalidate.isFailed = true
    cases hp : s.pin with
    | unpinned => exact absurd hp hpin
    | valid n => rfl
    | failed n => rfl

namespace Cursor

variable {c : Cursor}

theorem cancel_of_flight {p : Point} {f : Flight} (h : p.flight? = some f) (c : Cursor)
    (runtime : Bool) : c.cancel p runtime = c.cancelFetch p.held runtime := by
  cases p with
  | fetchCheckout g => rfl
  | fetchReply g n => rfl
  | killCheckout a after => cases h
  | killReply a after => cases h

theorem cancelFetch_of_open (hopen : c.state.closed = false) (back : List Resource)
    (runtime : Bool) :
    c.cancelFetch back runtime =
      (((c.giveBack back).withState
        { c.state with fetching := false, pin := c.state.pin.invalidate }).emit
          (.fetchCancelled c.config.ns), none) := by
  unfold cancelFetch
  exact if_neg (Bool.eq_false_iff.mp hopen)

/-- A cursor that is closed and whose request is given up. -/
def relieved (c : Cursor) (back : List Resource) : Cursor :=
  ((c.giveBack back).withState { c.state with fetching := false }.bare).emit
    (.fetchCancelled c.config.ns)

theorem cancelFetch_of_closed (hclosed : c.state.closed = true) (hid : c.state.id ≠ 0)
    (back : List Resource) (runtime : Bool) :
    c.cancelFetch back runtime =
      if runtime then (c.relieved back, some (.kill c.state.forgone))
      else (((c.relieved back).giveBack c.state.forgone.held).emit
        (.cancelledUnkilled c.state.id c.config.ns), none) := by
  unfold cancelFetch
  exact (if_pos hclosed).trans (if_neg hid)

theorem held_cancelFetch (hid : c.state.id ≠ 0) (back : List Resource) (runtime : Bool) :
    let q := c.cancelFetch back runtime
    (↑q.1.state.held + holdings ↑q.2.toList : Multiset Resource) =
      if c.state.closed = true ∧ runtime = false then 0 else ↑c.state.held := by
  intro q
  cases hclosed : c.state.closed with
  | false =>
    have hq : q = _ := cancelFetch_of_open hclosed back runtime
    have hheld : q.1.state.held = c.state.held := by
      rw [hq]
      exact c.state.held_forgone
    rw [if_neg fun h => Bool.false_ne_true h.1, hheld, hq]
    exact add_zero _
  | true =>
    have hq : q = _ := cancelFetch_of_closed hclosed hid back runtime
    have hheld : q.1.state.held = [] := by
      rw [hq]
      cases runtime <;> rfl
    rw [hheld, hq]
    cases runtime with
    | false => rfl
    | true =>
      rw [if_neg fun h => Bool.noConfusion (And.right h), ← c.state.held_forgone]
      exact (zero_add (holdings {.kill c.state.forgone})).trans (holdings_singleton _)

theorem over_relieved {f : Flight} (h : c.state.Sound {f}) (hclosed : c.state.closed = true)
    (back : List Resource) : (c.relieved back).state.Over :=
  ⟨hclosed, rfl, h.drained hclosed, rfl, rfl, rfl⟩

end Cursor

section Disposal

variable {a : Abandoned} {r : Requester} {issued : Nat} {ms : List Moment} {wire : List Wire}

/-- The source has answered a task that has to discard a server's cursor. -/
def Abandoned.Hears (a : Abandoned) (ms : List Moment) (answer : Except Error Unit) : Prop :=
  ∃ m ∈ ms, m.turn = .answerTask (.killCheckout a .cleared) (.checkout answer)

theorem Abandoned.Hears.more {answer : Except Error Unit} (h : a.Hears ms answer) (m : Moment) :
    a.Hears (ms ++ [m]) answer := by
  obtain ⟨m', hm', hturn⟩ := h
  exact ⟨m', List.mem_append_left _ hm', hturn⟩

/-- How far a task has come that was left a server's cursor: what it was told, what it has put on
the wire, and what it still has to do. -/
inductive Disposal (a : Abandoned) (r : Requester) (issued : Nat) (ms : List Moment) :
    List Wire → Option Task → Prop
  /-- It has not had control. -/
  | spawned : Disposal a r issued ms [] (some (.kill a))
  /-- It has asked the source for a connection. -/
  | asked (free : a.pin = .unpinned) :
      Disposal a r issued ms [.asked] (some (.suspended (.killCheckout a .cleared)))
  /-- It has told the server. -/
  | told (free : a.pin = .unpinned) (n : Nat) (new : issued < n) (heard : a.Hears ms (.ok ())) :
      Disposal a r issued ms (discardOver n (r.kill a.id) (.ok ()))
        (some (.suspended (.killReply { a with connection := some n } .cleared)))
  /-- There was a connection that must not be used. -/
  | skipped (bound : a.pin ≠ .unpinned) : Disposal a r issued ms [] none
  | finished (free : a.pin = .unpinned) (n : Nat) (new : issued < n) (answer : Except Error Unit)
      (heard : a.Hears ms answer) :
      Disposal a r issued ms (discardOver n (r.kill a.id) answer) none

theorem Disposal.more {left : Option Task} (h : Disposal a r issued ms wire left) (m : Moment) :
    Disposal a r issued (ms ++ [m]) wire left := by
  cases h with
  | spawned => exact .spawned
  | asked free => exact .asked free
  | told free n new heard => exact .told free n new (heard.more m)
  | skipped bound => exact .skipped bound
  | finished free n new answer heard => exact .finished free n new answer (heard.more m)

theorem Disposal.ne_close {x : Task} (h : Disposal a r issued ms wire (some x)) : x ≠ .close := by
  cases h <;> exact Task.noConfusion

/-- The next stage of a task, and what it puts on the wire. -/
def Advances (a : Abandoned) (issued : Nat) (ms : List Moment) (wire : List Wire) (c : Cursor)
    (q : Cursor × Progress) : Prop :=
  ∃ more left, Disposal a c.config.requester issued ms (wire ++ more) left ∧
    q.1.ledger.traffic = c.ledger.traffic ++ more ∧ q.1.state = c.state ∧ q.2.left = ↑left.toList

variable {c : Cursor}

theorem advances_waiting {x : Task} (h : Disposal a c.config.requester issued ms wire (some x))
    {p : Point} (hx : x = .suspended p) : Advances a issued ms wire c (c, .waiting p) := by
  subst hx
  exact ⟨[], _, by rwa [List.append_nil], (List.append_nil _).symm, rfl, rfl⟩

theorem advances_conclude {d : Cursor} (b : Abandoned) (more : List Wire)
    (h : Disposal a c.config.requester issued ms (wire ++ more) none)
    (htraffic : d.ledger.traffic = c.ledger.traffic ++ more) (hstate : d.state = c.state) :
    Advances a issued ms wire c (d.conclude b .cleared) :=
  ⟨more, none, h, (Cursor.traffic_giveBack d b.held).trans htraffic, hstate, rfl⟩

theorem Advances.start (ha : a.Orphaned) (c : Cursor) :
    Advances a issued ms [] c (c.kill a .cleared) := by
  unfold Cursor.kill
  rw [if_neg ha.live]
  by_cases hpin : a.pin = .unpinned
  · have hintact : ¬ a.pin.isFailed = true := by
      rw [hpin]
      nofun
    have hroute : a.route? = none := by
      rw [Abandoned.route?, hpin, ha.unconnected]
      rfl
    rw [if_neg hintact, hroute, if_pos (ha.sourced hpin)]
    exact ⟨[.asked], _, .asked hpin, Ledger.traffic_record _ rfl, rfl, rfl⟩
  · rw [if_pos (ha.failed hpin)]
    exact advances_conclude a [] (.skipped hpin) (List.append_nil _).symm rfl

theorem Advances.checkedOut (hfree : a.pin = .unpinned) (hissued : issued ≤ c.ledger.issued)
    (answer : Except Error Unit) :
    let m : Moment := ⟨c, .answerTask (.killCheckout a .cleared) (.checkout answer)⟩
    Advances a issued (ms ++ [m]) [.asked] c (c.killCheckedOut a .cleared answer) := by
  intro m
  have hheard : a.Hears (ms ++ [m]) answer :=
    ⟨m, List.mem_append_right _ List.mem_cons_self, rfl⟩
  have hnew : issued < c.ledger.issued + 1 := by omega
  cases answer with
  | ok u =>
    refine ⟨[.checkedOut (c.ledger.issued + 1),
      .sent (c.ledger.issued + 1) (c.config.requester.kill a.id)], _, .told hfree _ hnew hheard, ?_,
      rfl, rfl⟩
    refine (Ledger.traffic_record _ rfl).trans ?_
    exact (congrArg (· ++ _) (Ledger.traffic_checkout _)).trans (List.append_assoc ..)
  | error cause =>
    refine advances_conclude a [.unavailable] ?_ (Ledger.traffic_record _ rfl) rfl
    exact .finished hfree _ hnew (.error cause) hheard

theorem Advances.replied {n : Nat} (hfree : a.pin = .unpinned) (hnew : issued < n)
    (hheard : a.Hears ms (.ok ())) (b : Abandoned) (k : Except Error Unit) :
    Advances a issued ms (discardOver n (c.config.requester.kill a.id) (.ok ())) c
      (c.killReplied b .cleared k) := by
  have hover : Disposal a c.config.requester issued ms
      (discardOver n (c.config.requester.kill a.id) (.ok ()) ++ []) none := by
    rw [List.append_nil]
    exact .finished hfree n hnew (.ok ()) hheard
  cases k with
  | ok u => exact advances_conclude b [] hover (List.append_nil _).symm rfl
  | error cause => exact advances_conclude b [] hover (List.append_nil _).symm rfl

/-- A task that is answered comes a stage further, or does not hear it. -/
theorem Disposal.answer {p : Point}
    (h : Disposal a c.config.requester issued ms wire (some (.suspended p)))
    (hissued : issued ≤ c.ledger.issued) (b : Answer) :
    Advances a issued (ms ++ [⟨c, .answerTask p b⟩]) wire c (c.resume p b) := by
  have hkept := advances_waiting (h.more ⟨c, .answerTask p b⟩) rfl
  cases h with
  | asked free =>
    cases b with
    | checkout answer => exact .checkedOut free hissued answer
    | reply answer => exact hkept
    | kill answer => exact hkept
  | told free n new heard =>
    cases b with
    | checkout answer => exact hkept
    | reply answer => exact hkept
    | kill answer => exact .replied free new (heard.more _) _ answer

theorem Disposal.control {x : Task} (h : Disposal a c.config.requester issued ms wire (some x))
    (ha : a.Orphaned) :
    Advances a issued (ms ++ [⟨c, .startTask x⟩]) wire c (c.startTask x) := by
  have hkept := h.more ⟨c, .startTask x⟩
  cases h with
  | spawned => exact .start ha c
  | asked free => exact advances_waiting hkept rfl
  | told free n new heard => exact advances_waiting hkept rfl

end Disposal

/-- The turn of a task that is not thrown away, or of nobody who waits. -/
def Turn.isBackground : Turn → Bool
  | .answer _ _ => false
  | .cancel _ _ => false
  | .discardTask _ _ => false
  | _ => true

/-- The turn of such a task. -/
theorem Disposal.turn {a : Abandoned} {issued : Nat} {ms : List Moment} {wire : List Wire}
    {c : Cursor} {x : Task} (h : Disposal a c.config.requester issued ms wire (some x))
    (ha : a.Orphaned) (hissued : issued ≤ c.ledger.issued) {t : Turn} (hx : x ∈ t.party)
    (ht : t.isBackground = true) :
    ∃ q, t.effect c = .ofTask q ∧ Advances a issued (ms ++ [⟨c, t⟩]) wire c q := by
  cases t with
  | startTask y =>
    obtain rfl := Multiset.mem_singleton.mp hx
    exact ⟨_, rfl, h.control ha⟩
  | answerTask p b =>
    obtain rfl := Multiset.mem_singleton.mp hx
    exact ⟨_, rfl, h.answer hissued b⟩
  | answer p b => cases ht
  | cancel p runtime => cases ht
  | discardTask y runtime => cases ht
  | _ => exact absurd hx (Multiset.notMem_zero x)

theorem Turn.party_of_mem {t : Turn} {x : Task} (h : x ∈ t.party) : t.party = {x} := by
  have hone : ∀ {y : Task}, x ∈ ({y} : Multiset Task) → ({y} : Multiset Task) = {x} := fun hy => by
    rw [Multiset.mem_singleton.mp hy]
  cases t with
  | answer p a => exact hone h
  | cancel p runtime => exact hone h
  | startTask y => exact hone h
  | answerTask p a => exact hone h
  | discardTask y runtime => exact hone h
  | _ => exact absurd h (Multiset.notMem_zero x)

/-- What others do with a closed cursor leaves nothing behind. -/
theorem effect_of_idle {c : Cursor} {t : Turn} (hclosed : c.state.closed = true)
    (hidle : Idle t.party) :
    (t.effect c).cursor.state = c.state ∧
      (t.effect c).cursor.ledger.traffic = c.ledger.traffic ∧ (t.effect c).left = 0 := by
  have hparty : ∀ {x : Task}, Idle {x} → x = .close := fun hone =>
    hone _ (Multiset.mem_singleton_self _)
  have hclose : c.close = (c, .done .closed) := if_pos hclosed
  cases t with
  | begin call =>
    rw [Turn.effect, Cursor.beginCall_of_closed hclosed]
    exact ⟨rfl, rfl, rfl⟩
  | answer q b => cases hparty hidle
  | cancel q runtime => cases hparty hidle
  | startTask x =>
    obtain rfl : x = .close := hparty hidle
    rw [Turn.effect, Cursor.startTask, hclose]
    exact ⟨rfl, rfl, rfl⟩
  | answerTask q b => cases hparty hidle
  | discardTask x runtime =>
    obtain rfl : x = .close := hparty hidle
    exact ⟨rfl, rfl, rfl⟩
  | drop runtime =>
    rw [Turn.effect, Cursor.drop_of_closed hclosed]
    exact ⟨rfl, rfl, rfl⟩
  | retain q =>
    refine ⟨rfl, ?_, rfl⟩
    simp only [Turn.effect, Turn.Effect.ofLedger]
    split
    · exact Ledger.traffic_retain (.inl ‹_›)
    · exact Ledger.traffic_retain (.inr ‹_›)
  | release q =>
    refine ⟨rfl, ?_, rfl⟩
    simp only [Turn.effect, Turn.Effect.ofLedger]
    split
    · exact Ledger.traffic_release (.inl ‹_›)
    · exact Ledger.traffic_release (.inr ‹_›)

/-- A closed cursor, and the task that was left its server's cursor. -/
def Disposes (a : Abandoned) (c : Cursor) (ms : List Moment) (d : Cursor)
    (pending : Multiset Task) : Prop :=
  d.state = c.state ∧ c.ledger.issued ≤ d.ledger.issued ∧ ∃ wire left rest,
    Disposal a c.config.requester c.ledger.issued ms wire left ∧
    d.ledger.traffic = c.ledger.traffic ++ wire ∧ pending = ↑left.toList + rest ∧ Idle rest

theorem holdings_of_idle {m : Multiset Task} (h : Idle m) : holdings m = 0 := by
  refine Multiset.eq_zero_of_forall_notMem fun r hr => ?_
  obtain ⟨x, hx, hheld⟩ := Multiset.mem_bind.mp hr
  rw [h x hx] at hheld
  exact Multiset.notMem_zero r hheld

section Play

variable {start c d : Cursor} {first : Reply} {before ms : List Moment} {a : Abandoned}
  {pending rest : Multiset Task} (hsound : start.state.Sound 0)
  (htracked : Tracked start first.id [] start 0)

include hsound htracked in
/-- A turn is one of the task, or leaves it where it is. -/
theorem Disposes.effect {t : Turn} (h : Disposes a c ms d (t.party + rest)) (ha : a.Orphaned)
    (hclosed : c.state.closed = true) (hconfig : d.config = c.config)
    (hplay : Play start before d (t.party + rest)) (ht : t.isBackground = true) :
    Disposes a c (ms ++ [⟨d, t⟩]) (t.effect d).cursor ((t.effect d).left + rest) := by
  obtain ⟨hstate, hissued, wire, left, others, hstage, htraffic, hpending, hothers⟩ := h
  have hissued' := hissued.trans (issued_effect d t)
  have hother : Idle t.party → ∀ {others'}, rest = ↑left.toList + others' → Idle others' →
      Disposes a c (ms ++ [⟨d, t⟩]) (t.effect d).cursor ((t.effect d).left + rest) := by
    intro hidle others' hrest hothers'
    obtain ⟨hsame, hquiet, hnone⟩ := effect_of_idle (hstate ▸ hclosed) hidle
    refine ⟨hsame.trans hstate, hissued', wire, left, others', hstage.more _,
      hquiet.trans htraffic, ?_, hothers'⟩
    rw [hnone, zero_add, hrest]
  cases left with
  | none =>
    have hidle : Idle (t.party + rest) := by
      rw [hpending]
      exact idle_add.mpr ⟨idle_zero, hothers⟩
    exact hother (idle_add.mp hidle).1 (zero_add _).symm (idle_add.mp hidle).2
  | some x =>
    have hx : x ∈ t.party + rest := by
      rw [hpending]
      exact Multiset.mem_add.mpr (.inl (Multiset.mem_singleton_self x))
    have hne := hstage.ne_close
    rcases Multiset.mem_add.mp hx with hparty | hrest
    · have hone := Turn.party_of_mem hparty
      rw [← hconfig] at hstage
      obtain ⟨q, heffect, more, left', hstage', hmore, hsame, hleft⟩ :=
        hstage.turn ha hissued hparty ht
      have hsole : Idle rest := by
        rw [hone] at hplay
        exact sole_play hsound htracked hplay hne
      rw [heffect] at hissued' ⊢
      rw [hconfig] at hstage'
      refine ⟨hsame.trans hstate, hissued', wire ++ more, left', rest, hstage', ?_, ?_, hsole⟩
      · rw [← List.append_assoc, ← htraffic]
        exact hmore
      · exact congrArg (· + rest) hleft
    · obtain ⟨others', rfl⟩ := Multiset.exists_cons_of_mem hrest
      have hswapped : Play start before d ({x} + (t.party + others')) := by
        rw [Multiset.singleton_add, ← Multiset.add_cons]
        exact hplay
      have hsole : Idle (t.party + others') := sole_play hsound htracked hswapped hne
      exact hother (idle_add.mp hsole).1 (Multiset.singleton_add x others').symm
        (idle_add.mp hsole).2

include hsound htracked in
/-- From when on it is there the task goes on to its end, whatever others do meanwhile. -/
theorem disposes_play {later : List Moment} {pending' : Multiset Task} (ha : a.Orphaned)
    (hclosed : c.state.closed = true) (hplay : Play start before c ({.kill a} + rest))
    (hplay' : Play start (before ++ later) d pending')
    (hbackground : ∀ m ∈ later, m.turn.isBackground = true) : Disposes a c later d pending' := by
  refine Play.onward (I := fun ms d pending =>
    (∀ m ∈ ms, m.turn.isBackground = true) → Disposes a c ms d pending) hplay hplay' ?_ ?_
    hbackground
  · intro _
    exact ⟨rfl, le_rfl, [], some (.kill a), rest, .spawned, (List.append_nil _).symm, rfl,
      sole_play hsound htracked hplay nofun⟩
  · intro ms d rest t hd _ ih hall
    have hbefore := ih fun m hm => hall m (List.mem_append_left _ hm)
    exact hbefore.effect hsound htracked ha hclosed (config_onward hsound hplay hd) hd
      (hall _ (List.mem_append_right _ List.mem_cons_self))

/-- What has become of the cursor and of the wire when nobody has anything to do any more. -/
theorem Disposes.done (h : Disposes a c ms d 0) :
    d.state = c.state ∧ (a.pin ≠ .unpinned → d.ledger.traffic = c.ledger.traffic) ∧
      (a.pin = .unpinned → ∃ n answer, c.ledger.issued < n ∧ a.Hears ms answer ∧
        d.ledger.traffic =
          c.ledger.traffic ++ discardOver n (c.config.requester.kill a.id) answer) := by
  obtain ⟨hstate, -, wire, left, rest, hstage, htraffic, hpending, -⟩ := h
  have hleft : left = none := by
    cases left with
    | none => rfl
    | some x =>
      have hx : x ∈ ({x} : Multiset Task) + rest :=
        Multiset.mem_add.mpr (.inl (Multiset.mem_singleton_self x))
      have hzero : (0 : Multiset Task) = {x} + rest := hpending
      rw [← hzero] at hx
      exact absurd hx (Multiset.notMem_zero x)
  subst hleft
  refine ⟨hstate, fun hbound => ?_, fun hfree => ?_⟩
  · cases hstage with
    | skipped _ => rw [htraffic, List.append_nil]
    | finished free => exact absurd free hbound
  · cases hstage with
    | skipped bound => exact absurd hfree bound
    | finished _ n new answer heard => exact ⟨n, answer, new, heard, htraffic⟩

end Play

namespace Schedule

variable {s : Schedule}

theorem letGo_of_closed (h : s.cursor.state.closed = true) : s.letGo = s := by
  have hdrop : s.cursor.drop s.runtime = (s.cursor, none) := by
    simp [Cursor.drop, Cursor.needsKill, Cursor.closeQuietly, h]
  unfold letGo
  split
  · rw [hdrop]
    simp [spawn]
  · rfl

theorem cancel_of_waiting {slot : Slot} {p : Point} (h : s.waitingIn? slot = some p) :
    (s.step (.cancel slot)).1 = letGo (spawn { s with
      cursor := (s.cursor.cancel p s.runtime).1, calls := without s.calls slot }
      (s.cursor.cancel p s.runtime).2) := by
  simp only [step, cancel, h]

theorem afterTurn_cancel {slot : Slot} {p : Point} (h : s.waitingIn? slot = some p) :
    s.afterTurn (.cancel slot) = (s.cursor.cancel p s.runtime).1 := by
  simp only [afterTurn, turn?, h]
  rfl

section Closed

variable (hclosed : ∀ actions, (s.run actions).cursor.state.closed = true) (hcalls : s.calls = [])

include hclosed hcalls in
theorem calls_run_of_closed (actions : List Action) : (s.run actions).calls = [] := by
  induction actions using List.reverseRecOn with
  | nil => exact hcalls
  | append_singleton before a ih =>
    have hnone : ∀ slot, (s.run before).waitingIn? slot = none := fun slot => by
      rw [waitingIn?, ih]
      rfl
    rw [run_append]
    change ((s.run before).step a).1.calls = []
    cases a with
    | begin slot call =>
      by_cases hhandles : (s.run before).handles = 0
      · rw [begin_of_taken fun h => h.1 hhandles]
        exact ih
      · rw [begin_of_refused (hnone slot) hhandles
          (Cursor.beginCall_of_closed (hclosed before) call)]
        exact ih
    | answer slot b =>
      simp only [step, answer, hnone]
      exact ih
    | cancel slot =>
      simp only [step, cancel, hnone]
      exact ih
    | _ => exact (calls_step rfl).trans ih

include hclosed hcalls in
theorem background_moments {later : List Action} (hkept : ∀ i, .discardTask i ∉ later) {m : Moment}
    (hm : m ∈ s.moments later) : m.turn.isBackground = true := by
  obtain ⟨before, a, after, rfl, hturn⟩ := exists_of_mem_moments hm
  have hnone : ∀ slot, (s.run before).waitingIn? slot = none := fun slot => by
    rw [waitingIn?, calls_run_of_closed hclosed hcalls before]
    rfl
  rcases turn?_of_mem_turns hturn with hsome | ⟨runtime, hdrop⟩
  swap
  · rw [hdrop]
    rfl
  cases hturn : m.turn with
  | answer p b =>
    rw [hturn] at hsome
    cases makes_of_turn? hsome with
    | answer slot => simp [turn?, hnone] at hsome
  | cancel p runtime =>
    rw [hturn] at hsome
    cases makes_of_turn? hsome with
    | cancel slot => simp [turn?, hnone] at hsome
  | discardTask t runtime =>
    rw [hturn] at hsome
    cases makes_of_turn? hsome with
    | discardTask i => exact absurd (List.mem_append_right _ List.mem_cons_self) (hkept i)
  | _ => rfl

end Closed

end Schedule

/-- The call in a slot waits for a batch, and nobody else has to do with the server. -/
structure Schedule.Fetches (s : Schedule) (slot : Slot) (p : Point) (f : Flight) : Prop where
  waiting : s.waitingIn? slot = some p
  flight : p.flight? = some f
  orderly : s.Orderly
  sound : s.cursor.state.Sound {f}
  proper : AllProper s.pending
  idle : Idle (pending { s with calls := without s.calls slot })

namespace Schedule.Fetches

variable {s : Schedule} {slot : Slot} {p : Point} {f : Flight}

theorem of_play {start : Cursor} {first : Reply} {ms : List Moment} (hsound : start.state.Sound 0)
    (htracked : Tracked start first.id [] start 0) (horderly : s.Orderly)
    (hplay : Play start ms s.cursor s.pending) (hslot : s.waitingIn? slot = some p)
    (hflight : p.flight? = some f) : s.Fetches slot p f := by
  refine ⟨hslot, hflight, horderly, ?_, proper_play hplay, ?_⟩
  · exact Coherent.sole ⟨horderly, sound_play hsound hplay⟩ hslot hflight
  · rw [pending_of_waiting horderly hslot s.cursor] at hplay
    exact sole_waiting hsound htracked hplay

theorem carries (h : s.Fetches slot p f) : s.cursor.state.Carries f :=
  h.sound.carries

theorem calls (h : s.Fetches slot p f) : without s.calls slot = [] := by
  refine List.eq_nil_iff_forall_not_mem.mpr fun call hcall => ?_
  have hmem : Task.suspended call.2 ∈ pending { s with calls := without s.calls slot } :=
    Multiset.mem_add.mpr (.inl (Multiset.mem_coe.mpr (List.mem_map.mpr ⟨call, hcall, rfl⟩)))
  cases h.idle _ hmem

theorem afterTurn_eq (h : s.Fetches slot p f) :
    s.afterTurn (.cancel slot) = (s.cursor.cancelFetch p.held s.runtime).1 := by
  rw [afterTurn_cancel h.waiting, Cursor.cancel_of_flight h.flight]

theorem step_eq (h : s.Fetches slot p f) :
    (s.step (.cancel slot)).1 = letGo (spawn { s with
      cursor := (s.cursor.cancelFetch p.held s.runtime).1, calls := [] }
      (s.cursor.cancelFetch p.held s.runtime).2) := by
  rw [cancel_of_waiting h.waiting, Cursor.cancel_of_flight h.flight, h.calls]

/-- Giving up the call gives back what it holds, and nothing else but what a closed cursor leaves
without a runtime. -/
theorem accounts {refused : List Event} {others : Resource → Nat} (h : s.Fetches slot p f)
    (hbalanced : Balanced refused s.cursor s.pending others) :
    let c := s.afterTurn (.cancel slot)
    c.ledger.refusedReleases = refused ∧
    (s.cursor.state.closed = false ∨ s.runtime = true →
      ∀ r, s.cursor.ledger.owners r = c.ledger.owners r + p.held.count r) ∧
    (s.cursor.state.closed = true → s.runtime = false → ∀ r, c.ledger.owners r = others r) := by
  intro c
  have hpending := pending_of_waiting h.orderly h.waiting s.cursor
  have hidle := holdings_of_idle h.idle
  have hproper : AllProper {.suspended p} := (allProper_add.mp (hpending ▸ h.proper)).1
  rw [hpending] at hbalanced
  have hafter := balanced_own (t := .cancel p s.runtime) hbalanced rfl hproper
  have heffect : (Turn.cancel p s.runtime).effect s.cursor =
      .ofLoss (s.cursor.cancelFetch p.held s.runtime) :=
    congrArg Turn.Effect.ofLoss (Cursor.cancel_of_flight h.flight ..)
  have hc : c = (s.cursor.cancelFetch p.held s.runtime).1 := h.afterTurn_eq
  rw [heffect] at hafter
  have hbefore : ∀ r, s.cursor.ledger.owners r =
      (↑s.cursor.state.held : Multiset Resource).count r + p.held.count r + others r := fun r => by
    have howners := hbalanced.owners r
    have hp : (↑(Task.suspended p).held : Multiset Resource).count r = p.held.count r :=
      Multiset.coe_count ..
    rwa [holdings_add, hidle, add_zero, holdings_singleton, Multiset.count_add, hp] at howners
  have hleft : ∀ r, c.ledger.owners r =
      (if s.cursor.state.closed = true ∧ s.runtime = false then 0
        else (↑s.cursor.state.held : Multiset Resource)).count r + others r := fun r => by
    have howners := hafter.owners r
    rw [holdings_add, hidle, add_zero] at howners
    rw [hc, ← Cursor.held_cancelFetch h.carries.live p.held s.runtime]
    exact howners
  refine ⟨hc ▸ hafter.refused, fun hkept r => ?_, fun hclosed hruntime r => ?_⟩
  · have hcond : ¬ (s.cursor.state.closed = true ∧ s.runtime = false) := by
      rintro ⟨hclosed, hruntime⟩
      rw [hclosed, hruntime] at hkept
      rcases hkept with h | h <;> cases h
    rw [hbefore, hleft, if_neg hcond]
    omega
  · rw [hleft, if_pos ⟨hclosed, hruntime⟩]
    exact Nat.zero_add _

theorem opened (h : s.Fetches slot p f) (hopen : s.cursor.state.closed = false) :
    let s' := (s.step (.cancel slot)).1
    let c := s.afterTurn (.cancel slot)
    c.state = { s.cursor.state with
      fetching := false
      pin := s.cursor.state.pin.invalidate } ∧
    c.config = s.cursor.config ∧
    (s'.isDropped = false → s'.cursor = c ∧ s'.tasks = s.tasks) := by
  intro s' c
  have hcancel := Cursor.cancelFetch_of_open hopen p.held s.runtime
  have hc : c = _ := h.afterTurn_eq
  have hs' : s' = _ := h.step_eq
  rw [hcancel] at hc hs'
  refine ⟨by rw [hc]; rfl, by rw [hc]; rfl, fun hleft => ?_⟩
  rw [hs'] at hleft ⊢
  rw [letGo_of_not_dropped hleft, hc]
  exact ⟨rfl, List.append_nil _⟩

theorem closed (h : s.Fetches slot p f) (hclosed : s.cursor.state.closed = true) :
    let s' := (s.step (.cancel slot)).1
    let c := s.afterTurn (.cancel slot)
    c.state.Over ∧ c.config = s.cursor.config ∧ c.ledger.issued = s.cursor.ledger.issued ∧
      s' = { s with
        cursor := c
        calls := []
        tasks := s.tasks ++ if s.runtime then [.kill s.cursor.state.forgone] else [] } := by
  intro s' c
  have hcancel := Cursor.cancelFetch_of_closed hclosed h.carries.live p.held s.runtime
  have hover := Cursor.over_relieved h.sound hclosed p.held
  have hissued : (s.cursor.relieved p.held).ledger.issued = s.cursor.ledger.issued :=
    Ledger.issued_giveBackAll ..
  have hc : c = _ := h.afterTurn_eq
  have hs' : s' = _ := h.step_eq
  rw [hcancel] at hc hs'
  rw [hc, hs', letGo_of_closed]
  · cases s.runtime with
    | true => exact ⟨hover, rfl, hissued, rfl⟩
    | false => exact ⟨hover, rfl, (Ledger.issued_giveBackAll ..).trans hissued, rfl⟩
  · cases s.runtime with
    | true => exact hover.closed
    | false => exact hover.closed

end Schedule.Fetches

namespace Schedule

/-- What is done at once when a call is given up that waits for a batch. -/
structure GivesUp (s : Schedule) (slot : Slot) (p : Point) (fair : Prop) (refused : List Event) :
    Prop where
  fetching : (s.afterTurn (.cancel slot)).state.fetching = false
  freed : (s.step (.cancel slot)).1.waitingIn? slot = none
  silent : (s.afterTurn (.cancel slot)).ledger.traffic = s.cursor.ledger.traffic
  accepted : fair → (s.afterTurn (.cancel slot)).ledger.refusedReleases = refused
  /-- What the call held is given back, and no more unless a closed cursor cannot leave it to a
  task. -/
  returned : fair → s.cursor.state.closed = false ∨ s.runtime = true →
    ∀ r, s.cursor.ledger.owners r =
      (s.afterTurn (.cancel slot)).ledger.owners r + p.held.count r

/-- An open cursor is what it was when the request was started. -/
structure Reverts (s : Schedule) (slot : Slot) (f : Flight) (begun : Cursor) (wait : Bool)
    (fair : List Action → Prop) : Prop where
  ready : begun.Ready
  request : f.1 = begun.request wait
  config : (s.afterTurn (.cancel slot)).config = begun.config
  /-- Only a connection to which it is bound has failed. -/
  state : (s.afterTurn (.cancel slot)).state =
    { begun.state with pin := begun.state.pin.invalidate }
  /-- If it is bound to none, the next call makes the same request. -/
  again : begun.state.pin = .unpinned → ∀ between other call,
    let later := (s.step (.cancel slot)).1.run between
    call ≠ .close → later.cursor.state = (s.afterTurn (.cancel slot)).state → later.handles ≠ 0 →
    later.waitingIn? other = none → fair between →
    (later.run (asking other call)).cursor.ledger.messages =
      later.cursor.ledger.messages ++ [begun.getMore wait]

/-- What has become of a closed cursor once the task that was left its server's cursor has ended. -/
structure Disposed (s : Schedule) (slot : Slot) (f : Flight) (later : List Action) (fair : Prop)
    (others : Resource → Nat) : Prop where
  state : ((s.step (.cancel slot)).1.run later).cursor.state = (s.afterTurn (.cancel slot)).state
  owners : fair → ∀ r, ((s.step (.cancel slot)).1.run later).cursor.ledger.owners r = others r
  /-- Nothing is sent over a connection that has failed. -/
  bound : s.cursor.state.pin ≠ .unpinned →
    ((s.step (.cancel slot)).1.run later).cursor.ledger.traffic = s.cursor.ledger.traffic
  /-- Otherwise the source is asked once, and the server is told over a new connection. -/
  unbound : s.cursor.state.pin = .unpinned → ∃ n answer,
    s.cursor.ledger.issued < n ∧
    s.cursor.state.forgone.Hears ((s.step (.cancel slot)).1.moments later) answer ∧
    ((s.step (.cancel slot)).1.run later).cursor.ledger.traffic = s.cursor.ledger.traffic ++
      discardOver n (s.cursor.config.requester.kill f.1.id) answer

/-- Nothing is left of a cursor that was closed meanwhile. -/
structure Leaves (s : Schedule) (slot : Slot) (f : Flight) : Prop where
  emptied : (s.afterTurn (.cancel slot)).state.Over
  cursor : (s.step (.cancel slot)).1.cursor = s.afterTurn (.cancel slot)
  id : s.cursor.state.forgone.id = f.1.id
  live : s.cursor.state.forgone.id ≠ 0
  /-- A task is left the server's cursor, -/
  tasks : (s.step (.cancel slot)).1.tasks =
    s.tasks ++ if s.runtime then [.kill s.cursor.state.forgone] else []
  /-- and ends whatever it is told. -/
  clears : s.runtime = true → ∀ r k,
    ((s.step (.cancel slot)).1.run (tasking s.tasks.length (Cursor.clearing r k))).tasks = s.tasks

end Schedule

section Create

variable (reply : Reply) (options : Options) (server : ServerDescription)
  (connection : Option (Nat × ConnectionDescription)) (l : Ledger)

/-- Whatever happens after the request was given up, the task that was spawned comes to its end by
itself. -/
theorem disposed_run (runtime : Bool) (history : List Action) {slot : Slot} {p : Point}
    {f : Flight} :
    let s := (Schedule.opened reply options server connection l runtime).run history
    let s' := (s.step (.cancel slot)).1
    s.Fetches slot p f → s.cursor.state.closed = true → s.runtime = true →
    ∀ {later}, (∀ i, .discardTask i ∉ later) → (s'.run later).tasks = [] →
      let a := s.cursor.state.forgone
      let last := s'.run later
      last.pending = 0 ∧ last.cursor.state = s'.cursor.state ∧
      (s.cursor.state.pin ≠ .unpinned →
        last.cursor.ledger.traffic = s'.cursor.ledger.traffic) ∧
      (s.cursor.state.pin = .unpinned → ∃ n answer,
        s'.cursor.ledger.issued < n ∧ a.Hears (s'.moments later) answer ∧
        last.cursor.ledger.traffic = s'.cursor.ledger.traffic ++
          discardOver n (s'.cursor.config.requester.kill a.id) answer) := by
  intro s s' hfetches hclosed hruntime later hkept hdone a last
  let opened := Cursor.create reply options server connection l
  have hsound : opened.state.Sound 0 := sound_create reply options server connection l
  have htracked := tracked_create reply options server connection l
  let before := (Schedule.ofCursor opened runtime).moments (history ++ [.cancel slot])
  have hs : (Schedule.ofCursor opened runtime).run (history ++ [.cancel slot]) = s' :=
    Schedule.run_append _ history [.cancel slot]
  have hends : ∀ actions, Play opened (before ++ s'.moments actions) (s'.run actions).cursor
      (s'.run actions).pending := fun actions => by
    have hend := Schedule.play_run_append opened runtime (history ++ [.cancel slot]) actions
    dsimp only at hend
    rw [hs] at hend
    exact hend
  have hplay : Play opened before s'.cursor s'.pending := by
    have hend := hends []
    rw [Schedule.moments, List.append_nil] at hend
    exact hend
  obtain ⟨hover, -, -, hs'⟩ := hfetches.closed hclosed
  rw [if_pos hruntime] at hs'
  change s' = _ at hs'
  have hshut : s'.cursor.state.closed = true := by
    rw [hs']
    exact hover.closed
  have hcalls : s'.calls = [] := by rw [hs']
  have hpending : s'.pending = {.kill s.cursor.state.forgone} + ↑s.tasks := by
    rw [Schedule.pending, hcalls, hs', ← Multiset.coe_add, add_comm (↑s.tasks : Multiset Task)]
    exact zero_add _
  have hstays : ∀ actions, (s'.run actions).cursor.state.closed = true := fun actions =>
    Play.onward (I := fun _ d _ => d.state.closed = true) hplay (hends actions) hshut
      fun {_ d _ t} _ _ hd => closed_effect hd t
  rw [hpending] at hplay
  have hdisposes := disposes_play hsound htracked (State.orphaned_forgone hfetches.sound) hshut
    hplay (hends later) fun m hm => Schedule.background_moments hstays hcalls hkept hm
  have hnone : (s'.run later).pending = 0 := by
    rw [Schedule.pending, hdone, Schedule.calls_run_of_closed hstays hcalls]
    rfl
  rw [hnone] at hdisposes
  obtain ⟨hstate, hbound, hfree⟩ := hdisposes.done
  have hpin : a.pin = .unpinned ↔ s.cursor.state.pin = .unpinned := Pin.invalidate_eq_unpinned
  exact ⟨hnone, hstate, fun hpinned => hbound (mt hpin.mp hpinned),
    fun hunpinned => hfree (hpin.mpr hunpinned)⟩

theorem asks_again (runtime : Bool) (history : List Action) {slot other : Slot} {p : Point}
    {begun : Cursor} {wait : Bool} {during : List Moment} {between : List Action} {call : Call} :
    let s := (Schedule.opened reply options server connection l runtime).run history
    let later := (s.step (.cancel slot)).1.run between
    Underway begun wait during s.cursor p → later.cursor.state = begun.state →
    later.cursor.ledger.Covers ↑later.cursor.state.held → later.handles ≠ 0 →
    later.waitingIn? other = none → call ≠ .close →
    (later.run (Schedule.asking other call)).cursor.ledger.messages =
      later.cursor.ledger.messages ++ [begun.getMore wait] := by
  intro s later hunderway hstate hcovers hhandles hother hcall
  let opened := Cursor.create reply options server connection l
  have hsound : opened.state.Sound 0 := sound_create reply options server connection l
  have hplay := Schedule.play_run opened runtime history
  have hconfig : later.cursor.config = begun.config := by
    have hend := Schedule.play_run_append opened runtime history (.cancel slot :: between)
    exact (config_onward hsound hplay hend).trans hunderway.config
  have hroom := room_play hsound (room_create reply options server connection l) hplay
  exact Schedule.messages_again hunderway.ready (hunderway.routed (sound_play hsound hplay).routed)
    (hunderway.room hroom) hstate hconfig hcovers hhandles hother hcall wait

section GivenUp

variable (runtime : Bool) (history : List Action) (slot : Slot) (p : Point) (f : Flight)

section Parts

variable {slot p f} (hfresh : l.Fresh) (hhanded : l.Covers ↑(handed connection))
  (h : ((Schedule.opened reply options server connection l runtime).run history).Fetches slot p f)

include hfresh hhanded h

theorem givesUp_run :
    let start := Schedule.opened reply options server connection l runtime
    (start.run history).GivesUp slot p
      (isFair (spare l connection) (start.moments history) = true) l.refusedReleases := by
  intro start
  have htraffic : ((start.run history).afterTurn (.cancel slot)).ledger.traffic =
      (start.run history).cursor.ledger.traffic := by
    rw [h.afterTurn_eq]
    exact Cursor.traffic_cancelFetch ..
  have haccounts := fun hfair => h.accounts
    (balanced_run reply options server connection l runtime history hfresh hhanded hfair)
  refine ⟨?_, ?_, htraffic, fun hfair => (haccounts hfair).1, fun hfair => (haccounts hfair).2.1⟩
  · cases hclosed : (start.run history).cursor.state.closed with
    | false => exact congrArg State.fetching (h.opened hclosed).1
    | true => exact (h.closed hclosed).1.fetching
  · rw [Schedule.waitingIn?, Schedule.calls_cancel h.waiting, h.calls]
    rfl

theorem exists_reverts :
    let start := Schedule.opened reply options server connection l runtime
    let s := start.run history
    s.cursor.state.closed = false →
    ∃ before m during begun wait,
      start.moments history = before ++ m :: during ∧ m.Starts begun wait ∧
      m.turn.effect m.cursor = .ofCall (begun.startFetch wait) ∧
      s.Reverts slot f begun wait fun between =>
        isFair (spare l connection)
          (start.moments (history ++ .cancel slot :: between)) = true := by
  intro start s hopen
  have hsound := sound_create reply options server connection l
  have htracked := tracked_create reply options server connection l
  have hplay : Play _ (start.moments history) s.cursor s.pending :=
    Schedule.play_run (Cursor.create reply options server connection l) runtime history
  have hfetches : s.Fetches slot p f := h
  obtain ⟨hundone, hsame, -⟩ := hfetches.opened hopen
  change (s.afterTurn (.cancel slot)).state = _ at hundone
  change (s.afterTurn (.cancel slot)).config = _ at hsame
  have hsome : p.flight?.isSome = true := by
    rw [h.flight]
    rfl
  obtain ⟨before, m, during, begun, wait, hmoments, hstarts, heffect, hunderway⟩ :=
    underway_play hsound htracked hplay (Schedule.mem_pending_of_waiting h.orderly h.waiting)
      hsome hopen
  have hready := hunderway.ready
  have hrequest : f.1 = begun.request wait := by
    have hflight := h.flight
    obtain ⟨rfl, -⟩ | ⟨n, rfl⟩ := hunderway.stage <;> cases hflight <;> rfl
  have hstate : (s.afterTurn (.cancel slot)).state =
      { begun.state with pin := begun.state.pin.invalidate } := by
    rw [hundone]
    simp only [hunderway.state, hready.idle]
  refine ⟨before, m, during, begun, wait, hmoments, hstarts, heffect, hready, hrequest,
    hsame.trans hunderway.config, hstate, fun hfree between other call => ?_⟩
  intro later hcall hkept hhandles hother hfair
  have hback : later.cursor.state = begun.state := by
    rw [hkept, hstate, hfree]
    change { begun.state with pin := .unpinned } = begun.state
    rw [← hfree]
  have hcovers : later.cursor.ledger.Covers ↑later.cursor.state.held := by
    have hall := (balanced_run reply options server connection l runtime
      (history ++ .cancel slot :: between) hfresh hhanded hfair).covers
    have hlater : start.run (history ++ .cancel slot :: between) = later :=
      Schedule.run_append start history (.cancel slot :: between)
    change (start.run (history ++ .cancel slot :: between)).cursor.ledger.Covers
      ↑(start.run (history ++ .cancel slot :: between)).cursor.state.held at hall
    rwa [hlater] at hall
  exact asks_again reply options server connection l runtime history hunderway hback hcovers
    hhandles hother hcall

omit hfresh hhanded in
theorem leaves_run :
    let s := (Schedule.opened reply options server connection l runtime).run history
    s.cursor.state.closed = true → s.Leaves slot f := by
  intro s hclosed
  obtain ⟨hover, -, -, hs'⟩ := h.closed hclosed
  have htasks : (s.step (.cancel slot)).1.tasks =
      s.tasks ++ if s.runtime then [.kill s.cursor.state.forgone] else [] := congrArg _ hs'
  refine ⟨hover, congrArg Schedule.cursor hs', h.carries.id.symm,
    (State.orphaned_forgone h.sound).live, htasks, fun hruntime r k => ?_⟩
  rw [if_pos hruntime] at htasks
  rw [Schedule.run_tasking htasks]
  have hended := (Cursor.ends_clearing (s.step (.cancel slot)).1.cursor s.cursor.state.forgone
    .cleared r k).1
  change s.tasks ++ ((Cursor.answered ((s.step (.cancel slot)).1.cursor.kill
    s.cursor.state.forgone .cleared) (Cursor.clearing r k)).2.point?.map Task.suspended).toList =
      s.tasks
  rw [hended]
  exact List.append_nil _

theorem disposed_of_spawned :
    let start := Schedule.opened reply options server connection l runtime
    let s := start.run history
    s.cursor.state.closed = true → s.runtime = true →
    ∀ later, (∀ i, .discardTask i ∉ later) → ((s.step (.cancel slot)).1.run later).tasks = [] →
      let actions := history ++ .cancel slot :: later
      s.Disposed slot f later (isFair (spare l connection) (start.moments actions) = true)
        (othersAfter (spare l connection) (start.moments actions)) := by
  intro start s hclosed hruntime later hkept hdone actions
  obtain ⟨hover, hconfig, hissued, hs'⟩ := h.closed hclosed
  change (s.afterTurn (.cancel slot)).state.Over at hover
  change (s.afterTurn (.cancel slot)).config = s.cursor.config at hconfig
  change (s.afterTurn (.cancel slot)).ledger.issued = s.cursor.ledger.issued at hissued
  have hcursor : (s.step (.cancel slot)).1.cursor = s.afterTurn (.cancel slot) :=
    congrArg Schedule.cursor hs'
  have htraffic := (givesUp_run reply options server connection l runtime history hfresh hhanded
    h).silent
  change (s.afterTurn (.cancel slot)).ledger.traffic = s.cursor.ledger.traffic at htraffic
  obtain ⟨hnone, hstate, hbound, hfree⟩ := disposed_run reply options server connection l runtime
    history h hclosed hruntime hkept hdone
  change ((s.step (.cancel slot)).1.run later).cursor.state =
    (s.step (.cancel slot)).1.cursor.state at hstate
  rw [hcursor] at hstate hbound hfree
  refine ⟨hstate, fun hfair r => ?_, fun hpinned => (hbound hpinned).trans htraffic,
    fun hunpinned => ?_⟩
  · have howners := (balanced_run reply options server connection l runtime actions hfresh hhanded
      hfair).owners r
    have hlater : start.run actions = (s.step (.cancel slot)).1.run later :=
      Schedule.run_append start history (.cancel slot :: later)
    change (start.run actions).cursor.ledger.owners r =
      (↑(start.run actions).cursor.state.held + holdings (start.run actions).pending).count r + _
        at howners
    rw [hlater, hnone, hstate, hover.held] at howners
    exact howners.trans (Nat.zero_add _)
  · obtain ⟨n, answer, hnew, hheard, hwire⟩ := hfree hunpinned
    have hid : s.cursor.state.forgone.id = f.1.id := h.carries.id.symm
    rw [hissued] at hnew
    rw [hconfig, htraffic, hid] at hwire
    exact ⟨n, answer, hnew, hheard, hwire⟩

end Parts

/-- A call is given up while it waits for a batch. An open cursor is what it was when the request
was started; of a cursor that was closed meanwhile nothing is left in the end. -/
theorem given_up_request_undone (hfresh : l.Fresh) (hhanded : l.Covers ↑(handed connection)) :
    let start := Schedule.opened reply options server connection l runtime
    let s := start.run history
    let s' := (s.step (.cancel slot)).1
    let c := s.afterTurn (.cancel slot)
    let given (later : List Action) : List Action := history ++ .cancel slot :: later
    let fair (actions : List Action) : Prop :=
      isFair (spare l connection) (start.moments actions) = true
    let others (actions : List Action) : Resource → Nat :=
      othersAfter (spare l connection) (start.moments actions)
    s.waitingIn? slot = some p → p.flight? = some f →
    s.GivesUp slot p (fair history) l.refusedReleases ∧
    (s.cursor.state.closed = false →
      (s'.isDropped = false → s'.cursor = c ∧ s'.tasks = s.tasks) ∧
      ∃ before m during begun wait,
        start.moments history = before ++ m :: during ∧ m.Starts begun wait ∧
        m.turn.effect m.cursor = .ofCall (begun.startFetch wait) ∧
        s.Reverts slot f begun wait fun between => fair (given between)) ∧
    (s.cursor.state.closed = true →
      s.Leaves slot f ∧
      (s.runtime = false → fair history → ∀ r, c.ledger.owners r = others history r) ∧
      (s.runtime = true → ∀ later, (∀ i, .discardTask i ∉ later) → (s'.run later).tasks = [] →
        s.Disposed slot f later (fair (given later)) (others (given later)))) := by
  intro start s s' c given fair others hslot hflight
  have hsound := sound_create reply options server connection l
  have htracked := tracked_create reply options server connection l
  have horderly : s.Orderly := Schedule.orderly_run (Schedule.orderly_ofCursor _ _) history
  have hplay : Play _ (start.moments history) s.cursor s.pending :=
    Schedule.play_run (Cursor.create reply options server connection l) runtime history
  have hfetches : s.Fetches slot p f := .of_play hsound htracked horderly hplay hslot hflight
  refine ⟨givesUp_run reply options server connection l runtime history hfresh hhanded hfetches,
    fun hopen => ⟨(hfetches.opened hopen).2.2,
      exists_reverts reply options server connection l runtime history hfresh hhanded hfetches
        hopen⟩,
    fun hclosed => ⟨leaves_run reply options server connection l runtime history hfetches hclosed,
      fun hruntime hfair => ?_, disposed_of_spawned reply options server connection l runtime
        history hfresh hhanded hfetches hclosed⟩⟩
  obtain ⟨-, -, howners⟩ := hfetches.accounts
    (balanced_run reply options server connection l runtime history hfresh hhanded hfair)
  exact howners hclosed hruntime

end GivenUp

end Create

/-- The cursor is closed while it waits for a reply. -/
def Schedule.limitedClosing : List Action :=
  Schedule.limitedRequest ++ [.begin .blocking .close]

/-- The request is given up, and the task takes a second connection to discard the server's
cursor. -/
theorem given_up_request_undone_limited :
    let s := Schedule.limited.run Schedule.limitedClosing
    let s' := (s.step (.cancel .stream)).1
    let last := (s'.run (Schedule.tasking 0 (Cursor.clearing (.ok ()) (.ok ())))).cursor
    s.waitingIn? .stream = some (.fetchReply ⟨7, 2, true, true⟩ 1) ∧
    s'.cursor.ledger.traffic = s.cursor.ledger.traffic ∧ s'.tasks.length = 1 ∧ last.state.Over ∧
    last.ledger.owners .source = 0 ∧ ∃ n answer, 1 < n ∧
      last.ledger.traffic = s.cursor.ledger.traffic ++
        discardOver n (s.cursor.config.requester.kill 7) answer := by
  intro s s' last
  have hslot : s.waitingIn? .stream = some (.fetchReply ⟨7, 2, true, true⟩ 1) := rfl
  obtain ⟨hgiven, -, hclosed⟩ := given_up_request_undone
    ⟨⟨"db", "items"⟩, [[("n", .int32 1)]], 7, .localhost⟩ ⟨-3, 0, none, none⟩ .blank none
    Ledger.start true Schedule.limitedClosing .stream (.fetchReply ⟨7, 2, true, true⟩ 1)
    (⟨7, 2, true, true⟩, some 1) Ledger.fresh_start Ledger.covers_start hslot rfl
  obtain ⟨hleaves, -, hlater⟩ := hclosed rfl
  have hkept : ∀ i, .discardTask i ∉ Schedule.tasking 0 (Cursor.clearing (.ok ()) (.ok ())) := by
    intro i hi
    simp [Schedule.tasking, Cursor.clearing] at hi
  have hdisposed := hlater rfl _ hkept rfl
  refine ⟨hslot, ?_, rfl, ?_, ?_, ?_⟩
  · exact (congrArg (Ledger.traffic ∘ Cursor.ledger) hleaves.cursor).trans hgiven.silent
  · exact hdisposed.state ▸ hleaves.emptied
  · exact (hdisposed.owners (by decide) .source).trans (by decide)
  · obtain ⟨n, answer, hnew, -, hall⟩ := hdisposed.unbound rfl
    exact ⟨n, answer, hnew, hall⟩

end ServerCursor
