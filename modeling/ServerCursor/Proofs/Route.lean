import ServerCursor.Proofs.Discard
import ServerCursor.Proofs.Flight

/-!
# One route to the server

A cursor reaches its server by the source of connections or by the one connection to which it is
bound. `State.Sound` says that it never holds both, and one of them while its server's cursor is
open; a party that is to discard a server's cursor takes the route along (`Task.Routed`).

Main statement: `one_route` says so of every state, and what follows from it: no call fails for want
of a route, and the server is told to discard its cursor unless the turn has an excuse that is not
the want of a route (`Turn.Excused`).
-/

namespace ServerCursor

/-- A task that is to discard a server's cursor has a way to it. -/
def Task.Routed : Task → Prop
  | .kill a => a.source = true ∨ a.pin ≠ .unpinned
  | _ => True

/-- Why the server's cursor may be left open in a turn although there is a way to it: the connection
to which the cursor is bound has failed, or the source denies one, or a call or a task is given up,
or the cursor is dropped without a runtime. -/
def Turn.Excused (c : Cursor) : Turn → Prop
  | .begin _ => c.state.pin.isFailed = true
  | .answer p a => p.denied a = true
  | .cancel p runtime => p.flight? = none ∨ runtime = false
  | .startTask .close => c.state.pin.isFailed = true
  | .startTask (.kill a) => a.pin.isFailed = true
  | .startTask (.suspended _) => False
  | .answerTask p a => p.denied a = true
  | .discardTask _ _ => True
  | .drop runtime => runtime = false
  | .retain _ => False
  | .release _ => False

theorem routed_left (p : Progress) : ∀ t ∈ p.left, t.Routed := by
  intro t ht
  cases p with
  | waiting q =>
    rw [Multiset.mem_singleton.mp ht]
    trivial
  | done o => exact absurd ht (Multiset.notMem_zero t)

namespace Cursor

variable {c : Cursor} {rest : Multiset Flight}

theorem routed_cancelFetch (hs : c.state.Sound rest) (back : List Resource) (runtime : Bool) :
    ∀ t ∈ (↑(c.cancelFetch back runtime).2.toList : Multiset Task), t.Routed := by
  intro t ht
  simp only [cancelFetch] at ht
  split at ht
  · split at ht
    · cases ht
    rename_i hid
    split at ht
    · rw [List.mem_singleton.mp ht]
      exact (hs.routed hid).imp_right State.pin_invalidate_ne
    · cases ht
  · cases ht

theorem routed_cancel (hs : c.state.Sound rest) (p : Point) (runtime : Bool) :
    ∀ t ∈ (↑(c.cancel p runtime).2.toList : Multiset Task), t.Routed := by
  cases p with
  | fetchCheckout f => exact routed_cancelFetch hs f.held runtime
  | fetchReply f n => exact routed_cancelFetch hs (.connection n :: f.held) runtime
  | killCheckout a after => exact fun t ht => absurd ht (Multiset.notMem_zero t)
  | killReply a after => exact fun t ht => absurd ht (Multiset.notMem_zero t)

theorem routed_drop (runtime : Bool) :
    ∀ t ∈ (↑(c.drop runtime).2.toList : Multiset Task), t.Routed := by
  intro t ht
  simp only [drop] at ht
  split at ht
  · cases ht
  split at ht
  · rw [List.mem_singleton.mp ht]
    trivial
  split at ht
  · cases ht
  · cases ht

/-- Within a runtime a request that is given up leaves the server's cursor to the cursor or to a
task. -/
theorem known_cancel {p : Point} {f : Flight} (hs : c.state.Sound (flights {.suspended p} + rest))
    (hf : p.flight? = some f) :
    c.state.id ∈ (c.cancel p true).1.state.known + owes ↑(c.cancel p true).2.toList := by
  have hflight : (Task.suspended p).flight? = some f := hf
  rw [flights_singleton, hflight] at hs
  obtain ⟨-, -, hc⟩ := hs.sole
  have hfetch : ∀ back : List Resource, c.state.id ∈
      (c.cancelFetch back true).1.state.known + owes ↑(c.cancelFetch back true).2.toList := by
    intro back
    simp only [cancelFetch]
    split
    · split
      · rename_i h0
        exact absurd h0 hc.live
      · exact Multiset.mem_add.mpr (.inr (by simp [Task.owes, State.abandoned]))
    · have hknown : c.state.id ∈ c.state.known := by
        rw [State.known_of_ne_zero hc.live]
        exact Multiset.mem_singleton_self _
      exact Multiset.mem_add.mpr (.inl hknown)
  cases p with
  | fetchCheckout g => exact hfetch g.held
  | fetchReply g n => exact hfetch (.connection n :: g.held)
  | killCheckout a after => cases hf
  | killReply a after => cases hf

end Cursor

theorem routed_effect {c : Cursor} {t : Turn} {rest : Multiset Flight} (hs : c.state.Sound rest) :
    ∀ x ∈ (t.effect c).left, x.Routed := by
  have hnone : ∀ x ∈ (0 : Multiset Task), x.Routed := fun x hx =>
    absurd hx (Multiset.notMem_zero x)
  cases t with
  | begin call => exact routed_left _
  | answer p a => exact routed_left _
  | cancel p runtime => exact Cursor.routed_cancel hs p runtime
  | startTask t => exact routed_left _
  | answerTask p a => exact routed_left _
  | discardTask t runtime =>
    cases t with
    | close => exact hnone
    | kill a => exact hnone
    | suspended p => exact Cursor.routed_cancel hs p runtime
  | drop runtime => exact Cursor.routed_drop runtime
  | retain r => exact hnone
  | release r => exact hnone

theorem routed_play {start c : Cursor} {ms : List Moment} {pending : Multiset Task}
    (hsound : start.state.Sound 0) (hp : Play start ms c pending) : ∀ x ∈ pending, x.Routed := by
  induction hp with
  | nil => exact fun x hx => absurd hx (Multiset.notMem_zero x)
  | snoc before _ ih =>
    intro x hx
    rcases Multiset.mem_add.mp hx with hx | hx
    · exact routed_effect (sound_play hsound before) x hx
    · exact ih x (Multiset.mem_add.mpr (.inr hx))

/-- While every party has a route, the server's cursor is left open only with an excuse, or if a
request is given up within a runtime. -/
theorem Turn.Forfeits.excused {c : Cursor} {t : Turn} (h : t.Forfeits c)
    (hrouted : ∀ x ∈ t.party, x.Routed) :
    t.Excused c ∨ ∃ p f, t = .cancel p true ∧ p.flight? = some f := by
  cases t with
  | begin call => exact .inl h
  | answer p a => exact .inl h
  | cancel p runtime =>
    cases hflight : p.flight? with
    | none => exact .inl (.inl hflight)
    | some f =>
      cases runtime with
      | true => exact .inr ⟨p, f, rfl, hflight⟩
      | false => exact .inl (.inr rfl)
  | startTask t =>
    cases t with
    | close => exact .inl h
    | kill a =>
      left
      rcases h with hfailed | ⟨hnone, hunsourced⟩
      · exact hfailed
      · have hroute : a.source = true ∨ a.pin ≠ .unpinned :=
          hrouted _ (Multiset.mem_singleton_self _)
        rw [Abandoned.route?, Option.or_eq_none_iff] at hnone
        rcases hroute with hsource | hpin
        · rw [hunsourced] at hsource
          cases hsource
        · exact absurd (Pin.connection?_eq_none_iff.mp hnone.1) hpin
    | suspended p => exact h.elim
  | answerTask p a => exact .inl h
  | discardTask t runtime => exact .inl trivial
  | drop runtime => exact .inl h.1
  | retain r => exact h.elim
  | release r => exact h.elim

/-- A server's cursor that somebody knows in a turn is still known after it, or the server is told
to discard it, or the turn has an excuse. -/
theorem known_effect {c : Cursor} {t : Turn} {rest : Multiset Task} {id : Int64}
    (hs : c.state.Sound (flights (t.party + rest))) (hp : AllProper t.party)
    (hrouted : ∀ x ∈ t.party, x.Routed) (hid : id ∈ (c.met t.heard?).known + owes t.party) :
    id ∈ (t.effect c).cursor.state.known + owes (t.effect c).left ∨
      (t.effect c).cursor.ledger.messages =
        c.ledger.messages ++ [c.config.requester.kill id] ∨
      t.Excused c := by
  have hlost : t.Forfeits c →
      id ∈ (t.effect c).cursor.state.known + owes (t.effect c).left ∨
        (t.effect c).cursor.ledger.messages =
          c.ledger.messages ++ [c.config.requester.kill id] ∨
        t.Excused c := by
    intro hforfeits
    rcases hforfeits.excused hrouted with hexcused | ⟨p, f, rfl, hflight⟩
    · exact .inr (.inr hexcused)
    · have hsum : (c.met (Turn.cancel p true).heard?).known +
          owes (Turn.cancel p true).party = c.state.known := by
        have howes : owes (Turn.cancel p true).party = 0 := by
          rw [Turn.party, owes_singleton]
          cases p with
          | fetchCheckout g => rfl
          | fetchReply g n => rfl
          | killCheckout a after => cases hflight
          | killReply a after => cases hflight
        rw [howes]
        exact add_zero _
      rw [hsum] at hid
      have heq : id = c.state.id := by
        unfold State.known at hid
        split at hid
        · exact absurd hid (Multiset.notMem_zero id)
        · exact Multiset.mem_singleton.mp hid
      rw [flights_add] at hs
      rw [heq]
      exact .inl (Cursor.known_cancel hs hflight)
  have hhandles := handles_effect hs hp
  have hplace : ∀ {m n : Multiset Int64}, id ∈ n → id ∈ m + n := fun hn =>
    Multiset.mem_add.mpr (.inr hn)
  cases hhandles with
  | state owes passage =>
    rw [owes, add_zero] at hid
    have hlive : (c.met t.heard?).id ≠ 0 := by
      intro h0
      rw [State.known_of_eq_zero h0] at hid
      exact Multiset.notMem_zero id hid
    rw [State.known_of_ne_zero hlive] at hid
    have heq := Multiset.mem_singleton.mp hid
    have hkept : (t.effect c).cursor.state.id = (c.met t.heard?).id →
        id ∈ (t.effect c).cursor.state.known + ServerCursor.owes (t.effect c).left := by
      intro hsame
      refine Multiset.mem_add.mpr (.inl ?_)
      rw [State.known_congr hsame, State.known_of_ne_zero hlive]
      exact hid
    cases passage.fate with
    | kept messages id quiet => exact .inl (hkept id)
    | asked number messages live id quiet => exact .inl (hkept id)
    | detached messages live laid owes awaits intact => exact .inl (hplace (owes ▸ hid))
    | told messages live laid owes awaits intact => exact .inr (.inl (heq ▸ messages))
    | lost messages live laid quiet reason => exact hlost reason
  | party n owes awaits deaf config state errand =>
    rw [deaf, owes] at hid
    rcases Multiset.mem_add.mp hid with hstate | hparty
    · have hkept : id ∈ (t.effect c).cursor.state.known := state ▸ hstate
      exact .inl (Multiset.mem_add.mpr (.inl hkept))
    · have heq := Multiset.mem_singleton.mp hparty
      cases errand with
      | kept messages owes awaits unhindered => exact .inl (hplace (owes ▸ hparty))
      | told messages owes awaits unhindered => exact .inr (.inl (heq ▸ messages))
      | lost messages quiet reason => exact hlost reason
  | nothing deaf cursor left unhindered =>
    rw [cursor, left]
    rw [deaf] at hid
    exact .inl hid

section Create

variable (reply : Reply) (options : Options) (server : ServerDescription)
  (connection : Option (Nat × ConnectionDescription)) (l : Ledger)

/-- A cursor never holds the source and a connection at once, and holds one of them while its
server's cursor is open. So no call fails for want of a route, and no server's cursor is lost for
that. -/
theorem one_route (runtime : Bool) (history : List Action) :
    let start := Schedule.opened reply options server connection l runtime
    let s := start.run history
    let state := s.cursor.state
    (state.source = true → state.pin = .unpinned) ∧
    (state.id ≠ 0 → state.source = true ∧ state.pin = .unpinned ∨
      state.source = false ∧ state.pin ≠ .unpinned) ∧
    (state.fetching = true ∨ s.roundTrips ≠ [] → state.id ≠ 0 ∧ state.buffer = []) ∧
    (.failed .noRoute ∈ start.outcomes history →
      ∃ slot a, .answer slot a ∈ history ∧ a.cause? = some .noRoute) ∧
    ∀ m ∈ start.moments history,
      let after := m.turn.effect m.cursor
      ∀ id ∈ (m.cursor.met m.turn.heard?).known + owes m.turn.party,
        id ∈ after.cursor.state.known + owes after.left ∨
        after.cursor.ledger.messages =
          m.cursor.ledger.messages ++ [m.cursor.config.requester.kill id] ∨
        m.turn.Excused m.cursor := by
  intro start s state
  have hsound := sound_create reply options server connection l
  have hs : s.Coherent := Schedule.coherent_run hsound runtime history
  have hstate : state.Sound (flights s.pending) := hs.sound
  refine ⟨hstate.single, fun hid => ?_, fun hbusy => ?_, fun hfailed => ?_, fun m hm => ?_⟩
  · cases hsource : state.source with
    | true => exact .inl ⟨rfl, hstate.single hsource⟩
    | false =>
      refine .inr ⟨rfl, (hstate.routed hid).resolve_left fun h => ?_⟩
      rw [hsource] at h
      cases h
  · have hfetching : state.fetching = true := hbusy.elim id hs.fetching_iff.mpr
    obtain ⟨f, -, hc⟩ := hstate.busy hfetching
    exact ⟨hc.live, hc.buffer⟩
  · rcases Schedule.refused_or_told [] history hsound hfailed with
      ⟨before, a, after, t, -, -, hrefuses⟩ | hfalse | htold
    · cases hrefuses
    · cases hfalse
    · exact htold
  · intro after id hid
    have hplay : Play _ (start.moments history) s.cursor s.pending :=
      Schedule.play_run (Cursor.create reply options server connection l) runtime history
    obtain ⟨before, later, hmoments⟩ := List.append_of_mem hm
    rw [hmoments] at hplay
    obtain ⟨rest, hbefore, -⟩ := hplay.until
    have hrouted := routed_play hsound hbefore
    exact known_effect (sound_play hsound hbefore) (proper_party hbefore)
      (fun x hx => hrouted x (Multiset.mem_add.mpr (.inl hx))) hid

end Create

end ServerCursor
