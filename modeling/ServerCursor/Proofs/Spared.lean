import ServerCursor.Proofs.Deal
import ServerCursor.Proofs.Discard
import ServerCursor.Proofs.Return

/-!
# When the server is told to discard its cursor

The server is told to discard its cursor unless the cursor is gone, or nothing can reach it, or
nobody knows whether it is still there: those are the turns that spare it (`Moment.spares`). While
the number of the server's cursor is anywhere, at most the connection to which the cursor is bound
has failed, and then the number is still in the state (`Exact`).

If the cursor was closed while a request had no connection yet, and the request was denied one, then
only being denied another can spare the server's cursor.

Main statement: `discarded_unless_spared` says for every history in which nothing is given up that,
once the cursor is closed or dropped and nobody has anything to do any more, or once the limit was
reached, the server was told to discard its cursor exactly if nothing has spared it.
-/

namespace ServerCursor

namespace Moment

/-- The failure of a request for a batch in a turn, and the connection over which it was sent. -/
def failure? (m : Moment) : Option (Nat × Error) :=
  match m.turn.heard? with
  | some (n, .error cause) => some (n, cause)
  | _ => none

/-- Whether the server says in a turn that it does not know its cursor. -/
def missesCursor (m : Moment) : Bool :=
  m.failure?.any fun f => f.2.isCursorNotFound

/-- Whether the connection to which the cursor is bound fails in a turn. -/
def breaksPin (m : Moment) : Bool :=
  m.failure?.any fun f => m.cursor.state.pin.connection? == some f.1 && f.2.isNetwork

/-- Whether a request fails in a turn after the cursor was closed. -/
def failsLate (m : Moment) : Bool :=
  m.cursor.state.closed && m.failure?.isSome

/-- Whether a party is denied the connection to discard the server's cursor over. -/
def deniesKill (m : Moment) : Bool :=
  match m.turn with
  | .answer p a => p.denied a
  | .answerTask p a => p.denied a
  | _ => false

/-- Whether a turn is a reason not to tell the server to discard its cursor. -/
def spares (m : Moment) : Bool :=
  m.missesCursor || m.breaksPin || m.failsLate || m.deniesKill

/-- Whether a request of a cursor that was closed meanwhile is denied a connection. -/
def failsUnrouted (m : Moment) : Bool :=
  match m.turn with
  | .answer (.fetchCheckout _) (.checkout (.error _)) => m.cursor.state.closed
  | _ => false

/-- Whether a call ends with documents and has reached the limit. -/
def fillsLimit (m : Moment) : Bool :=
  let after := (m.turn.effect m.cursor).cursor
  (m.outcome?.bind Outcome.hand?).isSome && after.config.limitReached after.state.received

/-- Whether the cursor is let go in a turn without a runtime although its server's cursor is to be
discarded. -/
def leavesOpen (m : Moment) : Bool :=
  match m.turn with
  | .drop false => m.cursor.needsKill
  | _ => false

/-- Nothing is given up in a turn, and the server's cursor is not left open for want of a
runtime. -/
structure Patient (m : Moment) : Prop where
  /-- No call is given up. -/
  cancel : ∀ p runtime, m.turn ≠ .cancel p runtime
  /-- No task is thrown away. -/
  discard : ∀ t runtime, m.turn ≠ .discardTask t runtime
  /-- If the server's cursor is to be discarded, the cursor is let go within a runtime. -/
  drop : m.leavesOpen = false

end Moment

/-- The server's cursor is gone by the last reply, or some turn is a reason not to discard it. -/
def Spared (first : Reply) (ms : List Moment) : Prop :=
  (lastReply first ms).id = 0 ∨ ∃ m ∈ ms, m.spares = true

section Heard

variable {c : Cursor} {t : Turn}

theorem failure?_of_deaf (h : t.heard? = none) : Moment.failure? ⟨c, t⟩ = none := by
  rw [Moment.failure?, h]

theorem reply?_of_deaf (h : t.heard? = none) : Moment.reply? ⟨c, t⟩ = none := by
  rw [Moment.reply?, h]

theorem spares_of_deaf (h : t.heard? = none) :
    Moment.spares ⟨c, t⟩ = Moment.deniesKill ⟨c, t⟩ := by
  simp [Moment.spares, Moment.missesCursor, Moment.breaksPin, Moment.failsLate,
    failure?_of_deaf h]

theorem deaf_of_gone {rest : Multiset Task} (hs : c.state.Sound (flights (t.party + rest)))
    (hid : c.state.id = 0) : t.heard? = none := by
  cases hheard : t.heard? with
  | none => rfl
  | some heard =>
    obtain ⟨f, hc, -⟩ := carries_of_heard hs hheard
    exact absurd hid hc.live

theorem owes_of_denied (h : Moment.deniesKill ⟨c, t⟩ = true) :
    owes t.party ≠ 0 ∧ t.Forfeits c ∧ t.heard? = none := by
  have hpoint : ∀ (p : Point) (a : Answer), p.denied a = true →
      owes {.suspended p} ≠ 0 ∧ p.heard? a = none := by
    intro p a hp
    cases p with
    | killCheckout b after =>
      refine ⟨?_, rfl⟩
      rw [owes_singleton]
      exact Multiset.singleton_ne_zero b.id
    | fetchCheckout f => cases hp
    | fetchReply f n => cases hp
    | killReply b after => cases hp
  cases t with
  | answer p a => exact ⟨(hpoint p a h).1, h, (hpoint p a h).2⟩
  | answerTask p a => exact ⟨(hpoint p a h).1, h, (hpoint p a h).2⟩
  | _ => cases h

/-- A turn in which nothing is given up leaves the server's cursor open only if the connection to
which the cursor is bound had failed, or if it is denied one. -/
theorem Turn.Forfeits.reason (h : t.Forfeits c) (hm : Moment.Patient ⟨c, t⟩)
    (hkill : ∀ a, .kill a ∉ t.party) :
    c.state.pin.isFailed = true ∨ Moment.deniesKill ⟨c, t⟩ = true := by
  cases t with
  | begin call => exact .inl h
  | answer p a => exact .inr h
  | cancel p runtime => exact absurd rfl (hm.cancel p runtime)
  | startTask t =>
    cases t with
    | close => exact .inl h
    | kill a => exact absurd (Multiset.mem_singleton_self _) (hkill a)
    | suspended p => exact h.elim
  | answerTask p a => exact .inr h
  | discardTask t runtime => exact absurd rfl (hm.discard t runtime)
  | drop runtime =>
    obtain ⟨rfl, hneeds⟩ := h
    have hnone : c.needsKill = false := hm.drop
    rw [hneeds] at hnone
    cases hnone
  | retain r => exact h.elim
  | release r => exact h.elim

/-- What the server is heard to say leaves its cursor open, or the reply says that it is gone, or
the failure spares it. -/
theorem spares_of_hear {n : Nat} {r : Except Error Reply} (hheard : t.heard? = some (n, r))
    (hid : (c.hear r).id = 0) (hlive : c.state.id ≠ 0) :
    (∃ reply, Moment.reply? ⟨c, t⟩ = some reply ∧ reply.id = 0) ∨
      Moment.spares ⟨c, t⟩ = true := by
  cases r with
  | ok reply =>
    refine .inl ⟨reply, by rw [Moment.reply?, hheard], ?_⟩
    rcases id_hear c (.ok reply) with ⟨_, h, hr⟩ | ⟨_, h, -⟩
    · cases h
      exact hr.symm.trans hid
    · cases h
  | error cause =>
    have hfailure : Moment.failure? ⟨c, t⟩ = some (n, cause) := by rw [Moment.failure?, hheard]
    right
    by_cases hclosed : c.state.closed = true
    · simp [Moment.spares, Moment.failsLate, hfailure, hclosed]
    by_cases hmissed : cause.isCursorNotFound = true
    · simp [Moment.spares, Moment.missesCursor, hfailure, hmissed]
    · rw [Cursor.hear, if_neg hclosed] at hid
      simp only [Cursor.afterFailure, if_neg hmissed] at hid
      split at hid
      · exact absurd hid hlive
      · exact absurd hid hlive

/-- A failure that spares the server's cursor and leaves its number in the state is one of the
connection. -/
theorem failed_of_spares {f : Fetch} {n : Nat} {r : Except Error Reply}
    (hheard : t.heard? = some (n, r)) (hid : (c.hear r).id ≠ 0)
    (hspares : Moment.spares ⟨c, t⟩ = true) (hc : c.state.Carries (f, some n)) :
    (c.hear r).pin.isFailed = true := by
  have hnot : Moment.deniesKill ⟨c, t⟩ = false := Bool.eq_false_iff.mpr fun h => by
    rw [(owes_of_denied h).2.2] at hheard
    cases hheard
  cases r with
  | ok reply =>
    have hfailure : Moment.failure? ⟨c, t⟩ = none := by rw [Moment.failure?, hheard]
    simp [Moment.spares, Moment.missesCursor, Moment.breaksPin, Moment.failsLate, hfailure,
      hnot] at hspares
  | error cause =>
    have hfailure : Moment.failure? ⟨c, t⟩ = some (n, cause) := by rw [Moment.failure?, hheard]
    have hopen : ¬ c.state.closed = true := fun hclosed => by
      rw [Cursor.hear, if_pos hclosed] at hid
      exact hid rfl
    rw [Cursor.hear, if_neg hopen] at hid ⊢
    have hknown : ¬ cause.isCursorNotFound = true := fun h => by
      simp only [Cursor.afterFailure, if_pos h] at hid
      exact hid rfl
    have hbroken : c.state.pin.connection? = some n ∧ cause.isNetwork = true := by
      simpa [Moment.spares, Moment.missesCursor, Moment.breaksPin, Moment.failsLate, hfailure,
        hnot, hopen, hknown] using hspares
    simp only [Cursor.afterFailure, if_neg hknown, if_pos hbroken.2]
    have hintact := hc.intact
    have hbound := hbroken.1
    cases hpin : c.state.pin with
    | unpinned => rw [hpin] at hbound; cases hbound
    | valid n => rfl
    | failed n => rw [hpin] at hintact; cases hintact

/-- The connection to which a cursor is bound fails only in a turn that spares the server's
cursor. -/
theorem spares_of_failed {f : Fetch} {n : Nat} {r : Except Error Reply}
    (hheard : t.heard? = some (n, r)) (hc : c.state.Carries (f, some n))
    (hfailed : (c.hear r).pin.isFailed = true) : Moment.spares ⟨c, t⟩ = true := by
  have hintact := hc.intact
  have hsame : (c.hear r).pin = c.state.pin → Moment.spares ⟨c, t⟩ = true := fun e => by
    rw [e, hintact] at hfailed
    cases hfailed
  cases r with
  | ok reply =>
    unfold Cursor.hear at hfailed hsame
    split at hfailed
    · rename_i hclosed
      exact hsame (by rw [if_pos hclosed])
    dsimp only at hfailed
    split at hfailed
    · cases hfailed
    · exact absurd hfailed (by rw [Bool.not_eq_true]; exact hintact)
  | error cause =>
    have hfailure : Moment.failure? ⟨c, t⟩ = some (n, cause) := by rw [Moment.failure?, hheard]
    by_cases hclosed : c.state.closed = true
    · simp [Moment.spares, Moment.failsLate, hfailure, hclosed]
    by_cases hmissed : cause.isCursorNotFound = true
    · simp [Moment.spares, Moment.missesCursor, hfailure, hmissed]
    rw [Cursor.hear, if_neg hclosed] at hfailed
    simp only [Cursor.afterFailure, if_neg hmissed] at hfailed
    split at hfailed
    · rename_i hnetwork
      have hbound : c.state.pin.connection? = some n := by
        rcases hc.bound with hp | hp
        · rw [hp] at hfailed
          cases hfailed
        · exact hp
      simp [Moment.spares, Moment.breaksPin, hfailure, hbound, hnetwork]
    · exact absurd hfailed (by rw [Bool.not_eq_true]; exact hintact)

end Heard

/-- How the place of the server's cursor goes with what has spared it. -/
structure Exact (first : Reply) (ms : List Moment) (kills : List Int64) (s : State)
    (pending : Multiset Task) : Prop where
  /-- Its number is nowhere any more only if something has spared it. -/
  spared : tokens kills s pending = 0 → Spared first ms
  /-- While its number is somewhere, at most a connection has failed, and it is in the state. -/
  live : tokens kills s pending ≠ 0 → ∀ m ∈ ms, m.spares = true → s.id ≠ 0 ∧ s.pin.isFailed = true
  /-- A connection that has failed spares it. -/
  broken : s.pin.isFailed = true → ∃ m ∈ ms, m.spares = true
  /-- No task was spawned to discard it for a request that was given up. -/
  unspawned : ∀ a, .kill a ∉ pending

section Exact

variable {first : Reply} {ms : List Moment} {kills : List Int64} {last : Int64} {s : State}
  {start c c' : Cursor} {t : Turn} {party left rest : Multiset Task} {why : Prop}
  {told : List Int64}

theorem spared_snoc (h : Spared first ms) {m : Moment} (hreply : m.reply? = none) :
    Spared first (ms ++ [m]) := by
  rcases h with hlast | ⟨m', hm, hspares⟩
  · left
    rw [lastReply_snoc, hreply]
    exact hlast
  · exact .inr ⟨m', List.mem_append_left _ hm, hspares⟩

theorem exact_snoc (h : Exact first ms kills s rest) {m : Moment} (hreply : m.reply? = none)
    (hspares : m.spares = false) : Exact first (ms ++ [m]) kills s rest := by
  refine ⟨fun h0 => spared_snoc (h.spared h0) hreply, fun hne m' hm' hs => ?_, fun hf => ?_,
    h.unspawned⟩
  · rcases List.mem_append.mp hm' with hm' | hm'
    · exact h.live hne m' hm' hs
    · rw [List.mem_singleton.mp hm', hspares] at hs
      cases hs
  · obtain ⟨m', hm', hs⟩ := h.broken hf
    exact ⟨m', List.mem_append_left _ hm', hs⟩

/-- What the server is heard to say. -/
theorem exact_heard {n : Nat} {r : Except Error Reply} (hheard : t.heard? = some (n, r))
    (h : Exact first ms kills c.state (t.party + rest))
    (htracked : Tracked start last kills c (t.party + rest))
    (hs : c.state.Sound (flights (t.party + rest))) :
    Exact first (ms ++ [⟨c, t⟩]) kills (c.hear r) (t.party + rest) := by
  obtain ⟨f, hc, -⟩ := carries_of_heard hs hheard
  obtain ⟨-, hkills, howes⟩ := htracked.of_live hc.live
  have htokens : ∀ s : State, tokens kills s (t.party + rest) = s.known := by
    intro s
    rw [tokens, hkills, howes, add_zero, Multiset.coe_nil, zero_add]
  -- A connection that had failed would have no request over it.
  have hnone : ∀ m ∈ ms, m.spares = false := fun m hm => Bool.eq_false_iff.mpr fun hspares => by
    have hknown : tokens kills c.state (t.party + rest) ≠ 0 := by
      rw [htokens]
      exact fun e => hc.live (State.known_eq_zero.mp e)
    have hfailed := (h.live hknown m hm hspares).2
    rw [hc.intact] at hfailed
    cases hfailed
  have hmem : (⟨c, t⟩ : Moment) ∈ ms ++ [⟨c, t⟩] :=
    List.mem_concat_self
  refine ⟨fun h0 => ?_, fun hne m hm hspares => ?_, fun hf => ?_, h.unspawned⟩
  · rw [htokens, State.known_eq_zero] at h0
    rcases spares_of_hear hheard h0 hc.live with ⟨reply, hreply, hid⟩ | hspares
    · left
      rw [lastReply_snoc, hreply]
      exact hid
    · exact .inr ⟨_, hmem, hspares⟩
  · rw [htokens] at hne
    have hid : (c.hear r).id ≠ 0 := fun e => hne (State.known_eq_zero.mpr e)
    rcases List.mem_append.mp hm with hm | hm
    · rw [hnone m hm] at hspares
      cases hspares
    · rw [List.mem_singleton.mp hm] at hspares
      exact ⟨hid, failed_of_spares hheard hid hspares hc⟩
  · exact ⟨_, hmem, spares_of_failed hheard hc hf⟩

/-- What a turn does, once the server has been heard, if it loses the server's cursor only for a
connection that had failed. -/
theorem exact_flow (h : Exact first ms kills s (party + rest))
    (hsingle : tokens kills s (party + rest) ≤ {last}) (hflow : Flow c s party c' left why told)
    (hwhy : why → s.pin.isFailed = true) (hleft : ∀ a, .kill a ∉ left) :
    Exact first ms (kills ++ told) c'.state (left + rest) := by
  refine ⟨fun h0 => ?_, fun hne m hm hspares => ?_, fun hf => ?_, fun a ha => ?_⟩
  · rcases hflow.tokens_eq kills rest with ⟨hkept, -⟩ | ⟨hw, -⟩
    · exact h.spared (hkept.symm.trans h0)
    · exact .inr (h.broken (hwhy hw))
  · have hbefore : tokens kills s (party + rest) ≠ 0 := fun e =>
      hne (Multiset.le_zero.mp (e ▸ hflow.tokens_le kills rest))
    obtain ⟨hid, hfailed⟩ := h.live hbefore m hm hspares
    -- The number is in the state, so it can only stay there.
    obtain ⟨-, hkills, hpending⟩ := tokens_of_live hsingle hid
    rw [owes_add] at hpending
    obtain ⟨hparty, hrest⟩ := add_eq_zero.mp hpending
    obtain ⟨hstuck, hpin⟩ := hflow.stuck hfailed hparty
    obtain ⟨htold, howes⟩ := add_eq_zero.mp hstuck
    have hid' : c'.state.id ≠ 0 := fun e => hne (by
      rw [tokens, State.known_of_eq_zero e, owes_add, howes, hrest, hkills,
        (Multiset.coe_eq_zero _).mp htold]
      rfl)
    exact ⟨hid', hpin hid'⟩
  · rcases hflow.pin hf with hfailed | ⟨hw, -⟩
    · exact h.broken hfailed
    · exact h.broken (hwhy hw)
  · rcases Multiset.mem_add.mp ha with ha | ha
    · exact hleft a ha
    · exact h.unspawned a (Multiset.mem_add.mpr (.inr ha))

/-- What a turn does in which a party is denied the connection to discard the server's cursor. -/
theorem exact_denied (h : Exact first ms kills c.state (t.party + rest))
    (hdenied : Moment.deniesKill ⟨c, t⟩ = true)
    (hsingle : tokens kills c.state (t.party + rest) ≤ {last})
    (hflow : Flow c c.state t.party c' left (t.Forfeits c) told) (hleft : ∀ a, .kill a ∉ left) :
    Exact first (ms ++ [⟨c, t⟩]) (kills ++ told) c'.state (left + rest) := by
  obtain ⟨howes, hforfeits, hdeaf⟩ := owes_of_denied hdenied
  have hspares : Spared first (ms ++ [⟨c, t⟩]) := by
    refine .inr ⟨⟨c, t⟩, List.mem_concat_self, ?_⟩
    rw [spares_of_deaf hdeaf]
    exact hdenied
  have hnone : tokens (kills ++ told) c'.state (left + rest) = 0 := by
    rcases hflow.tokens_eq kills rest with ⟨-, hfree⟩ | ⟨-, id, hlost⟩
    · exact absurd hforfeits (hfree howes)
    · rw [← hlost, add_comm] at hsingle
      exact (eq_zero_of_add_le hsingle (Multiset.singleton_ne_zero id)).2
  refine ⟨fun _ => hspares, fun hne => absurd hnone hne, fun hf => ?_, fun a ha => ?_⟩
  · rcases hflow.pin hf with hfailed | ⟨-, h0⟩
    · obtain ⟨m, hm, hs⟩ := h.broken hfailed
      exact ⟨m, List.mem_append_left _ hm, hs⟩
    · exact absurd h0 howes
  · rcases Multiset.mem_add.mp ha with ha | ha
    · exact hleft a ha
    · exact h.unspawned a (Multiset.mem_add.mpr (.inr ha))

theorem kill_notMem_left (hm : Moment.Patient ⟨c, t⟩) (a : Abandoned) :
    .kill a ∉ (t.effect c).left := by
  have hprogress : ∀ p : Progress, .kill a ∉ p.left := by
    rintro (p | o) ha
    · cases Multiset.mem_singleton.mp ha
    · exact Multiset.notMem_zero _ ha
  cases t with
  | begin call => exact hprogress _
  | answer p a => exact hprogress _
  | cancel p runtime => exact absurd rfl (hm.cancel p runtime)
  | startTask t => exact hprogress _
  | answerTask p a => exact hprogress _
  | discardTask t runtime => exact absurd rfl (hm.discard t runtime)
  | drop runtime =>
    intro ha
    have hmem : Task.kill a ∈ (c.drop runtime).2.toList := ha
    unfold Cursor.drop at hmem
    split at hmem
    · cases hmem
    split at hmem
    · cases List.mem_singleton.mp hmem
    split at hmem
    · cases hmem
    · cases hmem
  | retain r => exact Multiset.notMem_zero _
  | release r => exact Multiset.notMem_zero _

/-- What every turn does in which nothing is given up. -/
theorem exact_effect (h : Exact first ms kills c.state (t.party + rest))
    (htracked : Tracked start (lastReply first ms).id kills c (t.party + rest))
    (hs : c.state.Sound (flights (t.party + rest))) (hm : Moment.Patient ⟨c, t⟩)
    (hflow : Flow c (c.met t.heard?) t.party (t.effect c).cursor (t.effect c).left (t.Forfeits c)
      told) :
    Exact first (ms ++ [⟨c, t⟩]) (kills ++ told) (t.effect c).cursor.state
      ((t.effect c).left + rest) := by
  have hleft := kill_notMem_left hm
  have hreason : t.Forfeits c →
      c.state.pin.isFailed = true ∨ Moment.deniesKill ⟨c, t⟩ = true := fun hf =>
    hf.reason hm fun a ha => h.unspawned a (Multiset.mem_add.mpr (.inl ha))
  have hsingle := (tokens_met htracked hs).1
  cases hheard : t.heard? with
  | some heard =>
    obtain ⟨n, r⟩ := heard
    rw [hheard] at hflow hsingle
    refine exact_flow (exact_heard hheard h htracked hs) hsingle hflow (fun hf => ?_) hleft
    -- A request is under way, so its connection has not failed.
    obtain ⟨f, hc, -⟩ := carries_of_heard hs hheard
    rcases hreason hf with hfailed | hdenied
    · rw [hc.intact] at hfailed
      cases hfailed
    · rw [(owes_of_denied hdenied).2.2] at hheard
      cases hheard
  | none =>
    rw [hheard] at hflow hsingle
    by_cases hdenied : Moment.deniesKill ⟨c, t⟩ = true
    · exact exact_denied h hdenied hsingle hflow hleft
    · have hwhy : t.Forfeits c → c.state.pin.isFailed = true := fun hf =>
        (hreason hf).resolve_right hdenied
      refine exact_snoc (exact_flow h hsingle hflow hwhy hleft) (reply?_of_deaf hheard) ?_
      rw [spares_of_deaf hheard]
      exact Bool.eq_false_iff.mpr hdenied

end Exact

/-- Where the server's cursor is, and what has spared it, after every play in which nothing is given
up. -/
theorem exact_play {start c : Cursor} {first : Reply} {ms : List Moment} {pending : Multiset Task}
    (hsound : start.state.Sound 0) (htracked : Tracked start first.id [] start 0)
    (hexact : Exact first [] [] start.state 0) (hp : Play start ms c pending)
    (hpatient : ∀ m ∈ ms, m.Patient) :
    ∃ kills, Tracked start (lastReply first ms).id kills c pending ∧
      Exact first ms kills c.state pending := by
  induction hp with
  | nil => exact ⟨[], htracked, hexact⟩
  | @snoc ms c rest t before allowed ih =>
    obtain ⟨kills, hkills, hbefore⟩ := ih fun m hm => hpatient m (List.mem_append_left _ hm)
    have hs := sound_play hsound before
    have hproper := proper_party before
    have hm := hpatient _ List.mem_concat_self
    obtain ⟨told, hflow⟩ := (handles_effect hs hproper).exists_flow
    exact ⟨kills ++ told, tracked_effect hkills hs hflow, exact_effect hbefore hkills hs hm hflow⟩

theorem Cursor.id_fetchUnrouted {c : Cursor} (h : c.state.closed = true) (f : Fetch)
    (cause : Error) : (c.fetchUnrouted f cause).1.state.id = 0 := by
  have hc : (c.giveBack f.held).state.closed = true := h
  simp only [fetchUnrouted]
  rw [if_pos hc, state_kill]
  rfl

/-- A request of a cursor that was closed meanwhile and is denied a connection leaves the server's
cursor open, and from then on nothing but another denial can spare that. -/
theorem unrouted_play {start c : Cursor} {first : Reply} {ms : List Moment}
    {pending : Multiset Task} (hsound : start.state.Sound 0)
    (htracked : Tracked start first.id [] start 0) (hexact : Exact first [] [] start.state 0)
    (hp : Play start ms c pending) (hpatient : ∀ m ∈ ms, m.Patient)
    (hunrouted : ∃ m ∈ ms, m.failsUnrouted = true) :
    c.state.id = 0 ∧ (lastReply first ms).id ≠ 0 ∧
      ∀ m ∈ ms, m.spares = true → m.deniesKill = true := by
  induction hp with
  | nil =>
    obtain ⟨m, hm, -⟩ := hunrouted
    cases hm
  | @snoc ms c rest t before allowed ih =>
    have hpatient' : ∀ m ∈ ms, m.Patient := fun m hm => hpatient m (List.mem_append_left _ hm)
    have hs := sound_play hsound before
    have hproper := proper_party before
    have hsnoc : t.heard? = none → (∀ m ∈ ms, m.spares = true → m.deniesKill = true) →
        (lastReply first ms).id ≠ 0 → (lastReply first (ms ++ [⟨c, t⟩])).id ≠ 0 ∧
          ∀ m ∈ ms ++ [⟨c, t⟩], m.spares = true → m.deniesKill = true := by
      intro hdeaf hall hlast
      rw [lastReply_snoc, reply?_of_deaf hdeaf]
      refine ⟨hlast, fun m hm hspares => ?_⟩
      rcases List.mem_append.mp hm with hm | hm
      · exact hall m hm hspares
      · rw [List.mem_singleton.mp hm] at hspares ⊢
        rw [spares_of_deaf hdeaf] at hspares
        exact hspares
    by_cases hnew : Moment.failsUnrouted ⟨c, t⟩ = true
    · obtain ⟨f, cause, rfl, hclosed⟩ : ∃ f cause,
          t = .answer (.fetchCheckout f) (.checkout (.error cause)) ∧ c.state.closed = true := by
        unfold Moment.failsUnrouted at hnew
        split at hnew
        · rename_i hturn
          exact ⟨_, _, hturn, hnew⟩
        · cases hnew
      obtain ⟨kills, hkills, hbefore⟩ := exact_play hsound htracked hexact before hpatient'
      have hflights := hs
      rw [Turn.party, flights_add, flights_singleton] at hflights
      obtain ⟨-, -, hc⟩ := hflights.sole
      obtain ⟨hlast, hnone, howes⟩ := hkills.of_live hc.live
      -- Until now nothing has failed, or there would be no request.
      have hall : ∀ m ∈ ms, m.spares = true → m.deniesKill = true := fun m hm hspares => by
        have hfailed := (hbefore.live (fun e => hc.live ?_) m hm hspares).2
        · rw [hc.intact] at hfailed
          cases hfailed
        · rw [tokens, add_assoc] at e
          exact State.known_eq_zero.mp (add_eq_zero.mp (add_eq_zero.mp e).2).1
      refine ⟨Cursor.id_fetchUnrouted (c := c.record .unavailable) hclosed f cause, ?_⟩
      exact hsnoc rfl hall fun e => hc.live (hlast.trans e)
    · have hbefore : ∃ m ∈ ms, m.failsUnrouted = true := by
        obtain ⟨m, hm, hfails⟩ := hunrouted
        rcases List.mem_append.mp hm with hm | hm
        · exact ⟨m, hm, hfails⟩
        · rw [List.mem_singleton.mp hm] at hfails
          exact absurd hfails hnew
      obtain ⟨hid, hlast, hall⟩ := ih hpatient' hbefore
      have hdeaf := deaf_of_gone hs hid
      have hgone := (handles_effect hs hproper).gone
      rw [hdeaf] at hgone
      exact ⟨hgone hid, hsnoc hdeaf hall hlast⟩

/-- The server's cursor is neither in the state nor with a party that is to discard it. -/
def Vanished (s : State) (pending : Multiset Task) : Prop :=
  s.id = 0 ∧ owes pending = 0

section Vanished

variable {start c : Cursor} {t : Turn} {rest pending : Multiset Task} {last : Int64}
  {kills : List Int64}

theorem vanished_effect (h : Vanished c.state (t.party + rest))
    (hs : c.state.Sound (flights (t.party + rest))) (hp : AllProper t.party) :
    Vanished (t.effect c).cursor.state ((t.effect c).left + rest) := by
  obtain ⟨hid, howes⟩ := h
  rw [owes_add] at howes
  obtain ⟨hparty, hrest⟩ := add_eq_zero.mp howes
  obtain ⟨told, hflow⟩ := (handles_effect hs hp).exists_flow
  rw [deaf_of_gone hs hid] at hflow
  have hbalance := hflow.balance
  rw [Cursor.met, State.known_of_eq_zero hid, hparty, add_zero] at hbalance
  rcases hbalance with ⟨hmoved, -⟩ | ⟨-, -, id, hlost⟩
  · obtain ⟨hfirst, hleft⟩ := add_eq_zero.mp hmoved
    refine ⟨State.known_eq_zero.mp (add_eq_zero.mp hfirst).2, ?_⟩
    rw [owes_add, hleft, hrest, add_zero]
  · exact absurd (add_eq_zero.mp hlost).2 (Multiset.singleton_ne_zero id)

/-- A call that takes documents out of the buffer and reaches the limit has detached the server's
cursor before. -/
theorem vanished_of_deal {r : Cursor × Progress} {batch : List Document}
    (htracked : Tracked start last kills c (t.party + rest))
    (hs : c.state.Sound (flights (t.party + rest))) (hd : Deal (c.met t.heard?) r)
    (hdone : r.2 = .done (.batch batch))
    (hlimit : r.1.config.limitReached r.1.state.received = true) :
    Vanished r.1.state (r.2.left + rest) := by
  have hhand : r.2.hand? = some batch := by rw [hdone]; rfl
  have hid : r.1.state.id = 0 := by
    rcases hd.last batch hhand with ⟨hid, -⟩ | ⟨-, hnot⟩
    · exact hid
    · rw [hlimit] at hnot
      cases hnot
  have hopen : r.1.state.closed = false := Bool.eq_false_iff.mpr fun e => by
    rw [hd.shut e] at hhand
    cases hhand
  have hsome : (c.met t.heard?).buffer ≠ [] := fun e => by
    have hconserved := hd.conserved hopen
    rw [hhand, e] at hconserved
    have hnonempty := hd.nonempty (by rw [hdone]; exact allProper_zero) hhand
    exact hnonempty (List.append_eq_nil_iff.mp hconserved).1
  have howes : owes (t.party + rest) = 0 := by
    cases hheard : t.heard? with
    | none =>
      rw [hheard] at hsome
      by_contra hne
      exact hsome (htracked.drained fun e => hne (add_eq_zero.mp e).2)
    | some heard =>
      obtain ⟨f, hc, -⟩ := carries_of_heard hs hheard
      exact (htracked.of_live hc.live).2.2
  rw [owes_add] at howes
  refine ⟨hid, ?_⟩
  rw [hdone, Progress.left, zero_add]
  exact (add_eq_zero.mp howes).2

/-- A call that has waited for its server's cursor to be discarded knows that nobody has it any
more. -/
theorem vanished_of_hand {p : Point} {a : Answer} {batch : List Document} {o : Outcome}
    (htracked : Tracked start last kills c ({.suspended p} + rest)) (hhand : p.hand? = some batch)
    (hdone : (c.resume p a).2 = .done o) :
    Vanished (c.resume p a).1.state ((c.resume p a).2.left + rest) := by
  rw [hdone, Progress.left, zero_add, Cursor.state_resume (Point.flight?_of_hand hhand)]
  cases p with
  | fetchCheckout f => cases hhand
  | fetchReply f n => cases hhand
  | killCheckout b after =>
    refine htracked.of_owes ?_
    rw [owes_singleton]
    exact Multiset.singleton_ne_zero b.id
  | killReply b after =>
    have hawaits := htracked.awaits
    have hparty : awaits {Task.suspended (.killReply b after)} = {b.id} := awaits_singleton _
    rw [awaits_add, hparty] at hawaits
    have hkills : kills ≠ [] := fun e => by
      rw [e] at hawaits
      exact Multiset.singleton_ne_zero b.id
        (add_eq_zero.mp (Multiset.le_zero.mp hawaits)).1
    obtain ⟨hid, howes⟩ := htracked.of_kills hkills
    rw [owes_add] at howes
    exact ⟨hid, (add_eq_zero.mp howes).2⟩

/-- Once the limit was reached, the server's cursor is nowhere any more. -/
theorem vanished_of_filled (htracked : Tracked start last kills c (t.party + rest))
    (hs : c.state.Sound (flights (t.party + rest))) (hp : AllProper t.party)
    (hfilled : Moment.fillsLimit ⟨c, t⟩ = true) :
    Vanished (t.effect c).cursor.state ((t.effect c).left + rest) := by
  obtain ⟨hout, hlimit⟩ := Bool.and_eq_true_iff.mp hfilled
  obtain ⟨batch, hbatch⟩ := Option.isSome_iff_exists.mp hout
  obtain ⟨o, ho, hhand⟩ := Option.bind_eq_some_iff.mp hbatch
  have ho' : o = .batch batch := by
    cases o with
    | batch documents => cases hhand; rfl
    | _ => cases hhand
  rw [ho'] at ho
  cases t with
  | begin call =>
    exact vanished_of_deal htracked hs (Cursor.deal_beginCall c call) (Progress.eq_done ho) hlimit
  | answer p a =>
    cases hp' : p.hand? with
    | none =>
      have hdeal := Cursor.deal_resume (c := c) hp.of_singleton hp' a
      exact vanished_of_deal htracked hs hdeal (Progress.eq_done ho) hlimit
    | some held => exact vanished_of_hand htracked hp' (Progress.eq_done ho)
  | _ => cases ho

end Vanished

theorem vanished_play {start c : Cursor} {first : Reply} {before after : List Moment} {m : Moment}
    {pending : Multiset Task} (hsound : start.state.Sound 0)
    (htracked : Tracked start first.id [] start 0)
    (hp : Play start (before ++ m :: after) c pending) (hfilled : m.fillsLimit = true) :
    Vanished c.state pending := by
  induction after using List.reverseRecOn generalizing c pending with
  | nil =>
    obtain ⟨rest, hbefore, -, rfl, rfl⟩ := hp.last
    obtain ⟨kills, hkills⟩ := tracked_play hsound htracked hbefore
    have hproper := proper_party hbefore
    exact vanished_of_filled hkills (sound_play hsound hbefore) hproper hfilled
  | append_singleton after last ih =>
    rw [← List.cons_append, ← List.append_assoc] at hp
    obtain ⟨rest, hbefore, -, rfl, rfl⟩ := hp.last
    have hproper := proper_party hbefore
    exact vanished_effect (ih hbefore) (sound_play hsound hbefore) hproper

/-- Whether a message that discards a cursor was sent in a history. -/
def Schedule.hasDiscarded (start : Schedule) (history : List Action) : Bool :=
  let before := start.cursor.ledger.messages
  let after := (start.run history).cursor.ledger.messages
  (after.drop before.length).any fun m => m.discards?.isSome

section Create

variable (reply : Reply) (options : Options) (server : ServerDescription)
  (connection : Option (Nat × ConnectionDescription)) (l : Ledger)

theorem exact_create :
    Exact reply [] [] (Cursor.create reply options server connection l).state 0 := by
  obtain ⟨hid, -, -, -, -⟩ := state_create reply options server connection l
  have hroute := route_create reply options server connection l
  refine ⟨fun h0 => .inl ?_, fun _ m hm => absurd hm List.not_mem_nil, fun hf => ?_,
    fun a => Multiset.notMem_zero _⟩
  · rw [tokens, add_assoc] at h0
    have hknown := State.known_eq_zero.mp (add_eq_zero.mp (add_eq_zero.mp h0).2).1
    exact hid.symm.trans hknown
  · rcases hroute with ⟨-, -, hp⟩ | ⟨-, -, hp⟩ | ⟨-, -, h, -, hp⟩ <;> rw [hp] at hf <;> cases hf

/-- Once a cursor is closed or dropped and nobody has anything to do any more, or once the limit is
reached, the server was told to discard its cursor exactly if nothing has spared it. -/
theorem discarded_unless_spared (runtime : Bool) (history : List Action)
    (hcancel : ∀ slot, .cancel slot ∉ history) (hdiscard : ∀ i, .discardTask i ∉ history) :
    let start := Schedule.opened reply options server connection l runtime
    let s := start.run history
    let ms := start.moments history
    let finished := (s.cursor.state.closed = true ∨ s.handles = 0) ∧ s.calls = [] ∧ s.tasks = []
    (∀ m ∈ ms, m.leavesOpen = false) →
    (finished → (start.hasDiscarded history = true ↔ ¬ Spared reply ms)) ∧
    ((∃ m ∈ ms, m.fillsLimit = true) →
      (start.hasDiscarded history = true ↔ ¬ Spared reply ms)) ∧
    (finished → (∃ m ∈ ms, m.failsUnrouted = true) →
      (start.hasDiscarded history = true ↔ ∀ m ∈ ms, m.deniesKill = false)) := by
  intro start s ms finished hdrop
  have hsound := sound_create reply options server connection l
  have htracked := tracked_create reply options server connection l
  have hexact := exact_create reply options server connection l
  have hplay : Play _ ms s.cursor s.pending :=
    Schedule.play_run (Cursor.create reply options server connection l) runtime history
  have hpatient : ∀ m ∈ ms, m.Patient := fun m hm =>
    ⟨fun p runtime ht => (Schedule.cancel_mem_history hm ht).elim fun slot hs => hcancel slot hs,
      fun t runtime ht =>
        (Schedule.discardTask_mem_history hm ht).elim fun i hi => hdiscard i hi,
      hdrop m hm⟩
  obtain ⟨kills, hkills, hall⟩ := exact_play hsound htracked hexact hplay hpatient
  have hdiscarded : start.hasDiscarded history = true ↔ kills ≠ [] := by
    obtain ⟨asked, hasked, hmessages⟩ := hkills.messages
    rw [List.append_assoc] at hmessages
    have hsent : start.hasDiscarded history =
        (asked ++ kills.map start.cursor.config.requester.kill).any
          fun m => m.discards?.isSome := by
      simp only [Schedule.hasDiscarded]
      rw [hmessages]
      exact congrArg (List.any · _) List.drop_left
    have hnone : (asked.any fun m => m.discards?.isSome) = false := by
      refine List.any_eq_false.mpr fun m hm => ?_
      obtain ⟨id, number, rfl⟩ := hasked m hm
      rw [Requester.discards?_getMore]
      exact Bool.false_ne_true
    rw [hsent, List.any_append, hnone, Bool.false_or]
    cases kills with
    | nil => simp
    | cons id rest => simp [Requester.discards?_kill]
  -- When the server's cursor is with nobody, what was sent tells whether anything has spared it.
  have hexactly : Vanished s.cursor.state s.pending →
      (start.hasDiscarded history = true ↔ ¬ Spared reply ms) := by
    rintro ⟨hid, howes⟩
    have htokens : tokens kills s.cursor.state s.pending = ↑kills := by
      rw [tokens, State.known_of_eq_zero hid, howes, add_zero, add_zero]
    rw [hdiscarded]
    constructor
    · intro hne hspared
      have hne' : tokens kills s.cursor.state s.pending ≠ 0 := fun e =>
        hne ((Multiset.coe_eq_zero _).mp (htokens.symm.trans e))
      rcases hspared with hlast | ⟨m, hm, hspares⟩
      · obtain ⟨id, hmem⟩ := Multiset.exists_mem_of_ne_zero hne'
        have heq := Multiset.mem_singleton.mp (Multiset.mem_of_le hkills.single hmem)
        rw [heq, hlast] at hmem
        exact hkills.live hmem
      · exact (hall.live hne' m hm hspares).1 hid
    · intro hspared hnone
      refine hspared (hall.spared ?_)
      rw [htokens, hnone]
      rfl
  have hfinished : finished → Vanished s.cursor.state s.pending := by
    rintro ⟨hend, hcalls, htasks⟩
    obtain ⟨hpending, hid, -⟩ := cleared_of_over reply options server connection l runtime history
      (hend.imp_right fun hhandles => ⟨hhandles, hdiscard⟩) hcalls htasks
    refine ⟨hid, ?_⟩
    rw [hpending]
    rfl
  refine ⟨fun h => hexactly (hfinished h), fun hfills => ?_, fun h hunrouted => ?_⟩
  · obtain ⟨m, hm, hfilled⟩ := hfills
    obtain ⟨before, after, hmoments⟩ := List.append_of_mem hm
    rw [hmoments] at hplay
    exact hexactly (vanished_play hsound htracked hplay hfilled)
  · obtain ⟨-, hlast, hdenied⟩ := unrouted_play hsound htracked hexact hplay hpatient hunrouted
    rw [hexactly (hfinished h)]
    constructor
    · intro hspared m hm
      refine Bool.eq_false_iff.mpr fun hdenies => hspared (.inr ⟨m, hm, ?_⟩)
      simp [Moment.spares, hdenies]
    · rintro hnone (h0 | ⟨m, hm, hspares⟩)
      · exact hlast h0
      · have hdenies := hdenied m hm hspares
        rw [hnone m hm] at hdenies
        cases hdenies

end Create

/-- A cursor that has a document and may bring no other. -/
def Schedule.sated : Schedule :=
  opened ⟨⟨"db", "items"⟩, [[("n", .int32 1)]], 7, .localhost⟩ ⟨1, 0, none, none⟩ .blank none
    Ledger.start true

/-- The document is handed out, after the server's cursor was discarded. -/
def Schedule.satedHistory : List Action :=
  [.begin .stream .next, .answer .stream (.checkout (.ok ())), .answer .stream (.kill (.ok ()))]

/-- A cursor that has no document. -/
def Schedule.overtaken : Schedule :=
  opened ⟨⟨"db", "items"⟩, [], 7, .localhost⟩ .default .blank none Ledger.start true

/-- It is closed while a request is denied a connection. -/
def Schedule.overtakenHistory : List Action :=
  [.begin .stream .next, .begin .blocking .close,
    .answer .stream (.checkout (.error (.illegalState .closed))),
    .answer .stream (.checkout (.ok ())), .answer .stream (.kill (.ok ())), .drop]

theorem discarded_unless_spared_closed :
    (Schedule.sated.hasDiscarded Schedule.satedHistory = true ↔
      ¬ Spared ⟨⟨"db", "items"⟩, [[("n", .int32 1)]], 7, .localhost⟩
        (Schedule.sated.moments Schedule.satedHistory)) ∧
    (Schedule.overtaken.hasDiscarded Schedule.overtakenHistory = true ↔
      ¬ Spared ⟨⟨"db", "items"⟩, [], 7, .localhost⟩
        (Schedule.overtaken.moments Schedule.overtakenHistory)) ∧
    Schedule.overtaken.hasDiscarded Schedule.overtakenHistory = true := by
  have hsated := discarded_unless_spared ⟨⟨"db", "items"⟩, [[("n", .int32 1)]], 7, .localhost⟩
    ⟨1, 0, none, none⟩ .blank none Ledger.start true Schedule.satedHistory
    (fun slot hmem => by simp [Schedule.satedHistory] at hmem)
    (fun i hmem => by simp [Schedule.satedHistory] at hmem) (by decide)
  have hbare := discarded_unless_spared ⟨⟨"db", "items"⟩, [], 7, .localhost⟩ .default .blank none
    Ledger.start true Schedule.overtakenHistory
    (fun slot hmem => by simp [Schedule.overtakenHistory] at hmem)
    (fun i hmem => by simp [Schedule.overtakenHistory] at hmem) (by decide)
  have hcalls : (Schedule.overtaken.run Schedule.overtakenHistory).calls = [] :=
    List.isEmpty_iff.mp (by decide)
  have htasks : (Schedule.overtaken.run Schedule.overtakenHistory).tasks = [] :=
    List.isEmpty_iff.mp (by decide)
  have hclosed : (Schedule.overtaken.run Schedule.overtakenHistory).cursor.state.closed = true := by
    decide
  have hfinished : ((Schedule.overtaken.run Schedule.overtakenHistory).cursor.state.closed = true ∨
      (Schedule.overtaken.run Schedule.overtakenHistory).handles = 0) ∧
      (Schedule.overtaken.run Schedule.overtakenHistory).calls = [] ∧
      (Schedule.overtaken.run Schedule.overtakenHistory).tasks = [] :=
    ⟨.inl hclosed, hcalls, htasks⟩
  exact ⟨hsated.2.1 (by decide), hbare.1 hfinished,
    (hbare.2.2 hfinished (by decide)).mpr (by decide)⟩

end ServerCursor
