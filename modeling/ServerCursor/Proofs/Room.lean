import ServerCursor.Proofs.Delivery

/-!
# Room for another document

A cursor asks its server for documents only while the limit allows some: whoever takes the last one
gives up the server's cursor with it. So what a reply brings is never cut off to nothing.

Main statement: `room_play` says so after every play with a new cursor.
-/

namespace ServerCursor

/-- While the server's cursor is there and nothing is buffered, the limit has not been reached. -/
def State.Room (s : State) (config : Config) : Prop :=
  s.closed = false → s.id ≠ 0 → s.buffer = [] → config.limitReached s.received = false

theorem allowed_nil (config : Config) (received : Nat) : config.allowed received [] = [] := by
  unfold Config.allowed
  rw [List.take_nil, ite_self]

theorem allowed_ne_nil {config : Config} {received : Nat} {batch : List Document}
    (h : config.limitReached received = false) (hbatch : batch ≠ []) :
    config.allowed received batch ≠ [] := by
  unfold Config.allowed
  split
  · exact hbatch
  · rename_i hlimit
    have hroom : config.limit - received ≠ 0 := by
      simp only [Config.limitReached, Bool.and_eq_false_iff, bne_eq_false_iff_eq,
        decide_eq_false_iff_not] at h
      omega
    rw [Ne, List.take_eq_nil_iff]
    exact fun hnil => hnil.elim hroom hbatch

/-- A new cursor has room unless its first reply has filled it. -/
theorem room_create (reply : Reply) (options : Options) (server : ServerDescription)
    (connection : Option (Nat × ConnectionDescription)) (l : Ledger) :
    let c := Cursor.create reply options server connection l
    c.state.Room c.config := by
  intro c _ _ hbuffer
  obtain ⟨-, -, -, -, hreceived⟩ := state_create reply options server connection l
  have hnone : c.state.received = 0 := hreceived.trans (congrArg List.length hbuffer)
  rw [hnone, Config.limitReached]
  cases c.config.limit <;> rfl

section Effect

variable {c : Cursor} {t : Turn} {rest : Multiset Task}

theorem room_met (h : c.state.Room c.config) (hs : c.state.Sound (flights (t.party + rest))) :
    (c.met t.heard?).Room c.config := by
  cases hheard : t.heard? with
  | none => exact h
  | some heard =>
    obtain ⟨n, r⟩ := heard
    obtain ⟨f, hc, -⟩ := carries_of_heard hs hheard
    intro hopen _ hbuffer
    by_cases hclosed : c.state.closed = true
    · have hmet : (c.met (some (n, r))).closed = c.state.closed := by
        simp only [Cursor.met, Cursor.hear, if_pos hclosed]
      rw [hmet, hclosed] at hopen
      cases hopen
    have hroom := h (Bool.eq_false_iff.mpr hclosed) hc.live hc.buffer
    simp only [Cursor.met, Cursor.hear, if_neg hclosed] at hbuffer ⊢
    cases r with
    | ok reply =>
      have hnone : c.config.allowed c.state.received reply.documents = [] := by
        dsimp only at hbuffer
        split at hbuffer <;> exact (List.append_eq_nil_iff.mp hbuffer).2
      have hkept : c.config.limitReached (c.state.received +
          (c.config.allowed c.state.received reply.documents).length) = false := by
        rw [hnone]
        exact hroom
      dsimp only
      split
      · exact hkept
      · exact hkept
    | error cause =>
      simp only [Cursor.afterFailure]
      split
      · exact hroom
      split <;> exact hroom

theorem last_effect (hp : AllProper t.party) (htaken : t.taken c ≠ []) :
    (t.effect c).cursor.state.id = 0 ∨
      (t.effect c).cursor.config.limitReached (t.effect c).cursor.state.received = false := by
  have hlast : ∀ {s : State} {r : Cursor × Progress}, Deal s r → r.2.hand?.getD [] ≠ [] →
      r.1.state.id = 0 ∨ r.1.config.limitReached r.1.state.received = false := by
    intro s r hd hne
    cases hhand : r.2.hand? with
    | none =>
      rw [hhand] at hne
      exact absurd rfl hne
    | some batch => exact (hd.last batch hhand).imp And.left And.right
  cases t with
  | begin call => exact hlast (Cursor.deal_beginCall c call) htaken
  | answer p a =>
    cases hhand : p.hand? with
    | none =>
      simp only [Turn.taken, hhand, Option.isSome_none, Bool.false_eq_true, if_false] at htaken
      exact hlast (Cursor.deal_resume hp.of_singleton hhand a) htaken
    | some batch => simp [Turn.taken, hhand] at htaken
  | _ => exact absurd rfl htaken

theorem room_effect (h : c.state.Room c.config) (hs : c.state.Sound (flights (t.party + rest)))
    (hp : AllProper t.party) (ha : t.Allowed rest) :
    (t.effect c).cursor.state.Room (t.effect c).cursor.config := by
  have hhandles := handles_effect hs hp
  have hdeals := deals_effect (c := c) hp ha
  intro hopen hid hbuffer
  have hmet : (c.met t.heard?).closed = false :=
    Bool.eq_false_iff.mpr fun e => Bool.eq_false_iff.mp hopen (hdeals.closed e)
  have hlive : (c.met t.heard?).id ≠ 0 := fun h0 => hid (hhandles.gone h0)
  have hconserved := hdeals.conserved hopen
  rw [hbuffer, List.append_nil] at hconserved
  by_cases htaken : t.taken c = []
  · rw [hhandles.config, hdeals.received]
    exact room_met h hs hmet hlive (hconserved.symm.trans htaken)
  · exact (last_effect hp htaken).resolve_left hid

end Effect

theorem room_play {start c : Cursor} {ms : List Moment} {pending : Multiset Task}
    (hsound : start.state.Sound 0) (h : start.state.Room start.config)
    (hp : Play start ms c pending) : c.state.Room c.config := by
  induction hp with
  | nil => exact h
  | snoc before allowed ih =>
    exact room_effect ih (sound_play hsound before) (proper_party before) allowed

end ServerCursor
