import ServerCursor.Proofs.Discard

/-!
# One party at a time

Calls and tasks overlap, but at most one of them has to do with the server (`ties`): it waits for a
batch, it is to discard the server's cursor, or it waits until that is discarded. All others are
tasks that have yet to close the cursor. They hold nothing and wait for nobody (`Idle`).

Main statement: `sole_play` says so after every play with a new cursor.
-/

namespace ServerCursor

/-- How many parties have to do with the server. -/
def ties (m : Multiset Task) : Nat :=
  (flights m).card + (owes m).card + (awaits m).card

theorem ties_add (m n : Multiset Task) : ties (m + n) = ties m + ties n := by
  simp only [ties, flights_add, owes_add, awaits_add, Multiset.card_add]
  omega

theorem ties_singleton {t : Task} (h : t ≠ .close) : ties {t} = 1 := by
  rw [ties, flights_singleton, owes_singleton, awaits_singleton]
  cases t with
  | close => exact absurd rfl h
  | kill a => rfl
  | suspended p => cases p <;> rfl

/-- All that parties still have to do is to close the cursor. -/
def Idle (m : Multiset Task) : Prop :=
  ∀ t ∈ m, t = .close

theorem idle_zero : Idle 0 :=
  fun t ht => absurd ht (Multiset.notMem_zero t)

theorem idle_add {m n : Multiset Task} : Idle (m + n) ↔ Idle m ∧ Idle n :=
  forall_mem_add

theorem Idle.flights {m : Multiset Task} (h : Idle m) : flights m = 0 := by
  refine Multiset.eq_zero_of_forall_notMem fun f hf => ?_
  obtain ⟨t, ht, hft⟩ := (Multiset.mem_filterMap _ _).mp hf
  rw [h t ht] at hft
  cases hft

/-- If the server's cursor is in one place at most and only those wait that have told the server, at
most one party has to do with the server. -/
theorem ties_le_one {s : State} {kills : List Int64} {m : Multiset Task}
    (hsound : s.Sound (flights m)) (hsingle : (tokens kills s m).card ≤ 1)
    (hawaits : awaits m ≤ ↑kills) : ties m ≤ 1 := by
  have hle := Multiset.card_le_card hawaits
  rw [tokens, Multiset.card_add, Multiset.card_add] at hsingle
  rw [ties]
  obtain ⟨-, hnone⟩ | ⟨-, f, hf, hc⟩ := hsound.flight
  · rw [hnone, Multiset.card_zero]
    omega
  · -- The server's cursor is in the state while a request is under way.
    rw [State.known_of_ne_zero hc.live, Multiset.card_singleton] at hsingle
    rw [hf, Multiset.card_singleton]
    omega

theorem idle_of_ties {t : Task} {rest : Multiset Task} (hties : ties ({t} + rest) ≤ 1)
    (ht : t ≠ .close) : Idle rest := by
  intro x hx
  by_contra hne
  obtain ⟨others, rfl⟩ := Multiset.exists_cons_of_mem hx
  rw [← Multiset.singleton_add, ties_add, ties_add, ties_singleton ht, ties_singleton hne] at hties
  omega

section Play

variable {start c : Cursor} {first : Reply} {ms : List Moment} {pending rest : Multiset Task}
  (hsound : start.state.Sound 0) (htracked : Tracked start first.id [] start 0)

include hsound htracked

theorem ties_play (hp : Play start ms c pending) : ties pending ≤ 1 := by
  obtain ⟨kills, h⟩ := tracked_play hsound htracked hp
  have hsingle : (tokens kills c.state pending).card ≤ 1 := Multiset.card_le_card h.single
  exact ties_le_one (sound_play hsound hp) hsingle h.awaits

theorem sole_play {t : Task} (hp : Play start ms c ({t} + rest)) (ht : t ≠ .close) :
    Idle rest :=
  idle_of_ties (ties_play hsound htracked hp) ht

theorem sole_waiting {p : Point} (hp : Play start ms c ({.suspended p} + rest)) : Idle rest :=
  sole_play hsound htracked hp nofun

end Play

end ServerCursor
