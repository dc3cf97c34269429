import Mathlib.Data.Multiset.Count
import Mathlib.Data.Multiset.Bind
import ServerCursor.Proofs.Sound

/-!
# Balance of owners

Every owner of a resource is the cursor, a party that has something to do with it, or somebody else.
A turn moves what the cursor and the parties hold between them, joins and leaves resources, and the
ledger keeps count: `Ledger.Moves` says that the owners change by exactly what is held.

Main statement: `moves_effect` says so for every turn of the cursor and its parties.
-/

namespace ServerCursor

/-- Whether a release failed. -/
def Event.isRefusedRelease : Event → Bool
  | .releaseRefused => true
  | .releaseFailed _ => true
  | _ => false

namespace Ledger

/-- Connections that were not handed out yet have no owners. -/
def Fresh (l : Ledger) : Prop :=
  ∀ n, l.issued < n → l.owners (.connection n) = 0

/-- The releases that failed so far. -/
def refusedReleases (l : Ledger) : List Event :=
  l.events.filter Event.isRefusedRelease

/-- What holders have of each resource is at most what is counted. -/
def Covers (l : Ledger) (held : Multiset Resource) : Prop :=
  ∀ r, held.count r ≤ l.owners r

/-- The count has changed by what the holders have more or less than before. -/
structure Moved (l : Ledger) (before : Multiset Resource) (l' : Ledger)
    (after : Multiset Resource) : Prop where
  /-- Connections that were not handed out yet still have no owners. -/
  fresh : l'.Fresh
  /-- No release has failed. -/
  refused : l'.refusedReleases = l.refusedReleases
  /-- Every resource has as many owners more or less as holders have of it. -/
  owners : ∀ r, l'.owners r + before.count r = l.owners r + after.count r

/-- Holders who turn what they hold into something else change the count accordingly. -/
def Moves (l : Ledger) (before : Multiset Resource) (l' : Ledger) (after : Multiset Resource) :
    Prop :=
  l.Fresh → l.Covers before → Moved l before l' after

variable {l l' l'' : Ledger} {before middle after : Multiset Resource}

theorem Moved.covers (h : Moved l before l' after) (hc : l.Covers before) : l'.Covers after := by
  intro r
  have ho := h.owners r
  have hb := hc r
  omega

theorem Moves.refl (l : Ledger) (held : Multiset Resource) : Moves l held l held :=
  fun hf _ => ⟨hf, rfl, fun _ => rfl⟩

theorem Moves.trans (h₁ : Moves l before l' middle) (h₂ : Moves l' middle l'' after) :
    Moves l before l'' after := by
  intro hf hc
  have m₁ := h₁ hf hc
  have m₂ := h₂ m₁.fresh (m₁.covers hc)
  refine ⟨m₂.fresh, m₂.refused.trans m₁.refused, fun r => ?_⟩
  have ho₁ := m₁.owners r
  have ho₂ := m₂.owners r
  omega

theorem Moves.frame (h : Moves l before l' after) (others : Multiset Resource) :
    Moves l (others + before) l' (others + after) := by
  intro hf hc
  have hbefore : l.Covers before := fun r => by
    have hr := hc r
    rw [Multiset.count_add] at hr
    omega
  have m := h hf hbefore
  refine ⟨m.fresh, m.refused, fun r => ?_⟩
  have ho := m.owners r
  rw [Multiset.count_add, Multiset.count_add]
  omega

theorem Moves.frame_left (h : Moves l before l' 0) (others : Multiset Resource) :
    Moves l (others + before) l' others := by
  have hall := h.frame others
  rw [add_zero] at hall
  exact hall

theorem moves_emit (l : Ledger) {e : Event} (he : e.isRefusedRelease = false)
    (held : Multiset Resource) : Moves l held (l.emit e) held := by
  intro hf _
  refine ⟨hf, ?_, fun _ => rfl⟩
  simp [refusedReleases, emit, he]

theorem moves_record (l : Ledger) (w : Wire) (held : Multiset Resource) :
    Moves l held (l.record w) held :=
  fun hf _ => ⟨hf, rfl, fun _ => rfl⟩

theorem count_put (owners : Resource → Nat) (r q : Resource) (n : Nat) :
    put owners r n q = if q = r then n else owners q := rfl

theorem moves_giveBack (l : Ledger) (r : Resource) : Moves l {r} (l.giveBack r) 0 := by
  intro hf hc
  have hpos : 0 < l.owners r := by
    have hr := hc r
    rw [Multiset.count_singleton_self] at hr
    exact hr
  have howners := owners_giveBack hpos
  have hissued : (l.giveBack r).issued = l.issued := by
    unfold giveBack release
    split
    · rename_i h
      split at h
      · cases h
        split <;> rfl
      · cases h
    · rename_i h
      split at h
      · cases h
      · cases h
        rfl
  have hrefused := congrArg (List.filter Event.isRefusedRelease) (events_giveBack hpos)
  refine ⟨fun n hn => ?_, hrefused, fun q => ?_⟩
  · rw [hissued] at hn
    have hzero := hf n hn
    have hne : Resource.connection n ≠ r := fun e => by
      rw [e] at hzero
      omega
    rw [howners, put_ne _ _ hne]
    exact hzero
  · rw [howners, Multiset.count_zero, Multiset.count_singleton, count_put]
    split
    · rename_i e
      subst e
      omega
    · rfl

theorem moves_giveBackAll (l : Ledger) (rs : List Resource) : Moves l ↑rs (l.giveBackAll rs) 0 := by
  induction rs generalizing l with
  | nil => exact Moves.refl l 0
  | cons r rest ih =>
    have hfirst := (moves_giveBack l r).frame_left (↑rest)
    rw [add_comm, Multiset.singleton_add, Multiset.cons_coe] at hfirst
    exact hfirst.trans (ih (l.giveBack r))

theorem moves_checkout (l : Ledger) : Moves l 0 l.checkout {.connection (l.issued + 1)} := by
  intro hf _
  have hzero := hf (l.issued + 1) (Nat.lt_succ_self _)
  refine ⟨fun n hn => ?_, rfl, fun q => ?_⟩
  · have hlt : l.issued + 1 < n := hn
    have hne : Resource.connection n ≠ .connection (l.issued + 1) := fun e => by
      cases e
      omega
    exact (put_ne _ _ hne).trans (hf n (by omega))
  · change put l.owners (.connection (l.issued + 1)) 1 q + 0 = _
    rw [Multiset.count_singleton, count_put]
    split
    · rename_i e
      rw [e, hzero]
    · rfl

theorem moves_retain {r : Resource} (h : l.retain r = .ok l') : Moves l {r} l' ({r} + {r}) := by
  intro hf hc
  have hpos : 0 < l.owners r := by
    have hr := hc r
    rw [Multiset.count_singleton_self] at hr
    exact hr
  rw [retain_of_pos hpos] at h
  cases h
  refine ⟨fun n hn => ?_, rfl, fun q => ?_⟩
  · have hzero := hf n hn
    have hne : Resource.connection n ≠ r := fun e => by
      rw [e] at hzero
      omega
    exact (put_ne _ _ hne).trans hzero
  · change put l.owners r (l.owners r + 1) q + _ = _
    rw [Multiset.count_add, Multiset.count_singleton, count_put]
    split
    · rename_i e
      rw [e]
    · rfl

theorem moves_retain_refused {r : Resource} (h : l.retain r = .error l')
    (held : Multiset Resource) : Moves l held l' held := by
  unfold retain at h
  split at h
  · cases h
  · cases h
    exact moves_emit l rfl held

end Ledger

/-- What a party holds while it has this to do. -/
def Task.held : Task → List Resource
  | .close => []
  | .kill a => a.held
  | .suspended p => p.held

/-- What parties hold that still have something to do. -/
def holdings (m : Multiset Task) : Multiset Resource :=
  m.bind fun t => ↑t.held

@[simp] theorem holdings_zero : holdings 0 = 0 := rfl

@[simp] theorem holdings_add (m n : Multiset Task) : holdings (m + n) = holdings m + holdings n :=
  Multiset.add_bind ..

@[simp] theorem holdings_singleton (t : Task) : holdings {t} = ↑t.held :=
  Multiset.singleton_bind ..

namespace Cursor

variable {c c' : Cursor} {before : Multiset Resource} {p : Point}

/-- The owners after a part of a turn, if the cursor and the party held this before. -/
def Accounts (c : Cursor) (before : Multiset Resource) (r : Cursor × Progress) : Prop :=
  c.ledger.Moves before r.1.ledger (↑r.1.state.held + holdings r.2.left)

theorem accounts_done (h : c.ledger.Moves before c'.ledger ↑c'.state.held) (o : Outcome) :
    c.Accounts before (c', .done o) := by
  have hnone : holdings (Progress.done o).left = 0 := rfl
  rw [Accounts, hnone, add_zero]
  exact h

theorem accounts_waiting (h : c.ledger.Moves before c'.ledger (↑c'.state.held + ↑p.held)) :
    c.Accounts before (c', .waiting p) := by
  have hparty : holdings (Progress.waiting p).left = ↑p.held := holdings_singleton _
  rw [Accounts, hparty]
  exact h

theorem Accounts.after {middle : Multiset Resource} {r : Cursor × Progress}
    (h : c'.Accounts middle r) (hbefore : c.ledger.Moves before c'.ledger middle) :
    c.Accounts before r :=
  hbefore.trans h

theorem accounts_refuse (c : Cursor) (cause : IllegalState) :
    c.Accounts ↑c.state.held (c.refuse cause) :=
  accounts_done (.refl _ _) _

theorem accounts_conclude (c : Cursor) (a : Abandoned) (after : Outcome) :
    c.Accounts (↑c.state.held + ↑a.held) (c.conclude a after) := by
  have hback := (c.ledger.moves_giveBackAll a.held).frame_left ↑c.state.held
  simp only [conclude]
  split
  · exact accounts_done (hback.trans (Ledger.moves_emit _ rfl _)) _
  · exact accounts_done hback _

theorem accounts_sendKill (c : Cursor) (a : Abandoned) (n : Nat) (after : Outcome) :
    c.Accounts (↑c.state.held + ↑a.held) (c.sendKill a n after) :=
  accounts_waiting (Ledger.moves_record _ _ _)

theorem accounts_kill (c : Cursor) (a : Abandoned) (after : Outcome) :
    c.Accounts (↑c.state.held + ↑a.held) (c.kill a after) := by
  simp only [kill]
  split
  · exact accounts_conclude c a after
  split
  · exact (accounts_conclude _ a after).after (Ledger.moves_emit _ rfl _)
  split
  · exact accounts_sendKill c a _ after
  split
  · exact accounts_waiting (Ledger.moves_record _ _ _)
  · exact accounts_conclude c a after

theorem coe_held_withConnection {a : Abandoned} (ha : a.connection = none) (n : Nat) :
    (↑({ a with connection := some n } : Abandoned).held : Multiset Resource) =
      ↑a.held + {.connection n} := by
  simp only [Abandoned.held, ha]
  rw [add_comm _ {Resource.connection n}, Multiset.singleton_add]
  rfl

theorem accounts_killCheckedOut (c : Cursor) {a : Abandoned} (ha : a.connection = none)
    (after : Outcome) (r : Except Error Unit) :
    c.Accounts (↑c.state.held + ↑a.held) (c.killCheckedOut a after r) := by
  cases r with
  | ok _ =>
    have hmore := c.ledger.moves_checkout.frame (↑c.state.held + ↑a.held)
    rw [add_zero, add_assoc, ← coe_held_withConnection ha] at hmore
    exact (accounts_sendKill _ _ _ after).after hmore
  | error cause =>
    refine (accounts_conclude _ a after).after ?_
    exact (Ledger.moves_record _ _ _).trans (Ledger.moves_emit _ rfl _)

theorem accounts_killReplied (c : Cursor) (a : Abandoned) (after : Outcome)
    (r : Except Error Unit) : c.Accounts (↑c.state.held + ↑a.held) (c.killReplied a after r) := by
  cases r with
  | ok _ => exact (accounts_conclude _ a after).after (Ledger.moves_emit _ rfl _)
  | error cause => exact (accounts_conclude _ a after).after (Ledger.moves_emit _ rfl _)

theorem accounts_kill_bare {s : State} (h : c.state = s.bare) (a : Abandoned) (after : Outcome) :
    c.Accounts ↑a.held (c.kill a after) := by
  have hkill := accounts_kill c a after
  have hnone : (↑c.state.held : Multiset Resource) = 0 := by rw [h]; rfl
  rw [hnone, zero_add] at hkill
  exact hkill

theorem accounts_deliver (c : Cursor) : c.Accounts ↑c.state.held c.deliver := by
  simp only [deliver]
  split
  · refine (accounts_kill_bare rfl _ _).after ?_
    exact Ledger.moves_emit _ rfl _
  · exact accounts_done (.refl _ _) _

theorem accounts_finish (c : Cursor) : c.Accounts ↑c.state.held c.finish :=
  accounts_done ((Ledger.moves_giveBackAll _ _).trans (Ledger.moves_emit _ rfl _)) _

theorem accounts_sendFetch (c : Cursor) (f : Fetch) (n : Nat) :
    c.Accounts (↑c.state.held + ↑(Resource.connection n :: f.held)) (c.sendFetch f n) :=
  accounts_waiting ((Ledger.moves_emit _ rfl _).trans (Ledger.moves_record _ _ _))

theorem accounts_fetchUnrouted (c : Cursor) (f : Fetch) (cause : Error) :
    c.Accounts (↑c.state.held + ↑f.held) (c.fetchUnrouted f cause) := by
  have hback := (c.ledger.moves_giveBackAll f.held).frame_left ↑c.state.held
  simp only [fetchUnrouted]
  split
  · exact (accounts_kill_bare rfl _ _).after hback
  · exact accounts_done hback _

theorem coe_cons_connection (n : Nat) (rs : List Resource) :
    (↑(Resource.connection n :: rs) : Multiset Resource) = ↑rs + {.connection n} := by
  rw [add_comm, Multiset.singleton_add, Multiset.cons_coe]

theorem moves_retain_source {s : State} {l l' : Ledger}
    (h : (if s.source then l.retain .source else .ok l) = .ok l') :
    l.Moves ↑s.held l' (↑s.held + ↑(sourceIf s.source)) := by
  by_cases hs : s.source = true
  · rw [if_pos hs] at h
    have hheld : (↑s.held : Multiset Resource) =
        ↑(connectionIf s.pin.connection?) + {.source} := by rw [State.held, hs]; rfl
    have hf : (↑(sourceIf s.source) : Multiset Resource) = {.source} := by rw [hs]; rfl
    rw [hheld, hf, add_assoc]
    exact (Ledger.moves_retain h).frame _
  · rw [if_neg hs] at h
    cases h
    rw [Bool.not_eq_true] at hs
    have hf : (↑(sourceIf s.source) : Multiset Resource) = 0 := by rw [hs]; rfl
    rw [hf, add_zero]
    exact .refl _ _

theorem moves_retain_connection {s : State} {l l' : Ledger} {n : Nat}
    (hn : s.pin.connection? = some n) (h : l.retain (.connection n) = .ok l') :
    l.Moves ↑s.held l' (↑s.held + {.connection n}) := by
  have hheld : (↑s.held : Multiset Resource) = ↑(sourceIf s.source) + {.connection n} := by
    rw [State.held, hn, add_comm]
    rfl
  rw [hheld, add_assoc]
  exact (Ledger.moves_retain h).frame _

theorem accounts_startFetch (c : Cursor) (wait : Bool) :
    c.Accounts ↑c.state.held (c.startFetch wait) := by
  simp only [startFetch]
  split
  · rename_i l hl
    refine (accounts_refuse { c with ledger := l } _).after ?_
    split at hl
    · exact Ledger.moves_retain_refused hl _
    · cases hl
  rename_i l hl
  have hsource := moves_retain_source hl
  split
  · rename_i n hn
    split
    · rename_i l' hl'
      have hrefused := Ledger.moves_retain_refused hl' (↑c.state.held + ↑(sourceIf c.state.source))
      refine accounts_done (hsource.trans (hrefused.trans ?_)) _
      exact (l'.moves_giveBackAll (sourceIf c.state.source)).frame_left ↑c.state.held
    · rename_i l' hl'
      refine (accounts_sendFetch _ _ n).after (hsource.trans ?_)
      have hconnection := (moves_retain_connection hn hl').frame ↑(sourceIf c.state.source)
      rw [add_comm (Multiset.ofList (sourceIf c.state.source)), add_left_comm,
        ← coe_cons_connection] at hconnection
      exact hconnection
  · split
    · exact accounts_waiting (hsource.trans (Ledger.moves_record _ _ _))
    · exact (accounts_fetchUnrouted _ _ _).after hsource

theorem accounts_next (c : Cursor) (wait fetched : Bool) :
    c.Accounts ↑c.state.held (c.next wait fetched) := by
  simp only [next]
  split
  · exact accounts_refuse c _
  split
  · exact accounts_refuse c _
  split
  · exact accounts_deliver c
  split
  · exact accounts_finish c
  split
  · exact accounts_done (.refl _ _) _
  split
  · exact accounts_refuse c _
  · exact accounts_startFetch c wait

theorem accounts_close (c : Cursor) : c.Accounts ↑c.state.held c.close := by
  unfold close
  split
  · exact accounts_done (.refl _ _) _
  dsimp only
  split
  · exact accounts_done (Ledger.moves_emit _ rfl _) _
  · exact (accounts_kill_bare rfl _ _).after (.refl _ _)

theorem accounts_fetchCheckedOut (c : Cursor) (f : Fetch) (r : Except Error Unit) :
    c.Accounts (↑c.state.held + ↑f.held) (c.fetchCheckedOut f r) := by
  cases r with
  | ok _ =>
    have hmore := c.ledger.moves_checkout.frame (↑c.state.held + ↑f.held)
    rw [add_zero, add_assoc, ← coe_cons_connection] at hmore
    exact (accounts_sendFetch _ f _).after hmore
  | error cause => exact (accounts_fetchUnrouted _ f cause).after (Ledger.moves_record _ _ _)

theorem held_afterFailure (s : State) (cause : Error) : (afterFailure s cause).held = s.held := by
  have hpin : s.pin.invalidate.connection? = s.pin.connection? := by cases s.pin <;> rfl
  simp only [afterFailure]
  split
  · rfl
  split
  · rw [State.held, State.held, hpin]
  · rfl

theorem accounts_fetchReplied (c : Cursor) (f : Fetch) (n : Nat) (r : Except Error Reply) :
    c.Accounts (↑c.state.held + ↑(Resource.connection n :: f.held)) (c.fetchReplied f n r) := by
  have hback : ∀ l : Ledger, l.Moves (↑c.state.held + ↑(Resource.connection n :: f.held))
      (l.giveBackAll (.connection n :: f.held)) ↑c.state.held := fun l =>
    (l.moves_giveBackAll (.connection n :: f.held)).frame_left _
  unfold fetchReplied
  split
  · have hsource := (c.ledger.moves_giveBackAll f.held).frame_left
      (↑c.state.held + {.connection n})
    rw [add_assoc, add_comm {Resource.connection n}, ← coe_cons_connection] at hsource
    simp only [fetchRepliedClosed]
    refine (accounts_kill_bare rfl _ _).after ?_
    exact (coe_held_withConnection (a := { c.state.abandoned with id := openId r }) rfl n) ▸ hsource
  dsimp only
  have hemit := fun e (he : Event.isRefusedRelease e = false) =>
    (c.ledger.moves_emit he (↑c.state.held + ↑(Resource.connection n :: f.held))).trans (hback _)
  split
  · rename_i reply
    have hreplied := hemit (.fetched reply.id c.config.ns reply.documents.length) rfl
    split
    · exact (accounts_next _ f.wait true).after (hreplied.trans (Ledger.moves_giveBackAll _ _))
    · exact (accounts_next _ f.wait true).after hreplied
  · refine accounts_done ?_ _
    rw [state_giveBack, state_withState, held_afterFailure]
    exact hemit _ rfl

theorem accounts_resume (c : Cursor) {p : Point} (hp : (Task.suspended p).Proper) (a : Answer) :
    c.Accounts (↑c.state.held + ↑p.held) (c.resume p a) := by
  have hkept : c.Accounts (↑c.state.held + ↑p.held) (c, .waiting p) := accounts_waiting (.refl _ _)
  cases p with
  | fetchCheckout f =>
    cases a with
    | checkout r => exact accounts_fetchCheckedOut c f r
    | reply r => exact hkept
    | kill r => exact hkept
  | fetchReply f n =>
    cases a with
    | checkout r => exact hkept
    | reply r => exact accounts_fetchReplied c f n r
    | kill r => exact hkept
  | killCheckout b after =>
    cases a with
    | checkout r => exact accounts_killCheckedOut c hp.1.2.2.2 after r
    | reply r => exact hkept
    | kill r => exact hkept
  | killReply b after =>
    cases a with
    | checkout r => exact hkept
    | reply r => exact hkept
    | kill r => exact accounts_killReplied c b after r

theorem coe_held_close : (↑Task.close.held : Multiset Resource) = 0 := rfl

theorem accounts_startTask (c : Cursor) (t : Task) :
    c.Accounts (↑c.state.held + ↑t.held) (c.startTask t) := by
  cases t with
  | close =>
    rw [coe_held_close, add_zero]
    exact accounts_close c
  | kill a => exact accounts_kill c a .cleared
  | suspended p => exact accounts_waiting (.refl _ _)

/-- The owners after something was given up, if the cursor and the party held this before. -/
def Surrenders (c : Cursor) (before : Multiset Resource) (r : Cursor × Option Task) : Prop :=
  c.ledger.Moves before r.1.ledger (↑r.1.state.held + holdings ↑r.2.toList)

theorem surrenders_none (h : c.ledger.Moves before c'.ledger ↑c'.state.held) :
    c.Surrenders before (c', none) := by
  have hnone : holdings ↑(none : Option Task).toList = 0 := rfl
  rw [Surrenders, hnone, add_zero]
  exact h

theorem surrenders_some {t : Task}
    (h : c.ledger.Moves before c'.ledger (↑c'.state.held + ↑t.held)) :
    c.Surrenders before (c', some t) := by
  have hsome : holdings ↑(some t).toList = ↑t.held := holdings_singleton t
  rw [Surrenders, hsome]
  exact h

/-- A request that is given up gives back what it holds, and what its cursor holds is given back
with it or left to a task if the cursor is closed. -/
theorem surrenders_cancelFetch (c : Cursor) (back : List Resource) (runtime : Bool) :
    c.Surrenders (↑c.state.held + ↑back) (c.cancelFetch back runtime) := by
  have hback := (c.ledger.moves_giveBackAll back).frame_left ↑c.state.held
  have hpin : c.state.pin.invalidate.connection? = c.state.pin.connection? := by
    cases c.state.pin <;> rfl
  have hheld : { c.state with fetching := false, pin := c.state.pin.invalidate }.held =
      c.state.held := by
    rw [State.held, State.held, hpin]
  rw [← hheld] at hback ⊢
  have hcancelled := hback.trans (Ledger.moves_emit _ (e := .fetchCancelled c.config.ns) rfl _)
  simp only [cancelFetch]
  split
  · split
    · exact surrenders_none (hcancelled.trans (Ledger.moves_giveBackAll _ _))
    split
    · refine surrenders_some (hcancelled.trans ?_)
      exact (zero_add (M := Multiset Resource) _).symm ▸ .refl _ _
    · refine surrenders_none (hcancelled.trans ?_)
      exact (Ledger.moves_giveBackAll _ _).trans (Ledger.moves_emit _ rfl _)
  · exact surrenders_none hcancelled

theorem surrenders_cancel (c : Cursor) (p : Point) (runtime : Bool) :
    c.Surrenders (↑c.state.held + ↑p.held) (c.cancel p runtime) := by
  have hback := fun rs => (c.ledger.moves_giveBackAll rs).frame_left ↑c.state.held
  cases p with
  | fetchCheckout f => exact surrenders_cancelFetch c f.held runtime
  | fetchReply f n => exact surrenders_cancelFetch c (.connection n :: f.held) runtime
  | killCheckout a after => exact surrenders_none (hback a.held)
  | killReply a after => exact surrenders_none (hback a.held)

theorem moves_closeQuietly (c : Cursor) :
    c.ledger.Moves ↑c.state.held c.closeQuietly.1.ledger ↑c.closeQuietly.1.state.held := by
  simp only [closeQuietly]
  split
  · exact .refl _ _
  · exact Ledger.moves_giveBackAll _ _

theorem surrenders_drop (c : Cursor) (runtime : Bool) :
    c.Surrenders ↑c.state.held (c.drop runtime) := by
  have hquiet := moves_closeQuietly c
  simp only [drop]
  split
  · exact surrenders_none hquiet
  split
  · refine surrenders_some ?_
    rw [coe_held_close, add_zero]
    exact .refl _ _
  split
  · rename_i d id hd
    rw [hd] at hquiet
    exact surrenders_none (hquiet.trans (Ledger.moves_emit _ rfl _))
  · rename_i d hd
    rw [hd] at hquiet
    exact surrenders_none hquiet

theorem surrenders_discardTask (c : Cursor) (runtime : Bool) (t : Task) :
    c.Surrenders (↑c.state.held + ↑t.held) (c.discardTask runtime t) := by
  cases t with
  | close =>
    rw [coe_held_close, add_zero]
    exact surrenders_none (.refl _ _)
  | kill a => exact surrenders_none ((c.ledger.moves_giveBackAll a.held).frame_left _)
  | suspended p => exact surrenders_cancel c p runtime

end Cursor

/-- Whether a turn is that of somebody else. -/
def Turn.isOthers : Turn → Bool
  | .retain _ => true
  | .release _ => true
  | _ => false

theorem moves_effect {t : Turn} (ht : t.isOthers = false) (c : Cursor) (hp : AllProper t.party) :
    c.ledger.Moves (↑c.state.held + holdings t.party) (t.effect c).cursor.ledger
      (↑(t.effect c).cursor.state.held + holdings (t.effect c).left) := by
  have hnone : t.party = 0 →
      (↑c.state.held + holdings t.party : Multiset Resource) = ↑c.state.held := fun h => by
    rw [h, holdings_zero, add_zero]
  have hone : ∀ task : Task, t.party = {task} →
      (↑c.state.held + holdings t.party : Multiset Resource) = ↑c.state.held + ↑task.held :=
    fun task h => by rw [h, holdings_singleton]
  cases t with
  | begin call =>
    rw [hnone rfl]
    cases call with
    | next => exact Cursor.accounts_next c true false
    | tryNext => exact Cursor.accounts_next c false false
    | close => exact Cursor.accounts_close c
  | answer p a =>
    rw [hone _ rfl]
    exact Cursor.accounts_resume c hp.of_singleton a
  | cancel p runtime =>
    rw [hone _ rfl]
    exact Cursor.surrenders_cancel c p runtime
  | startTask task =>
    rw [hone _ rfl]
    exact Cursor.accounts_startTask c task
  | answerTask p a =>
    rw [hone _ rfl]
    exact Cursor.accounts_resume c hp.of_singleton a
  | discardTask task runtime =>
    rw [hone _ rfl]
    exact Cursor.surrenders_discardTask c runtime task
  | drop runtime =>
    rw [hnone rfl]
    exact Cursor.surrenders_drop c runtime
  | retain r => cases ht
  | release r => cases ht

end ServerCursor
