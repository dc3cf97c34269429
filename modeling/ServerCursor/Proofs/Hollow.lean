import ServerCursor.Proofs.Exhausted
import ServerCursor.Proofs.Issued

/-!
# A cursor that is given up

Whoever is left to discard the server's cursor has taken everything out of the cursor: it knows no
server's cursor, holds nothing and hands nothing out (`State.Hollow`). So every call on it ends at
once, whatever the server says meanwhile, and that changes nothing but that the cursor is closed.

Main statement: `hollow_play` says so of every play.
-/

namespace ServerCursor

/-- There is no server's cursor any more, nothing is held, and nothing is left to hand out. -/
structure State.Hollow (s : State) : Prop extends s.Exhausted where
  buffer : s.buffer = []

theorem State.hollow_bare {s : State} (hidle : s.fetching = false) (hbuffer : s.buffer = []) :
    s.bare.Hollow :=
  ⟨⟨rfl, rfl, rfl, hidle⟩, hbuffer⟩

theorem State.Hollow.closed {s : State} (h : s.Hollow) : State.Hollow { s with closed := true } :=
  ⟨⟨h.id, h.source, h.pin, h.fetching⟩, h.buffer⟩

theorem State.Hollow.shut {s : State} (h : s.Hollow) :
    { s with closed := true, buffer := [] } = { s with closed := true } := by
  rw [← h.buffer]

theorem State.Yields.buffer_eq_nil {s s' : State} {batches : List (List Document)}
    (h : s.Yields batches s') (hbuffer : s.buffer = []) : s'.buffer = [] := by
  cases h with
  | kept _ hsame => exact hsame.trans hbuffer
  | closed _ hnone => exact hnone
  | handed hsome _ => exact absurd hbuffer hsome

/-- Nothing is buffered once a cursor is closed. -/
def State.Drains (s : State) : Prop :=
  s.closed = true → s.buffer = []

namespace Cursor

variable {c : Cursor}

/-- If somebody is left to discard the server's cursor, the cursor is hollow. -/
def Hollows (r : Cursor × Progress) : Prop :=
  ∀ p, r.2 = .waiting p → p.flight? = none → r.1.state.Hollow

theorem hollows_done {r : Cursor × Progress} {o : Outcome} (h : r.2 = .done o) : Hollows r := by
  intro p hp _
  rw [h] at hp
  cases hp

theorem hollows_kill (h : c.state.Hollow) (a : Abandoned) (after : Outcome) :
    Hollows (c.kill a after) := by
  intro p _ _
  rw [state_kill]
  exact h

theorem hollows_deliver (hidle : c.state.fetching = false) : Hollows c.deliver := by
  unfold deliver
  dsimp only
  split
  · refine hollows_kill ?_ _ _
    exact State.hollow_bare hidle rfl
  · exact hollows_done rfl

theorem hollows_fetchUnrouted (hdrains : c.state.Drains) (f : Fetch) (cause : Error) :
    Hollows (c.fetchUnrouted f cause) := by
  unfold fetchUnrouted
  dsimp only
  split
  · rename_i hclosed
    refine hollows_kill ?_ _ _
    exact State.hollow_bare rfl (hdrains hclosed)
  · exact hollows_done rfl

theorem hollows_startFetch (hopen : c.state.closed = false) (wait : Bool) :
    Hollows (c.startFetch wait) := by
  have hdrains : c.state.Drains := fun hclosed => absurd hclosed (Bool.eq_false_iff.mp hopen)
  unfold startFetch
  dsimp only
  split
  · exact hollows_done rfl
  split
  · split
    · exact hollows_done rfl
    · rintro p hp hflight
      cases hp
      cases hflight
  split
  · rintro p hp hflight
    cases hp
    cases hflight
  · refine hollows_fetchUnrouted ?_ _ _
    exact hdrains

theorem hollows_next (wait fetched : Bool) : Hollows (c.next wait fetched) := by
  unfold next
  split
  · exact hollows_done rfl
  rename_i hopen
  split
  · exact hollows_done rfl
  rename_i hidle
  split
  · exact hollows_deliver (Bool.eq_false_iff.mpr hidle)
  split
  · exact hollows_done rfl
  split
  · exact hollows_done rfl
  split
  · exact hollows_done rfl
  · exact hollows_startFetch (Bool.eq_false_iff.mpr hopen) wait

theorem hollows_close : Hollows c.close := by
  unfold close
  split
  · exact hollows_done rfl
  dsimp only
  split
  · exact hollows_done rfl
  · rename_i hidle
    refine hollows_kill ?_ _ _
    exact State.hollow_bare (Bool.eq_false_iff.mpr hidle) rfl

theorem hollows_fetchReplied (hdrains : c.state.Drains) (f : Fetch) (n : Nat)
    (r : Except Error Reply) : Hollows (c.fetchReplied f n r) := by
  unfold fetchReplied
  split
  · rename_i hclosed
    refine hollows_kill ?_ _ _
    exact State.hollow_bare rfl (hdrains hclosed)
  cases r with
  | error cause => exact hollows_done rfl
  | ok reply =>
    dsimp only
    split
    · exact hollows_next _ _
    · exact hollows_next _ _

theorem hollows_resume {p : Point} (hdrains : c.state.Drains)
    (h : p.flight? = none → c.state.Hollow) (a : Answer) : Hollows (c.resume p a) := by
  have hvoid : Hollows (c, .waiting p) := by
    rintro q hq hflight
    cases hq
    exact h hflight
  cases p with
  | fetchCheckout f =>
    cases a with
    | checkout r =>
      cases r with
      | ok _ =>
        rintro q hq hflight
        cases hq
        cases hflight
      | error cause =>
        refine hollows_fetchUnrouted ?_ f cause
        exact hdrains
    | _ => exact hvoid
  | fetchReply f n =>
    cases a with
    | reply r => exact hollows_fetchReplied hdrains f n r
    | _ => exact hvoid
  | killCheckout b after =>
    intro q _ _
    rw [state_resume rfl]
    exact h rfl
  | killReply b after =>
    intro q _ _
    rw [state_resume rfl]
    exact h rfl

theorem hollows_startTask {t : Task} (h : t ≠ .close → t.flight? = none → c.state.Hollow) :
    Hollows (c.startTask t) := by
  cases t with
  | close => exact hollows_close
  | kill a => exact hollows_kill (h nofun rfl) a .cleared
  | suspended p =>
    rintro q hq hflight
    cases hq
    exact h nofun hflight

theorem hollow_cancelFetch (hdrains : c.state.Drains) {back : List Resource} {runtime : Bool}
    {t : Task} (ht : t ∈ (c.cancelFetch back runtime).2) :
    (c.cancelFetch back runtime).1.state.Hollow := by
  unfold cancelFetch at ht ⊢
  dsimp only at ht ⊢
  split at ht
  · rename_i hclosed
    rw [if_pos hclosed]
    split at ht
    · cases ht
    · rename_i hid
      rw [if_neg hid]
      split at ht
      · rename_i hruntime
        rw [if_pos hruntime]
        exact State.hollow_bare rfl (hdrains hclosed)
      · cases ht
  · cases ht

theorem hollow_cancel (hdrains : c.state.Drains) {p : Point} {runtime : Bool} {t : Task}
    (ht : t ∈ (c.cancel p runtime).2) : (c.cancel p runtime).1.state.Hollow := by
  cases p with
  | fetchCheckout f => exact hollow_cancelFetch hdrains ht
  | fetchReply f n => exact hollow_cancelFetch hdrains ht
  | killCheckout a after => cases ht
  | killReply a after => cases ht

end Cursor

/-- A party is left to discard the server's cursor. -/
def Task.Discards (t : Task) : Prop :=
  t ≠ .close ∧ t.flight? = none

theorem hollow_effect {c : Cursor} {t : Turn} (hdrains : c.state.Drains)
    (h : ∀ x ∈ t.party, x.Discards → c.state.Hollow) {x : Task} (hx : x ∈ (t.effect c).left)
    (hdiscards : x.Discards) : (t.effect c).cursor.state.Hollow := by
  have hcall : ∀ {r : Cursor × Progress}, Cursor.Hollows r → x ∈ r.2.left → r.1.state.Hollow := by
    rintro ⟨d, progress⟩ hr hx
    cases progress with
    | done o => exact absurd hx (Multiset.notMem_zero x)
    | waiting p =>
      obtain rfl := Multiset.mem_singleton.mp hx
      exact hr p rfl hdiscards.2
  cases t with
  | begin call =>
    cases call with
    | next => exact hcall (Cursor.hollows_next _ _) hx
    | tryNext => exact hcall (Cursor.hollows_next _ _) hx
    | close => exact hcall Cursor.hollows_close hx
  | answer p a =>
    exact hcall (Cursor.hollows_resume hdrains
      (fun hp => h _ (Multiset.mem_singleton_self _) ⟨nofun, hp⟩) a) hx
  | cancel p runtime => exact Cursor.hollow_cancel hdrains (Option.mem_toList.mp hx)
  | startTask t =>
    exact hcall (Cursor.hollows_startTask
      fun hne hnone => h t (Multiset.mem_singleton_self t) ⟨hne, hnone⟩) hx
  | answerTask p a =>
    exact hcall (Cursor.hollows_resume hdrains
      (fun hp => h _ (Multiset.mem_singleton_self _) ⟨nofun, hp⟩) a) hx
  | discardTask t runtime =>
    cases t with
    | close => exact absurd hx (Multiset.notMem_zero x)
    | kill a => exact absurd hx (Multiset.notMem_zero x)
    | suspended p => exact Cursor.hollow_cancel hdrains (Option.mem_toList.mp hx)
  | drop runtime =>
    rcases Cursor.left_drop c runtime with hnone | hone
    · have hx : x ∈ (↑(c.drop runtime).2.toList : Multiset Task) := hx
      rw [hnone] at hx
      exact absurd hx (Multiset.notMem_zero x)
    · have hx : x ∈ (↑(c.drop runtime).2.toList : Multiset Task) := hx
      rw [hone] at hx
      exact absurd (Multiset.mem_singleton.mp hx) hdiscards.1
  | retain r => exact absurd hx (Multiset.notMem_zero x)
  | release r => exact absurd hx (Multiset.notMem_zero x)

/-- While a party is left to discard the server's cursor, the cursor is hollow. -/
theorem hollow_play {start c : Cursor} {first : Reply} {ms : List Moment} {pending : Multiset Task}
    (hsound : start.state.Sound 0) (htracked : Tracked start first.id [] start 0)
    (hp : Play start ms c pending) {t : Task} (ht : t ∈ pending) (hdiscards : t.Discards) :
    c.state.Hollow := by
  induction hp generalizing t with
  | nil => exact absurd ht (Multiset.notMem_zero t)
  | @snoc ms c rest turn before allowed ih =>
    rcases Multiset.mem_add.mp ht with hleft | hrest
    · exact hollow_effect (sound_play hsound before).drained
        (fun x hx => ih (Multiset.mem_add.mpr (.inl hx))) hleft hdiscards
    · obtain ⟨others, hothers⟩ := Multiset.exists_cons_of_mem hrest
      have hidle : Idle turn.party := by
        rw [hothers, ← Multiset.singleton_add, add_left_comm] at before
        exact (idle_add.mp (sole_play hsound htracked before hdiscards.1)).1
      have hhollow := ih (Multiset.mem_add.mpr (.inr hrest)) hdiscards
      obtain ⟨hafter, -, hyields⟩ := exhausted_effect hhollow.toExhausted hidle
      exact ⟨hafter, hyields.buffer_eq_nil hhollow.buffer⟩

/-! ## Calls on a hollow cursor -/

/-- How a call ends on a hollow cursor. -/
def lastWord (closed : Bool) : Call → Outcome
  | .close => .closed
  | _ => if closed then .failed (.illegalState .closed) else .nothing

/-- A cursor is closed, and nothing is sent or counted. -/
structure Cursor.Shuts (c c' : Cursor) : Prop where
  state : c'.state = { c.state with closed := true }
  settles : c.ledger.Settles [] [] c'.ledger

namespace Cursor

variable {c : Cursor}

theorem shuts_refl (hclosed : c.state.closed = true) : c.Shuts c :=
  ⟨by rw [← hclosed], .refl _⟩

theorem next_of_hollow (h : c.state.Hollow) (wait fetched : Bool) :
    (c.next wait fetched).2 =
        .done (if c.state.closed then .failed (.illegalState .closed) else .nothing) ∧
      c.Shuts (c.next wait fetched).1 := by
  by_cases hclosed : c.state.closed = true
  · have hrefused : c.next wait fetched = c.refuse .closed := if_pos hclosed
    rw [hrefused, if_pos hclosed]
    exact ⟨rfl, shuts_refl hclosed⟩
  · obtain ⟨hdone, hstate, hsettles⟩ :=
      next_of_exhausted h.toExhausted (Bool.eq_false_iff.mpr hclosed) wait fetched
    rw [h.buffer] at hdone hstate
    rw [if_neg hclosed]
    exact ⟨hdone, hstate.trans h.shut, hsettles⟩

theorem close_of_hollow (h : c.state.Hollow) : c.close.2 = .done .closed ∧ c.Shuts c.close.1 := by
  by_cases hclosed : c.state.closed = true
  · have hclose : c.close = (c, .done .closed) := if_pos hclosed
    rw [hclose]
    exact ⟨rfl, shuts_refl hclosed⟩
  · have hs : State.Exhausted { c.state with closed := true, buffer := [] } :=
      ⟨h.id, h.source, h.pin, h.fetching⟩
    let d : Cursor := c.withState (State.bare { c.state with closed := true, buffer := [] })
    let a : Abandoned := State.abandoned { c.state with closed := true, buffer := [] }
    have hclose : c.close = d.conclude a .closed := by
      rw [close_of_open (Bool.eq_false_iff.mpr hclosed) h.fetching]
      exact kill_of_gone d (a := a) h.id .closed
    have hback : a.held = [] := hs.held
    have hsettles := ledger_conclude d a .closed
    rw [hback] at hsettles
    rw [hclose]
    exact ⟨done_conclude .., (state_conclude ..).trans (hs.bare.trans h.shut), hsettles⟩

theorem beginCall_of_hollow (h : c.state.Hollow) (call : Call) :
    (Schedule.beginCall c call).2 = .done (lastWord c.state.closed call) ∧
      c.Shuts (Schedule.beginCall c call).1 := by
  cases call with
  | next => exact next_of_hollow h true false
  | tryNext => exact next_of_hollow h false false
  | close => exact close_of_hollow h

theorem drop_of_hollow (h : c.state.Hollow) (runtime : Bool) :
    (c.drop runtime).2 = none ∧ c.Shuts (c.drop runtime).1 := by
  refine ⟨(drop_of_exhausted h.toExhausted runtime).1, ?_⟩
  have hneeds : (!c.needsKill) = true := by simp [needsKill, h.id]
  have hdrop : c.drop runtime = (c.closeQuietly.1, none) := if_pos hneeds
  rw [hdrop]
  by_cases hclosed : c.state.closed = true
  · have hquiet : c.closeQuietly = (c, none) := if_pos hclosed
    rw [hquiet]
    exact shuts_refl hclosed
  · have hs : State.Exhausted { c.state with closed := true, buffer := [] } :=
      ⟨h.id, h.source, h.pin, h.fetching⟩
    have hback : c.state.held = [] := hs.held
    rw [closeQuietly_of_open (Bool.eq_false_iff.mpr hclosed), hback]
    exact ⟨hs.bare.trans h.shut, .refl _⟩

end Cursor

/-! ## The party that discards the server's cursor -/

/-- The source, or one of the connections that were handed out first. -/
def Resource.Among (n : Nat) : Resource → Prop
  | .source => True
  | .connection m => m ≤ n

namespace Ledger

/-- The requests for a batch that were sent so far. -/
def requests (l : Ledger) : List Message :=
  l.messages.filter fun m => m.asks?.isSome

theorem requests_congr {l l' : Ledger} (h : l'.messages = l.messages) :
    l'.requests = l.requests := by
  rw [requests, h, requests]

theorem Settles.requests {l l' : Ledger} {back : List Resource} (h : l.Settles back [] l') :
    l'.requests = l.requests :=
  requests_congr (h.messages.trans (List.append_nil _))

theorem requests_kill (l : Ledger) (n : Nat) (r : Requester) (id : Int64) :
    (l.record (.sent n (r.kill id))).requests = l.requests := by
  have hkill : (r.kill id).asks? = none := Requester.asks?_kill r id
  rw [requests, messages_record, List.filter_append]
  change _ ++ [r.kill id].filter _ = _
  rw [List.filter_cons_of_neg (by simp [hkill])]
  exact List.append_nil _

theorem lasts_of_among {l : Ledger} {n : Nat} {r : Resource} (h : r.Among n) (hle : n ≤ l.issued)
    (l' : Ledger) : l.Lasts l' r := by
  rintro m rfl hlt
  have hm : m ≤ n := h
  omega

end Ledger

/-- A party that discards the server's cursor hears an answer. The cursor has no part in it. -/
structure Cursor.Attends (c : Cursor) (p : Point) (r : Cursor × Progress) : Prop where
  state : r.1.state = c.state
  issued : c.ledger.issued ≤ r.1.ledger.issued
  requests : r.1.ledger.requests = c.ledger.requests
  /-- It is settled how the call ends. -/
  ending : r.2.ending? = p.ending?
  /-- The party still waits and holds what it held, or it has given that back. -/
  stage : (∃ q, r.2 = .waiting q ∧ q.flight? = none ∧ (Task.suspended q).Proper ∧
      ∀ x, x.Among c.ledger.issued →
        q.held.count x = p.held.count x ∧ r.1.ledger.owners x = c.ledger.owners x) ∨
    ∃ o, r.2 = .done o ∧ ∀ x, x.Among c.ledger.issued →
      r.1.ledger.owners x = c.ledger.owners x - p.held.count x

namespace Cursor

variable {c : Cursor} {p : Point}

theorem attends_void (hp : p.flight? = none) (hproper : (Task.suspended p).Proper) :
    c.Attends p (c, .waiting p) :=
  ⟨rfl, le_rfl, rfl, rfl, .inl ⟨p, rfl, hp, hproper, fun _ _ => ⟨rfl, rfl⟩⟩⟩

theorem attends_done {d : Cursor} {o : Outcome} (hstate : d.state = c.state)
    (hending : p.ending? = some o) (hsettles : c.ledger.Settles p.held [] d.ledger) :
    c.Attends p (d, .done o) :=
  ⟨hstate, hsettles.issued, hsettles.requests, hending.symm, .inr ⟨o, rfl, fun _ hx =>
    hsettles.owners _ (Ledger.lasts_of_among hx le_rfl _)⟩⟩

theorem attends_checkedOut {a : Abandoned} {after : Outcome}
    (hproper : (Task.suspended (.killCheckout a after)).Proper) :
    c.Attends (.killCheckout a after) (c.killCheckedOut a after (.ok ())) := by
  obtain ⟨⟨hid, -, -, hconnection⟩, hsettled⟩ := hproper
  refine ⟨rfl, Nat.le_succ _, ?_, rfl, .inl ⟨_, rfl, rfl, ⟨hid, hsettled⟩, fun x hx => ?_⟩⟩
  · exact (Ledger.requests_kill ..).trans (Ledger.requests_congr (Ledger.messages_checkout _))
  · have hne : x ≠ .connection (c.ledger.issued + 1) := by
      rintro rfl
      exact absurd hx (Nat.not_succ_le_self _)
    have hheld : Abandoned.held { a with connection := some (c.ledger.issued + 1) } =
        .connection (c.ledger.issued + 1) :: a.held := by
      rw [Abandoned.held, Abandoned.held, hconnection]
      rfl
    refine ⟨?_, Ledger.put_ne c.ledger.owners 1 hne⟩
    change (Abandoned.held { a with connection := some (c.ledger.issued + 1) }).count x = _
    rw [hheld, List.count_cons_of_ne hne.symm]
    rfl

theorem attends_resume (hp : p.flight? = none) (hproper : (Task.suspended p).Proper) (a : Answer) :
    c.Attends p (c.resume p a) := by
  cases p with
  | fetchCheckout f => cases hp
  | fetchReply f n => cases hp
  | killCheckout b after =>
    cases a with
    | checkout r =>
      cases r with
      | ok _ => exact attends_checkedOut hproper
      | error cause =>
        let d : Cursor := (c.record .unavailable).emit (.killUnrouted b.id cause)
        have hd : c.ledger.Settles [] [] d.ledger :=
          (c.ledger.settles_record .unavailable).trans (Ledger.settles_emit _ _)
        have hdone : c.resume (.killCheckout b after) (.checkout (.error cause)) =
            ((d.conclude b after).1, .done after) := by
          rw [← done_conclude d b after]
          rfl
        rw [hdone]
        exact attends_done (state_conclude d b after) rfl (hd.trans (ledger_conclude d b after))
    | reply r => exact attends_void rfl hproper
    | kill r => exact attends_void rfl hproper
  | killReply b after =>
    cases a with
    | checkout r => exact attends_void rfl hproper
    | reply r => exact attends_void rfl hproper
    | kill r =>
      obtain ⟨hdone, hstate, hsettles⟩ := settled_killReplied c b after r
      have hresume : c.resume (.killReply b after) (.kill r) =
          ((c.killReplied b after r).1, .done after) := by
        rw [← hdone]
        rfl
      rw [hresume]
      exact attends_done hstate rfl hsettles

end Cursor

end ServerCursor
