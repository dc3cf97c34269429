import ServerCursor.Proofs.Sound

/-!
# The connection of a cursor and of its parties

A cursor is bound to one connection or to none, and that does not change as long as it has something
to do with its server: marking the connection as failed keeps it, and only a cursor that gives up
its server's cursor lets it go. A party that is to discard the server's cursor, or has told the
server to, took the connection of the cursor along.

Main statement: `bound_play` says so after every play. `b` is the connection, or `none` for a cursor
that takes its connections from the source.
-/

namespace ServerCursor

/-- What was detached from a cursor is bound to its connection. -/
structure Abandoned.BoundTo (a : Abandoned) (b : Option Nat) : Prop where
  pin : a.pin.connection? = b
  /-- What is bound to a connection does not hold the source. -/
  source : b ≠ none → a.source = false

/-- The connection to which a cursor is bound, unless its server's cursor is given up. -/
structure State.BoundTo (s : State) (b : Option Nat) : Prop where
  pin : s.pin.connection? = b ∨ s.id = 0 ∧ s.pin = .unpinned
  /-- A cursor that is bound to a connection does not hold the source. -/
  source : b ≠ none → s.source = false

/-- The connection of a party that has to do with discarding the server's cursor. -/
def Task.BoundTo (b : Option Nat) : Task → Prop
  | .kill a => a.BoundTo b
  | .suspended (.killCheckout a _) => a.BoundTo b
  | .suspended (.killReply a _) => a.BoundTo b
  | _ => True

/-- The connection of all parties. -/
def AllBoundTo (b : Option Nat) (m : Multiset Task) : Prop :=
  ∀ t ∈ m, t.BoundTo b

section Parties

variable {b : Option Nat} {m n : Multiset Task}

theorem allBoundTo_zero : AllBoundTo b 0 :=
  fun t ht => absurd ht (Multiset.notMem_zero t)

theorem allBoundTo_of_eq_zero (h : m = 0) : AllBoundTo b m :=
  h ▸ allBoundTo_zero

theorem allBoundTo_singleton {t : Task} (h : t.BoundTo b) : AllBoundTo b {t} := fun x hx => by
  rw [Multiset.mem_singleton.mp hx]
  exact h

theorem allBoundTo_add : AllBoundTo b (m + n) ↔ AllBoundTo b m ∧ AllBoundTo b n :=
  forall_mem_add

theorem AllBoundTo.of_singleton {t : Task} (h : AllBoundTo b {t}) : t.BoundTo b :=
  h t (Multiset.mem_singleton_self t)

end Parties

theorem Pin.connection?_invalidate (p : Pin) : p.invalidate.connection? = p.connection? := by
  cases p <;> rfl

namespace State

variable {s : State} {b : Option Nat}

theorem boundTo_bare (s : State) (b : Option Nat) : s.bare.BoundTo b :=
  ⟨.inr ⟨rfl, rfl⟩, fun _ => rfl⟩

theorem BoundTo.congr {s' : State} (h : s.BoundTo b) (hpin : s'.pin = s.pin)
    (hid : s'.id = s.id ∨ s'.id = 0) (hsource : s'.source = s.source) : s'.BoundTo b where
  pin := by
    rw [hpin]
    refine h.pin.imp_right fun hgone => ⟨?_, hgone.2⟩
    rcases hid with hid | hid
    · exact hid.trans hgone.1
    · exact hid
  source hb := hsource.trans (h.source hb)

theorem BoundTo.live (h : s.BoundTo b) (hid : s.id ≠ 0) : s.pin.connection? = b :=
  h.pin.resolve_right fun hgone => hid hgone.1

theorem BoundTo.renew {s' : State} (h : s.BoundTo b) (hid : s.id ≠ 0) (hpin : s'.pin = s.pin)
    (hsource : s'.source = s.source) : s'.BoundTo b :=
  ⟨.inl (hpin ▸ h.live hid), fun hb => hsource.trans (h.source hb)⟩

theorem BoundTo.invalidate (h : s.BoundTo b) :
    { s with pin := s.pin.invalidate }.BoundTo b where
  pin := by
    refine h.pin.imp (fun hpin => (Pin.connection?_invalidate _).trans hpin) fun hgone => ?_
    exact ⟨hgone.1, congrArg Pin.invalidate hgone.2⟩
  source := h.source

theorem BoundTo.abandoned (h : s.BoundTo b) (hid : s.id ≠ 0) : s.abandoned.BoundTo b :=
  ⟨h.live hid, h.source⟩

theorem BoundTo.afterFailure (h : s.BoundTo b) (cause : Error) :
    (Cursor.afterFailure s cause).BoundTo b := by
  simp only [Cursor.afterFailure]
  split
  · exact h.congr rfl (.inr rfl) rfl
  split
  · exact h.invalidate
  · exact h

end State

/-- The connection of a cursor and of its party after a part of a turn. -/
structure BoundAfter (b : Option Nat) (c : Cursor) (left : Multiset Task) : Prop where
  state : c.state.BoundTo b
  left : AllBoundTo b left

namespace Cursor

variable {c : Cursor} {b : Option Nat} {rest : Multiset Flight}

theorem bound_done (h : c.state.BoundTo b) : BoundAfter b c 0 :=
  ⟨h, allBoundTo_zero⟩

theorem bound_kill {a : Abandoned} (h : c.state.BoundTo b) (ha : a.id ≠ 0 → a.BoundTo b)
    (after : Outcome) : BoundAfter b (c.kill a after).1 (c.kill a after).2.left := by
  refine ⟨(state_kill c a after).symm ▸ h, ?_⟩
  simp only [kill]
  split
  · exact allBoundTo_of_eq_zero (left_conclude c a after)
  rename_i hid
  split
  · exact allBoundTo_of_eq_zero (left_conclude _ a after)
  split
  · exact allBoundTo_singleton (ha hid)
  split
  · exact allBoundTo_singleton (ha hid)
  · exact allBoundTo_of_eq_zero (left_conclude c a after)

theorem bound_deliver (h : c.state.BoundTo b) : BoundAfter b c.deliver.1 c.deliver.2.left := by
  simp only [deliver]
  split
  · exact bound_kill (State.boundTo_bare _ b)
      (fun hid => (h.congr rfl (.inl rfl) rfl).abandoned hid) _
  · exact bound_done (h.congr rfl (.inl rfl) rfl)

theorem bound_fetchUnrouted (h : c.state.BoundTo b) (f : Fetch) (cause : Error) :
    BoundAfter b (c.fetchUnrouted f cause).1 (c.fetchUnrouted f cause).2.left := by
  simp only [fetchUnrouted]
  split
  · exact bound_kill (State.boundTo_bare _ b)
      (fun hid => (h.congr rfl (.inl rfl) rfl).abandoned hid) _
  · exact bound_done (h.congr rfl (.inl rfl) rfl)

theorem bound_startFetch (h : c.state.BoundTo b) (wait : Bool) :
    BoundAfter b (c.startFetch wait).1 (c.startFetch wait).2.left := by
  have hbegun : { c.state with fetching := true }.BoundTo b := h.congr rfl (.inl rfl) rfl
  simp only [startFetch]
  split
  · exact bound_done h
  split
  · split
    · exact bound_done h
    · exact ⟨hbegun, allBoundTo_singleton trivial⟩
  split
  · exact ⟨hbegun, allBoundTo_singleton trivial⟩
  · exact bound_fetchUnrouted hbegun _ _

theorem bound_next (h : c.state.BoundTo b) (wait fetched : Bool) :
    BoundAfter b (c.next wait fetched).1 (c.next wait fetched).2.left := by
  simp only [next]
  split
  · exact bound_done h
  split
  · exact bound_done h
  split
  · exact bound_deliver h
  split
  · exact bound_done (State.boundTo_bare _ b)
  split
  · exact bound_done h
  split
  · exact bound_done h
  · exact bound_startFetch h wait

theorem bound_close (h : c.state.BoundTo b) : BoundAfter b c.close.1 c.close.2.left := by
  unfold close
  split
  · exact bound_done h
  dsimp only
  split
  · exact bound_done (h.congr rfl (.inl rfl) rfl)
  · exact bound_kill (State.boundTo_bare _ b)
      (fun hid => (h.congr rfl (.inl rfl) rfl).abandoned hid) _

theorem bound_fetchReplied {f : Fetch} {n : Nat} (h : c.state.BoundTo b)
    (hlive : c.state.id ≠ 0) (r : Except Error Reply) :
    BoundAfter b (c.fetchReplied f n r).1 (c.fetchReplied f n r).2.left := by
  unfold fetchReplied
  split
  · have habandoned : ∀ id connection, Abandoned.BoundTo
        { c.state.abandoned with id := id, connection := connection } b := fun _ _ =>
      ⟨h.live hlive, h.source⟩
    exact bound_kill (State.boundTo_bare _ b) (fun _ => habandoned _ _) _
  cases r with
  | ok reply =>
    dsimp only
    split
    · exact bound_next (State.boundTo_bare _ b) _ _
    · refine bound_next ?_ _ _
      exact h.renew hlive rfl rfl
  | error cause =>
    have hidle : State.BoundTo { c.state with fetching := false } b := h.congr rfl (.inl rfl) rfl
    exact bound_done (hidle.afterFailure cause)

theorem bound_resume {p : Point} (h : c.state.BoundTo b) (hp : (Task.suspended p).BoundTo b)
    (hs : c.state.Sound (flights {.suspended p} + rest)) (a : Answer) :
    BoundAfter b (c.resume p a).1 (c.resume p a).2.left := by
  have hkept : BoundAfter b c {.suspended p} := ⟨h, allBoundTo_singleton hp⟩
  cases p with
  | fetchCheckout f =>
    cases a with
    | checkout r =>
      cases r with
      | ok _ => exact ⟨h, allBoundTo_singleton trivial⟩
      | error cause => exact bound_fetchUnrouted (c := c.record .unavailable) h f cause
    | reply r => exact hkept
    | kill r => exact hkept
  | fetchReply f n =>
    cases a with
    | checkout r => exact hkept
    | reply r =>
      rw [flights_singleton] at hs
      obtain ⟨-, -, hc⟩ := hs.sole
      exact bound_fetchReplied h hc.live r
    | kill r => exact hkept
  | killCheckout d after =>
    have hd : d.BoundTo b := hp
    cases a with
    | checkout r =>
      cases r with
      | ok _ => exact ⟨h, allBoundTo_singleton (t := .suspended (.killReply _ after)) ⟨hd.1, hd.2⟩⟩
      | error cause =>
        exact ⟨(state_conclude _ d after).symm ▸ h, allBoundTo_of_eq_zero (left_conclude _ d after)⟩
    | reply r => exact hkept
    | kill r => exact hkept
  | killReply d after =>
    cases a with
    | checkout r => exact hkept
    | reply r => exact hkept
    | kill r =>
      have hstate : (c.killReplied d after r).1.state = c.state := by
        cases r <;> simp [killReplied]
      exact ⟨hstate.symm ▸ h, allBoundTo_of_eq_zero (left_killReplied c d after r)⟩

theorem bound_cancelFetch (h : c.state.BoundTo b) (back : List Resource) (runtime : Bool) :
    BoundAfter b (c.cancelFetch back runtime).1 ↑(c.cancelFetch back runtime).2.toList := by
  have hfailed : State.BoundTo
      { c.state with fetching := false, pin := c.state.pin.invalidate } b :=
    h.invalidate.congr rfl (.inl rfl) rfl
  simp only [cancelFetch]
  split
  · split
    · exact bound_done (State.boundTo_bare _ b)
    rename_i hid
    split
    · exact ⟨State.boundTo_bare _ b, allBoundTo_singleton (hfailed.abandoned hid)⟩
    · exact bound_done (State.boundTo_bare _ b)
  · exact bound_done hfailed

theorem bound_cancel (h : c.state.BoundTo b) (p : Point) (runtime : Bool) :
    BoundAfter b (c.cancel p runtime).1 ↑(c.cancel p runtime).2.toList := by
  cases p with
  | fetchCheckout f => exact bound_cancelFetch h _ runtime
  | fetchReply f n => exact bound_cancelFetch h _ runtime
  | killCheckout a after => exact bound_done h
  | killReply a after => exact bound_done h

theorem bound_closeQuietly (h : c.state.BoundTo b) : c.closeQuietly.1.state.BoundTo b := by
  unfold closeQuietly
  split
  · exact h
  · exact State.boundTo_bare _ b

theorem bound_drop (h : c.state.BoundTo b) (runtime : Bool) :
    BoundAfter b (c.drop runtime).1 ↑(c.drop runtime).2.toList := by
  have hquiet := bound_closeQuietly h
  simp only [drop]
  split
  · exact bound_done hquiet
  split
  · exact ⟨h, allBoundTo_singleton trivial⟩
  split
  · rename_i e
    rw [e] at hquiet
    exact bound_done hquiet
  · rename_i e
    rw [e] at hquiet
    exact bound_done hquiet

end Cursor

theorem bound_effect {c : Cursor} {t : Turn} {rest : Multiset Task} {b : Option Nat}
    (h : BoundAfter b c (t.party + rest)) (hs : c.state.Sound (flights (t.party + rest))) :
    BoundAfter b (t.effect c).cursor (t.effect c).left := by
  have hparty := (allBoundTo_add.mp h.left).1
  rw [flights_add] at hs
  cases t with
  | begin call =>
    cases call with
    | next => exact Cursor.bound_next h.state true false
    | tryNext => exact Cursor.bound_next h.state false false
    | close => exact Cursor.bound_close h.state
  | answer p a => exact Cursor.bound_resume h.state hparty.of_singleton hs a
  | cancel p runtime => exact Cursor.bound_cancel h.state p runtime
  | startTask t =>
    cases t with
    | close => exact Cursor.bound_close h.state
    | kill a => exact Cursor.bound_kill h.state (fun _ => hparty.of_singleton) .cleared
    | suspended p => exact ⟨h.state, hparty⟩
  | answerTask p a => exact Cursor.bound_resume h.state hparty.of_singleton hs a
  | discardTask t runtime =>
    cases t with
    | close => exact Cursor.bound_done h.state
    | kill a => exact Cursor.bound_done h.state
    | suspended p => exact Cursor.bound_cancel h.state p runtime
  | drop runtime => exact Cursor.bound_drop h.state runtime
  | retain r => exact Cursor.bound_done h.state
  | release r => exact Cursor.bound_done h.state

theorem bound_play {start c : Cursor} {ms : List Moment} {pending : Multiset Task}
    {b : Option Nat} (hsound : start.state.Sound 0) (h : start.state.BoundTo b)
    (hp : Play start ms c pending) : BoundAfter b c pending := by
  induction hp with
  | nil => exact Cursor.bound_done h
  | snoc before _ ih =>
    obtain ⟨hstate, hleft⟩ := bound_effect ih (sound_play hsound before)
    exact ⟨hstate, allBoundTo_add.mpr ⟨hleft, (allBoundTo_add.mp ih.left).2⟩⟩

/-- The connection to which a new cursor is bound: the one that it is handed behind a load balancer,
while the server's cursor is open. -/
def boundAt (reply : Reply) (connection : Option (Nat × ConnectionDescription)) : Option Nat :=
  match connection with
  | some (n, d) => if d.kind = .loadBalancer ∧ reply.id ≠ 0 then some n else none
  | none => none

theorem bound_create (reply : Reply) (options : Options) (server : ServerDescription)
    (connection : Option (Nat × ConnectionDescription)) (l : Ledger) :
    (Cursor.create reply options server connection l).state.BoundTo (boundAt reply connection) := by
  have hbare : ∀ c : Cursor, c.state.BoundTo (boundAt reply connection) →
      (if reply.id = 0 then (c.withState c.state.bare).giveBack c.state.abandoned.held
        else c).state.BoundTo (boundAt reply connection) := by
    intro c hc
    split
    · exact State.boundTo_bare _ _
    · exact hc
  refine hbare _ ?_
  cases connection with
  | none => exact ⟨.inl rfl, fun h => absurd rfl h⟩
  | some h =>
    obtain ⟨n, d⟩ := h
    dsimp only [boundAt, Option.map_some, Option.getD_some]
    split
    · exact ⟨.inl rfl, fun _ => rfl⟩
    · exact ⟨.inl rfl, fun h => absurd rfl h⟩

end ServerCursor
