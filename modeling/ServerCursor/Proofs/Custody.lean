import Mathlib.Data.Multiset.Bind
import ServerCursor.Proofs.Sound
import ServerCursor.Proofs.Wire

/-!
# Who knows the server's cursor

While the server's cursor is open, its number is in the state of the cursor or with a party that is
to discard it (`owes`). A part of a turn that begins with the number in the state leaves it there,
perhaps after another request, or hands it to a party, or tells the server to discard it, or leaves
it open for good: that is its `Fate`. What a party does that is to discard it is an `Errand`.

Main statement: `handles_effect` says which of these a turn is.
-/

namespace ServerCursor

/-- The server's cursor that a party is to discard. -/
def Task.owes : Task → Multiset Int64
  | .kill a => {a.id}
  | .suspended (.killCheckout a _) => {a.id}
  | _ => 0

/-- The server's cursor that a party has told the server to discard. -/
def Task.awaits : Task → Multiset Int64
  | .suspended (.killReply a _) => {a.id}
  | _ => 0

/-- The server's cursors that parties are to discard. -/
def owes (m : Multiset Task) : Multiset Int64 :=
  m.bind Task.owes

/-- The server's cursors that parties have told the server to discard. -/
def awaits (m : Multiset Task) : Multiset Int64 :=
  m.bind Task.awaits

@[simp] theorem owes_zero : owes 0 = 0 := rfl

@[simp] theorem owes_add (m n : Multiset Task) : owes (m + n) = owes m + owes n :=
  Multiset.add_bind ..

@[simp] theorem owes_singleton (t : Task) : owes {t} = t.owes :=
  Multiset.singleton_bind ..

@[simp] theorem awaits_zero : awaits 0 = 0 := rfl

@[simp] theorem awaits_add (m n : Multiset Task) : awaits (m + n) = awaits m + awaits n :=
  Multiset.add_bind ..

@[simp] theorem awaits_singleton (t : Task) : awaits {t} = t.awaits :=
  Multiset.singleton_bind ..

/-- What parties still have to do is not about discarding. -/
structure Quiet (m : Multiset Task) : Prop where
  /-- Nobody is to discard a cursor. -/
  owes : owes m = 0
  /-- Nobody waits for one to be discarded. -/
  awaits : awaits m = 0

theorem quiet_zero : Quiet 0 := ⟨rfl, rfl⟩

theorem quiet_singleton {t : Task} (ho : t.owes = 0) (ha : t.awaits = 0) : Quiet {t} :=
  ⟨(owes_singleton t).trans ho, (awaits_singleton t).trans ha⟩

/-- The cursor has given up its server's cursor and has nothing to hand out. -/
structure State.Laid (s : State) : Prop where
  /-- There is no server's cursor. -/
  id : s.id = 0
  /-- The cursor is bound to no connection. -/
  pin : s.pin = .unpinned
  /-- Nothing is left to hand out. -/
  buffer : s.buffer = []

theorem State.laid_bare {s : State} (h : s.buffer = []) : s.bare.Laid := ⟨rfl, rfl, h⟩

/-- What becomes of the server's cursor that a state knows. -/
inductive Fate (c : Cursor) (s : State) (c' : Cursor) (left : Multiset Task) (why : Prop) : Prop
  /-- It stays where it is. -/
  | kept (messages : c'.ledger.messages = c.ledger.messages) (id : c'.state.id = s.id)
      (quiet : Quiet left)
  /-- It is asked for the next batch. -/
  | asked (number : Int32) (messages : c'.ledger.messages =
      c.ledger.messages ++ [c.config.requester.getMore s.id number]) (live : s.id ≠ 0)
      (id : c'.state.id = s.id) (quiet : Quiet left)
  /-- A party is to discard it. -/
  | detached (messages : c'.ledger.messages = c.ledger.messages) (live : s.id ≠ 0)
      (laid : c'.state.Laid) (owes : owes left = {s.id}) (awaits : awaits left = 0)
      (intact : s.pin.isFailed = false)
  /-- The server is told to discard it. -/
  | told (messages : c'.ledger.messages = c.ledger.messages ++ [c.config.requester.kill s.id])
      (live : s.id ≠ 0) (laid : c'.state.Laid) (owes : owes left = 0)
      (awaits : awaits left = {s.id}) (intact : s.pin.isFailed = false)
  /-- It is left open. -/
  | lost (messages : c'.ledger.messages = c.ledger.messages) (live : s.id ≠ 0)
      (laid : c'.state.Laid) (quiet : Quiet left) (reason : why)

/-- What becomes of a server's cursor that a party is to discard. -/
inductive Errand (c : Cursor) (id : Int64) (c' : Cursor) (left : Multiset Task) (why : Prop) : Prop
  /-- The party waits for a connection. -/
  | kept (messages : c'.ledger.messages = c.ledger.messages) (owes : owes left = {id})
      (awaits : awaits left = 0) (unhindered : ¬ why)
  /-- The server is told to discard it. -/
  | told (messages : c'.ledger.messages = c.ledger.messages ++ [c.config.requester.kill id])
      (owes : owes left = 0) (awaits : awaits left = {id}) (unhindered : ¬ why)
  /-- It is left open. -/
  | lost (messages : c'.ledger.messages = c.ledger.messages) (quiet : Quiet left) (reason : why)

/-- A part of a turn that begins with the server's cursor in the state. -/
structure Passage (c : Cursor) (s : State) (c' : Cursor) (left : Multiset Task) (why : Prop) :
    Prop where
  /-- What never changes. -/
  config : c'.config = c.config
  /-- A connection that has failed had failed before. -/
  pin : c'.state.pin.isFailed = true → s.pin.isFailed = true ∨ why
  /-- A connection that had failed is not replaced. -/
  stuck : s.pin.isFailed = true → c'.state.id ≠ 0 → c'.state.pin.isFailed = true
  /-- Nothing arrives. -/
  buffer : c'.state.buffer = s.buffer ∨ c'.state.buffer = []
  /-- What becomes of the server's cursor. -/
  fate : Fate c s c' left why

section

variable {c c' : Cursor} {s : State} {why : Prop}

/-- What a part of a turn has to know of what comes before. -/
structure Follows (c₀ : Cursor) (s₀ : State) (c : Cursor) (s : State) : Prop where
  /-- What never changes. -/
  config : c.config = c₀.config
  /-- Nothing was sent in between. -/
  messages : c.ledger.messages = c₀.ledger.messages
  /-- The server's cursor is the same. -/
  id : s.id = s₀.id
  /-- The cursor is bound to the same connection. -/
  pin : s.pin = s₀.pin
  /-- Nothing has arrived. -/
  buffer : s.buffer = s₀.buffer

theorem Passage.after {c₀ : Cursor} {s₀ : State} {left : Multiset Task}
    (h : Passage c s c' left why) (hf : Follows c₀ s₀ c s) : Passage c₀ s₀ c' left why := by
  obtain ⟨hconfig, hmessages, hid, hpin, hbuffer⟩ := hf
  refine ⟨h.config.trans hconfig, hpin ▸ h.pin, hpin ▸ h.stuck, hbuffer ▸ h.buffer, ?_⟩
  cases h.fate with
  | kept messages id quiet => exact .kept (messages.trans hmessages) (id.trans hid) quiet
  | asked number messages live id quiet =>
    rw [hconfig, hmessages, hid] at messages
    rw [hid] at live id
    exact .asked number messages live id quiet
  | detached messages live laid owes awaits intact =>
    rw [hid] at live owes
    rw [hpin] at intact
    exact .detached (messages.trans hmessages) live laid owes awaits intact
  | told messages live laid owes awaits intact =>
    rw [hconfig, hmessages, hid] at messages
    rw [hid] at live awaits
    rw [hpin] at intact
    exact .told messages live laid owes awaits intact
  | lost messages live laid quiet reason =>
    rw [hid] at live
    exact .lost (messages.trans hmessages) live laid quiet reason

theorem Passage.imp {why' : Prop} {left : Multiset Task} (h : Passage c s c' left why)
    (hw : why → why') : Passage c s c' left why' := by
  refine ⟨h.config, fun hf => (h.pin hf).imp_right hw, h.stuck, h.buffer, ?_⟩
  cases h.fate with
  | kept messages id quiet => exact .kept messages id quiet
  | asked number messages live id quiet => exact .asked number messages live id quiet
  | detached messages live laid owes awaits intact =>
    exact .detached messages live laid owes awaits intact
  | told messages live laid owes awaits intact => exact .told messages live laid owes awaits intact
  | lost messages live laid quiet reason => exact .lost messages live laid quiet (hw reason)

/-- Neither the server's cursor nor what was sent has changed. -/
structure Unmoved (c : Cursor) (s : State) (c' : Cursor) : Prop where
  /-- What never changes. -/
  config : c'.config = c.config
  /-- Nothing was sent. -/
  messages : c'.ledger.messages = c.ledger.messages
  /-- The server's cursor is the same. -/
  id : c'.state.id = s.id
  /-- The cursor is bound to the same connection, or needs none any more. -/
  pin : c'.state.pin = s.pin ∨ c'.state.pin = .unpinned ∧ c'.state.id = 0
  /-- Nothing has arrived. -/
  buffer : c'.state.buffer = s.buffer ∨ c'.state.buffer = []

theorem passage_kept {left : Multiset Task} (h : Unmoved c s c') (hleft : Quiet left) :
    Passage c s c' left why := by
  refine ⟨h.config, fun hf => .inl ?_, fun hf hid => ?_, h.buffer, .kept h.messages h.id hleft⟩
  · rcases h.pin with hp | ⟨hp, -⟩
    · rw [← hp]
      exact hf
    · rw [hp] at hf
      cases hf
  · rcases h.pin with hp | ⟨-, h0⟩
    · rw [hp]
      exact hf
    · exact absurd h0 hid

end

/-- What is detached from a state. -/
structure Abandoned.Of (a : Abandoned) (s : State) : Prop where
  /-- Its server's cursor. -/
  id : a.id = s.id
  /-- The connection to which it is bound. -/
  pin : a.pin = s.pin
  /-- The source, if it holds that. -/
  source : a.source = s.source

/-- Nobody can tell the server to discard its cursor. -/
def Abandoned.Stuck (a : Abandoned) : Prop :=
  a.pin.isFailed = true ∨ a.route? = none ∧ a.source = false

/-- There is a way to the server's cursor that a state knows. -/
def State.Routed (s : State) : Prop :=
  s.id ≠ 0 → s.source = true ∨ s.pin ≠ .unpinned

namespace Cursor

variable {c : Cursor} {s : State} {why : Prop}

theorem passage_refuse (c : Cursor) (cause : IllegalState) :
    Passage c c.state (c.refuse cause).1 (c.refuse cause).2.left why :=
  passage_kept ⟨rfl, rfl, rfl, .inl rfl, .inl rfl⟩ quiet_zero

theorem kill_of_gone (c : Cursor) {a : Abandoned} (h : a.id = 0) (after : Outcome) :
    c.kill a after = c.conclude a after :=
  if_pos h

theorem messages_conclude (c : Cursor) (a : Abandoned) (after : Outcome) :
    (c.conclude a after).1.ledger.messages = c.ledger.messages := by
  simp only [conclude]
  split <;> exact Ledger.messages_giveBackAll _ _

theorem errand_kill (c : Cursor) {a : Abandoned} (hid : a.id ≠ 0) (after : Outcome) :
    Errand c a.id (c.kill a after).1 (c.kill a after).2.left a.Stuck := by
  have hlost : ∀ c' : Cursor, c'.ledger.messages = c.ledger.messages → a.Stuck →
      Errand c a.id (c'.conclude a after).1 (c'.conclude a after).2.left a.Stuck := by
    intro c' hc' hstuck
    refine .lost ((messages_conclude c' a after).trans hc') ?_ hstuck
    rw [left_conclude]
    exact quiet_zero
  simp only [kill]
  rw [if_neg hid]
  split
  · rename_i hfailed
    exact hlost _ rfl (.inl hfailed)
  rename_i hintact
  split
  · rename_i n hn
    refine .told (Ledger.messages_record _ _) ?_ ?_ fun hstuck => ?_
    · exact owes_singleton _
    · exact awaits_singleton _
    · rcases hstuck with hfailed | ⟨hnone, -⟩
      · exact hintact hfailed
      · rw [hn] at hnone
        cases hnone
  rename_i hnone
  split
  · rename_i hsource
    refine .kept ((Ledger.messages_record _ _).trans (List.append_nil _)) ?_ ?_ fun hstuck => ?_
    · exact owes_singleton _
    · exact awaits_singleton _
    · rcases hstuck with hfailed | ⟨-, hno⟩
      · exact hintact hfailed
      · rw [hsource] at hno
        cases hno
  · rename_i hsource
    exact hlost c rfl (.inr ⟨hnone, Bool.eq_false_iff.mpr hsource⟩)

theorem passage_kill {a : Abandoned} (hlaid : c.state.Laid) (ha : a.Of s) (hroute : s.Routed)
    (after : Outcome) :
    Passage c s (c.kill a after).1 (c.kill a after).2.left (s.pin.isFailed = true) := by
  have hafter : (c.kill a after).1.state.Laid := by
    rw [state_kill]
    exact hlaid
  refine ⟨config_kill c a after, fun hf => ?_, fun _ hid => absurd hafter.id hid,
    .inr hafter.buffer, ?_⟩
  · rw [hafter.pin] at hf
    cases hf
  by_cases h0 : s.id = 0
  · have hconclude := kill_of_gone c (ha.id.trans h0) after
    refine .kept ?_ (hafter.id.trans h0.symm) ?_
    · rw [hconclude]
      exact messages_conclude c a after
    · rw [hconclude, left_conclude]
      exact quiet_zero
  have hstuck : a.Stuck → s.pin.isFailed = true := by
    rintro (hfailed | ⟨hnone, hno⟩)
    · rw [← ha.pin]
      exact hfailed
    · rw [ha.source] at hno
      rw [Abandoned.route?, ha.pin, Option.or_eq_none_iff] at hnone
      rcases hroute h0 with hs | hp
      · rw [hs] at hno
        cases hno
      · exact absurd (Pin.connection?_eq_none_iff.mp hnone.1) hp
  have hintact : ¬ a.Stuck → s.pin.isFailed = false := fun h =>
    Bool.eq_false_iff.mpr fun hf => h (.inl (ha.pin ▸ hf))
  have hlive : a.id ≠ 0 := fun e => h0 (ha.id.symm.trans e)
  have herrand := errand_kill c hlive after
  rw [ha.id] at herrand
  cases herrand with
  | kept messages owes awaits unhindered =>
    exact .detached messages h0 hafter owes awaits (hintact unhindered)
  | told messages owes awaits unhindered =>
    exact .told messages h0 hafter owes awaits (hintact unhindered)
  | lost messages quiet reason => exact .lost messages h0 hafter quiet (hstuck reason)

theorem passage_deliver (hroute : c.state.Routed) :
    Passage c c.state c.deliver.1 c.deliver.2.left (c.state.pin.isFailed = true) := by
  simp only [deliver]
  split
  · refine Passage.after (passage_kill ?_ ⟨rfl, rfl, rfl⟩ hroute _) ⟨rfl, rfl, rfl, rfl, rfl⟩
    exact State.laid_bare rfl
  · exact passage_kept ⟨rfl, rfl, rfl, .inl rfl, .inr rfl⟩ quiet_zero

theorem passage_finish (hid : c.state.id = 0) :
    Passage c c.state c.finish.1 c.finish.2.left why := by
  have hmessages := Ledger.messages_giveBackAll c.ledger
    { c.state with closed := true }.abandoned.held
  exact passage_kept ⟨rfl, hmessages, hid.symm, .inr ⟨rfl, rfl⟩, .inl rfl⟩ quiet_zero

theorem passage_sendFetch {f : Fetch} (hid : f.id = c.state.id) (hlive : c.state.id ≠ 0) (n : Nat) :
    Passage c c.state (c.sendFetch f n).1 (c.sendFetch f n).2.left why := by
  refine ⟨rfl, .inl, fun hf _ => hf, .inl rfl, .asked f.number ?_ hlive rfl ?_⟩
  · rw [← hid]
    exact Ledger.messages_record _ _
  · exact quiet_singleton rfl rfl

theorem passage_fetchUnrouted {f : Fetch} (hbuffer : c.state.buffer = []) (hroute : c.state.Routed)
    (cause : Error) :
    Passage c c.state (c.fetchUnrouted f cause).1 (c.fetchUnrouted f cause).2.left
      (c.state.pin.isFailed = true) := by
  have hmessages := Ledger.messages_giveBackAll c.ledger f.held
  simp only [fetchUnrouted]
  split
  · refine Passage.after (passage_kill ?_ ⟨rfl, rfl, rfl⟩ hroute _) ⟨rfl, hmessages, rfl, rfl, rfl⟩
    exact State.laid_bare hbuffer
  · exact passage_kept ⟨rfl, hmessages, rfl, .inl rfl, .inl rfl⟩ quiet_zero

theorem passage_startFetch (hlive : c.state.id ≠ 0) (hbuffer : c.state.buffer = [])
    (hroute : c.state.Routed) (wait : Bool) :
    Passage c c.state (c.startFetch wait).1 (c.startFetch wait).2.left
      (c.state.pin.isFailed = true) := by
  simp only [startFetch]
  split
  · rename_i l hl
    refine passage_kept ⟨rfl, ?_, rfl, .inl rfl, .inl rfl⟩ quiet_zero
    split at hl
    · exact Ledger.messages_retain (.inr hl)
    · cases hl
  rename_i l hl
  have hmessages : l.messages = c.ledger.messages := by
    split at hl
    · exact Ledger.messages_retain (.inl hl)
    · cases hl
      rfl
  split
  · split
    · rename_i l' hl'
      refine passage_kept ⟨rfl, ?_, rfl, .inl rfl, .inl rfl⟩ quiet_zero
      refine (Ledger.messages_giveBackAll _ _).trans ?_
      exact (Ledger.messages_retain (.inr hl')).trans hmessages
    · rename_i l' hl'
      have hsent := (Ledger.messages_retain (.inl hl')).trans hmessages
      refine Passage.after (passage_sendFetch ?_ ?_ _) ⟨rfl, hsent, rfl, rfl, rfl⟩
      · rfl
      · exact hlive
  · split
    · refine passage_kept ⟨rfl, ?_, rfl, .inl rfl, .inl rfl⟩ (quiet_singleton rfl rfl)
      refine ((Ledger.messages_record l .asked).trans ?_).trans hmessages
      exact List.append_nil _
    · refine Passage.after (passage_fetchUnrouted ?_ ?_ _) ⟨rfl, hmessages, rfl, rfl, rfl⟩
      · exact hbuffer
      · exact hroute

theorem passage_next (hroute : c.state.Routed) (wait fetched : Bool) :
    Passage c c.state (c.next wait fetched).1 (c.next wait fetched).2.left
      (c.state.pin.isFailed = true) := by
  simp only [next]
  split
  · exact passage_refuse c _
  split
  · exact passage_refuse c _
  split
  · exact passage_deliver hroute
  rename_i hb
  have hbuffer : c.state.buffer = [] := by simpa using hb
  split
  · rename_i hid
    exact passage_finish hid
  rename_i hid
  split
  · exact passage_kept ⟨rfl, rfl, rfl, .inl rfl, .inl rfl⟩ quiet_zero
  split
  · exact passage_refuse c _
  · exact passage_startFetch hid hbuffer hroute wait

theorem passage_close (hroute : c.state.Routed) :
    Passage c c.state c.close.1 c.close.2.left (c.state.pin.isFailed = true) := by
  unfold close
  split
  · exact passage_kept ⟨rfl, rfl, rfl, .inl rfl, .inl rfl⟩ quiet_zero
  dsimp only
  split
  · exact passage_kept ⟨rfl, rfl, rfl, .inl rfl, .inr rfl⟩ quiet_zero
  · refine Passage.after (passage_kill ?_ ⟨rfl, rfl, rfl⟩ hroute _) ⟨rfl, rfl, rfl, rfl, rfl⟩
    exact State.laid_bare rfl

theorem passage_fetchCheckedOut {f : Fetch} {rest : Multiset Flight}
    (h : c.state.Sound ({(f, none)} + rest)) (r : Except Error Unit) :
    Passage c c.state (c.fetchCheckedOut f r).1 (c.fetchCheckedOut f r).2.left why := by
  obtain ⟨-, -, hc⟩ := h.sole
  cases r with
  | ok _ =>
    have hmessages := Ledger.messages_checkout c.ledger
    refine Passage.after (passage_sendFetch ?_ ?_ _) ⟨rfl, hmessages, rfl, rfl, rfl⟩
    · exact hc.id
    · exact hc.live
  | error cause =>
    have hmessages := (Ledger.messages_record c.ledger .unavailable).trans (List.append_nil _)
    have hpassage := passage_fetchUnrouted (c := c.record .unavailable) (f := f) hc.buffer h.routed
      cause
    refine (hpassage.imp fun hf => ?_).after ⟨rfl, hmessages, rfl, rfl, rfl⟩
    rw [state_record, hc.intact] at hf
    cases hf

/-- What a cursor knows once the server has answered its request, before it does anything else. -/
def hear (c : Cursor) (r : Except Error Reply) : State :=
  if c.state.closed then { c.state with id := openId r }
  else
    match r with
    | .ok reply =>
      let s := { c.state with fetching := false, id := reply.id }.push c.config reply.documents
      if reply.id = 0 then s.bare else s
    | .error cause => afterFailure { c.state with fetching := false } cause

theorem passage_fetchReplied {f : Fetch} {n : Nat} {rest : Multiset Flight}
    (h : c.state.Sound ({(f, some n)} + rest)) (r : Except Error Reply) :
    Passage c (c.hear r) (c.fetchReplied f n r).1 (c.fetchReplied f n r).2.left why := by
  obtain ⟨-, -, hc⟩ := h.sole
  have hroute := h.routed hc.live
  have hback : ∀ l : Ledger, (l.giveBackAll (.connection n :: f.held)).messages = l.messages :=
    fun l => Ledger.messages_giveBackAll l _
  unfold fetchReplied hear
  by_cases hclosed : c.state.closed = true
  · rw [if_pos hclosed, if_pos hclosed]
    simp only [fetchRepliedClosed]
    have hmessages := Ledger.messages_giveBackAll c.ledger f.held
    refine Passage.imp (Passage.after (passage_kill ?_ ⟨rfl, rfl, rfl⟩ ?_ _)
      ⟨rfl, hmessages, rfl, rfl, rfl⟩) fun hf => ?_
    · exact State.laid_bare hc.buffer
    · exact fun _ => hroute
    · rw [hc.intact] at hf
      cases hf
  rw [if_neg hclosed, if_neg hclosed]
  cases r with
  | ok reply =>
    dsimp only
    split
    · have hmessages := fun l rs => (Ledger.messages_giveBackAll _ rs).trans (hback l)
      refine Passage.imp (Passage.after (passage_next ?_ f.wait true)
        ⟨rfl, hmessages _ _, rfl, rfl, rfl⟩) fun hf => ?_
      · exact fun hlive => absurd rfl hlive
      · cases hf
    · refine Passage.imp (Passage.after (passage_next ?_ f.wait true)
        ⟨rfl, hback _, rfl, rfl, rfl⟩) fun hf => ?_
      · exact fun _ => hroute
      · have hpin : c.state.pin.isFailed = true := hf
        rw [hc.intact] at hpin
        cases hpin
  | error cause =>
    exact passage_kept ⟨rfl, hback _, rfl, .inl rfl, .inl rfl⟩ quiet_zero

/-- A request that is given up leaves the server's cursor where it is, or to a task, or open. -/
theorem passage_cancelFetch {g : Flight} {rest : Multiset Flight}
    (h : c.state.Sound ({g} + rest)) (back : List Resource) (runtime : Bool) (hw : why) :
    Passage c c.state (c.cancelFetch back runtime).1
      ↑(c.cancelFetch back runtime).2.toList why := by
  obtain ⟨-, -, hc⟩ := h.sole
  have hback := Ledger.messages_giveBackAll c.ledger back
  simp only [cancelFetch]
  have hlaid := State.laid_bare
    (s := { c.state with fetching := false, pin := c.state.pin.invalidate }) hc.buffer
  split
  · split
    · rename_i hid
      exact absurd hid hc.live
    split
    · exact ⟨rfl, fun _ => .inr hw, fun _ hid => absurd hlaid.id hid, .inr hlaid.buffer,
        .detached hback hc.live hlaid (owes_singleton _) (awaits_singleton _) hc.intact⟩
    · exact ⟨rfl, fun _ => .inr hw, fun _ hid => absurd hlaid.id hid, .inr hlaid.buffer,
        .lost ((Ledger.messages_giveBackAll _ _).trans hback) hc.live hlaid quiet_zero hw⟩
  · refine ⟨rfl, fun _ => .inr hw, fun hf _ => ?_, .inl rfl, .kept hback rfl quiet_zero⟩
    rw [hc.intact] at hf
    cases hf

theorem passage_closeQuietly (h : c.needsKill = false) :
    Passage c c.state c.closeQuietly.1 0 why := by
  simp only [closeQuietly]
  by_cases hclosed : c.state.closed = true
  · rw [if_pos hclosed]
    exact passage_kept ⟨rfl, rfl, rfl, .inl rfl, .inl rfl⟩ quiet_zero
  · rw [if_neg hclosed]
    have hid : c.state.id = 0 := by simpa [needsKill, hclosed] using h
    have hback := Ledger.messages_giveBackAll c.ledger
      { c.state with closed := true, buffer := [] }.abandoned.held
    exact passage_kept ⟨rfl, hback, hid.symm, .inr ⟨rfl, rfl⟩, .inr rfl⟩ quiet_zero

theorem passage_drop (c : Cursor) (runtime : Bool) :
    Passage c c.state (c.drop runtime).1 ↑(c.drop runtime).2.toList
      (runtime = false ∧ c.needsKill = true) := by
  unfold drop
  split
  · rename_i hneeds
    exact passage_closeQuietly (by simpa using hneeds)
  rename_i hneeds
  have hneeds' : c.needsKill = true := by simpa using hneeds
  split
  · exact passage_kept ⟨rfl, rfl, rfl, .inl rfl, .inl rfl⟩ (quiet_singleton rfl rfl)
  rename_i hruntime
  obtain ⟨hopen, hlive⟩ : c.state.closed = false ∧ c.state.id ≠ 0 := by
    simpa [needsKill] using hneeds'
  have hback := Ledger.messages_giveBackAll c.ledger
    { c.state with closed := true, buffer := [] }.abandoned.held
  have hlaid := State.laid_bare (s := { c.state with closed := true, buffer := [] }) rfl
  unfold closeQuietly
  rw [hopen]
  simp only [hlive, if_false, Bool.false_eq_true]
  exact ⟨rfl, fun hfailed => absurd hfailed Bool.false_ne_true, fun _ hid => absurd rfl hid,
    .inr rfl, .lost hback hlive hlaid quiet_zero ⟨Bool.eq_false_iff.mpr hruntime, hneeds'⟩⟩

theorem errand_killCheckedOut (c : Cursor) (a : Abandoned) (after : Outcome)
    (r : Except Error Unit) :
    Errand c a.id (c.killCheckedOut a after r).1 (c.killCheckedOut a after r).2.left
      (∃ cause, r = .error cause) := by
  cases r with
  | ok _ =>
    refine .told ?_ (owes_singleton _) (awaits_singleton _) fun ⟨_, h⟩ => nomatch h
    exact (Ledger.messages_record _ _).trans (congrArg (· ++ _) (Ledger.messages_checkout _))
  | error cause =>
    have hmessages := (Ledger.messages_record c.ledger .unavailable).trans (List.append_nil _)
    refine .lost ((messages_conclude _ a after).trans hmessages) ?_ ⟨cause, rfl⟩
    rw [killCheckedOut, left_conclude]
    exact quiet_zero

theorem state_killCheckedOut (c : Cursor) (a : Abandoned) (after : Outcome)
    (r : Except Error Unit) : (c.killCheckedOut a after r).1.state = c.state := by
  cases r with
  | ok _ => rfl
  | error cause => exact state_conclude _ a after

theorem config_killCheckedOut (c : Cursor) (a : Abandoned) (after : Outcome)
    (r : Except Error Unit) : (c.killCheckedOut a after r).1.config = c.config := by
  cases r with
  | ok _ => rfl
  | error cause => exact config_conclude _ a after

theorem passage_killReplied (c : Cursor) (a : Abandoned) (after : Outcome) (r : Except Error Unit) :
    Passage c c.state (c.killReplied a after r).1 (c.killReplied a after r).2.left why := by
  rw [left_killReplied]
  cases r with
  | ok _ =>
    have hstate := state_conclude (c.emit (.killed a.id c.config.ns)) a after
    exact passage_kept ⟨config_conclude _ a after, messages_conclude _ a after,
      congrArg State.id hstate, .inl (congrArg State.pin hstate),
      .inl (congrArg State.buffer hstate)⟩ quiet_zero
  | error cause =>
    have hstate := state_conclude (c.emit (.killFailed a.id c.config.ns cause)) a after
    exact passage_kept ⟨config_conclude _ a after, messages_conclude _ a after,
      congrArg State.id hstate, .inl (congrArg State.pin hstate),
      .inl (congrArg State.buffer hstate)⟩ quiet_zero

end Cursor

/-- Whether an answer denies a party the connection to discard a cursor over. -/
def Point.denied : Point → Answer → Bool
  | .killCheckout _ _, .checkout (.error _) => true
  | _, _ => false

/-- What a cursor knows of its server in a turn before it does anything else. -/
def Cursor.met (c : Cursor) : Option (Nat × Except Error Reply) → State
  | some (_, r) => c.hear r
  | none => c.state

/-- What a turn does with the server's cursor: with the one that the state knows, or with the one
that the party is to discard, or nothing at all. -/
inductive Handles (c : Cursor) (party : Multiset Task) (heard : Option (Nat × Except Error Reply))
    (c' : Cursor) (left : Multiset Task) (why : Prop) : Prop
  /-- The turn begins with the server's cursor in the state. -/
  | state (owes : owes party = 0) (passage : Passage c (c.met heard) c' left why)
  /-- The party is to discard a server's cursor. -/
  | party (id : Int64) (owes : owes party = {id}) (awaits : awaits party = 0)
      (deaf : heard = none) (config : c'.config = c.config) (state : c'.state = c.state)
      (errand : Errand c id c' left why)
  /-- The party goes on waiting. -/
  | nothing (deaf : heard = none) (cursor : c' = c) (left : left = party) (unhindered : ¬ why)

namespace Cursor

variable {c : Cursor} {rest : Multiset Flight}

theorem handles_resume {p : Point} (h : c.state.Sound (flights {.suspended p} + rest))
    (a : Answer) :
    Handles c {.suspended p} (p.heard? a) (c.resume p a).1 (c.resume p a).2.left
      (p.denied a = true) := by
  rw [flights_singleton] at h
  cases p with
  | fetchCheckout f =>
    cases a with
    | checkout r => exact .state (owes_singleton _) (passage_fetchCheckedOut h r)
    | reply r => exact .nothing rfl rfl rfl nofun
    | kill r => exact .nothing rfl rfl rfl nofun
  | fetchReply f n =>
    cases a with
    | checkout r => exact .nothing rfl rfl rfl nofun
    | reply r => exact .state (owes_singleton _) (passage_fetchReplied h r)
    | kill r => exact .nothing rfl rfl rfl nofun
  | killCheckout b after =>
    cases a with
    | checkout r =>
      have herrand := errand_killCheckedOut c b after r
      have hdenied : (∃ cause, r = .error cause) =
          ((Point.killCheckout b after).denied (.checkout r) = true) := by
        cases r <;> simp [Point.denied]
      exact .party b.id (owes_singleton _) (awaits_singleton _) rfl
        (config_killCheckedOut c b after r) (state_killCheckedOut c b after r) (hdenied ▸ herrand)
    | reply r => exact .nothing rfl rfl rfl nofun
    | kill r => exact .nothing rfl rfl rfl nofun
  | killReply b after =>
    cases a with
    | checkout r => exact .nothing rfl rfl rfl nofun
    | reply r => exact .nothing rfl rfl rfl nofun
    | kill r => exact .state (owes_singleton _) (passage_killReplied c b after r)

theorem handles_cancel {p : Point} (h : c.state.Sound (flights {.suspended p} + rest))
    (runtime : Bool) :
    Handles c {.suspended p} none (c.cancel p runtime).1 ↑(c.cancel p runtime).2.toList True := by
  have hback := fun rs => Ledger.messages_giveBackAll c.ledger rs
  rw [flights_singleton] at h
  cases p with
  | fetchCheckout f =>
    exact .state (owes_singleton _) (passage_cancelFetch h f.held runtime trivial)
  | fetchReply f n =>
    exact .state (owes_singleton _)
      (passage_cancelFetch h (.connection n :: f.held) runtime trivial)
  | killCheckout a after =>
    exact .party a.id (owes_singleton _) (awaits_singleton _) rfl rfl rfl
      (.lost (hback a.held) quiet_zero trivial)
  | killReply a after =>
    exact .state (owes_singleton _)
      (passage_kept ⟨rfl, hback a.held, rfl, .inl rfl, .inl rfl⟩ quiet_zero)

end Cursor

/-- Why a server's cursor may be left open in a turn. -/
def Turn.Forfeits (c : Cursor) : Turn → Prop
  | .begin _ => c.state.pin.isFailed = true
  | .answer p a => p.denied a = true
  | .cancel _ _ => True
  | .startTask .close => c.state.pin.isFailed = true
  | .startTask (.kill a) => a.Stuck
  | .startTask (.suspended _) => False
  | .answerTask p a => p.denied a = true
  | .discardTask _ _ => True
  | .drop runtime => runtime = false ∧ c.needsKill = true
  | .retain _ => False
  | .release _ => False

theorem handles_effect {c : Cursor} {t : Turn} {rest : Multiset Task}
    (h : c.state.Sound (flights (t.party + rest))) (hp : AllProper t.party) :
    Handles c t.party t.heard? (t.effect c).cursor (t.effect c).left (t.Forfeits c) := by
  have hroute : c.state.Routed := h.routed
  rw [flights_add] at h
  cases t with
  | begin call =>
    refine .state rfl ?_
    cases call with
    | next => exact Cursor.passage_next hroute true false
    | tryNext => exact Cursor.passage_next hroute false false
    | close => exact Cursor.passage_close hroute
  | answer p a => exact Cursor.handles_resume h a
  | cancel p runtime => exact Cursor.handles_cancel h runtime
  | startTask t =>
    cases t with
    | close => exact .state (owes_singleton _) (Cursor.passage_close hroute)
    | kill a =>
      obtain ⟨hid, -⟩ : a.id ≠ 0 ∧ a.connection = none := hp.of_singleton
      exact .party a.id (owes_singleton _) (awaits_singleton _) rfl (Cursor.config_kill ..)
        (Cursor.state_kill ..) (Cursor.errand_kill c hid .cleared)
    | suspended p => exact .nothing rfl rfl rfl nofun
  | answerTask p a => exact Cursor.handles_resume h a
  | discardTask t runtime =>
    cases t with
    | close =>
      exact .state (owes_singleton _) (passage_kept ⟨rfl, rfl, rfl, .inl rfl, .inl rfl⟩ quiet_zero)
    | kill a =>
      have hback := Ledger.messages_giveBackAll c.ledger a.held
      exact .party a.id (owes_singleton _) (awaits_singleton _) rfl rfl rfl
        (.lost hback quiet_zero trivial)
    | suspended p => exact Cursor.handles_cancel h runtime
  | drop runtime => exact .state rfl (Cursor.passage_drop c runtime)
  | retain r =>
    refine .state rfl (passage_kept ⟨rfl, ?_, rfl, .inl rfl, .inl rfl⟩ quiet_zero)
    cases hl : c.ledger.retain r <;> simp only [Turn.effect, Turn.Effect.ofLedger, hl]
    · exact Ledger.messages_retain (.inr hl)
    · exact Ledger.messages_retain (.inl hl)
  | release r =>
    refine .state rfl (passage_kept ⟨rfl, ?_, rfl, .inl rfl, .inl rfl⟩ quiet_zero)
    cases hl : c.ledger.release r <;> simp only [Turn.effect, Turn.Effect.ofLedger, hl]
    · exact Ledger.messages_release (.inr hl)
    · exact Ledger.messages_release (.inl hl)

theorem Point.eq_of_heard {p : Point} {a : Answer} {n : Nat} {r : Except Error Reply}
    (h : p.heard? a = some (n, r)) : ∃ f, p = .fetchReply f n ∧ a = .reply r := by
  cases p with
  | fetchReply f m =>
    cases a with
    | reply _ =>
      cases h
      exact ⟨f, rfl, rfl⟩
    | checkout _ => cases h
    | kill _ => cases h
  | fetchCheckout f => cases h
  | killCheckout a after => cases h
  | killReply a after => cases h

theorem party_of_heard {t : Turn} {n : Nat} {r : Except Error Reply}
    (h : t.heard? = some (n, r)) : ∃ f, t.party = {.suspended (.fetchReply f n)} := by
  cases t with
  | answer p a =>
    obtain ⟨f, rfl, -⟩ := Point.eq_of_heard h
    exact ⟨f, rfl⟩
  | answerTask p a =>
    obtain ⟨f, rfl, -⟩ := Point.eq_of_heard h
    exact ⟨f, rfl⟩
  | _ => cases h

theorem answer_of_heard {t : Turn} {rest : Multiset Task} {n : Nat} {r : Except Error Reply}
    (ha : t.Allowed rest) (h : t.heard? = some (n, r)) :
    ∃ f, t = .answer (.fetchReply f n) (.reply r) := by
  cases t with
  | answer p a =>
    obtain ⟨f, rfl, rfl⟩ := Point.eq_of_heard h
    exact ⟨f, rfl⟩
  | answerTask p a =>
    obtain ⟨f, rfl, -⟩ := Point.eq_of_heard h
    obtain ⟨hnone, -⟩ := background_singleton.mp (ha.task rfl)
    cases hnone
  | _ => cases h

/-- A cursor hears from its server only while it has a request under way. -/
theorem carries_of_heard {c : Cursor} {t : Turn} {rest : Multiset Task} {n : Nat}
    {r : Except Error Reply}
    (hs : c.state.Sound (flights (t.party + rest))) (h : t.heard? = some (n, r)) :
    ∃ f, c.state.Carries (f, some n) ∧ owes t.party = 0 := by
  obtain ⟨f, hf⟩ := party_of_heard h
  rw [hf, flights_add, flights_singleton] at hs
  obtain ⟨-, -, hc⟩ := hs.sole
  exact ⟨f, hc, by rw [hf]; exact owes_singleton _⟩

section Handles

variable {c c' : Cursor} {party left : Multiset Task} {heard : Option (Nat × Except Error Reply)}
  {why : Prop}

theorem Handles.config (h : Handles c party heard c' left why) : c'.config = c.config := by
  cases h with
  | state owes passage => exact passage.config
  | party id owes awaits deaf config state errand => exact config
  | nothing deaf cursor left unhindered => rw [cursor]

theorem Handles.gone (h : Handles c party heard c' left why) (hid : (c.met heard).id = 0) :
    c'.state.id = 0 := by
  cases h with
  | state owes passage =>
    cases passage.fate with
    | kept messages id quiet => exact id.trans hid
    | asked number messages live id quiet => exact absurd hid live
    | detached messages live laid owes awaits intact => exact laid.id
    | told messages live laid owes awaits intact => exact laid.id
    | lost messages live laid quiet reason => exact laid.id
  | party id owes awaits deaf config state errand =>
    subst deaf
    rw [state]
    exact hid
  | nothing deaf cursor left unhindered =>
    subst deaf cursor
    exact hid

theorem Handles.buffer (h : Handles c party heard c' left why) :
    c'.state.buffer = (c.met heard).buffer ∨ c'.state.buffer = [] := by
  cases h with
  | state owes passage => exact passage.buffer
  | party id owes awaits deaf config state errand =>
    subst deaf
    exact .inl (congrArg State.buffer state)
  | nothing deaf cursor left unhindered =>
    subst deaf cursor
    exact .inl rfl

end Handles

/-- The configuration of a cursor never changes. -/
theorem config_onward {start c c' : Cursor} {before after : List Moment}
    {pending pending' : Multiset Task} (hsound : start.state.Sound 0)
    (hp : Play start before c pending) (hp' : Play start (before ++ after) c' pending') :
    c'.config = c.config := by
  refine Play.onward (I := fun _ d _ => d.config = c.config) hp hp' rfl ?_
  rintro ms d rest t hplay - hconfig
  have hs := sound_play hsound hplay
  exact (handles_effect hs (proper_party hplay)).config.trans hconfig

end ServerCursor
