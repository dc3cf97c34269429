import ServerCursor.Proofs.Race
import ServerCursor.Proofs.Underway

/-!
# A request that fails

A request fails if there is no connection for it, or if it has no proper reply. Its call then ends
with that error, and the cursor is what it was when the request started (`Cursor.Restores`): only a
server that does not know the cursor and a connection that broke are remembered
(`State.Remembers`). Whatever else has failed, the next call for documents makes the same request,
and what becomes of its reply is what would have become of it the first time.

Nothing but what others do to the count of resources tells the cursor from the one in which the
request was started; a connection that was taken from the source is given back.

Main statement: `failed_request_leaves_no_trace` says so for every history.
-/

namespace ServerCursor

/-- The error with which a request fails. -/
def Point.failure? : Point → Answer → Option Error
  | .fetchCheckout _, .checkout (.error cause) => some cause
  | .fetchReply _ _, .reply (.error cause) => some cause
  | _, _ => none

theorem Point.flight?_of_failure {p : Point} {a : Answer} {cause : Error}
    (h : p.failure? a = some cause) : p.flight?.isSome := by
  unfold failure? at h
  split at h
  · rfl
  · rfl
  · cases h

/-- A failure changes the state: the server does not know the cursor, or the connection of the
cursor has broken. -/
def State.Remembers (s : State) (cause : Error) : Point → Prop
  | .fetchReply _ _ =>
    cause.isCursorNotFound = true ∨ cause.isNetwork = true ∧ s.pin ≠ .unpinned
  | _ => False

/-- The state in which a request was started, after it has failed. -/
def State.failed (s : State) (cause : Error) : Point → State
  | .fetchReply _ _ =>
    { s with
      id := if cause.isCursorNotFound then 0 else s.id
      pin := if cause.isNetwork then s.pin.invalidate else s.pin }
  | _ => s

theorem Error.isCursorNotFound_iff (cause : Error) :
    cause.isCursorNotFound = true ↔
      ∃ e, cause = .command e ∧ (e.code = 43 ∨ e.code = 237) := by
  cases cause with
  | command e => simp [isCursorNotFound, cursorNotFoundCodes]
  | _ => simp [isCursorNotFound]

theorem State.failed_of_not_remembers {s : State} {cause : Error} {p : Point}
    (h : ¬ s.Remembers cause p) : s.failed cause p = s := by
  cases p with
  | fetchReply f n =>
    obtain ⟨hknown, hsound⟩ := not_or.mp h
    have hpin : (if cause.isNetwork then s.pin.invalidate else s.pin) = s.pin := by
      by_cases hnetwork : cause.isNetwork = true
      · have hfree : s.pin = .unpinned := by
          by_contra hbound
          exact hsound ⟨hnetwork, hbound⟩
        rw [if_pos hnetwork, hfree]
        rfl
      · exact if_neg hnetwork
    simp only [failed, hpin, if_neg hknown]
  | _ => rfl

theorem State.afterFailure_eq (s : State) (cause : Error) (f : Fetch) (n : Nat) :
    Cursor.afterFailure s cause = s.failed cause (.fetchReply f n) := by
  unfold Cursor.afterFailure failed
  by_cases hunknown : cause.isCursorNotFound = true
  · have hheard : ¬ cause.isNetwork = true := by
      obtain ⟨e, rfl, -⟩ := (Error.isCursorNotFound_iff cause).mp hunknown
      nofun
    simp only [if_pos hunknown, if_neg hheard]
  · simp only [if_neg hunknown]
    split <;> rfl

/-- What a cursor is after a request that it has started has failed. -/
structure Cursor.Restores (start : Cursor) (wait : Bool) (during : List Moment) (p : Point)
    (cause : Error) (c : Cursor) : Prop where
  state : c.state = start.state.failed cause p
  config : c.config = start.config
  issued : start.ledger.issued ≤ c.ledger.issued
  /-- The request was sent, unless there was no connection for it. -/
  messages : c.ledger.messages ++ p.unsent c = start.ledger.messages ++ [start.getMore wait]
  /-- Others have joined and left. Nobody else is an owner more or less. -/
  owners : ∀ r, start.ledger.Lasts c.ledger r →
    c.ledger.owners r = othersAfter start.ledger.owners during r
  /-- A connection that was taken from the source has no owner, unless others have joined it. -/
  fresh : ∀ n, start.ledger.issued < n → n ≤ c.ledger.issued →
    (∀ m ∈ during, m.turn ≠ .retain (.connection n)) → c.ledger.owners (.connection n) = 0

namespace Cursor

variable {c : Cursor} {p : Point} {a : Answer} {cause : Error}

/-- A request that fails ends its call and gives back what it held. -/
structure Fails (c : Cursor) (p : Point) (cause : Error) (r : Cursor × Progress) : Prop where
  done : r.2 = .done (.failed cause)
  state : r.1.state = State.failed { c.state with fetching := false } cause p
  config : r.1.config = c.config
  issued : r.1.ledger.issued = c.ledger.issued
  messages : r.1.ledger.messages = c.ledger.messages
  owners : ∀ q, r.1.ledger.owners q = c.ledger.owners q - p.held.count q

theorem fails_resume (hopen : c.state.closed = false) (h : p.failure? a = some cause) :
    c.Fails p cause (c.resume p a) := by
  unfold Point.failure? at h
  split at h
  · rename_i f cause
    cases h
    have hresume : c.resume (.fetchCheckout f) (.checkout (.error cause)) =
        (((c.record .unavailable).giveBack f.held).withState { c.state with fetching := false },
          .done (.failed cause)) := by
      change (c.record .unavailable).fetchUnrouted f cause = _
      unfold fetchUnrouted
      exact if_neg (Bool.eq_false_iff.mp hopen)
    rw [hresume]
    refine ⟨rfl, rfl, rfl, Ledger.issued_giveBackAll .., ?_, Ledger.owners_giveBackAll _ _⟩
    exact (Ledger.messages_giveBackAll ..).trans
      ((Ledger.messages_record ..).trans (List.append_nil _))
  · rename_i f n cause
    cases h
    have hresume : c.resume (.fetchReply f n) (.reply (.error cause)) =
        (((c.emit (.fetchFailed f.id c.config.ns cause)).withState
          (State.failed { c.state with fetching := false } cause (.fetchReply f n))).giveBack
            (.connection n :: f.held), .done (.failed cause)) := by
      change c.fetchReplied f n (.error cause) = _
      unfold fetchReplied
      rw [if_neg (Bool.eq_false_iff.mp hopen), ← State.afterFailure_eq]
    rw [hresume]
    exact ⟨rfl, rfl, rfl, Ledger.issued_giveBackAll .., Ledger.messages_giveBackAll ..,
      Ledger.owners_giveBackAll _ _⟩
  · cases h

end Cursor

namespace Underway

variable {start c : Cursor} {wait : Bool} {during : List Moment} {p : Point}

theorem routed (h : Underway start wait during c p) (hrouted : c.state.Routed) :
    start.state.Routed := by
  rw [h.state] at hrouted
  exact hrouted

theorem room (h : Underway start wait during c p) (hroom : c.state.Room c.config) :
    start.state.Room start.config := by
  rw [h.state, h.config] at hroom
  exact hroom

theorem restores {cause : Error} {r : Cursor × Progress} (h : Underway start wait during c p)
    (hfails : c.Fails p cause r) : start.Restores wait during p cause r.1 := by
  have hstate : State.failed { c.state with fetching := false } cause p =
      start.state.failed cause p := by
    rw [h.state, ← h.ready.idle]
  refine ⟨hfails.state.trans hstate, hfails.config.trans h.config, ?_, ?_, fun q hq => ?_,
    fun n hlt hle hnone => ?_⟩
  · rw [hfails.issued]
    exact h.issued
  · rw [hfails.messages, Point.unsent_congr hfails.config, h.messages]
  · have hlast : start.ledger.Lasts c.ledger q := fun n hn hlt => hfails.issued ▸ hq n hn hlt
    have howners := h.owners q hlast
    rw [hfails.owners]
    omega
  · have hfew := h.fresh n hlt (hfails.issued ▸ hle) hnone
    rw [hfails.owners]
    omega

/-- What is left to the cursor when the request has failed is left to it when the request gives back
what it holds. -/
theorem covers_giveBackAll {cause : Error} {r : Cursor × Progress}
    (h : Underway start wait during c p) (hfails : c.Fails p cause r)
    (hkept : r.1.ledger.Covers ↑start.state.held) :
    (c.ledger.giveBackAll p.held).Covers ↑c.state.held := by
  have hheld : c.state.held = start.state.held := by
    rw [h.state]
    rfl
  intro q
  have hq := hkept q
  rw [hfails.owners] at hq
  rw [hheld, Ledger.owners_giveBackAll]
  exact hq

end Underway

namespace Cursor

variable {c c' : Cursor}

/-- Two cursors in the same state. What they hold is theirs. -/
structure Peers (c c' : Cursor) : Prop where
  state : c'.state = c.state
  config : c'.config = c.config
  covers : c.ledger.Covers ↑c.state.held
  covers' : c'.ledger.Covers ↑c.state.held
  routed : c.state.Routed

/-- Two calls have come equally far, and their cursors are in the same state. -/
def Abreast (r r' : Cursor × Progress) : Prop :=
  r'.2 = r.2 ∧ r'.1.state = r.1.state

theorem firstPoint_congr (hstate : c'.state = c.state) (hconfig : c'.config = c.config)
    (wait : Bool) : c'.firstPoint wait = c.firstPoint wait := by
  rw [firstPoint, firstPoint, request, request, hstate, hconfig]

theorem getMore_congr (hstate : c'.state = c.state) (hconfig : c'.config = c.config)
    (wait wait' : Bool) : c'.getMore wait' = c.getMore wait := by
  rw [getMore, getMore, request, request, hstate, hconfig]

theorem abreast_kill (hstate : c'.state = c.state) (a : Abandoned) (after : Outcome) :
    Abreast (c.kill a after) (c'.kill a after) := by
  refine ⟨?_, by rw [state_kill, state_kill, hstate]⟩
  have hconclude : ∀ d d' : Cursor, (d'.conclude a after).2 = (d.conclude a after).2 := by
    intro d d'
    cases after <;> rfl
  unfold kill
  split
  · exact hconclude ..
  split
  · exact hconclude ..
  split
  · rfl
  split
  · rfl
  · exact hconclude ..

theorem abreast_deliver (hstate : c'.state = c.state) (hconfig : c'.config = c.config) :
    Abreast c.deliver c'.deliver := by
  unfold deliver
  dsimp only
  rw [hstate, hconfig]
  split
  · refine abreast_kill ?_ _ _
    rfl
  · exact ⟨rfl, rfl⟩

theorem abreast_finish (hstate : c'.state = c.state) : Abreast c.finish c'.finish := by
  unfold finish
  rw [hstate]
  exact ⟨rfl, rfl⟩

/-- The same call on two cursors in the same state comes equally far. While there are documents, or
when there is no server's cursor any more, it is the same whether it goes on without. -/
theorem Peers.next (h : c.Peers c') {wait wait' : Bool}
    (hwait : wait' = wait ∨ c.state.buffer ≠ [] ∨ c.state.id = 0) (fetched : Bool) :
    Abreast (c.next wait fetched) (c'.next wait' fetched) := by
  unfold Cursor.next
  simp only [h.state]
  by_cases hclosed : c.state.closed = true
  · simp only [if_pos hclosed]
    exact ⟨rfl, h.state⟩
  by_cases hfetching : c.state.fetching = true
  · simp only [if_neg hclosed, if_pos hfetching]
    exact ⟨rfl, h.state⟩
  simp only [if_neg hclosed, if_neg hfetching]
  by_cases hbuffer : c.state.buffer = []
  swap
  · have hsome : (!c.state.buffer.isEmpty) = true := by simpa using hbuffer
    simp only [if_pos hsome]
    exact abreast_deliver h.state h.config
  simp only [hbuffer, List.isEmpty_nil, Bool.not_true, Bool.false_eq_true, if_false]
  by_cases hid : c.state.id = 0
  · simp only [if_pos hid]
    exact abreast_finish h.state
  obtain rfl : wait' = wait := by
    rcases hwait with hsame | hsome | hgone
    · exact hsame
    · exact absurd hbuffer hsome
    · exact absurd hgone hid
  simp only [if_neg hid]
  split
  · exact ⟨rfl, h.state⟩
  split
  · exact ⟨rfl, h.state⟩
  · have hcovers' : c'.ledger.Covers ↑c'.state.held := by
      rw [h.state]
      exact h.covers'
    have hasked := asked_of_covers h.covers (h.routed hid) wait'
    have hasked' := asked_of_covers hcovers' (by rw [h.state]; exact h.routed hid) wait'
    refine ⟨?_, ?_⟩
    · rw [hasked.progress, hasked'.progress, firstPoint_congr h.state h.config]
    · rw [hasked.state, hasked'.state, h.state]

/-- A request was sent over a connection and waits for its reply. When it gives back what it holds,
the cursor is left what it holds itself. -/
structure Sent (c : Cursor) (f : Fetch) (n : Nat) : Prop where
  opened : c.state.closed = false
  drained : c.state.buffer = []
  room : c.config.limitReached c.state.received = false
  routed : c.state.source = true ∨ c.state.pin ≠ .unpinned
  covers : (c.ledger.giveBackAll (.connection n :: f.held)).Covers ↑c.state.held

theorem Sent.covers_takenIn {f : Fetch} {n : Nat} (h : c.Sent f n) (reply : Reply) :
    (c.takenIn f n reply).ledger.Covers ↑c.state.held := by
  intro q
  have howners : (c.takenIn f n reply).ledger.owners q =
      c.ledger.owners q - (Resource.connection n :: f.held).count q :=
    Ledger.owners_giveBackAll ..
  have hq := h.covers q
  rw [Ledger.owners_giveBackAll] at hq
  rw [howners]
  exact hq

/-- Requests of two cursors in the same state that have the same reply come equally far. -/
theorem Sent.replied {f f' : Fetch} {n n' : Nat} (h : c.Sent f n) (h' : c'.Sent f' n')
    (hstate : c'.state = c.state) (hconfig : c'.config = c.config) {r : Except Error Reply}
    (hwait : f'.wait = f.wait ∨ ∀ reply, r = .ok reply → reply.documents ≠ []) :
    Abreast (c.fetchReplied f n r) (c'.fetchReplied f' n' r) := by
  cases r with
  | error cause =>
    unfold fetchReplied
    rw [if_neg (Bool.eq_false_iff.mp h.opened), if_neg (Bool.eq_false_iff.mp h'.opened), hstate]
    exact ⟨rfl, rfl⟩
  | ok reply =>
    have hsame : State.push { c'.state with fetching := false, id := reply.id } c'.config
        reply.documents =
        State.push { c.state with fetching := false, id := reply.id } c.config
          reply.documents := by
      rw [hstate, hconfig]
    by_cases hid : reply.id = 0
    · rw [fetchReplied_of_gone h.opened hid, fetchReplied_of_gone h'.opened hid]
      have hnone : ∀ l : Ledger, l.Covers ↑([] : List Resource) := fun l r => Nat.zero_le _
      refine Peers.next ?_ ?_ true
      · refine ⟨?_, hconfig, hnone _, hnone _, fun hlive => absurd rfl hlive⟩
        simp only [takenLast, state_giveBack, state_withState, hsame]
      · exact .inr (.inr rfl)
    · rw [fetchReplied_of_live h.opened hid, fetchReplied_of_live h'.opened hid]
      refine Peers.next ?_ ?_ true
      · have hcovers' := h'.covers_takenIn reply
        rw [hstate] at hcovers'
        exact ⟨hsame, hconfig, h.covers_takenIn reply, hcovers', fun _ => h.routed⟩
      · rcases hwait with hwait | hdocuments
        · exact .inl hwait
        · right
          left
          have hkept := allowed_ne_nil h.room (hdocuments reply rfl)
          exact fun hnil => hkept (List.append_eq_nil_iff.mp hnil).2

end Cursor

namespace Underway

variable {start c : Cursor} {wait : Bool} {during : List Moment} {p : Point}

/-- A request that is under way is sent as soon as there is a connection for it. -/
theorem sent (h : Underway start wait during c p) (hrouted : start.state.Routed)
    (hroom : start.state.Room start.config)
    (hcovers : (c.ledger.giveBackAll p.held).Covers ↑c.state.held) :
    ∃ (d : Cursor) (n : Nat),
      Cursor.answered (c, .waiting p) [.checkout (.ok ())] =
        (d, .waiting (.fetchReply (start.request wait) n)) ∧
      d.state = c.state ∧ d.config = c.config ∧
      d.ledger.messages = c.ledger.messages ++ p.unsent c ∧ d.Sent (start.request wait) n := by
  have hready := h.ready
  have hopened : c.state.closed = false := by rw [h.state, hready.opened]
  have hdrained : c.state.buffer = [] := by rw [h.state, hready.drained]
  have hsent : c.config.limitReached c.state.received = false := by
    rw [h.config, h.state]
    exact hroom hready.opened hready.live hready.drained
  have hroute : c.state.source = true ∨ c.state.pin ≠ .unpinned := by
    rw [h.state]
    exact hrouted hready.live
  rcases h.stage with ⟨rfl, hpin⟩ | ⟨n, rfl⟩
  · refine ⟨_, _, rfl, rfl, rfl, ?_, hopened, hdrained, hsent, hroute, fun q => ?_⟩
    · exact (Ledger.messages_record ..).trans (congrArg (· ++ _) (Ledger.messages_checkout _))
    · have hq := hcovers q
      rw [Ledger.owners_giveBackAll] at hq
      refine le_trans ?_ (Ledger.owners_giveBackAll ..).ge
      change _ ≤ Ledger.put c.ledger.owners (.connection (c.ledger.issued + 1)) 1 q - _
      by_cases hnew : q = .connection (c.ledger.issued + 1)
      · have hnone : c.state.held.count q = 0 := by
          rw [State.held, h.state, hpin, hnew]
          cases start.state.source <;> rfl
        exact (Multiset.coe_count ..).le.trans (hnone.le.trans (Nat.zero_le _))
      · rw [Ledger.put_ne _ _ hnew, List.count_cons_of_ne (Ne.symm hnew)]
        exact hq
  · exact ⟨c, n, rfl, rfl, rfl, (List.append_nil _).symm, hopened, hdrained, hsent, hroute, hcovers⟩

/-- Two requests that started in the same state come equally far with the same reply. -/
theorem abreast {start' c' : Cursor} {wait' : Bool} {during' : List Moment} {p' : Point}
    (h : Underway start wait during c p) (h' : Underway start' wait' during' c' p')
    (hstate : start'.state = start.state) (hconfig : start'.config = start.config)
    (hrouted : start.state.Routed) (hroom : start.state.Room start.config)
    (hcovers : (c.ledger.giveBackAll p.held).Covers ↑c.state.held)
    (hcovers' : (c'.ledger.giveBackAll p'.held).Covers ↑c'.state.held)
    {r : Except Error Reply}
    (hwait : wait' = wait ∨ ∀ reply, r = .ok reply → reply.documents ≠ []) :
    Cursor.Abreast (Cursor.answered (c, .waiting p) [.checkout (.ok ()), .reply r])
      (Cursor.answered (c', .waiting p') [.checkout (.ok ()), .reply r]) := by
  have hrouted' : start'.state.Routed := hstate ▸ hrouted
  have hroom' : start'.state.Room start'.config := by
    rw [hstate, hconfig]
    exact hroom
  obtain ⟨d, n, hanswered, hd, hdconfig, -, hsent⟩ := h.sent hrouted hroom hcovers
  obtain ⟨d', n', hanswered', hd', hdconfig', -, hsent'⟩ := h'.sent hrouted' hroom' hcovers'
  have hgo : Cursor.answered (c, .waiting p) [.checkout (.ok ()), .reply r] =
      d.fetchReplied (start.request wait) n r := by
    change Cursor.goOn (Cursor.answered (c, .waiting p) [.checkout (.ok ())]) (.reply r) = _
    rw [hanswered]
    rfl
  have hgo' : Cursor.answered (c', .waiting p') [.checkout (.ok ()), .reply r] =
      d'.fetchReplied (start'.request wait') n' r := by
    change Cursor.goOn (Cursor.answered (c', .waiting p') [.checkout (.ok ())]) (.reply r) = _
    rw [hanswered']
    rfl
  rw [hgo, hgo']
  refine hsent.replied hsent' ?_ ?_ hwait
  · rw [hd', hd, h'.state, h.state, hstate]
  · rw [hdconfig', hdconfig, h'.config, h.config, hconfig]

end Underway

/-- Whether a call for documents goes on until there is one. -/
def Call.waits : Call → Bool
  | .next => true
  | _ => false

theorem beginCall_of_ready {c : Cursor} (h : c.Ready) {call : Call} (hcall : call ≠ .close) :
    Schedule.beginCall c call = c.startFetch call.waits := by
  cases call with
  | next => exact Cursor.next_of_ready h nofun
  | tryNext => exact Cursor.next_of_ready h nofun
  | close => exact absurd rfl hcall

namespace Schedule

/-- The next request for documents. -/
def asking (slot : Slot) (call : Call) : List Action :=
  [.begin slot call, .answer slot (.checkout (.ok ()))]

section

variable {s : Schedule} {slot : Slot} {call : Call}

theorem letGo_of_not_dropped (h : s.letGo.isDropped = false) : s.letGo = s := by
  rw [isDropped_letGo] at h
  refine if_neg fun hnone => ?_
  rw [(isDropped_iff s).mpr hnone] at h
  cases h

/-- A call that makes a request waits in its slot. -/
theorem stands_asked (hready : s.cursor.Ready) (hrouted : s.cursor.state.Routed)
    (hcovers : s.cursor.ledger.Covers ↑s.cursor.state.held) (hhandles : s.handles ≠ 0)
    (hfree : s.waitingIn? slot = none) (hcall : call ≠ .close) :
    let p := s.cursor.firstPoint call.waits
    ∃ d, Underway s.cursor call.waits [] d p ∧
      (d.ledger.giveBackAll p.held).Covers ↑d.state.held ∧
      s.Stands slot (d, .waiting p) (s.step (.begin slot call)).1 ∧
      (s.step (.begin slot call)).2 = none := by
  intro p
  have hasked := Cursor.asked_of_covers hcovers (hrouted hready.live) call.waits
  have hbegin : beginCall s.cursor call =
      ((s.cursor.startFetch call.waits).1, .waiting p) := by
    rw [beginCall_of_ready hready hcall, ← hasked.progress]
  have hstands := stands_begin hfree hhandles call
  have houtcome : (s.step (.begin slot call)).2 = (beginCall s.cursor call).2.outcome? := by
    rw [begin_of_free hfree hhandles]
  rw [hbegin] at hstands houtcome
  refine ⟨(s.cursor.startFetch call.waits).1, .of_asked hready ?_, fun q => ?_, hstands, houtcome⟩
  · rw [← hasked.progress]
    exact hasked
  · have hq := hcovers q
    rw [Ledger.owners_giveBackAll, hasked.owners, Nat.add_sub_cancel, hasked.state]
    exact hq

/-- The request is sent once there is a connection for it. -/
theorem messages_asking (hready : s.cursor.Ready) (hrouted : s.cursor.state.Routed)
    (hroom : s.cursor.state.Room s.cursor.config)
    (hcovers : s.cursor.ledger.Covers ↑s.cursor.state.held) (hhandles : s.handles ≠ 0)
    (hfree : s.waitingIn? slot = none) (hcall : call ≠ .close) :
    (s.run (asking slot call)).cursor.ledger.messages =
      s.cursor.ledger.messages ++ [s.cursor.getMore call.waits] := by
  obtain ⟨d, hunderway, hkept, hstands, -⟩ :=
    stands_asked hready hrouted hcovers hhandles hfree hcall
  obtain ⟨d', n, hanswered, -, -, hmessages, -⟩ := hunderway.sent hrouted hroom hkept
  have hcursor := (stands_answers hstands hhandles [.checkout (.ok ())]).cursor
  rw [hanswered] at hcursor
  have hlast : (s.run (asking slot call)).cursor = d' := hcursor
  rw [hlast, hmessages, hunderway.messages]

/-- A cursor that is again what it was makes the same request. -/
theorem messages_again {begun : Cursor} (hready : begun.Ready) (hrouted : begun.state.Routed)
    (hroom : begun.state.Room begun.config) (hstate : s.cursor.state = begun.state)
    (hconfig : s.cursor.config = begun.config)
    (hcovers : s.cursor.ledger.Covers ↑s.cursor.state.held) (hhandles : s.handles ≠ 0)
    (hfree : s.waitingIn? slot = none) (hcall : call ≠ .close) (wait : Bool) :
    (s.run (asking slot call)).cursor.ledger.messages =
      s.cursor.ledger.messages ++ [begun.getMore wait] := by
  have hroom' : s.cursor.state.Room s.cursor.config := by
    rw [hstate, hconfig]
    exact hroom
  rw [messages_asking (hready.congr hstate) (hstate ▸ hrouted) hroom' hcovers hhandles hfree hcall,
    Cursor.getMore_congr hstate hconfig wait]

/-- A request that is made again and has a reply comes as far as the first would have come with that
reply. -/
theorem abreast_asking {s₀ : Schedule} {slot₀ : Slot} {begun : Cursor} {wait : Bool}
    {during : List Moment} {p : Point} (hunderway : Underway begun wait during s₀.cursor p)
    (hslot : s₀.waitingIn? slot₀ = some p) (hhandles₀ : s₀.handles ≠ 0)
    (hkept : (s₀.cursor.ledger.giveBackAll p.held).Covers ↑s₀.cursor.state.held)
    (hrouted : begun.state.Routed) (hroom : begun.state.Room begun.config)
    (hstate : s.cursor.state = begun.state) (hconfig : s.cursor.config = begun.config)
    (hcovers : s.cursor.ledger.Covers ↑s.cursor.state.held) (hhandles : s.handles ≠ 0)
    (hfree : s.waitingIn? slot = none) (hcall : call ≠ .close) {r : Except Error Reply}
    (hwait : call.waits = wait ∨ ∀ reply, r = .ok reply → reply.documents ≠ []) :
    let again := asking slot call ++ [.answer slot (.reply r)]
    let spared : List Action := [.answer slot₀ (.checkout (.ok ())), .answer slot₀ (.reply r)]
    s.outcomes again = s₀.outcomes spared ∧
    (s.run again).cursor.state = (s₀.run spared).cursor.state ∧
    (s.run again).waitingIn? slot = (s₀.run spared).waitingIn? slot₀ := by
  intro again spared
  have hready : s.cursor.Ready := hunderway.ready.congr hstate
  obtain ⟨d, hagain, hkept', hstands, hnone⟩ :=
    stands_asked hready (hstate ▸ hrouted) hcovers hhandles hfree hcall
  obtain ⟨hprogress, hsame⟩ :=
    hunderway.abreast hagain hstate hconfig hrouted hroom hkept hkept' hwait
  let answers : List Answer := [.checkout (.ok ()), .reply r]
  have hfirst := stands_answers (stands_waiting hslot) hhandles₀ answers
  have hlast := stands_answers hstands hhandles answers
  have hfirstOutcomes := outcomes_answers (stands_waiting hslot) hhandles₀ answers
  have hlastOutcomes := outcomes_answers hstands hhandles answers
  refine ⟨?_, ?_, ?_⟩
  · change (s.step (.begin slot call)).2.toList ++
      (s.step (.begin slot call)).1.outcomes (answers.map (.answer slot)) =
        s₀.outcomes (answers.map (.answer slot₀))
    rw [hnone, hlastOutcomes, hfirstOutcomes, hprogress]
    rfl
  · exact (congrArg Cursor.state hlast.cursor).trans
      (hsame.trans (congrArg Cursor.state hfirst.cursor).symm)
  · exact hlast.here.trans ((congrArg Progress.point? hprogress).trans hfirst.here.symm)

end

end Schedule

section Create

variable (reply : Reply) (options : Options) (server : ServerDescription)
  (connection : Option (Nat × ConnectionDescription)) (l : Ledger)

/-- A request fails while the cursor is open. Its call ends with that error, the cursor is what it
was when the request was started, but for two exceptions, and the next call makes the same request
and comes as far with any reply. -/
theorem failed_request_leaves_no_trace (runtime : Bool) (history : List Action) (slot : Slot)
    (p : Point) (a : Answer) (cause : Error) :
    let start := Schedule.opened reply options server connection l runtime
    let s := start.run history
    let failed := (s.step (.answer slot a)).1
    let c := s.afterTurn (.answer slot a)
    s.cursor.state.closed = false → s.waitingIn? slot = some p → p.failure? a = some cause →
    (s.step (.answer slot a)).2 = some (.failed cause) ∧
    failed.waitingIn? slot = none ∧
    (failed.isDropped = false → failed.cursor = c) ∧
    ∃ before m during begun wait,
      start.moments history = before ++ m :: during ∧
      m.Starts begun wait ∧ m.turn.effect m.cursor = .ofCall (begun.startFetch wait) ∧
      begun.Ready ∧ begun.Restores wait during p cause c ∧
      (cause.isCursorNotFound = true ↔ ∃ e, cause = .command e ∧ (e.code = 43 ∨ e.code = 237)) ∧
      (¬ begun.state.Remembers cause p → ∀ between other call,
        let later := failed.run between
        call ≠ .close → later.cursor.state = c.state → later.handles ≠ 0 →
        later.waitingIn? other = none → later.cursor.ledger.Covers ↑begun.state.held →
        (later.run (Schedule.asking other call)).cursor.ledger.messages =
          later.cursor.ledger.messages ++ [begun.getMore wait] ∧
        ∀ result, (call.waits = wait ∨ ∀ last, result = .ok last → last.documents ≠ []) →
          c.ledger.Covers ↑begun.state.held →
          let again := Schedule.asking other call ++ [.answer other (.reply result)]
          let spared : List Action :=
            [.answer slot (.checkout (.ok ())), .answer slot (.reply result)]
          later.outcomes again = s.outcomes spared ∧
          (later.run again).cursor.state = (s.run spared).cursor.state ∧
          (later.run again).waitingIn? other = (s.run spared).waitingIn? slot) := by
  intro start s failed c hopen hslot hfailure
  have hsound := sound_create reply options server connection l
  have htracked := tracked_create reply options server connection l
  have hplay : Play _ (start.moments history) s.cursor s.pending :=
    Schedule.play_run (Cursor.create reply options server connection l) runtime history
  have horderly : s.Orderly := Schedule.orderly_run (Schedule.orderly_ofCursor _ _) history
  obtain ⟨before, m, during, begun, wait, hmoments, hstarts, heffect, hunderway⟩ :=
    underway_play hsound htracked hplay (Schedule.mem_pending_of_waiting horderly hslot)
      (Point.flight?_of_failure hfailure) hopen
  have hfails := Cursor.fails_resume hopen hfailure
  have hstep := Schedule.answer_of_waiting hslot a
  have hc : c = (s.cursor.resume p a).1 := Schedule.afterTurn_answer hslot a
  have hrestores : begun.Restores wait during p cause c := by
    rw [hc]
    exact hunderway.restores hfails
  refine ⟨?_, ?_, fun hleft => ?_, before, m, during, begun, wait, hmoments, hstarts, heffect,
    hunderway.ready, hrestores, cause.isCursorNotFound_iff, ?_⟩
  · rw [hstep, hfails.done]
    rfl
  · exact (Schedule.waitingIn?_answer hslot a).trans (congrArg Progress.point? hfails.done)
  · have hfailed : failed = _ := congrArg Prod.fst hstep
    rw [hfailed] at hleft ⊢
    rw [Schedule.letGo_of_not_dropped hleft, hc]
  intro hforgets between other call later hcall hsame hhandles hfree hcovers
  -- From here on the cursor is again as it was when the request started.
  have hback : c.state = begun.state :=
    hrestores.state.trans (State.failed_of_not_remembers hforgets)
  have hstate : later.cursor.state = begun.state := hsame.trans hback
  have hconfig : later.cursor.config = begun.config := by
    have hlater : Play _ (start.moments history ++ s.moments (.answer slot a :: between))
        later.cursor later.pending :=
      Schedule.play_run_append (Cursor.create reply options server connection l) runtime history
        (.answer slot a :: between)
    exact (config_onward hsound hplay hlater).trans hunderway.config
  have hrouted : begun.state.Routed := hunderway.routed (sound_play hsound hplay).routed
  have hroom : begun.state.Room begun.config :=
    hunderway.room (room_play hsound (room_create reply options server connection l) hplay)
  have hcovers' : later.cursor.ledger.Covers ↑later.cursor.state.held := by
    rw [hstate]
    exact hcovers
  refine ⟨?_, fun result hwait hkept => ?_⟩
  · have hready : later.cursor.Ready := hunderway.ready.congr hstate
    have hroom' : later.cursor.state.Room later.cursor.config := by
      rw [hstate, hconfig]
      exact hroom
    rw [Schedule.messages_asking hready (hstate ▸ hrouted) hroom' hcovers' hhandles hfree hcall,
      Cursor.getMore_congr hstate hconfig wait]
  · have hhandles₀ : s.handles ≠ 0 := by
      have hfew : later.handles ≤ s.handles := Schedule.handles_run_le s (.answer slot a :: between)
      omega
    rw [hc] at hkept
    have hkept' := hunderway.covers_giveBackAll hfails hkept
    exact Schedule.abreast_asking hunderway hslot hhandles₀ hkept' hrouted hroom hstate hconfig
      hcovers' hhandles hfree hcall hwait

end Create

/-- The server is too busy. -/
def Schedule.overload : Error :=
  .command ⟨46, "LockBusy", "lock busy", []⟩

/-- The reply has one document, and the server's cursor is still open. -/
def Schedule.oneReply : Reply :=
  ⟨⟨"db", "items"⟩, [[("n", .int32 2)]], 7, .localhost⟩

theorem failed_request_leaves_no_trace_limited :
    let s := Schedule.limited.run Schedule.limitedRequest
    let a := Answer.reply (.error Schedule.overload)
    let later := (s.step (.answer .stream a)).1.run [.retain .source, .release .source]
    (s.cursor.state.closed = false ∧
      s.waitingIn? .stream = some (.fetchReply ⟨7, 2, true, true⟩ 1)) ∧
    (s.step (.answer .stream a)).2 = some (.failed Schedule.overload) ∧
    (later.run (Schedule.asking .blocking .tryNext)).cursor.ledger.messages =
      s.cursor.ledger.messages ++ s.cursor.ledger.messages ∧
    later.outcomes (Schedule.asking .blocking .tryNext ++
      [.answer .blocking (.reply (.ok Schedule.oneReply))]) = [.batch [[("n", .int32 2)]]] := by
  intro s a later
  obtain ⟨houtcome, -, -, before, m, during, begun, wait, -, -, -, -, hrestores, -, hagain⟩ :=
    failed_request_leaves_no_trace ⟨⟨"db", "items"⟩, [[("n", .int32 1)]], 7, .localhost⟩
      ⟨-3, 0, none, none⟩ .blank none Ledger.start true Schedule.limitedRequest .stream
      (.fetchReply ⟨7, 2, true, true⟩ 1) a Schedule.overload rfl rfl rfl
  have hforgets : ¬ begun.state.Remembers Schedule.overload
      (.fetchReply ⟨7, 2, true, true⟩ 1) := by
    rintro (hunknown | ⟨hbroken, -⟩)
    · exact absurd hunknown (by decide)
    · exact absurd hbroken (by decide)
  have hback : (s.afterTurn (.answer .stream a)).state = begun.state :=
    hrestores.state.trans (State.failed_of_not_remembers hforgets)
  have hcovers : ∀ l : Ledger, l.owners .source = 1 → l.Covers ↑begun.state.held := by
    intro l hsource r
    have hheld : begun.state.held = [.source] := hback ▸ rfl
    rw [hheld]
    cases r with
    | source => exact hsource.ge
    | connection n => exact Nat.zero_le _
  obtain ⟨hmessages, hspared⟩ := hagain hforgets [.retain .source, .release .source] .blocking
    .tryNext nofun rfl Nat.one_ne_zero rfl (hcovers _ rfl)
  obtain ⟨houtcomes, -⟩ := hspared (.ok Schedule.oneReply)
    (.inr fun last hlast => by cases hlast; exact List.cons_ne_nil _ _) (hcovers _ rfl)
  have hsent : [] ++ s.cursor.ledger.messages = begun.ledger.messages ++ [begun.getMore wait] :=
    (List.append_nil _).symm.trans hrestores.messages
  -- Only one message has been sent, so it is that of the request.
  have hone : [begun.getMore wait] = s.cursor.ledger.messages :=
    (List.append_inj' hsent rfl).2.symm
  have hquiet : later.cursor.ledger.messages = s.cursor.ledger.messages := rfl
  have hspared : s.outcomes [.answer .stream (.checkout (.ok ())),
      .answer .stream (.reply (.ok Schedule.oneReply))] = [.batch [[("n", .int32 2)]]] := rfl
  rw [hone, ← Schedule.limited] at hmessages
  have hagain := hmessages.trans (congrArg (· ++ s.cursor.ledger.messages) hquiet)
  refine ⟨⟨rfl, rfl⟩, houtcome, ?_, houtcomes.trans hspared⟩
  -- Both sides are spelled alike, so that neither history is evaluated to compare them.
  dsimp only [later, s] at hagain ⊢
  exact hagain

end ServerCursor
