import ServerCursor.Proofs.Settle
import ServerCursor.Proofs.Sole
import ServerCursor.Proofs.Spared
import ServerCursor.Proofs.Traffic

/-!
# After the last reply

The reply that leaves the server's cursor with the number zero is the last one. With it everything
is given back that the cursor held, and from then on it holds nothing and nobody has to do with the
server (`State.Exhausted`, `Idle`), so nothing is sent any more. The documents that are left come
out as one batch, unless the cursor is closed before (`State.Yields`).

Main statement: `exhaustion_final` says so for every history.
-/

namespace ServerCursor

/-- There is no server's cursor any more, and nothing is held to reach it. -/
structure State.Exhausted (s : State) : Prop where
  id : s.id = 0
  source : s.source = false
  pin : s.pin = .unpinned
  fetching : s.fetching = false

theorem State.Exhausted.held {s : State} (h : s.Exhausted) : s.held = [] := by
  rw [State.held, h.source, h.pin]
  rfl

theorem State.Exhausted.bare {s : State} (h : s.Exhausted) : s.bare = s := by
  rw [State.bare, ← h.id, ← h.source, ← h.pin]

/-- An open cursor has the last reply. -/
def Moment.exhausts (m : Moment) : Bool :=
  !m.cursor.state.closed && m.reply?.any fun reply => reply.id == 0

/-- How the next call for documents ends, if no more can arrive. -/
def lastOutcome (documents : List Document) : Outcome :=
  if documents.isEmpty then .nothing else .batch documents

/-- Which batches a cursor hands out to which nothing more can arrive. -/
inductive State.Yields (s : State) : List (List Document) → State → Prop
  /-- The documents are still there. -/
  | kept {s' : State} (closed : s'.closed = s.closed) (buffer : s'.buffer = s.buffer) :
      Yields s [] s'
  /-- The cursor was closed, and the documents were thrown away. -/
  | closed {s' : State} (closed : s'.closed = true) (buffer : s'.buffer = []) : Yields s [] s'
  /-- The documents were handed out as one batch. -/
  | handed {s' : State} (nonempty : s.buffer ≠ []) (buffer : s'.buffer = []) :
      Yields s [s.buffer] s'

theorem State.Yields.trans {s s' s'' : State} {batches more : List (List Document)}
    (h : s.Yields batches s') (h' : s'.Yields more s'') : s.Yields (batches ++ more) s'' := by
  cases h with
  | kept hclosed hbuffer =>
    cases h' with
    | kept hclosed' hbuffer' => exact .kept (hclosed'.trans hclosed) (hbuffer'.trans hbuffer)
    | closed hclosed' hbuffer' => exact .closed hclosed' hbuffer'
    | handed hsome hbuffer' =>
      rw [hbuffer] at hsome ⊢
      exact .handed hsome hbuffer'
  | closed hclosed hbuffer =>
    cases h' with
    | kept hclosed' hbuffer' => exact .closed (hclosed'.trans hclosed) (hbuffer'.trans hbuffer)
    | closed hclosed' hbuffer' => exact .closed hclosed' hbuffer'
    | handed hsome _ => exact absurd hbuffer hsome
  | handed hsome hbuffer =>
    cases h' with
    | kept _ hbuffer' => exact .handed hsome (hbuffer'.trans hbuffer)
    | closed _ hbuffer' => exact .handed hsome hbuffer'
    | handed hsome' _ => exact absurd hbuffer hsome'

theorem yields_last (s : State) :
    s.Yields (lastOutcome s.buffer).hand?.toList
      { s with buffer := [], closed := s.buffer.isEmpty } := by
  by_cases hbuffer : s.buffer = []
  · rw [lastOutcome, hbuffer]
    exact .closed rfl rfl
  · have hsome : s.buffer.isEmpty = false := by simpa using hbuffer
    rw [lastOutcome, hsome]
    exact .handed hbuffer rfl

namespace Cursor

variable {c : Cursor}

theorem deliver_of_exhausted (h : c.state.Exhausted) :
    c.deliver.2 = .done (.batch c.state.buffer) ∧
      c.deliver.1.state = { c.state with buffer := [] } ∧
      c.ledger.Settles [] [] c.deliver.1.ledger := by
  have hs : State.Exhausted { c.state with buffer := [] } := ⟨h.id, h.source, h.pin, h.fetching⟩
  simp only [deliver]
  split
  · rw [kill_of_gone _ (a := State.abandoned { c.state with buffer := [] }) h.id]
    have hback : (State.abandoned { c.state with buffer := [] }).held = [] := hs.held
    simp only [conclude, hback]
    exact ⟨trivial, hs.bare, c.ledger.settles_emit _⟩
  · exact ⟨rfl, rfl, .refl c.ledger⟩

theorem finish_of_exhausted (h : c.state.Exhausted) :
    c.finish.2 = .done .nothing ∧ c.finish.1.state = { c.state with closed := true } ∧
      c.ledger.Settles [] [] c.finish.1.ledger := by
  have hs : State.Exhausted { c.state with closed := true } := ⟨h.id, h.source, h.pin, h.fetching⟩
  have hback : (State.abandoned { c.state with closed := true }).held = [] := hs.held
  simp only [finish, hback]
  exact ⟨trivial, hs.bare, c.ledger.settles_emit _⟩

/-- A call for documents ends at once. -/
theorem next_of_exhausted (h : c.state.Exhausted) (hopen : c.state.closed = false)
    (wait fetched : Bool) :
    (c.next wait fetched).2 = .done (lastOutcome c.state.buffer) ∧
      (c.next wait fetched).1.state =
        { c.state with buffer := [], closed := c.state.buffer.isEmpty } ∧
      c.ledger.Settles [] [] (c.next wait fetched).1.ledger := by
  by_cases hbuffer : c.state.buffer = []
  · rw [next_of_drained hopen h.fetching hbuffer h.id, hbuffer]
    obtain ⟨hdone, hstate, hsettles⟩ := finish_of_exhausted h
    refine ⟨hdone, hstate.trans ?_, hsettles⟩
    simp only [hbuffer]
    rfl
  · have hsome : c.state.buffer.isEmpty = false := by simpa using hbuffer
    have hnext : c.next wait fetched = c.deliver := by
      unfold next
      simp only [hopen, h.fetching, hsome, Bool.false_eq_true, if_false, Bool.not_false, if_true]
    obtain ⟨hdone, hstate, hsettles⟩ := deliver_of_exhausted h
    rw [hnext, lastOutcome, hsome]
    refine ⟨hdone, hstate.trans ?_, hsettles⟩
    rw [← hopen]

theorem close_of_exhausted (h : c.state.Exhausted) :
    c.close.2 = .done .closed ∧ c.close.1.state.Exhausted ∧ c.state.Yields [] c.close.1.state := by
  by_cases hclosed : c.state.closed = true
  · have hclose : c.close = (c, .done .closed) := if_pos hclosed
    rw [hclose]
    exact ⟨rfl, h, .kept rfl rfl⟩
  · have hs : State.Exhausted { c.state with closed := true, buffer := [] } :=
      ⟨h.id, h.source, h.pin, h.fetching⟩
    have hclose : c.close =
        (c.withState (State.bare { c.state with closed := true, buffer := [] })).conclude
          (State.abandoned { c.state with closed := true, buffer := [] }) .closed := by
      rw [close_of_open (Bool.eq_false_iff.mpr hclosed) h.fetching]
      exact kill_of_gone _ h.id .closed
    rw [hclose, state_conclude, state_withState, hs.bare]
    exact ⟨rfl, hs, .closed rfl rfl⟩

/-- A call on an exhausted cursor ends at once. -/
theorem beginCall_of_exhausted (h : c.state.Exhausted) (call : Call) :
    ∃ o, (Schedule.beginCall c call).2 = .done o ∧
      (Schedule.beginCall c call).1.state.Exhausted ∧
      c.state.Yields o.hand?.toList (Schedule.beginCall c call).1.state := by
  have hnext : ∀ wait, ∃ o, (c.next wait false).2 = .done o ∧
      (c.next wait false).1.state.Exhausted ∧
      c.state.Yields o.hand?.toList (c.next wait false).1.state := by
    intro wait
    by_cases hclosed : c.state.closed = true
    · have hrefused : c.next wait false = c.refuse .closed := if_pos hclosed
      rw [hrefused]
      exact ⟨_, rfl, h, .kept rfl rfl⟩
    · obtain ⟨hdone, hstate, -⟩ :=
        next_of_exhausted h (Bool.eq_false_iff.mpr hclosed) wait false
      rw [hstate]
      exact ⟨_, hdone, ⟨h.id, h.source, h.pin, h.fetching⟩, yields_last c.state⟩
  cases call with
  | next => exact hnext true
  | tryNext => exact hnext false
  | close => exact ⟨.closed, close_of_exhausted h⟩

theorem drop_of_exhausted (h : c.state.Exhausted) (runtime : Bool) :
    (c.drop runtime).2 = none ∧ (c.drop runtime).1.state.Exhausted ∧
      c.state.Yields [] (c.drop runtime).1.state := by
  have hneeds : ¬ c.needsKill = true := by simp [needsKill, h.id]
  have hdrop : c.drop runtime = (c.closeQuietly.1, none) := by
    unfold drop
    simp only [hneeds, Bool.not_false, if_true]
  rw [hdrop]
  refine ⟨rfl, ?_⟩
  by_cases hclosed : c.state.closed = true
  · have hquiet : c.closeQuietly = (c, none) := if_pos hclosed
    rw [hquiet]
    exact ⟨h, .kept rfl rfl⟩
  · have hs : State.Exhausted { c.state with closed := true, buffer := [] } :=
      ⟨h.id, h.source, h.pin, h.fetching⟩
    have hstate : c.closeQuietly.1.state = { c.state with closed := true, buffer := [] } := by
      rw [closeQuietly_of_open (Bool.eq_false_iff.mpr hclosed)]
      exact hs.bare
    rw [hstate]
    exact ⟨hs, .closed rfl rfl⟩

end Cursor

/-- While all that parties still have to do is to close the cursor, every turn ends at once. -/
theorem exhausted_effect {c : Cursor} {t : Turn} (h : c.state.Exhausted) (hidle : Idle t.party) :
    (t.effect c).cursor.state.Exhausted ∧ (t.effect c).left = 0 ∧
      c.state.Yields ((t.effect c).outcome.bind Outcome.hand?).toList
        (t.effect c).cursor.state := by
  have hparty : ∀ {x : Task}, Idle {x} → x = .close := fun hone =>
    hone _ (Multiset.mem_singleton_self _)
  cases t with
  | begin call =>
    obtain ⟨o, hdone, hafter, hyields⟩ := Cursor.beginCall_of_exhausted h call
    refine ⟨hafter, ?_, ?_⟩
    · change (Schedule.beginCall c call).2.left = 0
      rw [hdone]
      rfl
    · change c.state.Yields ((Schedule.beginCall c call).2.outcome?.bind Outcome.hand?).toList _
      rw [hdone]
      exact hyields
  | answer p a => cases hparty hidle
  | cancel p runtime => cases hparty hidle
  | startTask t =>
    obtain rfl : t = .close := hparty hidle
    obtain ⟨hdone, hafter, hyields⟩ := Cursor.close_of_exhausted h
    refine ⟨hafter, ?_, hyields⟩
    change c.close.2.left = 0
    rw [hdone]
    rfl
  | answerTask p a => cases hparty hidle
  | discardTask t runtime =>
    obtain rfl : t = .close := hparty hidle
    exact ⟨h, rfl, .kept rfl rfl⟩
  | drop runtime =>
    obtain ⟨hnone, hafter, hyields⟩ := Cursor.drop_of_exhausted h runtime
    refine ⟨hafter, ?_, hyields⟩
    change (↑(c.drop runtime).2.toList : Multiset Task) = 0
    rw [hnone]
    rfl
  | retain r => exact ⟨h, rfl, .kept rfl rfl⟩
  | release r => exact ⟨h, rfl, .kept rfl rfl⟩

theorem traffic_of_exhausted {c : Cursor} {t : Turn} (h : c.state.Exhausted)
    (hp : AllProper t.party) (hidle : Idle t.party) :
    (t.effect c).cursor.ledger.traffic = c.ledger.traffic := by
  have hleft := (exhausted_effect h hidle).2.1
  refine traffic_of_unwaiting hp (fun x hx p => ?_) (fun x hx => ?_)
  · rw [hidle x hx]
    exact nofun
  · rw [hleft] at hx
    exact absurd hx (Multiset.notMem_zero x)

/-- What comes after the last reply. -/
theorem exhausted_play {start c c' : Cursor} {before after : List Moment}
    {pending pending' : Multiset Task} (hp : Play start before c pending)
    (hp' : Play start (before ++ after) c' pending') (h : c.state.Exhausted)
    (hidle : Idle pending) :
    c'.state.Exhausted ∧ Idle pending' ∧ c'.ledger.traffic = c.ledger.traffic ∧
      c.state.Yields ((after.filterMap Moment.outcome?).filterMap Outcome.hand?) c'.state := by
  refine Play.onward
    (I := fun ms d parties => d.state.Exhausted ∧ Idle parties ∧
      d.ledger.traffic = c.ledger.traffic ∧
      c.state.Yields ((ms.filterMap Moment.outcome?).filterMap Outcome.hand?) d.state)
    hp hp' ⟨h, hidle, rfl, .kept rfl rfl⟩ ?_
  rintro ms d rest t hplay - ⟨h, hidle, htraffic, hyields⟩
  obtain ⟨hparty, hrest⟩ := idle_add.mp hidle
  obtain ⟨hafter, hleft, hmore⟩ := exhausted_effect h hparty
  let m : Moment := ⟨d, t⟩
  have hlast : ((ms ++ [m]).filterMap Moment.outcome?).filterMap Outcome.hand? =
      (ms.filterMap Moment.outcome?).filterMap Outcome.hand? ++
        (m.outcome?.bind Outcome.hand?).toList := by
    rw [List.filterMap_append, List.filterMap_append]
    congr 1
    cases hout : m.outcome? with
    | none => simp [hout]
    | some o => cases hhand : o.hand? <;> simp [hout, hhand]
  refine ⟨hafter, ?_, (traffic_of_exhausted h (proper_party hplay) hparty).trans htraffic, ?_⟩
  · rw [hleft, zero_add]
    exact hrest
  · rw [hlast]
    exact hyields.trans hmore

/-- The last reply: the call for which it came ends at once, everything is given back, and nobody
has to do with the server. -/
theorem Cursor.fetchReplied_last {c : Cursor} {reply : Reply} (hopen : c.state.closed = false)
    (hbuffer : c.state.buffer = []) (hid : reply.id = 0) (f : Fetch) (n : Nat) :
    let batch := c.config.allowed c.state.received reply.documents
    let r := c.fetchReplied f n (.ok reply)
    r.2 = .done (lastOutcome batch) ∧ r.1.state.Exhausted ∧ r.1.state.buffer = [] ∧
      r.1.state.closed = batch.isEmpty ∧
      c.ledger.Settles (.connection n :: (f.held ++ c.state.held)) [] r.1.ledger := by
  intro batch r
  let s : State := State.push { c.state with fetching := false, id := reply.id } c.config
    reply.documents
  let d : Cursor := ((((c.emit (.fetched reply.id c.config.ns reply.documents.length)).withState
    s.bare).giveBack (.connection n :: f.held)).giveBack s.abandoned.held)
  have hr : r = d.next f.wait true := by
    change c.fetchReplied f n (.ok reply) = _
    rw [fetchReplied, if_neg (by simp [hopen])]
    exact if_pos hid
  have hd : d.state.Exhausted := ⟨rfl, rfl, rfl, rfl⟩
  have hbatch : d.state.buffer = batch := congrArg (· ++ batch) hbuffer
  obtain ⟨hdone, hstate, hsettles⟩ := next_of_exhausted hd hopen f.wait true
  have hback : c.ledger.Settles (.connection n :: (f.held ++ c.state.held)) [] d.ledger :=
    ((c.ledger.settles_emit _).trans (Ledger.settles_giveBackAll _ (.connection n :: f.held))).trans
      (Ledger.settles_giveBackAll _ c.state.held)
  rw [hr, hstate, ← hbatch]
  refine ⟨hdone, ⟨rfl, rfl, rfl, rfl⟩, rfl, rfl, ?_⟩
  exact (hback.trans hsettles).perm (List.append_nil _ ▸ .refl _)

/-- Once the server's cursor is gone, the server is asked for no batch any more. -/
theorem gone_play {start c c' : Cursor} {before after : List Moment}
    {pending pending' : Multiset Task} (hsound : start.state.Sound 0)
    (hp : Play start before c pending) (hp' : Play start (before ++ after) c' pending')
    (hid : c.state.id = 0) :
    c'.state.id = 0 ∧ ∃ ids : List Int64,
      c'.ledger.messages = c.ledger.messages ++ ids.map c.config.requester.kill := by
  have hafter := Play.onward
    (I := fun _ d _ => d.state.id = 0 ∧ d.config = c.config ∧ ∃ ids : List Int64,
      d.ledger.messages = c.ledger.messages ++ ids.map c.config.requester.kill)
    hp hp' ⟨hid, rfl, [], (List.append_nil _).symm⟩ ?_
  · exact ⟨hafter.1, hafter.2.2⟩
  rintro ms d rest t hplay - ⟨hid, hconfig, ids, hmessages⟩
  have hs := sound_play hsound hplay
  have hhandles := handles_effect hs (proper_party hplay)
  rw [deaf_of_gone hs hid] at hhandles
  obtain ⟨told, hflow⟩ := hhandles.exists_flow
  obtain ⟨numbers, hnumbers, hsent⟩ := hflow.messages
  have hnone : numbers = [] := by
    by_contra hne
    exact hnumbers hne hid
  refine ⟨hhandles.gone hid, hhandles.config.trans hconfig, ids ++ told, ?_⟩
  rw [hsent, hnone, List.map_nil, List.append_nil, hmessages, hconfig, List.append_assoc,
    List.map_append]

theorem answer_of_exhausts {m : Moment} {rest : Multiset Task} (ha : m.turn.Allowed rest)
    (h : m.exhausts = true) : m.cursor.state.closed = false ∧ ∃ f n reply,
      m.turn = .answer (.fetchReply f n) (.reply (.ok reply)) ∧ reply.id = 0 := by
  obtain ⟨hopen, reply, hreply, hid⟩ : m.cursor.state.closed = false ∧
      ∃ reply, m.reply? = some reply ∧ reply.id = 0 := by
    simpa [Moment.exhausts, Option.any_eq_true] using h
  obtain ⟨n, hheard⟩ := heard_of_reply hreply
  obtain ⟨f, hturn⟩ := answer_of_heard ha hheard
  exact ⟨hopen, f, n, reply, hturn, hid⟩

section Last

variable {start c : Cursor} {first : Reply} {ms : List Moment} {m : Moment}
  {pending rest : Multiset Task} (hsound : start.state.Sound 0)
  (htracked : Tracked start first.id [] start 0)

include hsound htracked

theorem exhausts_effect (hp : Play start ms m.cursor (m.turn.party + rest))
    (ha : m.turn.Allowed rest) (h : m.exhausts = true) :
    let after := m.turn.effect m.cursor
    (∃ f n reply, m.turn = .answer (.fetchReply f n) (.reply (.ok reply)) ∧
      let batch := m.cursor.config.allowed m.cursor.state.received reply.documents
      after.left = 0 ∧ after.outcome = some (lastOutcome batch) ∧
      after.cursor.state.buffer = [] ∧ after.cursor.state.closed = batch.isEmpty ∧
      m.cursor.ledger.Settles (.connection n :: (f.held ++ m.cursor.state.held)) []
        after.cursor.ledger) ∧
    after.cursor.state.Exhausted ∧ after.cursor.ledger.traffic = m.cursor.ledger.traffic ∧
    Idle (after.left + rest) := by
  intro after
  obtain ⟨hopen, f, n, reply, hturn, hid⟩ := answer_of_exhausts ha h
  have hafter : after = .ofCall (m.cursor.fetchReplied f n (.ok reply)) := by
    change m.turn.effect m.cursor = _
    rw [hturn]
    rfl
  rw [hturn] at hp
  have hidle : Idle rest := sole_waiting hsound htracked hp
  have hs := sound_play hsound hp
  rw [Turn.party, flights_add, flights_singleton] at hs
  obtain ⟨-, -, hcarries⟩ := hs.sole
  obtain ⟨hdone, hexhausted, hbuffer, hclosed, hsettles⟩ :=
    Cursor.fetchReplied_last hopen hcarries.buffer hid f n
  have hleft : (Turn.Effect.ofCall (m.cursor.fetchReplied f n (.ok reply))).left = 0 :=
    congrArg Progress.left hdone
  have hsays := (Cursor.says_fetchReplied m.cursor f n (.ok reply)).of_done hdone
  rw [hafter, hleft, zero_add]
  exact ⟨⟨f, n, reply, hturn, rfl, congrArg Progress.outcome? hdone, hbuffer, hclosed, hsettles⟩,
    hexhausted, hsays, hidle⟩

theorem exhausted_of_last (hp : Play start ms c pending) (hm : m ∈ ms) (h : m.exhausts = true) :
    c.state.Exhausted ∧ Idle pending ∧ c.ledger.traffic = m.cursor.ledger.traffic := by
  obtain ⟨before, after, rfl⟩ := List.append_of_mem hm
  obtain ⟨rest, hbefore, hallowed⟩ := hp.until
  obtain ⟨-, hexhausted, htraffic, hidle⟩ := exhausts_effect hsound htracked hbefore hallowed h
  have hlast := hbefore.snoc hallowed
  rw [List.append_cons] at hp
  obtain ⟨hafter, hpending, hsame, -⟩ := exhausted_play hlast hp hexhausted hidle
  exact ⟨hafter, hpending, hsame.trans htraffic⟩

end Last

section Create

variable (reply : Reply) (options : Options) (server : ServerDescription)
  (connection : Option (Nat × ConnectionDescription)) (l : Ledger)

/-- Without a server's cursor everything is given back that was handed over. -/
theorem exhausted_create (hid : reply.id = 0) :
    (Cursor.create reply options server connection l).state.Exhausted ∧
      l.Settles (connectionIf (connection.map (·.1)) ++ sourceIf true) []
        (Cursor.create reply options server connection l).ledger := by
  have hroute := route_create reply options server connection l
  obtain ⟨hcreated, -, hidle, -⟩ := state_create reply options server connection l
  obtain ⟨-, hsource, hpin⟩ := hroute.resolve_right fun h => h.elim (·.1 hid) (·.1 hid)
  refine ⟨⟨hcreated.trans hid, hsource, hpin, hidle⟩, ?_⟩
  simp only [Cursor.create, if_pos hid]
  cases connection with
  | none => exact (l.settles_emit _).trans (Ledger.settles_giveBackAll _ [.source])
  | some h =>
    simp only [hid, ne_eq, not_true, and_false, if_false]
    exact ((l.settles_emit _).trans (Ledger.settles_giveBackAll _ [.connection h.1])).trans
      (Ledger.settles_giveBackAll _ [.source])

/-- The number zero is final. With the reply that brings it everything is given back, nothing is put
on the wire afterwards, and the next call ends at once: with the documents that are left, or with
the end of the results. -/
theorem exhaustion_final (runtime : Bool) (history later : List Action) :
    let start := Schedule.opened reply options server connection l runtime
    let s := start.run history
    let s' := s.run later
    (s.cursor.state.id = 0 → s'.cursor.state.id = 0 ∧
      ∃ ids : List Int64, s'.cursor.ledger.messages =
        s.cursor.ledger.messages ++ ids.map s.cursor.config.requester.kill) ∧
    (reply.id = 0 → start.cursor.state.held = [] ∧
      l.Settles (connectionIf (connection.map (·.1)) ++ sourceIf true) [] start.cursor.ledger) ∧
    (∀ m ∈ start.moments history, m.exhausts = true →
      let after := m.turn.effect m.cursor
      (∃ f n last, m.turn = .answer (.fetchReply f n) (.reply (.ok last)) ∧
        let batch := m.cursor.config.allowed m.cursor.state.received last.documents
        after.left = 0 ∧ after.outcome = some (lastOutcome batch) ∧
        after.cursor.state.buffer = [] ∧ after.cursor.state.closed = batch.isEmpty ∧
        m.cursor.ledger.Settles (.connection n :: (f.held ++ m.cursor.state.held)) []
          after.cursor.ledger) ∧
      after.cursor.state.id = 0 ∧ after.cursor.state.held = [] ∧
      s.cursor.ledger.traffic = m.cursor.ledger.traffic) ∧
    (reply.id = 0 ∨ (∃ m ∈ start.moments history, m.exhausts = true) →
      s'.cursor.ledger.traffic = s.cursor.ledger.traffic ∧
      s.cursor.state.Yields ((s.outcomes later).filterMap Outcome.hand?) s'.cursor.state ∧
      ∀ slot call, call ≠ .close → s.handles ≠ 0 → s.waitingIn? slot = none →
        s.cursor.state.closed = false →
        (s.step (.begin slot call)).2 = some (lastOutcome s.cursor.state.buffer) ∧
        (s.step (.begin slot call)).1.calls = s.calls ∧
        (s.step (.begin slot call)).1.cursor.state.buffer = [] ∧
        (s.step (.begin slot call)).1.cursor.state.closed = s.cursor.state.buffer.isEmpty) := by
  intro start s s'
  have hsound := sound_create reply options server connection l
  have htracked := tracked_create reply options server connection l
  have hplay : Play _ (start.moments history) s.cursor s.pending :=
    Schedule.play_run (Cursor.create reply options server connection l) runtime history
  have hlater : Play _ (start.moments history ++ s.moments later) s'.cursor s'.pending :=
    Schedule.play_run_append _ runtime history later
  refine ⟨fun hid => gone_play hsound hplay hlater hid, fun hid => ?_, fun m hm hexhausts => ?_,
    fun hlast => ?_⟩
  · obtain ⟨hexhausted, hsettles⟩ := exhausted_create reply options server connection l hid
    exact ⟨hexhausted.held, hsettles⟩
  · obtain ⟨before, rest, hbefore, hallowed⟩ := hplay.of_mem hm
    obtain ⟨hcall, hexhausted, -⟩ := exhausts_effect hsound htracked hbefore hallowed hexhausts
    obtain ⟨-, -, htraffic⟩ := exhausted_of_last hsound htracked hplay hm hexhausts
    exact ⟨hcall, hexhausted.id, hexhausted.held, htraffic⟩
  · obtain ⟨hexhausted, hidle⟩ : s.cursor.state.Exhausted ∧ Idle s.pending := by
      rcases hlast with hid | ⟨m, hm, hexhausts⟩
      · have hstart := (exhausted_create reply options server connection l hid).1
        obtain ⟨hexhausted, hidle, -⟩ := exhausted_play .nil hplay hstart idle_zero
        exact ⟨hexhausted, hidle⟩
      · obtain ⟨hexhausted, hidle, -⟩ := exhausted_of_last hsound htracked hplay hm hexhausts
        exact ⟨hexhausted, hidle⟩
    obtain ⟨-, -, htraffic, hyields⟩ := exhausted_play hplay hlater hexhausted hidle
    rw [← Schedule.outcomes_eq] at hyields
    refine ⟨htraffic, hyields, fun slot call hcall hhandles hfree hopen => ?_⟩
    obtain ⟨wait, hbegin⟩ :
        ∃ wait, Schedule.beginCall s.cursor call = s.cursor.next wait false := by
      cases call with
      | next => exact ⟨true, rfl⟩
      | tryNext => exact ⟨false, rfl⟩
      | close => exact absurd rfl hcall
    obtain ⟨hdone, hstate, -⟩ := Cursor.next_of_exhausted hexhausted hopen wait false
    rw [Schedule.begin_of_free hfree hhandles, hbegin, hdone]
    refine ⟨rfl, List.append_nil _, ?_, ?_⟩
    · rw [hstate]
    · rw [hstate]

end Create

/-- A cursor whose first batch is empty. -/
def Schedule.awaited : Schedule :=
  opened ⟨⟨"db", "items"⟩, [], 7, .localhost⟩ .default .blank none Ledger.start true

/-- The reply to its first request is the last one and has a document. -/
def Schedule.awaitedHistory : List Action :=
  [.begin .stream .next, .answer .stream (.checkout (.ok ())),
    .answer .stream (.reply (.ok ⟨⟨"db", "items"⟩, [[("n", .int32 1)]], 0, .localhost⟩))]

/-- The document is handed out at once, and the next call meets the end of the results. The request
stays the only message. -/
theorem exhaustion_final_awaited :
    let s := Schedule.awaited.run Schedule.awaitedHistory
    (∃ m ∈ Schedule.awaited.moments Schedule.awaitedHistory, m.exhausts = true) ∧
    Schedule.awaited.outcomes Schedule.awaitedHistory = [.batch [[("n", .int32 1)]]] ∧
    (s.step (.begin .stream .next)).2 = some .nothing ∧
    (s.step (.begin .stream .next)).1.cursor.state.closed = true ∧
    (s.step (.begin .stream .next)).1.cursor.ledger.traffic = s.cursor.ledger.traffic ∧
    s.cursor.ledger.messages.length = 1 := by
  intro s
  have hexhausts : ∃ m ∈ Schedule.awaited.moments Schedule.awaitedHistory, m.exhausts = true :=
    List.any_eq_true.mp rfl
  obtain ⟨-, -, -, hafter⟩ := exhaustion_final ⟨⟨"db", "items"⟩, [], 7, .localhost⟩ .default .blank
    none Ledger.start true Schedule.awaitedHistory [.begin .stream .next]
  obtain ⟨htraffic, -, hnext⟩ := hafter (.inr hexhausts)
  obtain ⟨houtcome, -, -, hclosed⟩ := hnext .stream .next (by decide) (by decide) rfl rfl
  exact ⟨hexhausts, rfl, houtcome, hclosed, htraffic, rfl⟩

end ServerCursor
