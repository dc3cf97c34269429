import ServerCursor.Proofs.Retry
import ServerCursor.Proofs.Tasks

/-!
# One call that goes on and many that do not

A call for the next documents goes on until there are some; another one asks once at most and may
end with nothing although there is more to come. Asking again and again is the same as going on.

What becomes of a request is a `Trip`. One that brings nothing but the number of a server's cursor
that is still open leaves the cursor as willing as it was (`Cursor.tried_of_unsettled`), so that by
induction a call that goes on and as many calls that do not come equally far
(`Schedule.tried_run`). Every other trip ends its call in the same way for both
(`Cursor.settledBy_of_settles`).

If something has arrived, either call hands it out and makes no request. If there is nothing to ask,
as the server's cursor is gone, or the connection of the cursor has failed, or what the cursor holds
has no owners any more, either call ends at once: with nothing and a closed cursor in the first
case, with an error in the others. Otherwise a call that does not go on makes exactly one request,
and a call that goes on makes as many as it takes until one fails, or has documents, or learns that
the server's cursor is gone. As many calls that do not go on end with nothing on an open cursor, but
for the last one, which ends like that call; they send the same messages and leave the same cursor.

While nobody else gives back what is not theirs, the owners of what the cursor holds do not run out.

Main statement: `next_repeats_tryNext`.
-/

namespace ServerCursor

/-- Some messages are sent, and none of them asks for documents. -/
def Ledger.Tells (l l' : Ledger) : Prop :=
  ∃ told, l'.messages = l.messages ++ told ∧ ∀ m ∈ told, m.asks? = none

namespace Ledger

variable {l l' : Ledger}

theorem tells_of_messages (h : l'.messages = l.messages) : l.Tells l' :=
  ⟨[], h.trans (List.append_nil _).symm, fun _ hm => absurd hm List.not_mem_nil⟩

theorem Frees.tells {back : List Resource} {m : Message} (h : l.Frees back m l')
    (hm : m.asks? = none) : l.Tells l' := by
  obtain ⟨told, htold, hsettles⟩ := h
  refine ⟨told, hsettles.messages, fun m' hm' => ?_⟩
  rw [List.mem_singleton.mp (htold.subset hm')]
  exact hm

end Ledger

/-- What becomes of a request for documents. -/
inductive Trip where
  /-- There is no connection to send it over. -/
  | unrouted (cause : Error)
  | replied (r : Except Error Reply)

namespace Trip

/-- What the call is told. -/
def answers : Trip → List Answer
  | unrouted cause => [.checkout (.error cause)]
  | replied r => [.checkout (.ok ()), .reply r]

/-- Whether a call ends with it that goes on until there is a document. -/
def settles : Trip → Bool
  | replied (.ok reply) => !reply.documents.isEmpty || reply.id == 0
  | _ => true

/-- How a call ends that goes no further. -/
def outcome (c : Cursor) : Trip → Outcome
  | unrouted cause => .failed cause
  | replied (.error cause) => .failed cause
  | replied (.ok reply) =>
    if reply.documents.isEmpty then .nothing
    else .batch (c.config.allowed c.state.received reply.documents)

theorem outcome_congr {c d : Cursor} (hconfig : d.config = c.config)
    (hreceived : d.state.received = c.state.received) (t : Trip) : t.outcome d = t.outcome c := by
  unfold outcome
  rw [hconfig, hreceived]

theorem ne_nil_of_outcome {c : Cursor} {t : Trip}
    (hroom : c.config.limitReached c.state.received = false) (batch : List Document)
    (h : t.outcome c = .batch batch) : batch ≠ [] := by
  unfold outcome at h
  split at h
  · cases h
  · cases h
  · split at h
    · cases h
    · rename_i hsome
      cases h
      exact allowed_ne_nil hroom (mt List.isEmpty_iff.mpr hsome)

theorem eq_of_unsettled {t : Trip} (h : t.settles = false) :
    ∃ reply, t = .replied (.ok reply) ∧ reply.documents = [] ∧ reply.id ≠ 0 := by
  cases t with
  | unrouted cause => cases h
  | replied r =>
    cases r with
    | error cause => cases h
    | ok reply =>
      rw [settles, Bool.or_eq_false_iff] at h
      exact ⟨reply, rfl, by simpa using h.1, by simpa using h.2⟩

end Trip

/-- The trips that a call needs which goes on until there is a document. -/
def needed (trips : List Trip) : List Trip :=
  trips.take (trips.findIdx Trip.settles + 1)

/-- All of them but the last one bring nothing. -/
theorem needed_eq {trips : List Trip} (h : ∃ t ∈ trips, t.settles = true) :
    ∃ waits last, needed trips = waits ++ [last] ∧ (∀ t ∈ waits, t.settles = false) ∧
      last.settles = true ∧ last ∈ trips ∧
      (needed trips).length = trips.findIdx Trip.settles + 1 := by
  induction trips with
  | nil =>
    obtain ⟨t, ht, -⟩ := h
    exact absurd ht List.not_mem_nil
  | cons t rest ih =>
    by_cases hsettles : t.settles = true
    · have hone : needed (t :: rest) = [t] := by
        rw [needed, List.findIdx_cons, hsettles]
        rfl
      refine ⟨[], t, hone, fun u hu => absurd hu List.not_mem_nil, hsettles,
        List.mem_cons_self, ?_⟩
      rw [hone, List.findIdx_cons, hsettles]
      rfl
    · have hrest : ∃ t ∈ rest, t.settles = true := by
        obtain ⟨u, hu, hsettled⟩ := h
        rcases List.mem_cons.mp hu with rfl | hu
        · exact absurd hsettled hsettles
        · exact ⟨u, hu, hsettled⟩
      obtain ⟨waits, last, hneeded, hwaits, hlast, hmem, hlength⟩ := ih hrest
      have hfalse : t.settles = false := Bool.eq_false_iff.mpr hsettles
      have hmore : needed (t :: rest) = t :: needed rest := by
        rw [needed, List.findIdx_cons, hfalse, cond_false, List.take_succ_cons]
        rfl
      refine ⟨t :: waits, last, ?_, List.forall_mem_cons.mpr ⟨hfalse, hwaits⟩, hlast,
        List.mem_cons_of_mem t hmem, ?_⟩
      · rw [hmore, hneeded]
        rfl
      · rw [hmore, List.length_cons, hlength, List.findIdx_cons, hfalse]
        rfl

namespace Cursor

variable {c : Cursor}

/-- A cursor that asks its server when a call wants documents. -/
structure Willing (c : Cursor) : Prop where
  ready : c.Ready
  /-- The limit allows another document. -/
  room : c.config.limitReached c.state.received = false
  /-- There is a route to the server. -/
  routed : c.state.source = true ∨ c.state.pin ≠ .unpinned
  /-- What the cursor holds has owners. -/
  covers : c.ledger.Covers ↑c.state.held

theorem answered_append (r : Cursor × Progress) (answers more : List Answer) :
    answered r (answers ++ more) = answered (answered r answers) more :=
  List.foldl_append

/-- Whether the call goes on until there is a document makes no difference to the cursor while its
request starts. -/
theorem cursor_startFetch (c : Cursor) (wait : Bool) :
    (c.startFetch wait).1 = (c.startFetch true).1 := by
  unfold startFetch
  dsimp only
  generalize (if c.state.source = true then c.ledger.retain .source else .ok c.ledger) = joined
  cases joined with
  | error l => rfl
  | ok l =>
    cases c.state.pin.connection? with
    | some n =>
      dsimp only
      cases l.retain (.connection n) <;> rfl
    | none =>
      dsimp only
      split <;> rfl

theorem asked_of_willing (h : c.Willing) (wait : Bool) : c.Asked wait (c.startFetch wait) :=
  asked_of_covers h.covers h.routed wait

theorem startFetch_of_willing (h : c.Willing) (wait : Bool) :
    c.startFetch wait = ((c.startFetch true).1, .waiting (c.firstPoint wait)) :=
  Prod.ext (cursor_startFetch c wait) (asked_of_willing h wait).progress

/-- A request is sent as soon as there is a connection for it. -/
theorem sent_of_willing (h : c.Willing) : ∃ (d : Cursor) (n : Nat),
    (∀ wait, answered (c.startFetch wait) [.checkout (.ok ())] =
      (d, .waiting (.fetchReply (c.request wait) n))) ∧
    d.state = { c.state with fetching := true } ∧ d.config = c.config ∧
    d.ledger.messages = c.ledger.messages ++ [c.getMore true] ∧ d.Sent (c.request true) n := by
  have hasked := asked_of_willing h true
  have hbegun : Underway c true [] (c.startFetch true).1 (c.firstPoint true) :=
    .of_asked h.ready (hasked.progress ▸ hasked)
  have hkept : ((c.startFetch true).1.ledger.giveBackAll (c.firstPoint true).held).Covers
      ↑(c.startFetch true).1.state.held := fun q => by
    have hq := h.covers q
    rw [Ledger.owners_giveBackAll, hasked.owners, Nat.add_sub_cancel, hasked.state]
    exact hq
  obtain ⟨d, n, hanswered, hstate, hconfig, hmessages, hsent⟩ :=
    hbegun.sent (fun _ => h.routed) (fun _ _ _ => h.room) hkept
  refine ⟨d, n, fun wait => ?_, hstate.trans hasked.state, hconfig.trans hasked.config, ?_, hsent⟩
  · rw [startFetch_of_willing h wait]
    unfold firstPoint at hanswered ⊢
    cases hpin : c.state.pin.connection? with
    | some m =>
      rw [hpin] at hanswered
      cases hanswered
      rfl
    | none =>
      rw [hpin] at hanswered
      cases hanswered
      rfl
  · rw [hmessages, hbegun.messages]

/-- The messages of requests that have these replies. -/
def requests (c : Cursor) (id : Int64) : List Trip → List Message
  | .replied r :: rest =>
    c.config.requester.getMore id
      (numberToReturn c.config.limit c.config.batchSize c.state.received) ::
      c.requests (openId r) rest
  | _ => []

theorem requests_congr {d : Cursor} (hconfig : d.config = c.config)
    (hreceived : d.state.received = c.state.received) (id : Int64) (trips : List Trip) :
    d.requests id trips = c.requests id trips := by
  induction trips generalizing id with
  | nil => rfl
  | cons t rest ih =>
    cases t with
    | unrouted cause => rfl
    | replied r => rw [requests, requests, ih, hconfig, hreceived]

/-- A cursor that has tried in vain is as willing as before. -/
structure Tried (c : Cursor) (trips : List Trip) (d : Cursor) : Prop where
  willing : d.Willing
  config : d.config = c.config
  received : d.state.received = c.state.received
  /-- It holds what it held. -/
  source : d.state.source = c.state.source
  pin : d.state.pin = c.state.pin
  /-- It has sent a request each time. -/
  messages : ∀ last, d.ledger.messages ++ d.requests d.state.id last =
    c.ledger.messages ++ c.requests c.state.id (trips ++ last)

theorem Tried.refl (h : c.Willing) : c.Tried [] c :=
  ⟨h, rfl, rfl, rfl, rfl, fun _ => rfl⟩

theorem Tried.trans {d e : Cursor} {trips more : List Trip} (h : c.Tried trips d)
    (h' : d.Tried more e) : c.Tried (trips ++ more) e where
  willing := h'.willing
  config := h'.config.trans h.config
  received := h'.received.trans h.received
  source := h'.source.trans h.source
  pin := h'.pin.trans h.pin
  messages last := by rw [h'.messages, h.messages, List.append_assoc]

/-- A reply without documents leaves the server's cursor open: a call that goes on asks again, and
another one ends. -/
theorem tried_of_unsettled (h : c.Willing) {t : Trip} (ht : t.settles = false) :
    ∃ d, c.Tried [t] d ∧ answered (c.startFetch true) t.answers = d.startFetch true ∧
      answered (c.startFetch false) t.answers = (d, .done .nothing) := by
  obtain ⟨reply, rfl, hdocuments, hid⟩ := Trip.eq_of_unsettled ht
  obtain ⟨d, n, hanswered, hstate, hconfig, hmessages, hsent⟩ := sent_of_willing h
  let e := d.takenIn (c.request true) n reply
  have hnext : ∀ wait, answered (c.startFetch wait) (Trip.replied (.ok reply)).answers =
      e.next wait true := by
    intro wait
    rw [Trip.answers, ← List.singleton_append, answered_append, hanswered]
    exact fetchReplied_of_live hsent.opened hid (c.request wait) n
  have he : e.state = { c.state with id := reply.id } := by
    change State.push _ d.config reply.documents = _
    rw [hdocuments, hstate, State.push, allowed_nil, List.append_nil, List.length_nil, Nat.add_zero,
      ← h.ready.idle]
  have hready : e.Ready := by
    refine ⟨?_, ?_, ?_, ?_, ?_⟩ <;> rw [he]
    · exact h.ready.opened
    · exact h.ready.idle
    · exact h.ready.drained
    · exact hid
    · exact h.ready.intact
  have hwilling : e.Willing := by
    refine ⟨hready, ?_, ?_, ?_⟩ <;> rw [he]
    · exact hconfig ▸ h.room
    · exact h.routed
    · have hcovers := hsent.covers_takenIn reply
      rw [hstate] at hcovers
      exact hcovers
  have hquiet : e.ledger.messages = d.ledger.messages := Ledger.messages_giveBackAll ..
  refine ⟨e, ⟨hwilling, hconfig, ?_, ?_, ?_, fun last => ?_⟩, ?_, ?_⟩
  · rw [he]
  · rw [he]
  · rw [he]
  · have hid' : e.state.id = reply.id := by rw [he]
    have hreceived : e.state.received = c.state.received := by rw [he]
    rw [hquiet, hmessages, hid', requests_congr (d := e) hconfig hreceived, List.append_assoc]
    rfl
  · rw [hnext, next_of_ready hready fun _ => rfl]
  · rw [hnext]
    unfold next
    simp only [hready.opened, hready.idle, hready.drained, hready.live, Bool.false_eq_true,
      if_false, List.isEmpty_nil, Bool.not_true, Bool.not_false, Bool.and_self, if_true]

/-- A call asks for no more: it ends like this once the server's cursor has been discarded, if that
is to be done. -/
structure Concludes (c : Cursor) (o : Outcome) (q : Cursor × Progress) : Prop where
  idle : q.1.state.fetching = false
  ended : ∀ r k, let e := answered q (clearing r k)
    e.2 = .done o ∧ e.1.state = q.1.state ∧ c.ledger.Tells e.1.ledger

theorem concludes_done {d : Cursor} {o : Outcome} (hidle : d.state.fetching = false)
    (hmessages : d.ledger.messages = c.ledger.messages) : c.Concludes o (d, .done o) :=
  ⟨hidle, fun r k => by
    rw [answered_done]
    exact ⟨rfl, rfl, Ledger.tells_of_messages hmessages⟩⟩

theorem concludes_finish (hidle : c.state.fetching = false) : c.Concludes .nothing c.finish :=
  concludes_done hidle (Ledger.messages_giveBackAll c.ledger _)

theorem concludes_deliver (hidle : c.state.fetching = false) :
    c.Concludes (.batch c.state.buffer) c.deliver := by
  unfold deliver
  dsimp only
  split
  · refine ⟨?_, fun r k => ?_⟩
    · rw [state_kill]
      exact hidle
    · rw [state_kill]
      obtain ⟨hdone, hstate, hfrees⟩ := ends_clearing _ _ (.batch c.state.buffer) r k
      exact ⟨hdone, hstate, hfrees.tells (Requester.asks?_kill ..)⟩
  · exact concludes_done hidle rfl

theorem next_of_buffered (hopen : c.state.closed = false) (hidle : c.state.fetching = false)
    (hsome : c.state.buffer ≠ []) (wait fetched : Bool) : c.next wait fetched = c.deliver := by
  unfold next
  rw [if_neg (Bool.eq_false_iff.mp hopen), if_neg (Bool.eq_false_iff.mp hidle)]
  exact if_pos (by simpa using hsome)

/-- A call whose request has fared like this asks for no more. -/
structure Spent (c : Cursor) (wait : Bool) (t : Trip) (q : Cursor × Progress) : Prop where
  answered : answered (c.startFetch wait) t.answers = q
  /-- It ends as the trip says, and has sent the request if it could. -/
  concludes : ∃ d : Cursor, d.Concludes (t.outcome c) q ∧
    d.ledger.messages = c.ledger.messages ++ c.requests c.state.id [t]

/-- A trip that ends its call, whether that goes on or not. Without documents the results are at
their end. -/
def SettledBy (c : Cursor) (t : Trip) : Prop :=
  ∃ q : Cursor × Progress, (∀ wait, c.Spent wait t q) ∧
    (t.outcome c = .nothing → q.1.state.closed = true)

theorem concludes_failed {p : Point} {a : Answer} {cause : Error}
    (hopen : c.state.closed = false) (hfailure : p.failure? a = some cause) :
    c.Concludes (.failed cause) (c.resume p a) := by
  have hfails := fails_resume hopen hfailure
  have hq : c.resume p a = ((c.resume p a).1, .done (.failed cause)) := Prod.ext rfl hfails.done
  rw [hq]
  refine concludes_done ?_ hfails.messages
  rw [hfails.state]
  cases p <;> rfl

theorem settledBy_unrouted (h : c.Willing) (hpin : c.state.pin = .unpinned) (cause : Error) :
    c.SettledBy (.unrouted cause) := by
  have hasked := asked_of_willing h true
  have hopen : (c.startFetch true).1.state.closed = false := by
    rw [hasked.state]
    exact h.ready.opened
  have hnone : c.state.pin.connection? = none := Pin.connection?_eq_none_iff.mpr hpin
  refine ⟨_, fun wait => ⟨?_, _, concludes_failed hopen (p := .fetchCheckout (c.request true))
    (a := .checkout (.error cause)) rfl, ?_⟩, nofun⟩
  · rw [startFetch_of_willing h wait, firstPoint, hnone]
    rfl
  · rw [hasked.messages, firstMessages, hnone]
    rfl

theorem settledBy_failed (h : c.Willing) (cause : Error) :
    c.SettledBy (.replied (.error cause)) := by
  obtain ⟨d, n, hanswered, hstate, -, hmessages, hsent⟩ := sent_of_willing h
  refine ⟨_, fun wait => ⟨?_, d, concludes_failed hsent.opened
    (p := .fetchReply (c.request true) n) (a := .reply (.error cause)) rfl, hmessages⟩, nofun⟩
  rw [Trip.answers, ← List.singleton_append, answered_append, hanswered]
  change d.fetchReplied (c.request wait) n (.error cause) =
    d.fetchReplied (c.request true) n (.error cause)
  unfold fetchReplied
  rw [if_neg (Bool.eq_false_iff.mp hsent.opened), if_neg (Bool.eq_false_iff.mp hsent.opened)]
  rfl

/-- Who has taken in a batch hands it out; without documents, and without a server's cursor, the
results are at their end. -/
theorem concludes_next {d : Cursor} {batch : List Document} (hopen : c.state.closed = false)
    (hidle : c.state.fetching = false) (hbuffer : c.state.buffer = batch)
    (hgone : batch = [] → c.state.id = 0) (hmessages : c.ledger.messages = d.ledger.messages) :
    ∃ q, (∀ wait, c.next wait true = q) ∧
      d.Concludes (if batch.isEmpty then .nothing else .batch batch) q ∧
      (batch = [] → q.1.state.closed = true) := by
  have hmore : ∀ {o q}, c.Concludes o q → d.Concludes o q := fun h =>
    ⟨h.idle, fun r k => by
      obtain ⟨hdone, hstate, told, htold, hquiet⟩ := h.ended r k
      exact ⟨hdone, hstate, told, hmessages ▸ htold, hquiet⟩⟩
  cases batch with
  | nil =>
    exact ⟨c.finish, fun wait => next_of_drained hopen hidle hbuffer (hgone rfl) wait true,
      hmore (concludes_finish hidle), fun _ => rfl⟩
  | cons document rest =>
    have hsome : c.state.buffer ≠ [] := hbuffer ▸ List.cons_ne_nil document rest
    refine ⟨c.deliver, fun wait => next_of_buffered hopen hidle hsome wait true, ?_, nofun⟩
    have hdeliver := concludes_deliver hidle
    rw [hbuffer] at hdeliver
    exact hmore hdeliver

theorem settledBy_replied (h : c.Willing) {reply : Reply}
    (hreply : (Trip.replied (.ok reply)).settles = true) :
    c.SettledBy (.replied (.ok reply)) := by
  obtain ⟨d, n, hanswered, hstate, hconfig, hmessages, hsent⟩ := sent_of_willing h
  have hgo : ∀ wait, answered (c.startFetch wait) (Trip.replied (.ok reply)).answers =
      d.fetchReplied (c.request wait) n (.ok reply) := by
    intro wait
    rw [Trip.answers, ← List.singleton_append, answered_append, hanswered]
    rfl
  let batch := c.config.allowed c.state.received reply.documents
  have hbatch : batch = [] ↔ reply.documents = [] := by
    refine ⟨fun hnil => by_contra fun hne => allowed_ne_nil h.room hne hnil, fun hnil => ?_⟩
    simp only [batch, hnil, allowed_nil]
  have houtcome : (if batch.isEmpty then Outcome.nothing else .batch batch) =
      (Trip.replied (.ok reply)).outcome c := by
    simp only [Trip.outcome, List.isEmpty_iff, hbatch]
    rfl
  have hnothing : (Trip.replied (.ok reply)).outcome c = .nothing → batch = [] := by
    intro hnone
    rw [← houtcome] at hnone
    split at hnone
    · rename_i hempty
      exact List.isEmpty_iff.mp hempty
    · cases hnone
  have htaken : d.state.buffer ++ d.config.allowed d.state.received reply.documents = batch := by
    rw [hsent.drained, hconfig, hstate]
    rfl
  by_cases hid : reply.id = 0
  · have hquiet : (d.takenLast (c.request true) n reply).ledger.messages = d.ledger.messages :=
      (Ledger.messages_giveBackAll ..).trans (Ledger.messages_giveBackAll ..)
    obtain ⟨q, hq, hconcludes, hshut⟩ := concludes_next (c := d.takenLast (c.request true) n reply)
      (d := d) hsent.opened rfl htaken (fun _ => rfl) hquiet
    refine ⟨q, fun wait => ⟨?_, d, houtcome ▸ hconcludes, hmessages⟩, hshut ∘ hnothing⟩
    rw [hgo, fetchReplied_of_gone hsent.opened hid]
    exact hq wait
  · have hquiet : (d.takenIn (c.request true) n reply).ledger.messages = d.ledger.messages :=
      Ledger.messages_giveBackAll ..
    have hsome : batch ≠ [] := fun hnil => by
      rw [Trip.settles, hbatch.mp hnil] at hreply
      exact hid (by simpa using hreply)
    obtain ⟨q, hq, hconcludes, -⟩ := concludes_next (c := d.takenIn (c.request true) n reply)
      (d := d) hsent.opened rfl htaken (fun hnil => absurd hnil hsome) hquiet
    refine ⟨q, fun wait => ⟨?_, d, houtcome ▸ hconcludes, hmessages⟩,
      fun hnone => absurd (hnothing hnone) hsome⟩
    rw [hgo, fetchReplied_of_live hsent.opened hid]
    exact hq wait

/-- A request is refused if what the cursor holds has no owners any more. -/
theorem startFetch_of_uncovered (hs : c.state.Sound 0) (hid : c.state.id ≠ 0)
    (hcovers : ¬ c.ledger.Covers ↑c.state.held) (wait : Bool) :
    c.startFetch wait =
      { c with ledger := c.ledger.emit .retainRefused }.refuse .retainReleased := by
  have hrefused : ∀ r, c.state.held = [r] →
      c.ledger.retain r = .error (c.ledger.emit .retainRefused) := by
    intro r hheld
    have hnone : c.ledger.owners r = 0 := by
      by_contra hsome
      refine hcovers fun q => ?_
      rw [hheld, Multiset.coe_count, List.count_singleton]
      split
      · rename_i e
        rw [← beq_iff_eq.mp e]
        omega
      · exact Nat.zero_le _
    simp [Ledger.retain, Ownership.join, hnone]
  unfold startFetch
  cases hsource : c.state.source with
  | true =>
    have hheld : c.state.held = [.source] := by
      rw [State.held, hs.single hsource, hsource]
      rfl
    dsimp only
    rw [if_pos rfl, hrefused _ hheld]
  | false =>
    obtain ⟨n, hn⟩ : ∃ n, c.state.pin.connection? = some n := by
      rw [← Option.isSome_iff_exists, Option.isSome_iff_ne_none]
      exact mt Pin.connection?_eq_none_iff.mp
        ((hs.routed hid).resolve_left (by rw [hsource]; exact Bool.noConfusion))
    have hheld : c.state.held = [.connection n] := by
      rw [State.held, hn, hsource]
      rfl
    dsimp only
    rw [if_neg Bool.false_ne_true, hn]
    dsimp only
    rw [hrefused _ hheld]
    rfl

/-- Without anything to hand out or to ask, a call ends at once, whether it goes on or not. -/
theorem concludes_unasked (hopen : c.state.closed = false) (hdrained : c.state.buffer = [])
    (hs : c.state.Sound 0)
    (h : c.state.id = 0 ∨ c.state.pin.isFailed = true ∨ ¬ c.ledger.Covers ↑c.state.held) :
    ∃ q, (∀ wait, c.next wait false = q) ∧ q.1.state.closed = (c.state.id == 0) ∧
      c.Concludes (if c.state.id = 0 then .nothing
        else .failed (.illegalState
          (if c.state.pin.isFailed then .connectionFailed else .retainReleased))) q := by
  have hidle := hs.resting
  by_cases hid : c.state.id = 0
  · refine ⟨c.finish, fun wait => next_of_drained hopen hidle hdrained hid wait false, ?_, ?_⟩
    · exact (beq_iff_eq.mpr hid).symm
    · rw [if_pos hid]
      exact concludes_finish hidle
  have hlive : c.state.closed = (c.state.id == 0) := hopen.trans (beq_eq_false_iff_ne.mpr hid).symm
  rw [if_neg hid]
  cases hfailed : c.state.pin.isFailed with
  | true =>
    refine ⟨c.refuse .connectionFailed, fun wait => ?_, hlive, concludes_done hidle rfl⟩
    unfold next
    simp only [hopen, hidle, hdrained, hid, hfailed, Bool.false_eq_true, if_false, if_true,
      List.isEmpty_nil, Bool.not_true, Bool.false_and]
  | false =>
    have hcovers : ¬ c.ledger.Covers ↑c.state.held := by
      rcases h with h0 | hbroken | hcovers
      · exact absurd h0 hid
      · rw [hfailed] at hbroken
        cases hbroken
      · exact hcovers
    have hready : c.Ready := ⟨hopen, hidle, hdrained, hid, hfailed⟩
    let d : Cursor := { c with ledger := c.ledger.emit .retainRefused }
    refine ⟨d.refuse .retainReleased, fun wait => ?_, hlive, concludes_done (d := d) hidle rfl⟩
    exact (next_of_ready hready Bool.noConfusion).trans
      (startFetch_of_uncovered hs hid hcovers wait)

/-- Only a cursor that is bound to no connection may get none. -/
def Routes (c : Cursor) (t : Trip) : Prop :=
  c.state.pin ≠ .unpinned → ∀ cause, t ≠ .unrouted cause

theorem settledBy_of_settles (h : c.Willing) {t : Trip} (ht : t.settles = true)
    (hroutes : c.Routes t) : c.SettledBy t := by
  cases t with
  | unrouted cause =>
    exact settledBy_unrouted h (by_contra fun hpin => hroutes hpin cause rfl) cause
  | replied r =>
    cases r with
    | error cause => exact settledBy_failed h cause
    | ok reply => exact settledBy_replied h ht

/-- A call that makes one request at most ends with it. It ends without documents on an open cursor
if there were none and the server's cursor is still open. -/
theorem spent_of_willing (h : c.Willing) {t : Trip} (hroutes : c.Routes t) :
    ∃ q, c.Spent false t q ∧
      (t.outcome c = .nothing ∧ q.1.state.closed = false ↔ t.settles = false) := by
  cases ht : t.settles with
  | false =>
    obtain ⟨d, htried, -, hanswered⟩ := tried_of_unsettled h ht
    obtain ⟨reply, rfl, hdocuments, -⟩ := Trip.eq_of_unsettled ht
    have hnothing : (Trip.replied (.ok reply)).outcome c = .nothing := by
      rw [Trip.outcome, hdocuments]
      rfl
    have hready := htried.willing.ready
    refine ⟨_, ⟨hanswered, d, ?_, ?_⟩, iff_of_true ⟨hnothing, hready.opened⟩ rfl⟩
    · rw [hnothing]
      exact concludes_done hready.idle rfl
    · exact (List.append_nil _).symm.trans (htried.messages [])
  | true =>
    obtain ⟨q, hspent, hshut⟩ := settledBy_of_settles h ht hroutes
    refine ⟨q, hspent false, iff_of_false (fun hboth => ?_) Bool.noConfusion⟩
    have hclosed := hshut hboth.1
    rw [hboth.2] at hclosed
    cases hclosed

end Cursor

namespace Schedule

/-- A call in a slot whose requests fare like this, and that has the server's cursor discarded if
there is anything to discard. -/
def trying (slot : Slot) (call : Call) (trips : List Trip) (r k : Except Error Unit) :
    List Action :=
  calling slot call (trips.flatMap Trip.answers ++ Cursor.clearing r k)

/-- One call after the other that makes one request at most. -/
def polling (slot : Slot) (trips : List Trip) (r k : Except Error Unit) : List Action :=
  trips.flatMap fun t => trying slot .tryNext [t] r k

/-- As long as nothing arrives, a call that goes on and one call after the other try the same. -/
theorem tried_run {s : Schedule} {slot : Slot} (h : s.cursor.Willing) {trips : List Trip}
    (htrips : ∀ t ∈ trips, t.settles = false) (hfree : s.waitingIn? slot = none)
    (hhandles : s.handles ≠ 0) (r k : Except Error Unit) :
    ∃ d, s.cursor.Tried trips d ∧
      Cursor.answered (s.cursor.startFetch true) (trips.flatMap Trip.answers) =
        d.startFetch true ∧
      s.run (polling slot trips r k) = { s with cursor := d } ∧
      s.outcomes (polling slot trips r k) = List.replicate trips.length .nothing := by
  induction trips generalizing s with
  | nil => exact ⟨s.cursor, .refl h, rfl, rfl, rfl⟩
  | cons t rest ih =>
    obtain ⟨ht, hrest⟩ := List.forall_mem_cons.mp htrips
    obtain ⟨d, htried, hnext, htry⟩ := Cursor.tried_of_unsettled h ht
    have hbegin : beginCall s.cursor .tryNext = s.cursor.startFetch false :=
      Cursor.next_of_ready h.ready nofun
    have hended : Cursor.answered (beginCall s.cursor .tryNext)
        ([t].flatMap Trip.answers ++ Cursor.clearing r k) = (d, .done .nothing) := by
      rw [List.flatMap_singleton, Cursor.answered_append, hbegin, htry, Cursor.answered_done]
    have hrun : s.run (trying slot .tryNext [t] r k) = { s with cursor := d } := by
      rw [trying, run_calling hfree hhandles, hended, withCall_done]
    have houtcome : s.outcomes (trying slot .tryNext [t] r k) = [.nothing] := by
      rw [trying, outcomes_calling hfree hhandles, hended]
      rfl
    obtain ⟨e, hlater, hanswered, hpolled, houtcomes⟩ :=
      ih (s := { s with cursor := d }) htried.willing hrest hfree hhandles
    refine ⟨e, htried.trans hlater, ?_, ?_, ?_⟩
    · rw [List.flatMap_cons, Cursor.answered_append, hnext, hanswered]
    · rw [polling, List.flatMap_cons, run_append, hrun]
      exact hpolled
    · rw [polling, List.flatMap_cons, outcomes_append, hrun, houtcome]
      exact congrArg ([Outcome.nothing] ++ ·) houtcomes

/-- A call makes one request for each of these trips, no more, and ends like this. -/
structure Performs (s : Schedule) (slot : Slot) (call : Call) (trips : List Trip) (o : Outcome) :
    Prop where
  /-- Whatever became of the requests before it, each is under way. -/
  asks : ∀ i < trips.length, ∃ p,
    (s.run (calling slot call ((trips.take i).flatMap Trip.answers))).waitingIn? slot = some p ∧
      p.flight?.isSome = true
  /-- After the last one none is under way. -/
  idle : (s.run (calling slot call (trips.flatMap Trip.answers))).cursor.state.fetching = false
  ended : ∀ r k, s.outcomes (trying slot call trips r k) = [o]
  /-- Nothing else is sent, unless the server is told to discard its cursor. -/
  messages : ∀ r k, ∃ told, (s.run (trying slot call trips r k)).cursor.ledger.messages =
    s.cursor.ledger.messages ++ s.cursor.requests s.cursor.state.id trips ++ told ∧
      ∀ m ∈ told, m.asks? = none

/-- A call that goes on makes these requests and ends like this, and as many calls that make one
request at most do just the same. -/
structure Repeats (s : Schedule) (slot : Slot) (trips : List Trip) (o : Outcome)
    (r k : Except Error Unit) : Prop where
  performs : s.Performs slot .next trips o
  /-- A batch is never empty. -/
  full : ∀ batch, o = .batch batch → batch ≠ []
  /-- Without documents the results are at their end. -/
  shut : o = .nothing → (s.run (trying slot .next trips r k)).cursor.state.closed = true
  /-- In the end there is no difference. -/
  run : s.run (polling slot trips r k) = s.run (trying slot .next trips r k)
  /-- Only the last one of the other calls ends with more than nothing. -/
  outcomes : s.outcomes (polling slot trips r k) =
    List.replicate (trips.length - 1) .nothing ++ s.outcomes (trying slot .next trips r k)
  /-- The cursor stays open until then. -/
  opened : ∀ i < trips.length,
    (s.run (polling slot (trips.take i) r k)).cursor.state.closed = false

section Performs

variable {s : Schedule} {slot : Slot} (hfree : s.waitingIn? slot = none) (hhandles : s.handles ≠ 0)

include hfree hhandles

theorem performs_of_spent (call : Call) (waits : List Trip) {wait : Bool} {last : Trip}
    {d : Cursor} {q : Cursor × Progress}
    (hwaits : ∀ i ≤ waits.length, ∃ e : Cursor, e.Willing ∧
      Cursor.answered (beginCall s.cursor call) ((waits.take i).flatMap Trip.answers) =
        e.startFetch wait)
    (hlast : Cursor.answered (beginCall s.cursor call) (waits.flatMap Trip.answers) =
      d.startFetch wait)
    (htried : s.cursor.Tried waits d) (hspent : d.Spent wait last q) :
    s.Performs slot call (waits ++ [last]) (last.outcome s.cursor) ∧
      ∀ r k, s.run (trying slot call (waits ++ [last]) r k) =
        { s with cursor := (Cursor.answered q (Cursor.clearing r k)).1 } := by
  obtain ⟨hanswered, base, hconcludes, hsent⟩ := hspent
  have hq : Cursor.answered (beginCall s.cursor call) ((waits ++ [last]).flatMap Trip.answers) =
      q := by
    rw [List.flatMap_append, List.flatMap_singleton, Cursor.answered_append, hlast, hanswered]
  have houtcome : last.outcome d = last.outcome s.cursor :=
    Trip.outcome_congr htried.config htried.received last
  have hend : ∀ r k, Cursor.answered (beginCall s.cursor call)
      ((waits ++ [last]).flatMap Trip.answers ++ Cursor.clearing r k) =
        ((Cursor.answered q (Cursor.clearing r k)).1, .done (last.outcome s.cursor)) := by
    intro r k
    rw [Cursor.answered_append, hq]
    exact Prod.ext rfl ((hconcludes.ended r k).1.trans (congrArg _ houtcome))
  have hrun : ∀ r k, s.run (trying slot call (waits ++ [last]) r k) =
      { s with cursor := (Cursor.answered q (Cursor.clearing r k)).1 } := by
    intro r k
    rw [trying, run_calling hfree hhandles, hend, withCall_done]
  refine ⟨⟨fun i hi => ?_, ?_, fun r k => ?_, fun r k => ?_⟩, hrun⟩
  · rw [List.length_append, List.length_singleton] at hi
    have hle : i ≤ waits.length := by omega
    obtain ⟨e, hwilling, he⟩ := hwaits i hle
    have hasked := Cursor.asked_of_willing hwilling wait
    refine ⟨e.firstPoint wait, ?_, ?_⟩
    · rw [List.take_append_of_le_length hle, run_calling hfree hhandles,
        waitingIn?_withCall hfree, he, hasked.progress]
      rfl
    · rw [Cursor.flight_firstPoint]
      rfl
  · rw [run_calling hfree hhandles, hq]
    exact hconcludes.idle
  · rw [trying, outcomes_calling hfree hhandles, hend]
    rfl
  · obtain ⟨-, -, told, htold, hquiet⟩ := hconcludes.ended r k
    refine ⟨told, ?_, hquiet⟩
    rw [hrun, ← htried.messages [last], ← hsent]
    exact htold

theorem performs_of_concludes {call : Call} {o : Outcome} {q : Cursor × Progress}
    (hbegin : beginCall s.cursor call = q) (hconcludes : s.cursor.Concludes o q) :
    s.Performs slot call [] o := by
  have hend : ∀ r k, s.run (trying slot call [] r k) =
      s.withCall slot (Cursor.answered q (Cursor.clearing r k)) := by
    intro r k
    rw [trying, run_calling hfree hhandles, hbegin]
    rfl
  refine ⟨nofun, ?_, fun r k => ?_, fun r k => ?_⟩
  · rw [run_calling hfree hhandles, hbegin]
    exact hconcludes.idle
  · rw [trying, outcomes_calling hfree hhandles, hbegin]
    exact congrArg (Option.toList ∘ Progress.outcome?) (hconcludes.ended r k).1
  · obtain ⟨-, -, told, htold, hquiet⟩ := hconcludes.ended r k
    refine ⟨told, ?_, hquiet⟩
    rw [hend]
    exact htold.trans (congrArg (· ++ told) (List.append_nil _).symm)

/-- A call that makes one request at most makes one. -/
theorem performs_tryNext (h : s.cursor.Willing) {t : Trip} (hroutes : s.cursor.Routes t)
    (r k : Except Error Unit) :
    s.Performs slot .tryNext [t] (t.outcome s.cursor) ∧
      (t.outcome s.cursor = .nothing ∧
        (s.run (trying slot .tryNext [t] r k)).cursor.state.closed = false ↔
          t.settles = false) := by
  have hbegin : beginCall s.cursor .tryNext = s.cursor.startFetch false :=
    Cursor.next_of_ready h.ready nofun
  obtain ⟨q, hspent, hiff⟩ := Cursor.spent_of_willing h hroutes
  obtain ⟨hperforms, hrun⟩ := performs_of_spent hfree hhandles .tryNext []
    (fun i _ => ⟨s.cursor, h, by rw [List.take_nil]; exact hbegin⟩) hbegin (.refl h) hspent
  refine ⟨hperforms, ?_⟩
  obtain ⟨-, base, hconcludes, -⟩ := hspent
  have hlast := hrun r k
  rw [List.nil_append] at hlast
  rw [hlast, (hconcludes.ended r k).2.1]
  exact hiff

/-- A call that goes on makes the requests that it needs, and one call after the other makes the
same ones and leaves the same cursor. -/
theorem repeats_of_settles (h : s.cursor.Willing) {waits : List Trip} {last : Trip}
    (hwaits : ∀ t ∈ waits, t.settles = false) (hlast : last.settles = true)
    (hroutes : s.cursor.Routes last) (r k : Except Error Unit) :
    s.Repeats slot (waits ++ [last]) (last.outcome s.cursor) r k := by
  have hbegin : beginCall s.cursor .next = s.cursor.startFetch true :=
    Cursor.next_of_ready h.ready nofun
  have hshorter : ∀ i, ∀ t ∈ waits.take i, t.settles = false :=
    fun i t ht => hwaits t (List.mem_of_mem_take ht)
  obtain ⟨d, htried, hnext, hpolled, houtcomes⟩ := tried_run h hwaits hfree hhandles r k
  have hroutes' : d.Routes last := by
    rw [Cursor.Routes, htried.pin]
    exact hroutes
  obtain ⟨q, hspent, hshut⟩ := Cursor.settledBy_of_settles htried.willing hlast hroutes'
  have houtcome : last.outcome d = last.outcome s.cursor :=
    Trip.outcome_congr htried.config htried.received last
  obtain ⟨hperforms, hrun⟩ := performs_of_spent hfree hhandles .next waits
    (fun i hi => by
      obtain ⟨e, he, hanswered, -⟩ := tried_run h (hshorter i) hfree hhandles r k
      exact ⟨e, he.willing, hbegin ▸ hanswered⟩)
    (hbegin ▸ hnext) htried (hspent true)
  -- The last of the single calls, on the cursor that the others have left.
  have hbegin' : beginCall d .tryNext = d.startFetch false :=
    Cursor.next_of_ready htried.willing.ready nofun
  have hfree' : waitingIn? { s with cursor := d } slot = none := hfree
  obtain ⟨hperforms', hrun'⟩ := performs_of_spent hfree' hhandles .tryNext []
    (fun i _ => ⟨d, htried.willing, by rw [List.take_nil]; exact hbegin'⟩) hbegin'
    (.refl htried.willing) (hspent false)
  have hpolling : polling slot (waits ++ [last]) r k =
      polling slot waits r k ++ trying slot .tryNext [last] r k := by
    rw [polling, List.flatMap_append, List.flatMap_singleton]
    rfl
  refine ⟨hperforms, Trip.ne_nil_of_outcome h.room, fun hnothing => ?_, ?_, ?_, fun i hi => ?_⟩
  · obtain ⟨-, base, hconcludes, -⟩ := hspent true
    rw [hrun, (hconcludes.ended r k).2.1]
    exact hshut (houtcome.trans hnothing)
  · rw [hrun, hpolling, run_append, hpolled]
    exact hrun' r k
  · rw [hpolling, outcomes_append, houtcomes, hpolled, hperforms.ended, List.length_append,
      List.length_singleton, Nat.add_sub_cancel]
    exact congrArg _ ((hperforms'.ended r k).trans (congrArg (fun o => [o]) houtcome))
  · have hle : i ≤ waits.length := by
      rw [List.length_append, List.length_singleton] at hi
      omega
    obtain ⟨e, he, -, hran, -⟩ := tried_run h (hshorter i) hfree hhandles r k
    rw [List.take_append_of_le_length hle, hran]
    exact he.willing.ready.opened

end Performs

end Schedule

theorem beginCall_eq {c : Cursor} {call : Call} (hcall : call ≠ .close) :
    Schedule.beginCall c call = c.next call.waits false := by
  cases call with
  | next => rfl
  | tryNext => rfl
  | close => exact absurd rfl hcall

section Create

variable (reply : Reply) (options : Options) (server : ServerDescription)
  (connection : Option (Nat × ConnectionDescription)) (l : Ledger)

/-- A cursor is open, no request is under way, and it has a handle and a free slot. A call that goes
on ends like the last of as many calls that do not, with the same messages and the same cursor. -/
theorem next_repeats_tryNext (runtime : Bool) (history : List Action) (slot : Slot) :
    let start := Schedule.opened reply options server connection l runtime
    let s := start.run history
    let state := s.cursor.state
    state.closed = false → state.fetching = false → s.handles ≠ 0 → s.waitingIn? slot = none →
    (state.buffer ≠ [] → ∀ call, call ≠ .close →
      s.step (.begin slot call) = s.step (.begin slot .next) ∧
      s.Performs slot call [] (.batch state.buffer)) ∧
    (state.buffer = [] →
      state.id = 0 ∨ state.pin.isFailed = true ∨ ¬ s.cursor.ledger.Covers ↑state.held →
      ∀ call, call ≠ .close →
        s.step (.begin slot call) = s.step (.begin slot .next) ∧
        (s.step (.begin slot call)).1.cursor.state.closed = (state.id == 0) ∧
        s.Performs slot call [] (if state.id = 0 then .nothing
          else .failed (.illegalState
            (if state.pin.isFailed then .connectionFailed else .retainReleased)))) ∧
    (state.buffer = [] → state.id ≠ 0 → state.pin.isFailed = false →
      s.cursor.ledger.Covers ↑state.held → ∀ trips : List Trip, (∀ t ∈ trips, s.cursor.Routes t) →
      ∀ r k,
      (∀ t ∈ trips, s.Performs slot .tryNext [t] (t.outcome s.cursor) ∧
        (t.outcome s.cursor = .nothing ∧
          (s.run (Schedule.trying slot .tryNext [t] r k)).cursor.state.closed = false ↔
            t.settles = false)) ∧
      ((∃ t ∈ trips, t.settles = true) →
        (needed trips).length = trips.findIdx Trip.settles + 1 ∧
        ∃ last, (needed trips).getLast? = some last ∧ last.settles = true ∧
          s.Repeats slot (needed trips) (last.outcome s.cursor) r k)) ∧
    (l.Fresh → l.Covers ↑(handed connection) →
      isFair (spare l connection) (start.moments history) = true →
      s.cursor.ledger.Covers ↑state.held) := by
  intro start s state hopen hidle hhandles hfree
  have hplay : Play start.cursor (start.moments history) s.cursor s.pending :=
    Schedule.play_run start.cursor runtime history
  have hsound₀ : start.cursor.state.Sound 0 := sound_create reply options server connection l
  have hroom : s.cursor.state.Room s.cursor.config :=
    room_play hsound₀ (room_create reply options server connection l) hplay
  have hsound : s.cursor.state.Sound 0 := by
    have hflights := sound_play hsound₀ hplay
    rwa [hflights.idle hidle] at hflights
  have hsame : ∀ {call q}, Schedule.beginCall s.cursor call = q →
      Schedule.beginCall s.cursor .next = q →
      s.step (.begin slot call) = s.step (.begin slot .next) := by
    intro call q hcall hnext
    rw [Schedule.begin_of_free hfree hhandles, Schedule.begin_of_free hfree hhandles, hcall, hnext]
  refine ⟨fun hsome call hcall => ?_, fun hdrained hended call hcall => ?_,
    fun hdrained hlive hintact hcovers trips hroutes r k => ⟨fun t ht => ?_, fun hsettles => ?_⟩,
    fun hfresh hhanded hfair => ?_⟩
  · have hbegin : ∀ {call}, call ≠ .close →
        Schedule.beginCall s.cursor call = s.cursor.deliver := by
      intro call hcall
      rw [beginCall_eq hcall]
      exact Cursor.next_of_buffered hopen hidle hsome _ _
    exact ⟨hsame (hbegin hcall) (hbegin nofun),
      Schedule.performs_of_concludes hfree hhandles (hbegin hcall)
        (Cursor.concludes_deliver hidle)⟩
  · obtain ⟨q, hq, hclosed, hconcludes⟩ :=
      Cursor.concludes_unasked hopen hdrained hsound hended
    have hbegin : ∀ {call}, call ≠ .close → Schedule.beginCall s.cursor call = q := by
      intro call hcall
      rw [beginCall_eq hcall, hq]
    refine ⟨hsame (hbegin hcall) (hbegin nofun), ?_,
      Schedule.performs_of_concludes hfree hhandles (hbegin hcall) hconcludes⟩
    rw [Schedule.begin_of_free hfree hhandles, hbegin hcall]
    exact hclosed
  · have hwilling : s.cursor.Willing := ⟨⟨hopen, hidle, hdrained, hlive, hintact⟩,
      hroom hopen hlive hdrained, hsound.routed hlive, hcovers⟩
    exact Schedule.performs_tryNext hfree hhandles hwilling (hroutes t ht) r k
  · have hwilling : s.cursor.Willing := ⟨⟨hopen, hidle, hdrained, hlive, hintact⟩,
      hroom hopen hlive hdrained, hsound.routed hlive, hcovers⟩
    obtain ⟨waits, last, hneeded, hwaits, hlast, hmem, hcount⟩ := needed_eq hsettles
    refine ⟨hcount, last, ?_, hlast, ?_⟩
    · rw [hneeded, List.getLast?_concat]
    · rw [hneeded]
      exact Schedule.repeats_of_settles hfree hhandles hwilling hwaits hlast (hroutes last hmem) r k
  · exact (balanced_run reply options server connection l runtime history hfresh hhanded
      hfair).covers

end Create

/-- Two replies have no documents, and the third one has more than the limit allows. -/
def Schedule.lateReplies : List Trip :=
  [.replied (.ok ⟨⟨"db", "items"⟩, [], 7, .localhost⟩),
    .replied (.ok ⟨⟨"db", "items"⟩, [], 7, .localhost⟩), .replied (.ok Schedule.limitedReply)]

/-- A call that goes on has what the third of three calls has. -/
theorem next_repeats_tryNext_limited :
    let s := Schedule.limited.run [.begin .stream .next]
    let next := Schedule.trying .stream .next Schedule.lateReplies (.ok ()) (.ok ())
    let polling := Schedule.polling .stream Schedule.lateReplies (.ok ()) (.ok ())
    let batch : List Document := [[("n", .int32 2)], [("n", .int32 3)]]
    s.outcomes next = [.batch batch] ∧ s.outcomes polling = [.nothing, .nothing, .batch batch] ∧
    s.run polling = s.run next := by
  intro s next polling batch
  obtain ⟨-, -, hlive, hcovers⟩ := next_repeats_tryNext
    ⟨⟨"db", "items"⟩, [[("n", .int32 1)]], 7, .localhost⟩ ⟨-3, 0, none, none⟩ .blank none
    Ledger.start true [.begin .stream .next] .stream rfl rfl Nat.one_ne_zero rfl
  have hheld := hcovers Ledger.fresh_start Ledger.covers_start rfl
  obtain ⟨-, hrepeats⟩ := hlive rfl (by decide) rfl hheld
    Schedule.lateReplies (fun t _ hpin => absurd rfl hpin) (.ok ()) (.ok ())
  obtain ⟨-, last, hlast, -, hsame⟩ := hrepeats ⟨.replied (.ok Schedule.limitedReply), by
    simp [Schedule.lateReplies], rfl⟩
  have hneeded : needed Schedule.lateReplies = Schedule.lateReplies := rfl
  rw [hneeded] at hlast hsame
  cases hlast
  have hnext : s.outcomes next = [.batch batch] := hsame.performs.ended (.ok ()) (.ok ())
  have hpolling : s.outcomes polling = [.nothing, .nothing] ++ s.outcomes next := hsame.outcomes
  refine ⟨hnext, ?_, hsame.run⟩
  rw [hpolling, hnext]
  rfl

end ServerCursor
