import ServerCursor.Proofs.Failure
import ServerCursor.Proofs.Slot

/-!
# One request at a time

A request for the next batch is under way from the moment it asks for a connection, or is sent over
the one to which the cursor is bound, until the call that waits for it has failed, is given up, or
has heard the reply (`Schedule.roundTrips`).

Main statement: `single_flight` says that at most one request is under way, that the cursor knows
whether one is, that other calls for documents are refused meanwhile and leave no trace, and that
none is refused once the request has come to its end.
-/

namespace ServerCursor

/-- The requests that some calls wait for, and the slots of these calls. -/
def roundTripsOf (calls : List (Slot × Point)) : List (Slot × Flight) :=
  calls.filterMap fun call => call.2.flight?.map (call.1, ·)

theorem roundTripsOf_append (calls more : List (Slot × Point)) :
    roundTripsOf (calls ++ more) = roundTripsOf calls ++ roundTripsOf more :=
  List.filterMap_append ..

namespace Cursor

theorem flights_fetchUnrouted (c : Cursor) (f : Fetch) (cause : Error) :
    flights (c.fetchUnrouted f cause).2.left = 0 := by
  simp only [fetchUnrouted]
  split
  · exact flights_kill ..
  · rfl

theorem flights_deliver (c : Cursor) : flights c.deliver.2.left = 0 := by
  simp only [deliver]
  split
  · exact flights_kill ..
  · rfl

theorem id_of_startFetch {c : Cursor} {wait : Bool} {f : Flight}
    (h : f ∈ flights (c.startFetch wait).2.left) : f.1.id = c.state.id := by
  simp only [startFetch] at h
  split at h
  · cases h
  split at h
  · split at h
    · cases h
    · rw [Multiset.mem_singleton.mp h]
  split at h
  · rw [Multiset.mem_singleton.mp h]
  · rw [flights_fetchUnrouted] at h
    cases h

/-- A call that has to wait discards the server's cursor before it hands out the last batch, or asks
for the next one. -/
theorem next_of_waiting {c : Cursor} {wait fetched : Bool} {p : Point}
    (h : (c.next wait fetched).2 = .waiting p) :
    c.next wait fetched = c.deliver ∨
      c.next wait fetched = c.startFetch wait ∧ c.state.closed = false ∧
        c.state.fetching = false ∧ c.state.buffer = [] ∧ c.state.id ≠ 0 ∧
        c.state.pin.isFailed = false ∧ (fetched = true → wait = true) := by
  unfold next at h ⊢
  split at h
  · cases h
  rename_i hopen
  split at h
  · cases h
  rename_i hidle
  rw [if_neg hopen, if_neg hidle]
  split at h
  · rename_i hbuffer
    exact .inl (if_pos hbuffer)
  rename_i hbuffer
  split at h
  · cases h
  rename_i hid
  split at h
  · cases h
  rename_i hmore
  split at h
  · cases h
  rename_i hintact
  rw [if_neg hbuffer, if_neg hid, if_neg hmore, if_neg hintact]
  refine .inr ⟨rfl, Bool.eq_false_iff.mpr hopen, Bool.eq_false_iff.mpr hidle, by simpa using hbuffer,
    hid, Bool.eq_false_iff.mpr hintact, fun hfetched => ?_⟩
  simpa [hfetched] using hmore

theorem startFetch_of_flights {c : Cursor} {wait fetched : Bool} {f : Flight}
    (h : f ∈ flights (c.next wait fetched).2.left) :
    c.next wait fetched = c.startFetch wait ∧ c.state.closed = false ∧
      c.state.fetching = false ∧ c.state.buffer = [] ∧ c.state.id ≠ 0 ∧
      c.state.pin.isFailed = false ∧ (fetched = true → wait = true) := by
  cases hprogress : (c.next wait fetched).2 with
  | done o =>
    rw [hprogress] at h
    cases h
  | waiting p =>
    obtain hdeliver | hstart := next_of_waiting hprogress
    · rw [hdeliver, flights_deliver] at h
      cases h
    · exact hstart

/-- A call that goes on with its reply asks again only for documents of an open cursor, if it is to
go on until there are some. -/
theorem flights_next {c : Cursor} {wait fetched : Bool} {f : Flight}
    (h : f ∈ flights (c.next wait fetched).2.left) :
    c.state.closed = false ∧ c.state.id ≠ 0 ∧ c.state.buffer = [] ∧ f.1.id = c.state.id ∧
      (fetched = true → wait = true) := by
  obtain ⟨hstart, hopen, -, hbuffer, hid, -, hmore⟩ := startFetch_of_flights h
  rw [hstart] at h
  exact ⟨hopen, hid, hbuffer, id_of_startFetch h, hmore⟩

/-- After a reply a request is under way only if the call goes on for lack of documents. -/
theorem flights_fetchReplied {c : Cursor} {f : Fetch} {n : Nat} {r : Except Error Reply}
    {g : Flight} (h : g ∈ flights (c.fetchReplied f n r).2.left) :
    ∃ reply, r = .ok reply ∧ c.state.closed = false ∧ f.wait = true ∧ reply.id ≠ 0 ∧
      g.1.id = reply.id := by
  unfold fetchReplied at h
  split at h
  · simp only [fetchRepliedClosed, flights_kill] at h
    cases h
  rename_i hopen
  cases r with
  | ok reply =>
    dsimp only at h
    split at h
    · obtain ⟨-, hlive, -⟩ := flights_next h
      exact absurd rfl hlive
    · rename_i hid
      obtain ⟨-, -, -, hg, hwait⟩ := flights_next h
      exact ⟨reply, rfl, Bool.eq_false_iff.mpr hopen, hwait rfl, hid, hg⟩
  | error cause => cases h

theorem next_of_drained {c : Cursor} (hopen : c.state.closed = false)
    (hidle : c.state.fetching = false) (hbuffer : c.state.buffer = []) (hid : c.state.id = 0)
    (wait fetched : Bool) : c.next wait fetched = c.finish := by
  unfold next
  simp only [hopen, hidle, hbuffer, hid, Bool.false_eq_true, if_false, List.isEmpty_nil,
    Bool.not_true, if_true]

/-- Calls for documents are refused while a request is under way. -/
theorem beginCall_of_fetching {c : Cursor} (hf : c.state.fetching = true) {call : Call}
    (hcall : call ≠ .close) :
    Schedule.beginCall c call =
      (c, .done (.failed (.illegalState (if c.state.closed then .closed else .fetching)))) := by
  have hnext : ∀ wait, c.next wait false =
      (c, .done (.failed (.illegalState (if c.state.closed then .closed else .fetching)))) := by
    intro wait
    unfold next
    cases c.state.closed with
    | true => rfl
    | false =>
      rw [if_neg Bool.false_ne_true, if_pos hf]
      rfl
  cases call with
  | next => exact hnext true
  | tryNext => exact hnext false
  | close => exact absurd rfl hcall

end Cursor

namespace Schedule

/-- The requests for batches that are under way, and the slots of the calls that wait for them. -/
def roundTrips (s : Schedule) : List (Slot × Flight) :=
  roundTripsOf s.calls

theorem flights_pending {s : Schedule} (ho : s.Orderly) :
    flights s.pending = ↑(s.roundTrips.map (·.2)) := by
  rw [pending, flights_add, ho.tasks.flights, add_zero, flights, Multiset.filterMap_coe,
    List.filterMap_map, roundTrips, roundTripsOf, List.map_filterMap]
  congr 1
  refine List.filterMap_congr fun call _ => ?_
  cases h : call.2.flight? <;> simp [Task.flight?, h]

/-- Every slot holds one call, and the state fits the requests under way. -/
structure Coherent (s : Schedule) : Prop where
  orderly : s.Orderly
  sound : s.cursor.state.Sound (flights s.pending)

theorem coherent_run {c : Cursor} (hsound : c.state.Sound 0) (runtime : Bool)
    (history : List Action) : ((ofCursor c runtime).run history).Coherent :=
  ⟨orderly_run (orderly_ofCursor c runtime) history,
    sound_play hsound (play_run c runtime history)⟩

section Coherent

variable {s : Schedule} (h : s.Coherent) {slot : Slot} {p : Point} {f : Flight}

include h

theorem Coherent.length_roundTrips : s.roundTrips.length ≤ 1 := by
  have hsound := h.sound
  rw [flights_pending h.orderly] at hsound
  rcases hsound.flight with ⟨-, hnone⟩ | ⟨-, f, hone, -⟩
  · have hnil := (Multiset.coe_eq_zero _).mp hnone
    rw [List.map_eq_nil_iff.mp hnil]
    exact Nat.zero_le 1
  · have hsingle := congrArg List.length (Multiset.coe_eq_singleton.mp hone)
    rw [List.length_map] at hsingle
    exact hsingle.le

theorem Coherent.fetching_iff : s.cursor.state.fetching = true ↔ s.roundTrips ≠ [] := by
  have hsound := h.sound
  rw [flights_pending h.orderly] at hsound
  rcases hsound.flight with ⟨hf, hnone⟩ | ⟨hf, f, hone, -⟩
  · have hnil := List.map_eq_nil_iff.mp ((Multiset.coe_eq_zero _).mp hnone)
    simp [hf, hnil]
  · refine ⟨fun _ hnil => ?_, fun _ => hf⟩
    rw [hnil] at hone
    exact Multiset.singleton_ne_zero f hone.symm

theorem Coherent.roundTrips_without (hp : s.waitingIn? slot = some p) (hf : p.flight? = some f) :
    roundTripsOf (without s.calls slot) = [] := by
  have hperm : s.roundTrips.Perm ((slot, f) :: roundTripsOf (without s.calls slot)) := by
    have hcalls := (perm_without h.orderly.slots hp).filterMap
      fun call : Slot × Point => call.2.flight?.map (call.1, ·)
    rwa [List.filterMap_cons_some (by rw [hf]; rfl)] at hcalls
  have hlength := hperm.length_eq
  have hle := h.length_roundTrips
  rw [List.length_cons] at hlength
  exact List.length_eq_zero_iff.mp (by omega)

theorem Coherent.sole (hp : s.waitingIn? slot = some p) (hf : p.flight? = some f) :
    s.cursor.state.Sound {f} := by
  have hall := h.sound
  have hparty : (Task.suspended p).flight? = some f := hf
  rw [pending_of_waiting h.orderly hp s.cursor, flights_add, flights_singleton, hparty] at hall
  have hrest := hall.sole.2.1
  rw [hrest] at hall
  exact hall

end Coherent

/-- What a call waits for after an answer. -/
theorem roundTrips_answer {s : Schedule} (hs : s.Coherent) {slot : Slot} {p : Point} {f : Flight}
    (hp : s.waitingIn? slot = some p) (hf : p.flight? = some f) (a : Answer) :
    (s.step (.answer slot a)).1.roundTrips = [] ∧ flights (s.cursor.resume p a).2.left = 0 ∨
      ∃ g ∈ flights (s.cursor.resume p a).2.left,
        (s.step (.answer slot a)).1.roundTrips = [(slot, g)] := by
  have htrips : (s.step (.answer slot a)).1.roundTrips =
      roundTripsOf ((s.cursor.resume p a).2.point?.map (slot, ·)).toList := by
    rw [roundTrips, answer_of_waiting hp, calls_letGo, roundTripsOf_append,
      hs.roundTrips_without hp hf]
    rfl
  rw [htrips]
  cases (s.cursor.resume p a).2 with
  | done o => exact .inl ⟨rfl, rfl⟩
  | waiting q =>
    rw [Progress.left, flights_singleton]
    cases hq : q.flight? with
    | none =>
      have ht : (Task.suspended q).flight? = none := hq
      simp [roundTripsOf, Progress.point?, hq, ht]
    | some g =>
      have ht : (Task.suspended q).flight? = some g := hq
      right
      simp [roundTripsOf, Progress.point?, hq, ht]

theorem roundTrips_answer_eq_nil {s : Schedule} (hs : s.Coherent) {slot : Slot} {p : Point}
    {f : Flight} (hp : s.waitingIn? slot = some p) (hf : p.flight? = some f) {a : Answer}
    (hnone : flights (s.cursor.resume p a).2.left = 0) :
    (s.step (.answer slot a)).1.roundTrips = [] := by
  rcases roundTrips_answer hs hp hf a with ⟨hnil, -⟩ | ⟨g, hg, -⟩
  · exact hnil
  · rw [hnone] at hg
    exact absurd hg (Multiset.notMem_zero g)

end Schedule

section Create

variable (reply : Reply) (options : Options) (server : ServerDescription)
  (connection : Option (Nat × ConnectionDescription)) (l : Ledger)

/-- At most one request for a batch is under way, and the cursor knows whether one is. Meanwhile a
call for documents is refused at once and nothing changes; once the request has come to its end,
none is refused for it. -/
theorem single_flight (runtime : Bool) (history : List Action) :
    let start := Schedule.opened reply options server connection l runtime
    let s := start.run history
    s.roundTrips.length ≤ 1 ∧
    (s.cursor.state.fetching = true ↔ s.roundTrips ≠ []) ∧
    (s.roundTrips ≠ [] → ∀ slot call, call ≠ .close → s.handles ≠ 0 → s.waitingIn? slot = none →
      s.step (.begin slot call) = (s, some (.failed (.illegalState
        (if s.cursor.state.closed then .closed else .fetching))))) ∧
    (∀ slot f, s.waitingIn? slot = some (.fetchCheckout f) →
      (s.step (.cancel slot)).1.roundTrips = [] ∧
      ∀ cause, (s.step (.answer slot (.checkout (.error cause)))).1.roundTrips = []) ∧
    (∀ slot f n, s.waitingIn? slot = some (.fetchReply f n) →
      (s.step (.cancel slot)).1.roundTrips = [] ∧
      (∀ cause, (s.step (.answer slot (.reply (.error cause)))).1.roundTrips = []) ∧
      ∀ reply, (s.step (.answer slot (.reply (.ok reply)))).1.roundTrips = [] ∨
        s.cursor.state.closed = false ∧ f.wait = true ∧ reply.id ≠ 0 ∧
          ∃ g, g.1.id = reply.id ∧
            (s.step (.answer slot (.reply (.ok reply)))).1.roundTrips = [(slot, g)]) ∧
    ∀ later, .failed (.illegalState .fetching) ∈ s.outcomes later →
      (∃ before slot call after, later = before ++ .begin slot call :: after ∧
        (start.run (history ++ before)).cursor.state.closed = false ∧
        (start.run (history ++ before)).roundTrips ≠ []) ∨
      ∃ slot a, .answer slot a ∈ history ++ later ∧ a.cause? = some (.illegalState .fetching) := by
  intro start s
  have hsound := sound_create reply options server connection l
  have hcoherent : ∀ history, (start.run history).Coherent :=
    Schedule.coherent_run hsound runtime
  have hs : s.Coherent := hcoherent history
  refine ⟨hs.length_roundTrips, hs.fetching_iff, fun htrips slot call hcall hhandles hfree => ?_,
    fun slot f hp => ⟨?_, fun cause => ?_⟩,
    fun slot f n hp => ⟨?_, fun cause => ?_, fun reply => ?_⟩, fun later hlater => ?_⟩
  · rw [Schedule.begin_of_free hfree hhandles,
      Cursor.beginCall_of_fetching (hs.fetching_iff.mpr htrips) hcall]
    simp [Progress.point?, Progress.outcome?]
  · rw [Schedule.roundTrips, Schedule.calls_cancel hp]
    exact hs.roundTrips_without hp rfl
  · exact Schedule.roundTrips_answer_eq_nil hs hp rfl (Cursor.flights_fetchUnrouted ..)
  · rw [Schedule.roundTrips, Schedule.calls_cancel hp]
    exact hs.roundTrips_without hp rfl
  · refine Schedule.roundTrips_answer_eq_nil hs hp rfl ?_
    refine Multiset.eq_zero_of_forall_notMem fun g hg => ?_
    obtain ⟨reply, hreply, -⟩ := Cursor.flights_fetchReplied hg
    cases hreply
  · rcases Schedule.roundTrips_answer hs hp rfl (.reply (.ok reply)) with
      ⟨hnil, -⟩ | ⟨g, hg, htrips⟩
    · exact .inl hnil
    · obtain ⟨reply', hreply, hopen, hwait, hid, hg⟩ := Cursor.flights_fetchReplied hg
      cases hreply
      exact .inr ⟨hopen, hwait, hid, g, hg, htrips⟩
  · rcases Schedule.refused_or_told history later hsound hlater with
      ⟨before, a, after, t, hsplit, hturn, hrefuses⟩ | hfalse | htold
    · cases hrefuses with
      | @fetching call opened busy =>
        left
        cases a with
        | begin slot call' =>
          exact ⟨before, slot, call', after, hsplit, opened,
            (hcoherent (history ++ before)).fetching_iff.mp busy⟩
        | answerTask i a => simp only [Schedule.turn?] at hturn; split at hturn <;> cases hturn
        | _ => simp [Schedule.turn?] at hturn
    · cases hfalse
    · exact .inr htold

end Create

end ServerCursor
