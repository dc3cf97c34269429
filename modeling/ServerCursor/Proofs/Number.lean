import Mathlib
import ServerCursor.Proofs.Amount
import ServerCursor.Proofs.Borrowed
import ServerCursor.Proofs.Underway

/-!
# How many documents are asked for

A cursor that has a limit asks for no more documents than the limit still allows, nor for more than
its batch size, and it always says for how many. The number is computed when a request is made, and
a request is made only while the limit allows another document (`Numbered`). So a server that never
sends more documents than it is asked for sends none in vain.

Everything that a cursor sends it sends in some turn, and every message that asks for a batch waits
for its reply then. The number that it asks for suits the options (`Options.Suits`): it is the batch
size as long as no limit is set, and under a limit there is room for another document, and the
number, whatever its sign, is neither zero nor greater than this room or the batch size. None of the
steps by which it is computed overflows (`computedNumber`).

If the server heeds the numbers (`Moment.Heeds`), everything that arrives while the cursor is open
is taken from it or still buffered, apart from what the first reply had too much.

Main statement: `number_asked_for`.
-/

namespace ServerCursor

theorem batchSize_getMoreBody (r : Requester) (id : Int64) (number : Int32) :
    (r.getMoreBody id number).get? "batchSize" =
      if number = 0 then none else some (.int32 (sizeInt32 number)) := by
  unfold Requester.getMoreBody
  split
  · cases r.maxAwait <;> cases r.comment <;> simp [Document.get?]
  · simp [Document.get?]

/-- A request that asks for what the limit still allows after so many documents, and it allows
some. -/
def Config.Grants (config : Config) (received : Nat) (f : Flight) : Prop :=
  f.1.number = numberToReturn config.limit config.batchSize received ∧
    config.limitReached received = false

/-- All requests under way ask for what the limit still allows. -/
def Numbered (c : Cursor) (pending : Multiset Task) : Prop :=
  ∀ f ∈ flights pending, c.config.Grants c.state.received f

theorem numbered_add {c : Cursor} {m n : Multiset Task} :
    Numbered c (m + n) ↔ Numbered c m ∧ Numbered c n := by
  simp only [Numbered, flights_add, Multiset.mem_add, or_imp, forall_and]

namespace Cursor

variable {c : Cursor} {f g : Flight}

theorem granted_next {wait fetched : Bool} (hroom : c.state.Room c.config)
    (h : f ∈ flights (c.next wait fetched).2.left) : c.config.Grants c.state.received f := by
  obtain ⟨hready, hnext, hasked⟩ := asked_of_flights h
  rw [hnext, hasked.progress, Progress.left, flights_singleton, Task.flight?,
    flight_firstPoint] at h
  cases Multiset.mem_singleton.mp h
  exact ⟨rfl, hroom hready.opened hready.live hready.drained⟩

theorem granted_beginCall {call : Call} (hroom : c.state.Room c.config)
    (h : f ∈ flights (Schedule.beginCall c call).2.left) :
    c.config.Grants c.state.received f := by
  cases call with
  | next => exact granted_next hroom h
  | tryNext => exact granted_next hroom h
  | close =>
    have hnone : flights (Schedule.beginCall c .close).2.left = 0 := flights_close c
    rw [hnone] at h
    exact absurd h (Multiset.notMem_zero f)

/-- A call that is answered goes on with its request, or begins another after a reply without
documents. -/
theorem granted_resume {p : Point} {a : Answer} (hp : p.flight? = some g)
    (hg : c.config.Grants c.state.received g) (hroom : (c.met (p.heard? a)).Room c.config)
    (h : f ∈ flights (c.resume p a).2.left) :
    c.config.Grants (c.met (p.heard? a)).received f := by
  cases p with
  | fetchCheckout e =>
    cases hp
    cases a with
    | checkout r =>
      cases r with
      | ok u =>
        cases Multiset.mem_singleton.mp h
        exact hg
      | error cause =>
        have hnone : flights (c.resume (.fetchCheckout e) (.checkout (.error cause))).2.left = 0 :=
          flights_fetchUnrouted ..
        rw [hnone] at h
        exact absurd h (Multiset.notMem_zero f)
    | reply r =>
      cases Multiset.mem_singleton.mp h
      exact hg
    | kill r =>
      cases Multiset.mem_singleton.mp h
      exact hg
  | fetchReply e n =>
    cases hp
    cases a with
    | checkout r =>
      cases Multiset.mem_singleton.mp h
      exact hg
    | kill r =>
      cases Multiset.mem_singleton.mp h
      exact hg
    | reply r =>
      obtain ⟨reply, rfl, hopen, -, hid, -⟩ := flights_fetchReplied h
      have hnext : c.resume (.fetchReply e n) (.reply (.ok reply)) =
          (c.takenIn e n reply).next e.wait true := fetchReplied_of_live hopen hid e n
      have hmet : c.met (Point.heard? (.fetchReply e n) (.reply (.ok reply))) =
          (c.takenIn e n reply).state := hear_of_live hopen hid e n
      rw [hnext] at h
      rw [hmet] at hroom ⊢
      exact granted_next hroom h
  | killCheckout b after => cases hp
  | killReply b after => cases hp

end Cursor

section Effect

variable {c : Cursor} {t : Turn} {rest : Multiset Task}

theorem granted_effect (h : Numbered c t.party) (hroom : c.state.Room c.config)
    (hs : c.state.Sound (flights (t.party + rest))) (ha : t.Allowed rest) :
    ∀ f ∈ flights (t.effect c).left, c.config.Grants (c.met t.heard?).received f := by
  intro f hf
  have hnone : flights (t.effect c).left = 0 → c.config.Grants (c.met t.heard?).received f :=
    fun h0 => absurd (h0 ▸ hf) (Multiset.notMem_zero f)
  cases t with
  | begin call => exact Cursor.granted_beginCall hroom hf
  | answer p a =>
    cases hp : p.flight? with
    | none => exact hnone (Cursor.flights_resume hp a)
    | some g =>
      have hg : c.config.Grants c.state.received g := h g (by
        rw [Turn.party, flights_singleton, Task.flight?, hp]
        exact Multiset.mem_singleton_self g)
      exact Cursor.granted_resume hp hg (room_met hroom hs) hf
  | cancel p runtime => exact hnone (Cursor.flights_cancel ..)
  | startTask task =>
    exact hnone (Cursor.flights_startTask (background_singleton.mp (ha.task rfl)).1)
  | answerTask p a =>
    exact hnone (Cursor.flights_resume (background_singleton.mp (ha.task rfl)).1 a)
  | discardTask task runtime => exact hnone (Cursor.flights_discardTask ..)
  | drop runtime => exact hnone (Cursor.flights_drop ..)
  | retain r => exact hnone rfl
  | release r => exact hnone rfl

theorem deaf_of_flights (hs : c.state.Sound (flights (t.party + rest))) (h : flights rest ≠ 0) :
    t.heard? = none := by
  cases hheard : t.heard? with
  | none => rfl
  | some heard =>
    obtain ⟨f, hf⟩ := party_of_heard hheard
    rw [hf, flights_add, flights_singleton] at hs
    exact absurd hs.sole.2.1 h

theorem numbered_effect (h : Numbered c (t.party + rest)) (hroom : c.state.Room c.config)
    (hs : c.state.Sound (flights (t.party + rest))) (hp : AllProper t.party) (ha : t.Allowed rest) :
    Numbered (t.effect c).cursor ((t.effect c).left + rest) := by
  obtain ⟨hparty, hrest⟩ := numbered_add.mp h
  have hconfig := (handles_effect hs hp).config
  have hreceived := (deals_effect (c := c) hp ha).received
  rw [numbered_add]
  refine ⟨fun f hf => ?_, fun f hf => ?_⟩
  · rw [hconfig, hreceived]
    exact granted_effect hparty hroom hs ha f hf
  · have hdeaf : t.heard? = none :=
      deaf_of_flights hs fun h0 => absurd (h0 ▸ hf) (Multiset.notMem_zero f)
    rw [hconfig, hreceived, hdeaf]
    exact hrest f hf

end Effect

theorem numbered_play {start c : Cursor} {ms : List Moment} {pending : Multiset Task}
    (hsound : start.state.Sound 0) (hroom : start.state.Room start.config)
    (hp : Play start ms c pending) : Numbered c pending := by
  induction hp with
  | nil => exact fun f hf => absurd hf (Multiset.notMem_zero f)
  | snoc before allowed ih =>
    exact numbered_effect ih (room_play hsound hroom before) (sound_play hsound before)
      (proper_party before) allowed

/-- The server sends no more documents than it is asked for; zero leaves the number to it. -/
def Moment.Heeds (m : Moment) : Prop :=
  ∀ f n r, m.turn = .answer (.fetchReply f n) (.reply (.ok r)) →
    f.number = 0 ∨ r.documents.length ≤ f.number.toInt.natAbs

/-- What a server sends that heeds the number is not cut off. -/
theorem allowed_of_granted {config : Config} {received : Nat} {f : Flight}
    (h : config.Grants received f) {batch : List Document}
    (hbatch : f.1.number = 0 ∨ batch.length ≤ f.1.number.toInt.natAbs) :
    config.allowed received batch = batch := by
  obtain ⟨hnumber, hroom⟩ := h
  unfold Config.allowed
  split
  · rfl
  · rename_i hlimit
    have hlt : received < config.limit := by
      simp only [Config.limitReached, Bool.and_eq_false_iff, bne_eq_false_iff_eq,
        decide_eq_false_iff_not] at hroom
      omega
    obtain ⟨hone, hmost, -⟩ := size_numberToReturn config.batchSize hlt
    rw [← hnumber] at hone hmost
    have hsize := hbatch.resolve_left fun hzero => by
      rw [natAbs_toInt_eq_zero.mpr hzero] at hone
      omega
    exact List.take_of_length_le (hsize.trans hmost)

/-- A limit that has not been reached has cut nothing off. -/
theorem length_cutOff {config : Config} {documents : List Document}
    (h : config.limitReached (cutOff config.limit documents).length = false) :
    (cutOff config.limit documents).length = documents.length ∧
      (config.limit ≠ 0 → documents.length < config.limit) := by
  unfold cutOff at h ⊢
  split
  · rename_i hnone
    exact ⟨rfl, fun hlimit => absurd hnone hlimit⟩
  · rename_i hlimit
    rw [if_neg hlimit] at h
    simp only [Config.limitReached, Bool.and_eq_false_iff, bne_eq_false_iff_eq,
      decide_eq_false_iff_not, List.length_take] at h ⊢
    omega

section Play

variable {start c : Cursor} {first : Reply} {ms : List Moment} {pending : Multiset Task}
  (hsound : start.state.Sound 0) (hroom : start.state.Room start.config)

include hsound hroom

/-- No document of a reply is cut off. -/
theorem allowed_of_heeds {m : Moment} {rest : Multiset Task}
    (hp : Play start ms m.cursor (m.turn.party + rest)) (hheeds : m.Heeds) {f : Fetch} {n : Nat}
    {r : Reply} (hm : m.turn = .answer (.fetchReply f n) (.reply (.ok r))) :
    m.cursor.config.allowed m.cursor.state.received r.documents = r.documents := by
  have hnumbered := (numbered_add.mp (numbered_play hsound hroom hp)).1
  rw [hm] at hnumbered
  exact allowed_of_granted (hnumbered (f, some n) (Multiset.mem_singleton_self _))
    (hheeds f n r hm)

theorem allowed_arrived {m : Moment} {rest : Multiset Task}
    (hp : Play start ms m.cursor (m.turn.party + rest)) (ha : m.turn.Allowed rest)
    (hheeds : m.Heeds) :
    m.cursor.config.allowed m.cursor.state.received m.arrived = m.arrived := by
  unfold Moment.arrived
  split
  · exact allowed_nil ..
  cases hreply : m.reply? with
  | none => exact allowed_nil ..
  | some r =>
    obtain ⟨n, hheard⟩ := heard_of_reply hreply
    obtain ⟨f, hturn⟩ := answer_of_heard ha hheard
    exact allowed_of_heeds hsound hroom hp hheeds hturn

/-- All documents of replies count. -/
theorem arrived_of_heeds (hcounted : Conserved start.config.limit first.documents [] start.state)
    (hp : Play start ms c pending) (hheeds : ∀ m ∈ ms, m.Heeds) :
    cutOff start.config.limit (arrived first ms) =
      cutOff start.config.limit first.documents ++ ms.flatMap Moment.arrived := by
  induction hp with
  | nil => simp [arrived]
  | @snoc ms c rest t before allowed ih =>
    obtain ⟨hlimit, hconserved⟩ := conserved_play hsound rfl hcounted before
    have hlast := hheeds ⟨c, t⟩ (List.mem_append_right _ List.mem_cons_self)
    have hkept := allowed_arrived hsound hroom (m := ⟨c, t⟩) before allowed hlast
    rw [arrived_snoc, ← hlimit, cutOff_append, hlimit, ← hconserved.received]
    dsimp only at hkept
    rw [hkept, ih fun m hm => hheeds m (List.mem_append_left _ hm), List.flatMap_append,
      List.flatMap_singleton, List.append_assoc]

end Play

/-- A number of documents to ask for when so many have arrived. -/
structure Options.Suits (options : Options) (received : Nat) (number : Int32) : Prop where
  /-- No step of its computation overflows. -/
  computed : computedNumber options.limit options.batchSize received = some number.toInt
  /-- Without a limit it is the batch size. -/
  unlimited : options.limit = 0 → number = options.batchSize
  /-- A limit allows another document. -/
  room : options.limit ≠ 0 → received < options.effectiveLimit
  /-- Under a limit it is not zero, and not more than the limit allows or the batch size. -/
  limited : options.limit ≠ 0 → 1 ≤ number.toInt.natAbs ∧
    number.toInt.natAbs ≤ options.effectiveLimit - received ∧
    (options.batchSize ≠ 0 → number.toInt.natAbs ≤ options.batchSize.toInt.natAbs)
  /-- No step of the computation of its size overflows. -/
  size : (sizeInt32 number).toInt = computedSize number
  /-- Its size keeps to the same bounds. -/
  bounded : options.limit ≠ 0 → 1 ≤ (sizeInt32 number).toInt ∧
    (sizeInt32 number).toInt ≤ (options.effectiveLimit - received : Nat)
  /-- A command leaves its size out only if there is neither a limit nor a batch size. -/
  carried : ∀ (r : Requester) (id : Int64), (r.getMoreBody id number).get? "batchSize" =
    if options.limit = 0 ∧ options.batchSize = 0 then none else some (.int32 (sizeInt32 number))

theorem suits_of_room {options : Options} {received : Nat} {number : Int32}
    (hroom : options.limit ≠ 0 → received < options.effectiveLimit)
    (h : number = numberToReturn options.effectiveLimit options.batchSize received) :
    options.Suits received number := by
  have hcomputed := computedNumber_eq options.limit options.batchSize fun hne => (hroom hne).le
  obtain ⟨hle, hpos⟩ := size_sizeInt32 number
  by_cases hnone : options.limit = 0
  · have hbatch : number = options.batchSize :=
      h.trans (if_pos (natAbs_toInt_eq_zero.mpr hnone))
    refine ⟨h ▸ hcomputed, fun _ => hbatch, hroom, fun hne => absurd hnone hne,
      toInt_sizeInt32 number, fun hne => absurd hnone hne, fun r id => ?_⟩
    rw [batchSize_getMoreBody, hbatch]
    simp only [hnone, true_and]
  · obtain ⟨hone, hmost, hcap⟩ := size_numberToReturn options.batchSize (hroom hnone)
    rw [← h] at hone hmost hcap
    refine ⟨h ▸ hcomputed, fun h0 => absurd h0 hnone, hroom, fun _ => ⟨hone, hmost, hcap⟩,
      toInt_sizeInt32 number, fun _ => ⟨hpos hone, by omega⟩, fun r id => ?_⟩
    have hne : number ≠ 0 := fun h0 => by
      rw [natAbs_toInt_eq_zero.mpr h0] at hone
      omega
    rw [batchSize_getMoreBody, if_neg hne, if_neg fun hboth => hnone hboth.1]

section Create

variable (reply : Reply) (options : Options) (server : ServerDescription)
  (connection : Option (Nat × ConnectionDescription)) (l : Ledger)

/-- Every number that is asked for suits the limit, the batch size and what has been received. If
the server heeds the numbers, no document of a reply is cut off. -/
theorem number_asked_for (runtime : Bool) (history : List Action) :
    let start := Schedule.opened reply options server connection l runtime
    let s := start.run history
    let limit := options.effectiveLimit
    let moments := start.moments history
    s.cursor.ledger.traffic = l.traffic ++ moments.flatMap Moment.traffic ∧
    (∀ before m later, moments = before ++ m :: later →
      let requester := m.cursor.config.requester
      let received := (arrived reply (before ++ [m])).length
      ∀ n message, .sent n message ∈ m.traffic → message.asks?.isSome = true →
        ∃ f, .suspended (.fetchReply f n) ∈ (m.turn.effect m.cursor).left ∧
          message = requester.getMore f.id f.number ∧ options.Suits received f.number) ∧
    ((∀ m ∈ moments, m.Heeds) →
      (∀ m ∈ moments, ∀ f n r, m.turn = .answer (.fetchReply f n) (.reply (.ok r)) →
        m.cursor.config.allowed m.cursor.state.received r.documents = r.documents) ∧
      cutOff limit (arrived reply moments) =
        cutOff limit reply.documents ++ moments.flatMap Moment.arrived ∧
      (s.cursor.state.closed = false → taken moments ++ s.cursor.state.buffer =
        cutOff limit reply.documents ++ moments.flatMap Moment.arrived)) := by
  intro start s limit moments
  have hlimit : start.cursor.config.limit = limit :=
    (config_create reply options server connection l).2
  have hbatch : start.cursor.config.batchSize = options.batchSize :=
    congrArg Config.batchSize (config_create_eq reply options server connection l)
  have hsound : start.cursor.state.Sound 0 := sound_create reply options server connection l
  have hroom : start.cursor.state.Room start.cursor.config :=
    room_create reply options server connection l
  have hcounted : Conserved start.cursor.config.limit reply.documents [] start.cursor.state :=
    hlimit ▸ conserved_create reply options server connection l
  have hplay : Play start.cursor moments s.cursor s.pending :=
    Schedule.play_run start.cursor runtime history
  refine ⟨?_, fun before m later hmoments => ?_, fun hheeds => ⟨fun m hm f n r hturn => ?_, ?_, ?_⟩⟩
  · rw [← traffic_create reply options server connection l]
    exact traffic_play hplay
  · intro requester received n message hsent hasks
    rw [hmoments] at hplay
    obtain ⟨rest, hbefore, hallowed⟩ := hplay.until
    obtain ⟨-, -, f, hleft, hmessage⟩ :=
      waits_of_sent (proper_party hbefore) (traffic_moment (proper_party hbefore)) hsent hasks
    have hafter := Play.snoc hbefore hallowed
    have hconfig : (m.turn.effect m.cursor).cursor.config = start.cursor.config :=
      config_onward hsound .nil hafter
    have hflight : (f, some n) ∈ flights (m.turn.effect m.cursor).left :=
      (Multiset.mem_filterMap _ _).mpr ⟨_, hleft, rfl⟩
    obtain ⟨hnumber, hunreached⟩ :=
      (numbered_add.mp (numbered_play hsound hroom hafter)).1 _ hflight
    have hconserved := (conserved_play hsound rfl hcounted hafter).2.received
    rw [hconfig, hconserved] at hnumber hunreached
    obtain ⟨hall, hless⟩ := length_cutOff hunreached
    rw [hall, hlimit, hbatch] at hnumber
    rw [hlimit] at hless
    exact ⟨f, hleft, hmessage,
      suits_of_room (fun hne => hless (mt natAbs_toInt_eq_zero.mp hne)) hnumber⟩
  · obtain ⟨before, rest, hbefore, -⟩ := hplay.of_mem hm
    exact allowed_of_heeds hsound hroom hbefore (hheeds m hm) hturn
  · rw [← hlimit]
    exact arrived_of_heeds hsound hroom hcounted hplay hheeds
  · intro hopen
    have hconserved := (conserved_play hsound rfl hcounted hplay).2.buffer hopen
    rw [hconserved, ← hlimit]
    exact arrived_of_heeds hsound hroom hcounted hplay hheeds

end Create

/-- The limit leaves room for two more documents, and the server sends both at once. -/
theorem number_asked_for_heeded :
    let batch : List Document := [[("n", .int32 2)], [("n", .int32 3)]]
    let start := Schedule.opened ⟨⟨"db", "items"⟩, [[("n", .int32 1)]], 7, .localhost⟩
      ⟨3, 0, none, none⟩ .blank none Ledger.start false
    let history : List Action := [.begin .blocking .next, .begin .blocking .next,
      .answer .blocking (.checkout (.ok ())),
      .answer .blocking (.reply (.ok ⟨⟨"db", "items"⟩, batch, 7, .localhost⟩))]
    let moments := start.moments history
    (∀ m ∈ moments, m.Heeds) ∧ moments.flatMap Moment.arrived = batch ∧
    cutOff 3 (arrived ⟨⟨"db", "items"⟩, [[("n", .int32 1)]], 7, .localhost⟩ moments) =
      [("n", .int32 1)] :: batch := by
  intro batch start history moments
  let asked : Fetch := ⟨7, 2, true, true⟩
  have hturns : moments.map Moment.turn = [.begin .next, .begin .next,
      .answer (.fetchCheckout asked) (.checkout (.ok ())),
      .answer (.fetchReply asked 1) (.reply (.ok ⟨⟨"db", "items"⟩, batch, 7, .localhost⟩))] := by
    cbv
  have hheeds : ∀ m ∈ moments, m.Heeds := by
    intro m hm f n r hturn
    have hmem := List.mem_map_of_mem (f := Moment.turn) hm
    rw [hturns, hturn] at hmem
    simp only [List.mem_cons, List.not_mem_nil, or_false, reduceCtorEq, false_or,
      Turn.answer.injEq, Point.fetchReply.injEq, Answer.reply.injEq, Except.ok.injEq,
      false_and] at hmem
    obtain ⟨⟨rfl, -⟩, rfl⟩ := hmem
    exact .inr (by decide)
  have harrived : moments.flatMap Moment.arrived = batch := by cbv
  obtain ⟨-, -, hnone⟩ := number_asked_for ⟨⟨"db", "items"⟩, [[("n", .int32 1)]], 7, .localhost⟩
    ⟨3, 0, none, none⟩ .blank none Ledger.start false history
  obtain ⟨-, hall, -⟩ := hnone hheeds
  have hlimit : (Options.mk 3 0 none none).effectiveLimit = 3 := by decide
  rw [hlimit, harrived] at hall
  exact ⟨hheeds, harrived, hall⟩

end ServerCursor
