import Mathlib.Tactic.Abel
import ServerCursor.Proofs.Traffic

/-!
# Discarding the server's cursor at most once

The number of the server's cursor is in one place at a time: in the state, with a party that is to
discard it, or among those that the server was told to discard; or it is in none of them any more
(`tokens`). Every turn moves it between these places or loses it (`Flow`), and a reply replaces it.

Main statement: `discarded_at_most_once` says what goes over the wire in every history: requests for
batches, and after all of them at most one message that discards a cursor, namely the one of the
last reply.
-/

namespace ServerCursor

namespace Message

/-- The collection and the numbers of the cursors that a message discards. -/
def discards? : Message → Option (Namespace × List Value)
  | .command db [(name, .string coll), (field, .array ids)] =>
    if name = "killCursors" ∧ field = "cursors" then some (⟨db, coll⟩, ids) else none
  | .killCursors ns ids => some (ns, ids.map .int64)
  | _ => none

/-- The number of the cursor of which a message asks for the next batch. -/
def asks? : Message → Option Int64
  | .command _ ((name, .int64 id) :: _) => if name = "getMore" then some id else none
  | .getMore _ id _ => some id
  | _ => none

end Message

namespace Requester

theorem discards?_kill (r : Requester) (id : Int64) :
    (r.kill id).discards? = some (r.ns, [.int64 id]) := by
  simp only [kill]
  split
  · simp [killBody, Message.discards?]
  · rfl

theorem discards?_getMore (r : Requester) (id : Int64) (number : Int32) :
    (r.getMore id number).discards? = none := by
  simp only [getMore]
  split <;> rfl

theorem asks?_getMore (r : Requester) (id : Int64) (number : Int32) :
    (r.getMore id number).asks? = some id := by
  simp only [getMore]
  split
  · simp [getMoreBody, Message.asks?]
  · rfl

theorem asks?_kill (r : Requester) (id : Int64) : (r.kill id).asks? = none := by
  simp only [kill]
  split <;> rfl

end Requester

/-- The last reply: the first one, if no request has had another. -/
def lastReply (first : Reply) (ms : List Moment) : Reply :=
  (ms.filterMap Moment.reply?).getLastD first

theorem lastReply_snoc (first : Reply) (ms : List Moment) (m : Moment) :
    lastReply first (ms ++ [m]) = m.reply?.getD (lastReply first ms) := by
  rw [lastReply, List.filterMap_append]
  cases h : m.reply? with
  | none =>
    rw [List.filterMap_cons_none h, List.filterMap_nil, List.append_nil]
    rfl
  | some reply =>
    rw [List.filterMap_cons_some h, List.filterMap_nil, List.getLastD_concat]
    rfl

/-- The server's cursor that a state knows, if there is one. -/
def State.known (s : State) : Multiset Int64 :=
  if s.id = 0 then 0 else {s.id}

namespace State

variable {s : State}

theorem known_of_eq_zero (h : s.id = 0) : s.known = 0 := if_pos h

theorem known_of_ne_zero (h : s.id ≠ 0) : s.known = {s.id} := if_neg h

theorem known_eq_zero : s.known = 0 ↔ s.id = 0 := by
  constructor
  · intro h
    by_contra hne
    rw [known_of_ne_zero hne] at h
    exact Multiset.singleton_ne_zero _ h
  · exact known_of_eq_zero

theorem known_congr {s' : State} (h : s'.id = s.id) : s'.known = s.known := by
  rw [known, known, h]

end State

/-- What a turn does with the server's cursor and what it sends. -/
structure Flow (c : Cursor) (s : State) (party : Multiset Task) (c' : Cursor)
    (left : Multiset Task) (why : Prop) (told : List Int64) : Prop where
  /-- What never changes. -/
  config : c'.config = c.config
  /-- The server is asked for the next batch only of the cursor in the state. -/
  messages : ∃ numbers : List Int32, (numbers ≠ [] → s.id ≠ 0) ∧
    c'.ledger.messages = c.ledger.messages ++ numbers.map (c.config.requester.getMore s.id) ++
      told.map c.config.requester.kill
  /-- The server's cursor is moved, or lost for a reason. A party that has the reason loses it. -/
  balance : (↑told + c'.state.known + owes left = s.known + owes party ∧ (owes party ≠ 0 → ¬ why)) ∨
    (told = [] ∧ why ∧ ∃ id, c'.state.known + owes left + {id} = s.known + owes party)
  /-- Only those wait for the server that have told it. -/
  awaits : awaits left ≤ awaits party + ↑told
  /-- Whoever hands the server's cursor on has nothing to hand out. -/
  drained : owes party = 0 → ↑told + owes left ≠ 0 → c'.state.buffer = []
  /-- Nothing arrives. -/
  buffer : c'.state.buffer = s.buffer ∨ c'.state.buffer = []
  /-- A connection that has failed had failed before. -/
  pin : c'.state.pin.isFailed = true → s.pin.isFailed = true ∨ why ∧ owes party = 0
  /-- Nothing is sent over a connection that had failed. -/
  stuck : s.pin.isFailed = true → owes party = 0 → ↑told + owes left = 0 ∧
    (c'.state.id ≠ 0 → c'.state.pin.isFailed = true)

section Flow

variable {c c' : Cursor} {s : State} {party left : Multiset Task} {why : Prop}

/-- What is sent when no batch is asked for. -/
theorem messages_of_told {told : List Int64}
    (h : c'.ledger.messages = c.ledger.messages ++ told.map c.config.requester.kill) (id : Int64) :
    ∃ numbers : List Int32, (numbers ≠ [] → id ≠ 0) ∧
      c'.ledger.messages = c.ledger.messages ++ numbers.map (c.config.requester.getMore id) ++
        told.map c.config.requester.kill := by
  refine ⟨[], fun hne => absurd rfl hne, ?_⟩
  rw [h, List.map_nil, List.append_nil]

theorem messages_of_kept (h : c'.ledger.messages = c.ledger.messages) :
    c'.ledger.messages =
      c.ledger.messages ++ ([] : List Int64).map c.config.requester.kill := by
  rw [h, List.map_nil, List.append_nil]

theorem awaits_le_of_quiet (h : Quiet left) (m : Multiset Int64) : awaits left ≤ m := by
  rw [h.awaits]
  exact Multiset.zero_le m

theorem owes_eq_zero_of_quiet (h : Quiet left) : ↑([] : List Int64) + owes left = 0 := by
  rw [h.owes]
  rfl

theorem Passage.pin_or (h : Passage c s c' left why) (howes : owes party = 0)
    (hf : c'.state.pin.isFailed = true) : s.pin.isFailed = true ∨ why ∧ owes party = 0 :=
  (h.pin hf).imp_right fun hw => ⟨hw, howes⟩

/-- A turn that leaves the server's cursor in the state. -/
theorem flow_kept (howes : owes party = 0) (h : Passage c s c' left why)
    (hid : c'.state.id = s.id) (hquiet : Quiet left)
    (hmessages : ∃ numbers : List Int32, (numbers ≠ [] → s.id ≠ 0) ∧ c'.ledger.messages =
      c.ledger.messages ++ numbers.map (c.config.requester.getMore s.id) ++
        ([] : List Int64).map c.config.requester.kill) :
    Flow c s party c' left why [] := by
  have hnone := owes_eq_zero_of_quiet hquiet
  refine ⟨h.config, hmessages, .inl ⟨?_, fun hne => absurd howes hne⟩,
    awaits_le_of_quiet hquiet _, fun _ hne => absurd hnone hne, h.buffer, h.pin_or howes,
    fun hf _ => ⟨hnone, h.stuck hf⟩⟩
  rw [hquiet.owes, howes, State.known_congr hid, Multiset.coe_nil, zero_add]

/-- A turn that takes the server's cursor out of the state and tells the server or a party. -/
theorem flow_moved {told : List Int64} (howes : owes party = 0) (h : Passage c s c' left why)
    (hmessages : c'.ledger.messages = c.ledger.messages ++ told.map c.config.requester.kill)
    (hlive : s.id ≠ 0) (hlaid : c'.state.Laid) (hintact : s.pin.isFailed = false)
    (hmoved : ↑told + owes left = {s.id}) (hawaits : awaits left ≤ ↑told) :
    Flow c s party c' left why told := by
  refine ⟨h.config, messages_of_told hmessages _, .inl ⟨?_, fun hne => absurd howes hne⟩,
    hawaits.trans (Multiset.le_add_left _ _), fun _ _ => hlaid.buffer, h.buffer, h.pin_or howes,
    fun hf _ => ?_⟩
  · rw [howes, State.known_of_eq_zero hlaid.id, State.known_of_ne_zero hlive, add_zero, add_zero]
    exact hmoved
  · rw [hintact] at hf
    cases hf

theorem exists_flow_passage (howes : owes party = 0) (h : Passage c s c' left why) :
    ∃ told, Flow c s party c' left why told := by
  cases h.fate with
  | kept messages id quiet =>
    exact ⟨[], flow_kept howes h id quiet (messages_of_told (messages_of_kept messages) _)⟩
  | asked number messages live id quiet =>
    refine ⟨[], flow_kept howes h id quiet ⟨[number], fun _ => live, ?_⟩⟩
    rw [messages]
    exact (List.append_nil _).symm
  | detached messages live laid owes awaits intact =>
    refine ⟨[], flow_moved howes h (messages_of_kept messages) live laid intact ?_ awaits.le⟩
    rw [owes, Multiset.coe_nil, zero_add]
  | told messages live laid owes awaits intact =>
    refine ⟨[s.id], flow_moved howes h messages live laid intact ?_ awaits.le⟩
    rw [owes, add_zero]
    rfl
  | lost messages live laid quiet reason =>
    have hnone := owes_eq_zero_of_quiet quiet
    refine ⟨[], h.config, messages_of_told (messages_of_kept messages) _,
      .inr ⟨rfl, reason, s.id, ?_⟩, awaits_le_of_quiet quiet _, fun _ hne => absurd hnone hne,
      h.buffer, h.pin_or howes, fun hf _ => ⟨hnone, h.stuck hf⟩⟩
    rw [quiet.owes, howes, State.known_of_eq_zero laid.id, State.known_of_ne_zero live, add_zero,
      add_zero, zero_add]

theorem exists_flow_errand {id : Int64} (howes : owes party = {id})
    (hconfig : c'.config = c.config) (hstate : c'.state = c.state)
    (h : Errand c id c' left why) : ∃ told, Flow c c.state party c' left why told := by
  have hsome : owes party ≠ 0 := by
    rw [howes]
    exact Multiset.singleton_ne_zero id
  -- The cursor itself has no part in it: only what was sent, owed and lost is left to say.
  have hflow : ∀ told : List Int64,
      c'.ledger.messages = c.ledger.messages ++ told.map c.config.requester.kill →
      ((↑told + c'.state.known + owes left = c.state.known + owes party ∧
        (owes party ≠ 0 → ¬ why)) ∨
      (told = [] ∧ why ∧ ∃ id, c'.state.known + owes left + {id} =
        c.state.known + owes party)) →
      awaits left ≤ ↑told → ∃ told, Flow c c.state party c' left why told := by
    intro told hmessages hbalance hawaits
    exact ⟨told, hconfig, messages_of_told hmessages _, hbalance,
      hawaits.trans (Multiset.le_add_left _ _), fun h0 => absurd h0 hsome,
      .inl (congrArg State.buffer hstate), fun hf => .inl (hstate ▸ hf),
      fun _ h0 => absurd h0 hsome⟩
  cases h with
  | kept messages owes awaits unhindered =>
    refine hflow [] (messages_of_kept messages) (.inl ⟨?_, fun _ => unhindered⟩) awaits.le
    rw [owes, howes, hstate, Multiset.coe_nil, zero_add]
  | told messages owes awaits unhindered =>
    refine hflow [id] messages (.inl ⟨?_, fun _ => unhindered⟩) awaits.le
    rw [owes, howes, hstate, add_zero, add_comm]
    rfl
  | lost messages quiet reason =>
    refine hflow [] (messages_of_kept messages) (.inr ⟨rfl, reason, id, ?_⟩)
      (awaits_le_of_quiet quiet _)
    rw [quiet.owes, howes, hstate, add_zero]

theorem Handles.exists_flow {heard : Option (Nat × Except Error Reply)}
    (h : Handles c party heard c' left why) :
    ∃ told, Flow c (c.met heard) party c' left why told := by
  cases h with
  | state owes passage => exact exists_flow_passage owes passage
  | party id owes awaits deaf config state errand =>
    subst deaf
    exact exists_flow_errand owes config state errand
  | nothing deaf cursor left unhindered =>
    subst deaf cursor left
    refine ⟨[], rfl, messages_of_told (messages_of_kept rfl) _, .inl ⟨?_, fun _ => unhindered⟩, ?_,
      ?_, .inl rfl, .inl, ?_⟩
    · rw [Multiset.coe_nil, zero_add]
      rfl
    · rw [Multiset.coe_nil, add_zero]
    · intro h0 hne
      rw [h0] at hne
      exact absurd rfl hne
    · intro hf h0
      rw [h0]
      exact ⟨rfl, fun _ => hf⟩

end Flow

/-- Where the server's cursor is: with the server that was told to discard it, in the state, or with
a party that is to discard it. -/
def tokens (kills : List Int64) (s : State) (pending : Multiset Task) : Multiset Int64 :=
  ↑kills + s.known + owes pending

/-- What went over the wire, and where the server's cursor is, after some turns. -/
structure Tracked (start : Cursor) (last : Int64) (kills : List Int64) (c : Cursor)
    (pending : Multiset Task) : Prop where
  /-- What never changes. -/
  config : c.config = start.config
  /-- After all requests for batches the server was told to discard its cursor. -/
  messages : ∃ asked : List Message,
    (∀ m ∈ asked, ∃ id number, m = start.config.requester.getMore id number) ∧
    c.ledger.messages = start.ledger.messages ++ asked ++ kills.map start.config.requester.kill
  /-- It is in one place at most, and it is the one of the last reply. -/
  single : tokens kills c.state pending ≤ {last}
  /-- It is open. -/
  live : 0 ∉ tokens kills c.state pending
  /-- Only those wait for the server that have told it. -/
  awaits : awaits pending ≤ ↑kills
  /-- Once it has left the state nothing is handed out any more. -/
  drained : ↑kills + owes pending ≠ 0 → c.state.buffer = []

section Tracked

variable {start c : Cursor} {first : Reply} {ms : List Moment} {kills : List Int64}
  {pending rest : Multiset Task} {last : Int64}

theorem tokens_of_live {s : State} (h : tokens kills s pending ≤ {last}) (hid : s.id ≠ 0) :
    s.id = last ∧ kills = [] ∧ owes pending = 0 := by
  rw [tokens, State.known_of_ne_zero hid, add_comm (Multiset.ofList kills), add_assoc] at h
  obtain ⟨hlast, hnone⟩ := eq_zero_of_add_le h (Multiset.singleton_ne_zero _)
  obtain ⟨hkills, howes⟩ := add_eq_zero.mp hnone
  exact ⟨Multiset.singleton_inj.mp hlast, (Multiset.coe_eq_zero _).mp hkills, howes⟩

theorem Tracked.of_live (h : Tracked start last kills c pending) (hid : c.state.id ≠ 0) :
    c.state.id = last ∧ kills = [] ∧ owes pending = 0 :=
  tokens_of_live h.single hid

theorem Tracked.of_owes {party : Multiset Task} (h : Tracked start last kills c (party + rest))
    (hne : owes party ≠ 0) : c.state.id = 0 ∧ owes rest = 0 := by
  have hsingle := h.single
  rw [tokens, owes_add, add_left_comm] at hsingle
  obtain ⟨-, hnone⟩ := eq_zero_of_add_le hsingle hne
  obtain ⟨hplaces, hrest⟩ := add_eq_zero.mp hnone
  exact ⟨State.known_eq_zero.mp (add_eq_zero.mp hplaces).2, hrest⟩

theorem Tracked.of_kills (h : Tracked start last kills c pending) (hne : kills ≠ []) :
    c.state.id = 0 ∧ owes pending = 0 := by
  have hsingle := h.single
  rw [tokens, add_assoc] at hsingle
  obtain ⟨-, hnone⟩ := eq_zero_of_add_le hsingle fun e => hne ((Multiset.coe_eq_zero _).mp e)
  obtain ⟨hknown, howes⟩ := add_eq_zero.mp hnone
  exact ⟨State.known_eq_zero.mp hknown, howes⟩

/-- A reply tells whether the server's cursor is still open; without one it stays what it was or is
given up. -/
theorem id_hear (c : Cursor) (r : Except Error Reply) :
    (∃ reply, r = .ok reply ∧ (c.hear r).id = reply.id) ∨
      ∃ cause, r = .error cause ∧ ((c.hear r).id = 0 ∨ (c.hear r).id = c.state.id) := by
  simp only [Cursor.hear]
  cases r with
  | ok reply =>
    refine .inl ⟨reply, rfl, ?_⟩
    split
    · rfl
    dsimp only
    split
    · rename_i h0
      exact h0.symm
    · rfl
  | error cause =>
    refine .inr ⟨cause, rfl, ?_⟩
    split
    · exact .inl rfl
    dsimp only
    simp only [Cursor.afterFailure]
    split
    · exact .inl rfl
    split
    · exact .inr rfl
    · exact .inr rfl

/-- After the server has been heard, the server's cursor is still in one place at most. -/
theorem tokens_met {t : Turn} (h : Tracked start (lastReply first ms).id kills c (t.party + rest))
    (hs : c.state.Sound (flights (t.party + rest))) :
    tokens kills (c.met t.heard?) (t.party + rest) ≤ {(lastReply first (ms ++ [⟨c, t⟩])).id} ∧
      0 ∉ tokens kills (c.met t.heard?) (t.party + rest) := by
  rw [lastReply_snoc]
  cases hheard : t.heard? with
  | none =>
    have hreply : Moment.reply? ⟨c, t⟩ = none := by rw [Moment.reply?, hheard]
    rw [hreply]
    exact ⟨h.single, h.live⟩
  | some heard =>
    obtain ⟨n, r⟩ := heard
    obtain ⟨f, hc, -⟩ := carries_of_heard hs hheard
    obtain ⟨hlast, hkills, howes⟩ := h.of_live hc.live
    have htokens : tokens kills (c.hear r) (t.party + rest) = (c.hear r).known := by
      rw [tokens, hkills, howes, add_zero, Multiset.coe_nil, zero_add]
    rw [Cursor.met, htokens]
    have hknown : ∀ id : Int64, (c.hear r).id = 0 ∨ (c.hear r).id = id →
        (c.hear r).known ≤ {id} ∧ 0 ∉ (c.hear r).known := by
      intro id hid
      by_cases h0 : (c.hear r).id = 0
      · rw [State.known_of_eq_zero h0]
        exact ⟨Multiset.zero_le _, Multiset.notMem_zero _⟩
      · rw [State.known_of_ne_zero h0, hid.resolve_left h0]
        refine ⟨le_rfl, fun hmem => h0 ?_⟩
        rw [hid.resolve_left h0]
        exact (Multiset.mem_singleton.mp hmem).symm
    refine hknown _ ?_
    rcases id_hear c r with ⟨reply, rfl, hid⟩ | ⟨cause, rfl, hid⟩
    · right
      rw [hid, Moment.reply?, hheard]
      rfl
    · rw [Moment.reply?, hheard]
      exact hlast ▸ hid

/-- A turn keeps the tokens, or loses one of them for a reason. -/
theorem Flow.tokens_eq {s : State} {c' : Cursor} {party left : Multiset Task} {why : Prop}
    {told : List Int64} (h : Flow c s party c' left why told) (kills : List Int64)
    (rest : Multiset Task) :
    (tokens (kills ++ told) c'.state (left + rest) = tokens kills s (party + rest) ∧
      (owes party ≠ 0 → ¬ why)) ∨
    (why ∧ ∃ id, tokens (kills ++ told) c'.state (left + rest) + {id} =
      tokens kills s (party + rest)) := by
  have hafter : tokens (kills ++ told) c'.state (left + rest) =
      ↑kills + owes rest + (↑told + c'.state.known + owes left) := by
    rw [tokens, owes_add, ← Multiset.coe_add]
    abel
  have hbefore : tokens kills s (party + rest) = ↑kills + owes rest + (s.known + owes party) := by
    rw [tokens, owes_add]
    abel
  rw [hafter, hbefore]
  rcases h.balance with ⟨hmoved, hfree⟩ | ⟨rfl, hwhy, id, hlost⟩
  · exact .inl ⟨by rw [hmoved], hfree⟩
  · refine .inr ⟨hwhy, id, ?_⟩
    rw [← hlost, Multiset.coe_nil, zero_add, add_assoc]

theorem Flow.tokens_le {s : State} {c' : Cursor} {party left : Multiset Task} {why : Prop}
    {told : List Int64} (h : Flow c s party c' left why told) (kills : List Int64)
    (rest : Multiset Task) :
    tokens (kills ++ told) c'.state (left + rest) ≤ tokens kills s (party + rest) := by
  rcases h.tokens_eq kills rest with ⟨hkept, -⟩ | ⟨-, id, hlost⟩
  · exact hkept.le
  · exact hlost ▸ Multiset.le_add_right _ _

/-- What a turn does to what is known of the server's cursor. -/
theorem tracked_effect {t : Turn} {told : List Int64}
    (h : Tracked start (lastReply first ms).id kills c (t.party + rest))
    (hs : c.state.Sound (flights (t.party + rest)))
    (hflow : Flow c (c.met t.heard?) t.party (t.effect c).cursor (t.effect c).left (t.Forfeits c)
      told) :
    Tracked start (lastReply first (ms ++ [⟨c, t⟩])).id (kills ++ told) (t.effect c).cursor
      ((t.effect c).left + rest) := by
  obtain ⟨hsingle, hlive⟩ := tokens_met h hs
  have hle := hflow.tokens_le kills rest
  refine ⟨hflow.config.trans h.config, ?_, hle.trans hsingle,
    fun hmem => hlive (Multiset.mem_of_le hle hmem), ?_, fun hne => ?_⟩
  · obtain ⟨asked, hasked, hbefore⟩ := h.messages
    obtain ⟨numbers, hnumbers, hafter⟩ := hflow.messages
    rw [h.config, hbefore] at hafter
    by_cases hnone : numbers = []
    · refine ⟨asked, hasked, ?_⟩
      rw [hafter, hnone, List.map_append]
      simp
    · -- Nobody has told the server to discard a cursor of which it is asked for a batch.
      obtain ⟨-, hkills, -⟩ := tokens_of_live hsingle (hnumbers hnone)
      refine ⟨asked ++ numbers.map (start.config.requester.getMore (c.met t.heard?).id),
        fun m hm => ?_, ?_⟩
      · rcases List.mem_append.mp hm with hm | hm
        · exact hasked m hm
        · obtain ⟨number, -, rfl⟩ := List.mem_map.mp hm
          exact ⟨_, number, rfl⟩
      · rw [hafter, hkills]
        simp
  · rw [awaits_add, ← Multiset.coe_add]
    have hbefore := h.awaits
    rw [awaits_add] at hbefore
    calc awaits (t.effect c).left + awaits rest
        ≤ (awaits t.party + ↑told) + awaits rest := add_le_add hflow.awaits le_rfl
      _ = (awaits t.party + awaits rest) + ↑told := add_right_comm ..
      _ ≤ ↑kills + ↑told := add_le_add hbefore le_rfl
  · by_cases hbefore : ↑kills + owes (t.party + rest) = 0
    · obtain ⟨hkills, howes⟩ := add_eq_zero.mp hbefore
      rw [owes_add] at howes
      obtain ⟨hparty, hrest⟩ := add_eq_zero.mp howes
      rw [← Multiset.coe_add, hkills, zero_add, owes_add, hrest, add_zero] at hne
      exact hflow.drained hparty hne
    · have hbuffer := hflow.buffer
      have hdeaf : t.heard? = none := by
        cases hheard : t.heard? with
        | none => rfl
        | some heard =>
          obtain ⟨f, hc, -⟩ := carries_of_heard hs hheard
          obtain ⟨-, hkills, howes⟩ := h.of_live hc.live
          rw [hkills, howes] at hbefore
          exact absurd rfl hbefore
      rw [hdeaf] at hbuffer
      exact hbuffer.elim (fun e => e.trans (h.drained hbefore)) fun e => e

theorem tracked_play (hsound : start.state.Sound 0) (h : Tracked start first.id [] start 0)
    (hp : Play start ms c pending) :
    ∃ kills, Tracked start (lastReply first ms).id kills c pending := by
  induction hp with
  | nil => exact ⟨[], h⟩
  | snoc before allowed ih =>
    obtain ⟨kills, hkills⟩ := ih
    have hs := sound_play hsound before
    have hproper := proper_party before
    obtain ⟨told, hflow⟩ := (handles_effect hs hproper).exists_flow
    exact ⟨kills ++ told, tracked_effect hkills hs hflow⟩

end Tracked

section Create

variable (reply : Reply) (options : Options) (server : ServerDescription)
  (connection : Option (Nat × ConnectionDescription)) (l : Ledger)

theorem messages_create :
    (Cursor.create reply options server connection l).ledger.messages = l.messages :=
  Ledger.messages_congr (traffic_create reply options server connection l)

/-- What never changes about a new cursor comes from the first reply, the options, and the version
of the connection or else of the server. -/
theorem config_create_eq :
    (Cursor.create reply options server connection l).config =
      ⟨⟨reply.ns, options.maxAwait, options.comment, .ofWireVersion
          ((connection.bind fun h => h.2.wireVersion).or server.wireVersion)⟩,
        reply.address, options.effectiveLimit, options.batchSize⟩ := by
  have hbare : ∀ c : Cursor, (if reply.id = 0 then
      (c.withState c.state.bare).giveBack c.state.abandoned.held else c).config = c.config := by
    intro c
    split <;> rfl
  unfold Cursor.create
  dsimp only
  rw [hbare]
  cases connection with
  | none => rfl
  | some h =>
    dsimp only
    split
    · rfl
    · rfl

theorem config_create :
    let config := (Cursor.create reply options server connection l).config
    config.ns = reply.ns ∧ config.limit = options.effectiveLimit := by
  have hconfig := config_create_eq reply options server connection l
  exact ⟨congrArg Config.ns hconfig, congrArg Config.limit hconfig⟩

theorem tracked_create :
    Tracked (Cursor.create reply options server connection l) reply.id []
      (Cursor.create reply options server connection l) 0 := by
  obtain ⟨hid, -, -, -, -⟩ := state_create reply options server connection l
  have htokens : tokens [] (Cursor.create reply options server connection l).state 0 =
      (Cursor.create reply options server connection l).state.known := by
    rw [tokens, owes_zero, add_zero, Multiset.coe_nil, zero_add]
  refine ⟨rfl, ⟨[], ?_, ?_⟩, ?_, ?_, le_rfl, fun hne => absurd rfl hne⟩
  · exact fun m hm => absurd hm List.not_mem_nil
  · simp
  · rw [htokens, State.known, hid]
    split
    · exact Multiset.zero_le _
    · exact le_rfl
  · rw [htokens, State.known, hid]
    split
    · exact Multiset.notMem_zero _
    · rename_i hne
      exact fun hmem => hne (Multiset.mem_singleton.mp hmem).symm

/-- At most one message in a history discards a cursor. It discards the one of the last reply, it is
about the collection of the first, and no batch is asked for after it. -/
theorem discarded_at_most_once (runtime : Bool) (history : List Action) :
    let start := Schedule.opened reply options server connection l runtime
    let last := lastReply reply (start.moments history)
    ∃ asked kills : List Message,
      (start.run history).cursor.ledger.messages = l.messages ++ asked ++ kills ∧
      (∀ m ∈ asked, m.asks?.isSome ∧ m.discards? = none) ∧
      kills.length ≤ 1 ∧
      ∀ m ∈ kills, m.discards? = some (reply.ns, [.int64 last.id]) ∧ last.id ≠ 0 := by
  intro start last
  have hplay : Play _ (start.moments history) (start.run history).cursor
      (start.run history).pending :=
    Schedule.play_run (Cursor.create reply options server connection l) runtime history
  obtain ⟨kills, htracked⟩ := tracked_play (sound_create reply options server connection l)
    (tracked_create reply options server connection l) hplay
  obtain ⟨asked, hasked, hmessages⟩ := htracked.messages
  have hkills : (↑kills : Multiset Int64) ≤ {last.id} :=
    (Multiset.le_add_right _ _).trans ((Multiset.le_add_right _ _).trans htracked.single)
  rw [messages_create] at hmessages
  refine ⟨asked, kills.map _, hmessages, fun m hm => ?_, ?_, fun m hm => ?_⟩
  · obtain ⟨id, number, rfl⟩ := hasked m hm
    rw [Requester.asks?_getMore, Requester.discards?_getMore]
    exact ⟨rfl, rfl⟩
  · have hcard := Multiset.card_le_card hkills
    rw [List.length_map]
    exact hcard
  · obtain ⟨id, hid, rfl⟩ := List.mem_map.mp hm
    have hlast : id = last.id := Multiset.mem_singleton.mp (Multiset.mem_of_le hkills hid)
    have hlive : id ≠ 0 := fun h0 => by
      rw [h0] at hid
      exact htracked.live (Multiset.mem_of_le
        ((Multiset.le_add_right _ _).trans (Multiset.le_add_right _ _)) (Multiset.mem_coe.mpr hid))
    have hns := (config_create reply options server connection l).1
    rw [Requester.discards?_kill, ← hlast]
    exact ⟨congrArg (fun ns => some (ns, [Value.int64 id])) hns, hlive⟩

end Create

end ServerCursor
