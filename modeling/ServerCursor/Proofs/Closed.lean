import ServerCursor.Proofs.Flight
import ServerCursor.Proofs.Return
import ServerCursor.Proofs.Sole
import ServerCursor.Proofs.Traffic

/-!
# After a cursor was closed

A closed cursor does nothing of its own accord any more. All that may still be sent comes from the
one party that had to do with the server when it was closed: a request that waits for its connection
is sent, and whoever waits for a reply or is to discard the server's cursor may tell the server to
discard it, once (`Unwinds`). Of the documents only those are still handed out that a call had in
hand.

Main statement: `closed_final` says so for every history.
-/

namespace ServerCursor

/-- The request that waits for its connection, if a request does. -/
def unsent? (f : Flight) : Option Fetch :=
  if f.2 = none then some f.1 else none

/-- The requests that wait for a connection. -/
def unsent (m : Multiset Task) : Multiset Fetch :=
  (flights m).filterMap unsent?

@[simp] theorem unsent_add (m n : Multiset Task) : unsent (m + n) = unsent m + unsent n := by
  rw [unsent, flights_add, Multiset.filterMap_add]
  rfl

theorem unsent_of_flights {m : Multiset Task} (h : flights m = 0) : unsent m = 0 := by
  rw [unsent, h]
  rfl

/-- How many parties may still tell the server to discard its cursor. -/
def due (m : Multiset Task) : Nat :=
  (flights m).card + (owes m).card

theorem due_add (m n : Multiset Task) : due (m + n) = due m + due n := by
  simp only [due, flights_add, owes_add, Multiset.card_add]
  omega

theorem card_unsent_le (m : Multiset Task) : (unsent m).card ≤ due m := by
  have hcard : ∀ fs : Multiset Flight, (fs.filterMap unsent?).card ≤ fs.card := fun fs =>
    Quotient.inductionOn fs fun fs => List.length_filterMap_le unsent? fs
  exact (hcard (flights m)).trans (Nat.le_add_right _ _)

/-- What some parties of a closed cursor have sent since, and what is left to them. -/
structure Unwinds (c : Cursor) (parties : Multiset Task) (c' : Cursor) (left : Multiset Task)
    (asked : List Fetch) (kills : List Int64) : Prop where
  messages : c'.ledger.messages = c.ledger.messages ++
    asked.map (fun f => c.config.requester.getMore f.id f.number) ++
      kills.map c.config.requester.kill
  /-- Only requests are sent that waited for a connection. -/
  sends : ↑asked + unsent left ≤ unsent parties
  /-- Every party tells the server once at most to discard its cursor. -/
  tells : kills.length + due left ≤ due parties
  /-- A server's cursor that is discarded was to be discarded, or a request was under way. -/
  discards : ∀ id ∈ ↑kills + owes left, id ∈ owes parties ∨ flights parties ≠ 0
  /-- No request is begun. -/
  begins : flights parties = 0 → flights left = 0

section Unwinds

variable {c₀ c c' d : Cursor} {parties party left rest : Multiset Task} {asked : List Fetch}
  {kills : List Int64}

theorem unwinds_refl (c : Cursor) (parties : Multiset Task) :
    Unwinds c parties c parties [] [] where
  messages := by simp
  sends := by simp
  tells := by simp
  discards := by
    intro id hid
    rw [Multiset.coe_nil, zero_add] at hid
    exact .inl hid
  begins h := h

theorem unwinds_quiet (hmessages : c'.ledger.messages = c.ledger.messages)
    (hflights : flights left = 0) (howes : owes left = 0) (party : Multiset Task) :
    Unwinds c party c' left [] [] where
  messages := by simp [hmessages]
  sends := by simp [unsent_of_flights hflights]
  tells := by simp [due, hflights, howes]
  discards := by simp [howes]
  begins _ := hflights

/-- At most one message was sent to discard a server's cursor, or it is still to be discarded. -/
theorem unwinds_one {id : Int64} (hid : id ∈ owes party ∨ flights party ≠ 0)
    (hflights : flights left = 0)
    (hmessages : c'.ledger.messages = c.ledger.messages ++ kills.map c.config.requester.kill)
    (hone : ↑kills + owes left = {id}) : Unwinds c party c' left [] kills where
  messages := by simp [hmessages]
  sends := by simp [unsent_of_flights hflights]
  tells := by
    have hcard := congrArg Multiset.card hone
    rw [Multiset.card_add, Multiset.coe_card, Multiset.card_singleton] at hcard
    have hsome : 1 ≤ due party := by
      rcases hid with howes | hflight
      · have hcard := Multiset.card_pos_iff_exists_mem.mpr ⟨id, howes⟩
        exact Nat.le_add_left_of_le hcard
      · have hcard := Multiset.card_pos.mpr hflight
        exact Nat.le_add_right_of_le hcard
    rw [due, hflights, Multiset.card_zero]
    omega
  discards := by
    intro other hother
    rw [hone] at hother
    rw [Multiset.mem_singleton.mp hother]
    exact hid
  begins _ := hflights

/-- A party that is to discard a server's cursor does so, or leaves it open. -/
theorem unwinds_errand {id : Int64} {why : Prop} (h : Errand d id c' left why)
    (hconfig : d.config = c.config) (hmessages : d.ledger.messages = c.ledger.messages)
    (hid : id ∈ owes party ∨ flights party ≠ 0) (hflights : flights left = 0) :
    ∃ kills, Unwinds c party c' left [] kills := by
  cases h with
  | kept messages owes awaits unhindered =>
    refine ⟨[], unwinds_one hid hflights ?_ ?_⟩
    · rw [messages, hmessages, List.map_nil, List.append_nil]
    · rw [owes]
      exact zero_add _
  | told messages owes awaits unhindered =>
    refine ⟨[id], unwinds_one hid hflights ?_ ?_⟩
    · rw [messages, hmessages, hconfig]
      rfl
    · rw [owes]
      exact add_zero _
  | lost messages quiet reason =>
    exact ⟨[], unwinds_quiet (messages.trans hmessages) hflights quiet.owes party⟩

theorem unwinds_lost (hmessages : c'.ledger.messages = c.ledger.messages)
    (hparty : flights party ≠ 0) (hleft : left = 0 ∨ ∃ a, left = {.kill a}) :
    Unwinds c party c' left [] [] := by
  rcases hleft with hnone | ⟨a, hone⟩
  · exact unwinds_quiet hmessages (by rw [hnone]; rfl) (by rw [hnone]; rfl) party
  · have hid : a.id ∈ owes party ∨ flights party ≠ 0 := .inr hparty
    refine unwinds_one hid (by rw [hone]; rfl) ?_ ?_
    · rw [hmessages, List.map_nil, List.append_nil]
    · rw [hone, owes_singleton]
      exact zero_add _

/-- One party after the other, while all others wait. A request is sent only before the server is
told to discard its cursor, as at most one party has to do with the server. -/
theorem Unwinds.step {more : List Fetch} {told : List Int64}
    (h : Unwinds c₀ parties c (party + rest) asked kills) (h' : Unwinds c party c' left more told)
    (hconfig : c.config = c₀.config) (hone : due parties ≤ 1) :
    Unwinds c₀ parties c' (left + rest) (asked ++ more) (kills ++ told) where
  messages := by
    have horder : more = [] ∨ kills = [] := by
      by_contra hboth
      rw [not_or] at hboth
      have hmore := Multiset.card_le_card ((Multiset.le_add_right _ _).trans h'.sends)
      have hkills := h.tells
      have hparty := card_unsent_le party
      rw [Multiset.coe_card] at hmore
      rw [due_add] at hkills
      have hm := List.length_pos_of_ne_nil hboth.1
      have hk := List.length_pos_of_ne_nil hboth.2
      omega
    rw [h'.messages, h.messages, hconfig]
    rcases horder with hnone | hnone
    · simp [hnone]
    · simp [hnone]
  sends := by
    have hfirst := h.sends
    rw [unsent_add] at hfirst ⊢
    rw [← Multiset.coe_add]
    calc ↑asked + ↑more + (unsent left + unsent rest)
        = ↑asked + ((↑more + unsent left) + unsent rest) := by
          rw [add_assoc, add_assoc]
      _ ≤ ↑asked + (unsent party + unsent rest) :=
          add_le_add le_rfl (add_le_add h'.sends le_rfl)
      _ ≤ unsent parties := hfirst
  tells := by
    have hfirst := h.tells
    have hsecond := h'.tells
    rw [due_add] at hfirst ⊢
    rw [List.length_append]
    omega
  discards := by
    intro id hid
    have hfirst : ∀ id ∈ ↑kills + owes (party + rest),
        id ∈ owes parties ∨ flights parties ≠ 0 := h.discards
    rw [owes_add, ← Multiset.coe_add] at hid
    rw [owes_add] at hfirst
    have hsplit : id ∈ ↑kills + owes rest ∨ id ∈ ↑told + owes left := by
      simp only [Multiset.mem_add] at hid ⊢
      tauto
    rcases hsplit with hold | hnew
    · refine hfirst id ?_
      simp only [Multiset.mem_add] at hold ⊢
      tauto
    · rcases h'.discards id hnew with hparty | hflight
      · exact hfirst id (Multiset.mem_add.mpr (.inr (Multiset.mem_add.mpr (.inl hparty))))
      · refine .inr fun hnone => hflight ?_
        have hall := h.begins hnone
        rw [flights_add] at hall
        exact (add_eq_zero.mp hall).1
  begins hnone := by
    have hall := h.begins hnone
    rw [flights_add, add_eq_zero] at hall
    rw [flights_add, h'.begins hall.1, hall.2]
    rfl

end Unwinds

namespace Cursor

variable {c : Cursor} {party : Multiset Task} {rest : Multiset Flight}

theorem beginCall_of_closed (h : c.state.closed = true) (call : Call) :
    Schedule.beginCall c call =
      (c, .done (if call = .close then .closed else .failed (.illegalState .closed))) := by
  have hnext : ∀ wait, c.next wait false = (c, .done (.failed (.illegalState .closed))) := by
    intro wait
    unfold next
    rw [if_pos h]
    rfl
  cases call with
  | next => exact hnext true
  | tryNext => exact hnext false
  | close =>
    change c.close = _
    unfold close
    rw [if_pos h]
    rfl

/-- After a request at most one message discards the server's cursor. -/
theorem unwinds_kill {d : Cursor} (hconfig : d.config = c.config)
    (hmessages : d.ledger.messages = c.ledger.messages) (hparty : flights party ≠ 0)
    (a : Abandoned) (after : Outcome) :
    ∃ kills, Unwinds c party (d.kill a after).1 (d.kill a after).2.left [] kills := by
  by_cases hid : a.id = 0
  · have hleft := left_conclude d a after
    rw [kill_of_gone d hid]
    exact ⟨[], unwinds_quiet ((messages_conclude d a after).trans hmessages) (by rw [hleft]; rfl)
      (by rw [hleft]; rfl) party⟩
  · exact unwinds_errand (errand_kill d hid after) hconfig hmessages (.inr hparty)
      (flights_kill d a after)

theorem unwinds_resume (hclosed : c.state.closed = true) {p : Point} (a : Answer) :
    ∃ asked kills, Unwinds c {.suspended p} (c.resume p a).1 (c.resume p a).2.left asked kills := by
  have hkept : ∃ asked kills, Unwinds c {.suspended p} c {.suspended p} asked kills :=
    ⟨[], [], unwinds_refl c _⟩
  have hback := fun rs => Ledger.messages_giveBackAll c.ledger rs
  cases p with
  | fetchCheckout f =>
    have hparty : flights {.suspended (.fetchCheckout f)} ≠ 0 := Multiset.singleton_ne_zero _
    cases a with
    | checkout r =>
      cases r with
      | ok _ =>
        refine ⟨[f], [], ?_, le_rfl, le_rfl, fun id hid => ?_, fun h => absurd h hparty⟩
        · have hsent := c.ledger.checkout.messages_record (.sent (c.ledger.issued + 1)
            (c.config.requester.getMore f.id f.number))
          rw [Ledger.messages_checkout] at hsent
          exact hsent.trans (List.append_nil _).symm
        · exact absurd hid (Multiset.notMem_zero id)
      | error cause =>
        have hkill : c.fetchCheckedOut f (.error cause) =
            ((((c.record .unavailable).giveBack f.held).withState
              { c.state with fetching := false }.bare).kill
                (State.abandoned { c.state with fetching := false }) (.failed cause)) :=
          if_pos hclosed
        have hmessages : ((c.record .unavailable).giveBack f.held).ledger.messages =
            c.ledger.messages :=
          (Ledger.messages_giveBackAll _ _).trans
            ((c.ledger.messages_record .unavailable).trans (List.append_nil _))
        rw [resume, hkill]
        refine ⟨[], unwinds_kill ?_ ?_ hparty _ _⟩
        · rfl
        · exact hmessages
    | reply r => exact hkept
    | kill r => exact hkept
  | fetchReply f n =>
    have hparty : flights {.suspended (.fetchReply f n)} ≠ 0 := Multiset.singleton_ne_zero _
    cases a with
    | checkout r => exact hkept
    | reply r =>
      rw [resume, fetchReplied, if_pos hclosed]
      refine ⟨[], unwinds_kill ?_ ?_ hparty _ _⟩
      · rfl
      · exact hback f.held
    | kill r => exact hkept
  | killCheckout b after =>
    have hid : b.id ∈ owes {.suspended (.killCheckout b after)} ∨
        flights {.suspended (.killCheckout b after)} ≠ 0 := by
      left
      rw [owes_singleton]
      exact Multiset.mem_singleton_self b.id
    cases a with
    | checkout r =>
      exact ⟨[], unwinds_errand (errand_killCheckedOut c b after r) rfl rfl hid
        (flights_killCheckedOut c b after r)⟩
    | reply r => exact hkept
    | kill r => exact hkept
  | killReply b after =>
    cases a with
    | checkout r => exact hkept
    | reply r => exact hkept
    | kill r =>
      have hleft := left_killReplied c b after r
      have hmessages : (c.killReplied b after r).1.ledger.messages = c.ledger.messages := by
        cases r <;> exact messages_conclude _ b after
      exact ⟨[], [], unwinds_quiet hmessages (by rw [resume, hleft]; rfl)
        (by rw [resume, hleft]; rfl) _⟩

theorem unwinds_cancel (c : Cursor) (p : Point) (runtime : Bool) :
    Unwinds c {.suspended p} (c.cancel p runtime).1 ↑(c.cancel p runtime).2.toList [] [] := by
  have hmessages : (c.cancel p runtime).1.ledger.messages = c.ledger.messages :=
    Ledger.messages_congr (traffic_cancel c p runtime)
  cases p with
  | fetchCheckout f =>
    exact unwinds_lost hmessages (Multiset.singleton_ne_zero _) (left_cancel c _ runtime)
  | fetchReply f n =>
    exact unwinds_lost hmessages (Multiset.singleton_ne_zero _) (left_cancel c _ runtime)
  | killCheckout a after => exact unwinds_quiet hmessages rfl rfl _
  | killReply a after => exact unwinds_quiet hmessages rfl rfl _

theorem hand_of_closed (h : c.state.closed = true) {p : Point} {a : Answer}
    {batch : List Document} (hhand : (c.resume p a).2.hand? = some batch) :
    p.hand? = some batch := by
  have hkill : ∀ (d : Cursor) (b : Abandoned) (cause : Error),
      (d.kill b (.failed cause)).2.hand? ≠ some batch := by
    intro d b cause he
    rw [hand_kill] at he
    cases he
  cases hflight : p.flight? with
  | none => rwa [hand_resume hflight] at hhand
  | some f =>
    cases p with
    | fetchCheckout g =>
      cases a with
      | checkout r =>
        cases r with
        | ok _ => cases hhand
        | error cause =>
          have hfailed : c.fetchCheckedOut g (.error cause) =
              ((((c.record .unavailable).giveBack g.held).withState
                { c.state with fetching := false }.bare).kill
                  (State.abandoned { c.state with fetching := false }) (.failed cause)) :=
            if_pos h
          rw [resume, hfailed] at hhand
          exact absurd hhand (hkill _ _ _)
      | reply r => cases hhand
      | kill r => cases hhand
    | fetchReply g n =>
      cases a with
      | checkout r => cases hhand
      | reply r =>
        rw [resume, fetchReplied, if_pos h] at hhand
        exact absurd hhand (hkill _ _ _)
      | kill r => cases hhand
    | killCheckout b after => cases hflight
    | killReply b after => cases hflight

end Cursor

theorem unwinds_effect {c : Cursor} {t : Turn} (hclosed : c.state.closed = true)
    (hp : AllProper t.party) :
    ∃ asked kills, Unwinds c t.party (t.effect c).cursor (t.effect c).left asked kills := by
  have hquiet : ∀ {c' : Cursor}, c'.ledger.messages = c.ledger.messages → ∀ party,
      ∃ asked kills, Unwinds c party c' 0 asked kills := fun hmessages party =>
    ⟨[], [], unwinds_quiet hmessages rfl rfl party⟩
  have hcall : ∀ call, (Schedule.beginCall c call).1 = c ∧
      (Schedule.beginCall c call).2.left = 0 := by
    intro call
    rw [Cursor.beginCall_of_closed hclosed]
    exact ⟨rfl, rfl⟩
  have hnobody : ∀ x ∈ (0 : Multiset Task), ∀ p, x ≠ .suspended p := fun x hx =>
    absurd hx (Multiset.notMem_zero x)
  cases t with
  | begin call =>
    obtain ⟨hsame, hleft⟩ := hcall call
    rw [Turn.effect, Turn.Effect.ofCall, hsame, hleft]
    exact hquiet rfl _
  | answer p a => exact Cursor.unwinds_resume hclosed a
  | cancel p runtime => exact ⟨[], [], Cursor.unwinds_cancel c p runtime⟩
  | startTask t =>
    cases t with
    | close =>
      obtain ⟨hsame, hleft⟩ : c.close.1 = c ∧ c.close.2.left = 0 := hcall .close
      rw [Turn.effect, Turn.Effect.ofTask, Cursor.startTask, hsame, hleft]
      exact hquiet rfl _
    | kill a =>
      obtain ⟨hid, -⟩ : a.id ≠ 0 ∧ a.connection = none := hp.of_singleton
      have hparty : a.id ∈ owes {.kill a} := by
        rw [owes_singleton]
        exact Multiset.mem_singleton_self a.id
      exact ⟨[], unwinds_errand (Cursor.errand_kill c hid .cleared) rfl rfl (.inl hparty)
        (Cursor.flights_kill ..)⟩
    | suspended p => exact ⟨[], [], unwinds_refl c _⟩
  | answerTask p a => exact Cursor.unwinds_resume hclosed a
  | discardTask t runtime =>
    cases t with
    | close => exact hquiet rfl _
    | kill a => exact hquiet (Ledger.messages_giveBackAll c.ledger a.held) _
    | suspended p => exact ⟨[], [], Cursor.unwinds_cancel c p runtime⟩
  | drop runtime =>
    rw [Turn.effect, Turn.Effect.ofLoss, Cursor.drop_of_closed hclosed]
    exact hquiet rfl _
  | retain r =>
    have hsame := traffic_of_unwaiting (c := c) (t := .retain r) hp hnobody hnobody
    exact hquiet (Ledger.messages_congr hsame) _
  | release r =>
    have hsame := traffic_of_unwaiting (c := c) (t := .release r) hp hnobody hnobody
    exact hquiet (Ledger.messages_congr hsame) _

/-- What all parties send after the cursor was closed. -/
theorem unwinds_play {start c c' : Cursor} {first : Reply} {before after : List Moment}
    {pending pending' : Multiset Task} (hsound : start.state.Sound 0)
    (htracked : Tracked start first.id [] start 0) (hp : Play start before c pending)
    (hp' : Play start (before ++ after) c' pending') (hclosed : c.state.closed = true) :
    c'.state.closed = true ∧ ∃ asked kills, Unwinds c pending c' pending' asked kills := by
  have hone : due pending ≤ 1 :=
    (Nat.le_add_right _ _).trans (ties_play hsound htracked hp)
  have hafter := Play.onward
    (I := fun _ d parties => d.state.closed = true ∧ d.config = c.config ∧
      ∃ asked kills, Unwinds c pending d parties asked kills)
    hp hp' ⟨hclosed, rfl, [], [], unwinds_refl c pending⟩ ?_
  · exact ⟨hafter.1, hafter.2.2⟩
  rintro ms d rest t hplay - ⟨hclosed, hconfig, asked, kills, hunwinds⟩
  obtain ⟨more, told, hstep⟩ := unwinds_effect hclosed (proper_party hplay)
  have hsame := (handles_effect (sound_play hsound hplay) (proper_party hplay)).config
  exact ⟨closed_effect hclosed t, hsame.trans hconfig, _, _, hunwinds.step hstep hconfig hone⟩

namespace Schedule

/-- A call that has documents in hand after a step had them before, if the cursor was closed. -/
theorem hand_step {s : Schedule} (hclosed : s.cursor.state.closed = true) {a : Action} {slot : Slot}
    {p : Point} {batch : List Document} (hp : (s.step a).1.waitingIn? slot = some p)
    (hhand : p.hand? = some batch) :
    ∃ q, s.waitingIn? slot = some q ∧ q.hand? = some batch := by
  by_cases hslot : a.slot? = some slot
  swap
  · rw [waitingIn?_step hslot] at hp
    exact ⟨p, hp, hhand⟩
  cases a with
  | begin other call =>
    have hcalls : (s.begin other call).1.calls = s.calls := by
      simp only [begin, Cursor.beginCall_of_closed hclosed]
      split <;> rfl
    rw [step, waitingIn?, hcalls] at hp
    exact ⟨p, hp, hhand⟩
  | answer other a =>
    cases hslot
    cases hbefore : s.waitingIn? slot with
    | none =>
      have hstep : s.step (.answer slot a) = (s, none) := by simp only [step, answer, hbefore]
      rw [hstep, hbefore] at hp
      cases hp
    | some q =>
      rw [waitingIn?_answer hbefore] at hp
      refine ⟨q, rfl, Cursor.hand_of_closed hclosed (a := a) ?_⟩
      cases hprogress : (s.cursor.resume q a).2 with
      | waiting point =>
        rw [hprogress] at hp
        cases hp
        exact hhand
      | done o =>
        rw [hprogress] at hp
        cases hp
  | cancel other =>
    cases hslot
    cases hbefore : s.waitingIn? slot with
    | none =>
      have hstep : (s.step (.cancel slot)).1 = s := by simp only [step, cancel, hbefore]
      rw [hstep, hbefore] at hp
      cases hp
    | some q =>
      rw [waitingIn?, calls_cancel hbefore, find?_without] at hp
      cases hp
  | _ => cases hslot

theorem hand_run {s : Schedule} (hclosed : ∀ actions, (s.run actions).cursor.state.closed = true)
    {actions : List Action} {slot : Slot} {p : Point} {batch : List Document}
    (hp : (s.run actions).waitingIn? slot = some p) (hhand : p.hand? = some batch) :
    ∃ q, s.waitingIn? slot = some q ∧ q.hand? = some batch := by
  induction actions generalizing s with
  | nil => exact ⟨p, hp, hhand⟩
  | cons a rest ih =>
    obtain ⟨q, hq, hqhand⟩ := ih (fun actions => hclosed (a :: actions)) hp
    exact hand_step (hclosed []) hq hqhand

theorem batch_of_closed {s : Schedule} (hclosed : s.cursor.state.closed = true) {a : Action}
    {batch : List Document} (h : (s.step a).2 = some (.batch batch)) :
    ∃ slot ans p, a = .answer slot ans ∧ s.waitingIn? slot = some p ∧ p.hand? = some batch := by
  cases a with
  | begin slot call =>
    simp only [step, begin, Cursor.beginCall_of_closed hclosed] at h
    split at h
    · cases h
    · cases call <;> cases h
  | answer slot ans =>
    cases hp : s.waitingIn? slot with
    | none =>
      simp only [step, answer, hp] at h
      cases h
    | some p =>
      rw [answer_of_waiting hp] at h
      refine ⟨slot, ans, p, rfl, hp, Cursor.hand_of_closed hclosed (a := ans) ?_⟩
      rw [Progress.eq_done h]
      rfl
  | _ => cases h

theorem waits_of_unsent {s : Schedule} (ho : s.Orderly) {f : Fetch} (h : f ∈ unsent s.pending) :
    ∃ slot, s.waitingIn? slot = some (.fetchCheckout f) := by
  rw [unsent, flights_pending ho] at h
  obtain ⟨⟨g, n?⟩, hflight, hf⟩ := (Multiset.mem_filterMap _ _).mp h
  obtain ⟨trip, htrip, hsnd⟩ := List.mem_map.mp (Multiset.mem_coe.mp hflight)
  obtain ⟨call, hcall, hpoint⟩ := List.mem_filterMap.mp htrip
  obtain ⟨flight, hflight?, rfl⟩ := Option.map_eq_some_iff.mp hpoint
  obtain ⟨slot, p⟩ := call
  change flight = (g, n?) at hsnd
  subst hsnd
  refine ⟨slot, ?_⟩
  rw [waitingIn?_of_mem ho hcall]
  cases p with
  | fetchCheckout g' =>
    cases hflight?
    cases hf
    rfl
  | fetchReply g' n =>
    cases hflight?
    cases hf
  | killCheckout b after => cases hflight?
  | killReply b after => cases hflight?

end Schedule

section Create

variable (reply : Reply) (options : Options) (server : ServerDescription)
  (connection : Option (Nat × ConnectionDescription)) (l : Ledger)

/-- A closed cursor stays closed, refuses every call for documents, and has nothing left once no
request is under way. It hands out only what calls had in hand, and sends at most one request and
one message after it. -/
theorem closed_final (runtime : Bool) (history later : List Action) :
    let start := Schedule.opened reply options server connection l runtime
    let s := start.run history
    let s' := s.run later
    s.cursor.state.closed = true →
    (s.roundTrips = [] →
      s.cursor.state.id = 0 ∧ s.cursor.state.buffer = [] ∧ s.cursor.state.held = []) ∧
    s'.cursor.state.closed = true ∧
    (∀ slot call, s'.handles ≠ 0 → s'.waitingIn? slot = none →
      s'.step (.begin slot call) =
        (s', some (if call = .close then .closed else .failed (.illegalState .closed)))) ∧
    (∀ i, s'.tasks[i]? = some .close →
      s'.step (.startTask i) = ({ s' with tasks := s'.tasks.eraseIdx i }, none)) ∧
    (∀ before a after batch, later = before ++ a :: after →
      ((s.run before).step a).2 = some (.batch batch) →
      ∃ slot ans p, a = .answer slot ans ∧ s.waitingIn? slot = some p ∧ p.flight? = none ∧
        p.hand? = some batch) ∧
    ∃ asked kills : List Message,
      s'.cursor.ledger.messages = s.cursor.ledger.messages ++ asked ++ kills ∧
      asked.length ≤ 1 ∧ kills.length ≤ 1 ∧
      (∀ m ∈ asked, ∃ slot f, s.waitingIn? slot = some (.fetchCheckout f) ∧
        m = s.cursor.config.requester.getMore f.id f.number) ∧
      ∀ m ∈ kills, ∃ id, m = s.cursor.config.requester.kill id ∧
        (id ∈ owes s.pending ∨ s.roundTrips ≠ []) := by
  intro start s s' hclosed
  have hsound := sound_create reply options server connection l
  have htracked := tracked_create reply options server connection l
  have hcoherent : ∀ history, (start.run history).Coherent :=
    Schedule.coherent_run hsound runtime
  have hplay : Play _ (start.moments history) s.cursor s.pending :=
    Schedule.play_run (Cursor.create reply options server connection l) runtime history
  have hunwinds : ∀ later, (s.run later).cursor.state.closed = true ∧
      ∃ asked kills, Unwinds s.cursor s.pending (s.run later).cursor (s.run later).pending
        asked kills := by
    intro later
    exact unwinds_play hsound htracked hplay
      (Schedule.play_run_append _ runtime history later) hclosed
  have hclosed' : s'.cursor.state.closed = true := (hunwinds later).1
  have hbegin : ∀ slot call, s'.handles ≠ 0 → s'.waitingIn? slot = none →
      s'.step (.begin slot call) =
        (s', some (if call = .close then .closed else .failed (.illegalState .closed))) := by
    intro slot call hhandles hfree
    exact Schedule.begin_of_refused hfree hhandles (Cursor.beginCall_of_closed hclosed' call)
  refine ⟨fun htrips => ?_, hclosed', hbegin, fun i hi => ?_, ?_, ?_⟩
  · have hstate := (hcoherent history).sound
    have hidle : s.cursor.state.fetching = false :=
      Bool.eq_false_iff.mpr fun hf => (hcoherent history).fetching_iff.mp hf htrips
    obtain ⟨hid, hsource, hpin⟩ := hstate.cleared hclosed hidle
    refine ⟨hid, hstate.drained hclosed, ?_⟩
    rw [State.held, hsource, hpin]
    rfl
  · have hclose : s'.cursor.close = (s'.cursor, .done .closed) :=
      Cursor.beginCall_of_closed hclosed' .close
    simp only [Schedule.step, Schedule.startTask, hi, Cursor.startTask, hclose]
    rfl
  · rintro before a after batch - hbatch
    obtain ⟨slot, ans, q, ha, hq, hhand⟩ :=
      Schedule.batch_of_closed (hunwinds before).1 hbatch
    obtain ⟨p, hp, hhand⟩ := Schedule.hand_run (fun actions => (hunwinds actions).1) hq hhand
    exact ⟨slot, ans, p, ha, hp, Point.flight?_of_hand hhand, hhand⟩
  · obtain ⟨asked, kills, h⟩ := (hunwinds later).2
    have hdue : due s.pending ≤ 1 :=
      (Nat.le_add_right _ _).trans (ties_play hsound htracked hplay)
    have hasked : (asked : Multiset Fetch) ≤ unsent s.pending :=
      (Multiset.le_add_right _ _).trans h.sends
    have horderly := (hcoherent history).orderly
    refine ⟨_, _, h.messages, ?_, ?_, fun m hm => ?_, fun m hm => ?_⟩
    · rw [List.length_map]
      exact (Multiset.card_le_card hasked).trans ((card_unsent_le _).trans hdue)
    · rw [List.length_map]
      exact (Nat.le_add_right _ _).trans (h.tells.trans hdue)
    · obtain ⟨f, hf, rfl⟩ := List.mem_map.mp hm
      obtain ⟨slot, hwaits⟩ := Schedule.waits_of_unsent horderly
        (Multiset.mem_of_le hasked (Multiset.mem_coe.mpr hf))
      exact ⟨slot, f, hwaits, rfl⟩
    · obtain ⟨id, hid, rfl⟩ := List.mem_map.mp hm
      refine ⟨id, rfl, (h.discards id ?_).imp_right fun hflights hnone => hflights ?_⟩
      · exact Multiset.mem_add.mpr (.inl (Multiset.mem_coe.mpr hid))
      · rw [Schedule.flights_pending horderly, hnone]
        rfl

end Create

/-- A cursor that can still be asked for documents. -/
def Schedule.unread : Schedule :=
  opened ⟨⟨"db", "items"⟩, [], 7, .localhost⟩ .default .blank none Ledger.start true

/-- It is closed while a request waits for its connection. -/
def Schedule.unreadHistory : List Action :=
  [.begin .stream .next, .begin .blocking .close]

/-- The request is sent all the same, and its reply has a document. -/
def Schedule.lateHistory : List Action :=
  [.answer .stream (.checkout (.ok ())),
    .answer .stream (.reply (.ok ⟨⟨"db", "items"⟩, [[("n", .int32 1)]], 7, .localhost⟩))]

/-- Two messages are sent after the cursor was closed. No call ends with the document, and calls
that begin are refused. -/
theorem closed_final_late :
    let s := Schedule.unread.run Schedule.unreadHistory
    let s' := s.run Schedule.lateHistory
    s'.cursor.state.closed = true ∧
    s.cursor.ledger.messages.length = 0 ∧ s'.cursor.ledger.messages.length = 2 ∧
    (∀ before a after batch, Schedule.lateHistory = before ++ a :: after →
      ((s.run before).step a).2 ≠ some (.batch batch)) ∧
    s'.step (.begin .blocking .next) = (s', some (.failed (.illegalState .closed))) := by
  intro s s'
  obtain ⟨-, hclosed, hrefused, -, hbatches, -⟩ := closed_final
    ⟨⟨"db", "items"⟩, [], 7, .localhost⟩ .default .blank none Ledger.start true
    Schedule.unreadHistory Schedule.lateHistory rfl
  refine ⟨hclosed, rfl, rfl, fun before a after batch hlater hbatch => ?_,
    hrefused .blocking .next (by decide) rfl⟩
  obtain ⟨slot, ans, p, -, hwaits, hflight, -⟩ := hbatches before a after batch hlater hbatch
  cases slot with
  | named name => cases hwaits
  | stream =>
    cases hwaits
    cases hflight
  | blocking => cases hwaits

end ServerCursor
