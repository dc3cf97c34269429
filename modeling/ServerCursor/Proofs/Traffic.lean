import ServerCursor.Proofs.Custody

/-!
# The traffic and the reports of a turn

A call that waits has put on the wire what it waits for: it has asked the source for a connection,
or sent a message (`Point.said`), and a request for a batch was announced to the log
(`Point.announced`). So where a call waits after a part of a turn tells what that part has put on
the wire and what it has told the log. On the wire only what the source has answered in that turn
comes before it (`Turn.opening`); in the log only what has become of a request (`Turn.verdict`). A
call that has ended has put nothing on the wire.

Main statement: `tells_effect` says so of every turn; `traffic_effect` is what it says of the
wire.
-/

namespace ServerCursor

/-- What a call that waits has put on the wire. -/
def Point.said (r : Requester) : Point → List Wire
  | .fetchCheckout _ => [.asked]
  | .fetchReply f n => [.sent n (r.getMore f.id f.number)]
  | .killCheckout _ _ => [.asked]
  | .killReply a _ => (a.route?.map fun n => Wire.sent n (r.kill a.id)).toList

def Progress.said (r : Requester) : Progress → List Wire
  | .waiting p => p.said r
  | .done _ => []

def Task.said (r : Requester) : Task → List Wire
  | .suspended p => p.said r
  | _ => []

/-- What parties that wait have put on the wire. -/
def said (r : Requester) (m : Multiset Task) : Multiset Wire :=
  m.bind fun t => ↑(t.said r)

/-- What a call that waits has announced to the log. -/
def Point.announced (config : Config) : Point → List Event
  | .fetchReply f _ => [.fetching f.id config.ns config.requester.protocol f.number]
  | _ => []

def Progress.announced (config : Config) : Progress → List Event
  | .waiting p => p.announced config
  | .done _ => []

/-- The message to which a call that waits expects an answer. -/
def Point.awaited? (r : Requester) : Point → Option Message
  | .fetchReply f _ => some (r.getMore f.id f.number)
  | .killReply a _ => some (r.kill a.id)
  | _ => none

/-- Who waits for the server to discard its cursor has a connection to the server. -/
def Point.Routed : Point → Prop
  | .killReply a _ => a.route?.isSome = true
  | _ => True

theorem Point.Routed.message {p : Point} (h : p.Routed) (r : Requester) :
    (p.said r).filterMap Wire.message? = (p.awaited? r).toList := by
  cases p with
  | fetchCheckout f => rfl
  | fetchReply f n => rfl
  | killCheckout a after => rfl
  | killReply a after =>
    obtain ⟨n, hroute⟩ := Option.isSome_iff_exists.mp h
    rw [said, hroute]
    rfl

/-- Where a party waits. -/
def Task.point? : Task → Option Point
  | .suspended p => some p
  | _ => none

/-- Where parties wait. -/
def points (m : Multiset Task) : Multiset Point :=
  m.filterMap Task.point?

theorem points_singleton (t : Task) : points {t} = ↑t.point?.toList := by
  cases h : t.point? with
  | none => exact Multiset.filterMap_cons_none t 0 h
  | some p => exact Multiset.filterMap_cons_some Task.point? t 0 h

theorem mem_points {m : Multiset Task} {p : Point} : p ∈ points m ↔ .suspended p ∈ m := by
  rw [points, Multiset.mem_filterMap]
  constructor
  · rintro ⟨t, ht, hp⟩
    cases t with
    | close => cases hp
    | kill a => cases hp
    | suspended q =>
      cases hp
      exact ht
  · exact fun h => ⟨_, h, rfl⟩

theorem said_eq (r : Requester) (m : Multiset Task) :
    said r m = (points m).bind fun p => ↑(p.said r) := by
  rw [points, Multiset.bind_filterMap, said]
  refine Multiset.bind_congr fun t _ => ?_
  cases t <;> rfl

/-- What a call that waits for a connection hears from the source. -/
def Point.opening (issued : Nat) : Point → Answer → List Wire
  | .fetchCheckout _, .checkout r | .killCheckout _ _, .checkout r =>
    match r with
    | .ok () => [.checkedOut (issued + 1)]
    | .error _ => [.unavailable]
  | _, _ => []

/-- What the source answers in a turn. -/
def Turn.opening (c : Cursor) : Turn → List Wire
  | .answer p a => p.opening c.ledger.issued a
  | .answerTask p a => p.opening c.ledger.issued a
  | _ => []

theorem Turn.message_opening (t : Turn) (c : Cursor) :
    (t.opening c).filterMap Wire.message? = [] := by
  have hpoint : ∀ p a, (Point.opening c.ledger.issued p a).filterMap Wire.message? = [] := by
    intro p a
    unfold Point.opening
    split
    · split <;> rfl
    · split <;> rfl
    · rfl
  cases t with
  | answer p a => exact hpoint p a
  | answerTask p a => exact hpoint p a
  | _ => rfl

/-- What the log says of a request that is answered. One that finds the cursor closed is not
mentioned. -/
def Fetch.verdict (c : Cursor) (f : Fetch) (r : Except Error Reply) : List Event :=
  if c.state.closed then []
  else match r with
    | .ok reply => [.fetched reply.id c.config.ns reply.documents.length]
    | .error cause => [.fetchFailed f.id c.config.ns cause]

theorem Fetch.verdict_of_closed {c : Cursor} (h : c.state.closed = true) (f : Fetch)
    (r : Except Error Reply) : f.verdict c r = [] := by
  unfold Fetch.verdict
  exact if_pos h

/-- What the log says of an attempt to discard the server's cursor that is answered. -/
def Abandoned.verdict (c : Cursor) (a : Abandoned) (r : Except Error Unit) : List Event :=
  match r with
  | .ok () => [.killed a.id c.config.ns]
  | .error cause => [.killFailed a.id c.config.ns cause]

/-- What the log says of an answer to a call that waits. -/
def Point.verdict (c : Cursor) : Point → Answer → List Event
  | .fetchReply f _, .reply r => f.verdict c r
  | .killReply a _, .kill r => a.verdict c r
  | _, _ => []

/-- What the log says of a call that is given up. -/
def Point.forfeit (c : Cursor) (p : Point) : List Event :=
  if p.flight?.isSome then [.fetchCancelled c.config.ns] else []

/-- What the log says, in a turn, of what has become of a request or of an attempt to discard. -/
def Turn.verdict (c : Cursor) : Turn → List Event
  | .answer p a => p.verdict c a
  | .answerTask p a => p.verdict c a
  | .cancel p _ => p.forfeit c
  | .discardTask (.suspended p) _ => p.forfeit c
  | _ => []

/-- What the source answers is on the wire, and then what parties have put there that wait now. -/
def Cursor.Puts (c : Cursor) (opening : List Wire) (c' : Cursor) (left : Multiset Task) : Prop :=
  ∃ w : List Wire, c'.ledger.traffic = c.ledger.traffic ++ opening ++ w ∧
    ↑w = said c.config.requester left

namespace Cursor

@[simp] theorem traffic_giveBack (c : Cursor) (rs : List Resource) :
    (c.giveBack rs).ledger.traffic = c.ledger.traffic :=
  c.ledger.traffic_giveBackAll rs

/-- A part of a turn has put on the wire what its call waits for, after what came before. -/
def Says (c : Cursor) (before : List Wire) (r : Cursor × Progress) : Prop :=
  r.1.ledger.traffic = c.ledger.traffic ++ before ++ r.2.said c.config.requester

/-- A part of a turn has put on the wire what its call waits for and told the log, both after what
came before. -/
structure Tells (c : Cursor) (wires : List Wire) (events : List Event) (r : Cursor × Progress) :
    Prop where
  gains : c.ledger.Gains (wires ++ r.2.said c.config.requester) (events ++ r.2.announced c.config)
    r.1.ledger
  routed : ∀ p, r.2 = .waiting p → p.Routed

variable {c : Cursor} {wires : List Wire} {events : List Event} {r : Cursor × Progress}

theorem Tells.said (h : c.Tells wires events r) : c.Says wires r := by
  rw [Says, h.gains.traffic, List.append_assoc]

theorem Says.of_done (h : c.Says [] r) {o : Outcome} (hdone : r.2 = .done o) :
    r.1.ledger.traffic = c.ledger.traffic := by
  rw [Says, hdone, Progress.said, List.append_nil, List.append_nil] at h
  exact h

theorem tells_done {c' : Cursor} (h : c.ledger.Gains wires events c'.ledger) (o : Outcome) :
    c.Tells wires events (c', .done o) := by
  refine ⟨?_, fun p hp => ?_⟩
  · dsimp only [Progress.said, Progress.announced]
    rw [List.append_nil, List.append_nil]
    exact h
  · cases hp

theorem Tells.after {d : Cursor} (h : d.Tells [] [] r)
    (hbefore : c.ledger.Gains wires events d.ledger) (hconfig : d.config = c.config) :
    c.Tells wires events r := by
  have hgains := hbefore.trans h.gains
  rw [hconfig] at hgains
  exact ⟨hgains, h.routed⟩

theorem tells_conclude (c : Cursor) (a : Abandoned) (after : Outcome) :
    c.Tells [] [] (c.conclude a after) := by
  have hback := c.ledger.gains_giveBackAll a.held
  unfold conclude
  split
  · exact tells_done (hback.trans (Ledger.gains_emit _ rfl)) _
  · exact tells_done hback _

theorem tells_sendKill (c : Cursor) {a : Abandoned} {n : Nat} (hroute : a.route? = some n)
    (after : Outcome) : c.Tells [] [] (c.sendKill a n after) := by
  have hsaid : (Progress.waiting (.killReply a after)).said c.config.requester =
      [.sent n (c.config.requester.kill a.id)] := by
    rw [Progress.said, Point.said, hroute]
    rfl
  refine ⟨?_, fun p hp => ?_⟩
  · rw [sendKill, hsaid]
    exact c.ledger.gains_record rfl
  · cases hp
    exact Option.isSome_iff_exists.mpr ⟨n, hroute⟩

theorem tells_kill (c : Cursor) (a : Abandoned) (after : Outcome) :
    c.Tells [] [] (c.kill a after) := by
  unfold kill
  split
  · exact tells_conclude c a after
  split
  · exact (tells_conclude (c.emit (.killSkipped a.id)) a after).after
      (c.ledger.gains_emit rfl) rfl
  split
  · exact tells_sendKill c ‹_› after
  split
  · refine ⟨c.ledger.gains_record rfl, fun p hp => ?_⟩
    cases hp
    trivial
  · exact tells_conclude c a after

theorem tells_deliver (c : Cursor) : c.Tells [] [] c.deliver := by
  simp only [deliver]
  split
  · exact (tells_kill _ _ _).after (c.ledger.gains_emit rfl) rfl
  · refine tells_done ?_ _
    exact .refl c.ledger

theorem tells_finish (c : Cursor) : c.Tells [] [] c.finish :=
  tells_done ((c.ledger.gains_giveBackAll _).trans (Ledger.gains_emit _ rfl)) _

theorem tells_sendFetch (c : Cursor) (f : Fetch) (n : Nat) :
    c.Tells [] [] (c.sendFetch f n) := by
  refine ⟨(c.ledger.gains_report rfl).trans (Ledger.gains_record _ rfl), fun p hp => ?_⟩
  cases hp
  trivial

theorem tells_fetchUnrouted (c : Cursor) (f : Fetch) (cause : Error) :
    c.Tells [] [] (c.fetchUnrouted f cause) := by
  have hback := c.ledger.gains_giveBackAll f.held
  simp only [fetchUnrouted]
  split
  · exact (tells_kill _ _ _).after hback rfl
  · exact tells_done hback _

theorem tells_startFetch (c : Cursor) (wait : Bool) : c.Tells [] [] (c.startFetch wait) := by
  simp only [startFetch]
  split
  · rename_i l hretain
    refine tells_done ?_ _
    split at hretain
    · exact Ledger.gains_retain (.inr hretain)
    · cases hretain
  rename_i l hretain
  have hl : c.ledger.Gains [] [] l := by
    split at hretain
    · exact Ledger.gains_retain (.inl hretain)
    · cases hretain
      exact .refl _
  split
  · split
    · rename_i l' hconnection
      have hl' : l.Gains [] [] l' := Ledger.gains_retain (.inr hconnection)
      refine tells_done ?_ _
      exact hl.trans (hl'.trans (l'.gains_giveBackAll _))
    · rename_i l' hconnection
      have hl' : l.Gains [] [] l' := Ledger.gains_retain (.inl hconnection)
      exact (tells_sendFetch _ _ _).after (hl.trans hl') rfl
  split
  · refine ⟨hl.trans (l.gains_record rfl), fun p hp => ?_⟩
    cases hp
    trivial
  · exact (tells_fetchUnrouted _ _ _).after hl rfl

theorem tells_next (c : Cursor) (wait fetched : Bool) :
    c.Tells [] [] (c.next wait fetched) := by
  have hstill : ∀ o, c.Tells [] [] (c, .done o) := tells_done (.refl _)
  unfold next
  split
  · exact hstill _
  split
  · exact hstill _
  split
  · exact tells_deliver c
  split
  · exact tells_finish c
  split
  · exact hstill _
  split
  · exact hstill _
  · exact tells_startFetch c wait

theorem tells_close (c : Cursor) : c.Tells [] [] c.close := by
  unfold close
  split
  · exact tells_done (.refl _) _
  dsimp only
  split
  · exact tells_done (c.ledger.gains_emit rfl) _
  · exact (tells_kill _ _ _).after (.refl _) rfl

theorem tells_fetchCheckedOut (c : Cursor) (f : Fetch) (r : Except Error Unit) :
    c.Tells (Point.opening c.ledger.issued (.fetchCheckout f) (.checkout r)) []
      (c.fetchCheckedOut f r) := by
  cases r with
  | ok _ => exact (tells_sendFetch _ f _).after c.ledger.gains_checkout rfl
  | error cause => exact (tells_fetchUnrouted _ f cause).after (c.ledger.gains_record rfl) rfl

theorem tells_fetchReplied (c : Cursor) (f : Fetch) (n : Nat) (r : Except Error Reply) :
    c.Tells [] (f.verdict c r) (c.fetchReplied f n r) := by
  unfold fetchReplied
  split
  · rename_i hclosed
    rw [f.verdict_of_closed hclosed]
    exact (tells_kill _ _ _).after (c.ledger.gains_giveBackAll _) rfl
  rename_i hopen
  unfold Fetch.verdict
  rw [if_neg hopen]
  cases r with
  | ok reply =>
    have hreport : c.ledger.Gains [] [.fetched reply.id c.config.ns reply.documents.length] _ :=
      (c.ledger.gains_report rfl).trans (Ledger.gains_giveBackAll _ (.connection n :: f.held))
    dsimp only
    split
    · exact (tells_next _ _ _).after (hreport.trans (Ledger.gains_giveBackAll _ _)) rfl
    · exact (tells_next _ _ _).after hreport rfl
  | error cause =>
    exact tells_done ((c.ledger.gains_report rfl).trans (Ledger.gains_giveBackAll _ _)) _

/-- Who waits for a connection to discard the server's cursor over is bound to none. -/
theorem tells_killCheckedOut (c : Cursor) {a : Abandoned} (hpin : a.pin = .unpinned)
    (after : Outcome) (r : Except Error Unit) :
    c.Tells (Point.opening c.ledger.issued (.killCheckout a after) (.checkout r)) []
      (c.killCheckedOut a after r) := by
  cases r with
  | ok _ =>
    have hroute : { a with connection := some (c.ledger.issued + 1) }.route? =
        some (c.ledger.issued + 1) := by
      rw [Abandoned.route?, hpin]
      rfl
    exact (tells_sendKill c.checkout.1 hroute after).after c.ledger.gains_checkout rfl
  | error cause =>
    exact (tells_conclude _ a after).after
      ((c.ledger.gains_record rfl).trans (Ledger.gains_emit _ rfl)) rfl

theorem tells_killReplied (c : Cursor) (a : Abandoned) (after : Outcome)
    (r : Except Error Unit) :
    c.Tells [] (a.verdict c r) (c.killReplied a after r) := by
  cases r with
  | ok _ => exact (tells_conclude _ a after).after (c.ledger.gains_report rfl) rfl
  | error cause => exact (tells_conclude _ a after).after (c.ledger.gains_report rfl) rfl

theorem tells_resume (c : Cursor) {p : Point} (hp : (Task.suspended p).Proper) (a : Answer) :
    ((c.resume p a).1 = c ∧ (c.resume p a).2.left = {.suspended p} ∧ p.verdict c a = []) ∨
      c.Tells (p.opening c.ledger.issued a) (p.verdict c a) (c.resume p a) := by
  cases p with
  | fetchCheckout f =>
    cases a with
    | checkout r => exact .inr (tells_fetchCheckedOut c f r)
    | reply r => exact .inl ⟨rfl, rfl, rfl⟩
    | kill r => exact .inl ⟨rfl, rfl, rfl⟩
  | fetchReply f n =>
    cases a with
    | checkout r => exact .inl ⟨rfl, rfl, rfl⟩
    | reply r => exact .inr (tells_fetchReplied c f n r)
    | kill r => exact .inl ⟨rfl, rfl, rfl⟩
  | killCheckout b after =>
    cases a with
    | checkout r => exact .inr (tells_killCheckedOut c hp.1.2.2.1 after r)
    | reply r => exact .inl ⟨rfl, rfl, rfl⟩
    | kill r => exact .inl ⟨rfl, rfl, rfl⟩
  | killReply b after =>
    cases a with
    | checkout r => exact .inl ⟨rfl, rfl, rfl⟩
    | reply r => exact .inl ⟨rfl, rfl, rfl⟩
    | kill r => exact .inr (tells_killReplied c b after r)

theorem says_fetchReplied (c : Cursor) (f : Fetch) (n : Nat) (r : Except Error Reply) :
    c.Says [] (c.fetchReplied f n r) :=
  (tells_fetchReplied c f n r).said

theorem points_cancel (c : Cursor) (p : Point) (runtime : Bool) :
    points ↑(c.cancel p runtime).2.toList = 0 := by
  rcases left_cancel c p runtime with hnone | ⟨a, hone⟩
  · rw [hnone]
    rfl
  · rw [hone]
    rfl

theorem points_drop (c : Cursor) (runtime : Bool) : points ↑(c.drop runtime).2.toList = 0 := by
  rcases left_drop c runtime with hnone | hone
  · rw [hnone]
    rfl
  · rw [hone]
    rfl

theorem gains_cancelFetch (c : Cursor) (back : List Resource) (runtime : Bool) :
    c.ledger.Gains [] [.fetchCancelled c.config.ns] (c.cancelFetch back runtime).1.ledger := by
  have hreport : c.ledger.Gains [] [.fetchCancelled c.config.ns] _ :=
    (c.ledger.gains_giveBackAll back).trans (Ledger.gains_report _ rfl)
  simp only [cancelFetch]
  split
  · split
    · exact hreport.trans (Ledger.gains_giveBackAll _ _)
    split
    · exact hreport
    · exact (hreport.trans (Ledger.gains_giveBackAll _ _)).trans (Ledger.gains_emit _ rfl)
  · exact hreport

theorem gains_cancel (c : Cursor) (p : Point) (runtime : Bool) :
    c.ledger.Gains [] (p.forfeit c) (c.cancel p runtime).1.ledger := by
  cases p with
  | fetchCheckout f => exact gains_cancelFetch ..
  | fetchReply f n => exact gains_cancelFetch ..
  | killCheckout a after => exact Ledger.gains_giveBackAll ..
  | killReply a after => exact Ledger.gains_giveBackAll ..

theorem gains_closeQuietly (c : Cursor) : c.ledger.Gains [] [] c.closeQuietly.1.ledger := by
  unfold closeQuietly
  split
  · exact .refl _
  · exact Ledger.gains_giveBackAll ..

theorem gains_drop (c : Cursor) (runtime : Bool) :
    c.ledger.Gains [] [] (c.drop runtime).1.ledger := by
  have hquiet := gains_closeQuietly c
  simp only [drop]
  split
  · exact hquiet
  split
  · exact .refl _
  split
  · rename_i h
    rw [h] at hquiet
    exact hquiet.trans (Ledger.gains_emit _ rfl)
  · rename_i h
    rw [h] at hquiet
    exact hquiet

theorem traffic_cancelFetch (c : Cursor) (back : List Resource) (runtime : Bool) :
    (c.cancelFetch back runtime).1.ledger.traffic = c.ledger.traffic :=
  (gains_cancelFetch c back runtime).traffic_eq

theorem traffic_cancel (c : Cursor) (p : Point) (runtime : Bool) :
    (c.cancel p runtime).1.ledger.traffic = c.ledger.traffic :=
  (gains_cancel c p runtime).traffic_eq

end Cursor

/-- What a turn adds to the ledger, and where its party waits then, if it does. -/
structure Turn.Tells (c : Cursor) (t : Turn) (q : Option Point) : Prop where
  points : points (t.effect c).left = ↑q.toList
  routed : ∀ p ∈ q, p.Routed
  gains : c.ledger.Gains (t.opening c ++ q.elim [] (Point.said c.config.requester))
    (t.verdict c ++ q.elim [] (Point.announced c.config)) (t.effect c).cursor.ledger

/-- A turn of a party that goes on waiting changes nothing. Any other puts on the wire what the
source answers, tells the log what has become of a request, and then sends and announces what its
party waits for. -/
theorem tells_effect {c : Cursor} {t : Turn} (hp : AllProper t.party) :
    ((t.effect c).cursor = c ∧ (t.effect c).left = t.party ∧ t.verdict c = []) ∨
      ∃ q, t.Tells c q := by
  have hcall : ∀ {r : Cursor × Progress}, c.Tells (t.opening c) (t.verdict c) r →
      (t.effect c).cursor = r.1 → (t.effect c).left = r.2.left → ∃ q, t.Tells c q := by
    rintro ⟨c', progress⟩ h hcursor hleft
    cases progress with
    | waiting p =>
      refine ⟨some p, hleft ▸ points_singleton _, fun q hq => ?_, hcursor ▸ h.gains⟩
      exact h.routed q (congrArg _ (Option.mem_some.mp hq))
    | done o =>
      refine ⟨none, hleft ▸ rfl, fun q hq => ?_, hcursor ▸ h.gains⟩
      exact absurd hq (Option.not_mem_none q)
  have hquiet : points (t.effect c).left = 0 → t.opening c = [] →
      c.ledger.Gains [] (t.verdict c) (t.effect c).cursor.ledger → ∃ q, t.Tells c q := by
    intro hpoints hopening hgains
    refine ⟨none, hpoints, fun q hq => absurd hq (Option.not_mem_none q), ?_⟩
    rw [hopening, Option.elim_none, Option.elim_none, List.append_nil, List.append_nil]
    exact hgains
  cases t with
  | begin call =>
    right
    cases call with
    | next => exact hcall (Cursor.tells_next c true false) rfl rfl
    | tryNext => exact hcall (Cursor.tells_next c false false) rfl rfl
    | close => exact hcall (Cursor.tells_close c) rfl rfl
  | answer p a =>
    exact (Cursor.tells_resume c hp.of_singleton a).imp_right fun h => hcall h rfl rfl
  | cancel p runtime =>
    exact .inr (hquiet (Cursor.points_cancel ..) rfl (Cursor.gains_cancel c p runtime))
  | startTask task =>
    cases task with
    | close => exact .inr (hcall (Cursor.tells_close c) rfl rfl)
    | kill a => exact .inr (hcall (Cursor.tells_kill c a .cleared) rfl rfl)
    | suspended p => exact .inl ⟨rfl, rfl, rfl⟩
  | answerTask p a =>
    exact (Cursor.tells_resume c hp.of_singleton a).imp_right fun h => hcall h rfl rfl
  | discardTask task runtime =>
    right
    cases task with
    | close => exact hquiet rfl rfl (.refl _)
    | kill a => exact hquiet rfl rfl (c.ledger.gains_giveBackAll a.held)
    | suspended p => exact hquiet (Cursor.points_cancel ..) rfl (Cursor.gains_cancel c p runtime)
  | drop runtime =>
    exact .inr (hquiet (Cursor.points_drop ..) rfl (Cursor.gains_drop c runtime))
  | retain r =>
    refine .inr (hquiet rfl rfl ?_)
    cases h : c.ledger.retain r <;> simp only [Turn.effect, Turn.Effect.ofLedger, h]
    · exact Ledger.gains_retain (.inr h)
    · exact Ledger.gains_retain (.inl h)
  | release r =>
    refine .inr (hquiet rfl rfl ?_)
    cases h : c.ledger.release r <;> simp only [Turn.effect, Turn.Effect.ofLedger, h]
    · exact Ledger.gains_release (.inr h)
    · exact Ledger.gains_release (.inl h)

/-- A turn of a party that goes on waiting changes nothing. Any other puts on the wire what the
source answers and then what its party waits for. -/
theorem traffic_effect {c : Cursor} {t : Turn} (hp : AllProper t.party) :
    (t.effect c).cursor = c ∧ (t.effect c).left = t.party ∨
      c.Puts (t.opening c) (t.effect c).cursor (t.effect c).left := by
  rcases tells_effect (c := c) hp with ⟨hcursor, hleft, -⟩ | ⟨q, htells⟩
  · exact .inl ⟨hcursor, hleft⟩
  · refine .inr ⟨q.elim [] (Point.said c.config.requester), ?_, ?_⟩
    · rw [htells.gains.traffic, List.append_assoc]
    · rw [said_eq, htells.points]
      cases q with
      | none => rfl
      | some p => exact (Multiset.singleton_bind ..).symm

/-- What goes over the wire in a turn. -/
def Moment.traffic (m : Moment) : List Wire :=
  (m.turn.effect m.cursor).cursor.ledger.traffic.drop m.cursor.ledger.traffic.length

/-- What the log reports in a turn. -/
def Moment.reports (m : Moment) : List Event :=
  (m.turn.effect m.cursor).cursor.ledger.reports.drop m.cursor.ledger.reports.length

theorem moment_of_gains {m : Moment} {wires : List Wire} {events : List Event}
    (h : m.cursor.ledger.Gains wires events (m.turn.effect m.cursor).cursor.ledger) :
    m.traffic = wires ∧ m.reports = events := by
  constructor
  · rw [Moment.traffic, h.traffic, List.drop_left]
  · rw [Moment.reports, h.reports, List.drop_left]

theorem gains_moment {m : Moment} (hp : AllProper m.turn.party) :
    m.cursor.ledger.Gains m.traffic m.reports (m.turn.effect m.cursor).cursor.ledger := by
  have hsome : ∃ wires events,
      m.cursor.ledger.Gains wires events (m.turn.effect m.cursor).cursor.ledger := by
    rcases tells_effect (c := m.cursor) hp with ⟨hcursor, -, -⟩ | ⟨q, htells⟩
    · exact ⟨[], [], hcursor.symm ▸ .refl _⟩
    · exact ⟨_, _, htells.gains⟩
  obtain ⟨wires, events, hgains⟩ := hsome
  obtain ⟨htraffic, hreports⟩ := moment_of_gains hgains
  rw [htraffic, hreports]
  exact hgains

theorem traffic_moment {m : Moment} (hp : AllProper m.turn.party) :
    (m.turn.effect m.cursor).cursor.ledger.traffic = m.cursor.ledger.traffic ++ m.traffic :=
  (gains_moment hp).traffic

theorem gains_play {start c : Cursor} {ms : List Moment} {pending : Multiset Task}
    (hp : Play start ms c pending) :
    start.ledger.Gains (ms.flatMap Moment.traffic) (ms.flatMap Moment.reports) c.ledger := by
  induction hp with
  | nil => exact .refl _
  | @snoc ms c rest t before allowed ih =>
    have hturn := gains_moment (m := ⟨c, t⟩) (proper_party before)
    rw [List.flatMap_append, List.flatMap_append, List.flatMap_singleton, List.flatMap_singleton]
    exact ih.trans hturn

theorem traffic_play {start c : Cursor} {ms : List Moment} {pending : Multiset Task}
    (hp : Play start ms c pending) :
    c.ledger.traffic = start.ledger.traffic ++ ms.flatMap Moment.traffic :=
  (gains_play hp).traffic

/-- Nothing is put on the wire in the turn of a party that neither waits nor has to wait then, and
nothing is told about it. -/
theorem gains_of_unwaiting {c : Cursor} {t : Turn} (hp : AllProper t.party)
    (hparty : ∀ x ∈ t.party, ∀ p, x ≠ .suspended p)
    (hleft : ∀ x ∈ (t.effect c).left, ∀ p, x ≠ .suspended p) :
    c.ledger.Gains [] [] (t.effect c).cursor.ledger := by
  rcases tells_effect (c := c) hp with ⟨hcursor, -, -⟩ | ⟨q, htells⟩
  · rw [hcursor]
    exact .refl _
  have hnone : q = none := by
    refine Option.eq_none_iff_forall_not_mem.mpr fun p hq => ?_
    have hmem : p ∈ points (t.effect c).left := by
      rw [htells.points]
      exact Multiset.mem_coe.mpr (Option.mem_toList.mpr hq)
    exact hleft _ (mem_points.mp hmem) p rfl
  have hsilent : t.opening c = [] ∧ t.verdict c = [] := by
    cases t with
    | answer p a => exact absurd rfl (hparty _ (Multiset.mem_singleton_self _) p)
    | answerTask p a => exact absurd rfl (hparty _ (Multiset.mem_singleton_self _) p)
    | cancel p runtime => exact absurd rfl (hparty _ (Multiset.mem_singleton_self _) p)
    | discardTask task runtime =>
      cases task with
      | suspended p => exact absurd rfl (hparty _ (Multiset.mem_singleton_self _) p)
      | close => exact ⟨rfl, rfl⟩
      | kill a => exact ⟨rfl, rfl⟩
    | _ => exact ⟨rfl, rfl⟩
  have hgains := htells.gains
  rw [hnone, hsilent.1, hsilent.2] at hgains
  exact hgains

theorem traffic_of_unwaiting {c : Cursor} {t : Turn} (hp : AllProper t.party)
    (hparty : ∀ x ∈ t.party, ∀ p, x ≠ .suspended p)
    (hleft : ∀ x ∈ (t.effect c).left, ∀ p, x ≠ .suspended p) :
    (t.effect c).cursor.ledger.traffic = c.ledger.traffic :=
  (gains_of_unwaiting hp hparty hleft).traffic_eq

theorem gains_create (reply : Reply) (options : Options) (server : ServerDescription)
    (connection : Option (Nat × ConnectionDescription)) (l : Ledger) :
    l.Gains [] [] (Cursor.create reply options server connection l).ledger := by
  have hbare : ∀ c : Cursor, l.Gains [] [] c.ledger →
      l.Gains [] [] (if reply.id = 0 then (c.withState c.state.bare).giveBack c.state.abandoned.held
        else c).ledger := by
    intro c hc
    split
    · exact hc.trans (Ledger.gains_giveBackAll _ _)
    · exact hc
  refine hbare _ ?_
  cases connection with
  | none => exact l.gains_emit rfl
  | some h =>
    dsimp only
    split
    · exact (l.gains_emit rfl).trans (Ledger.gains_giveBackAll _ _)
    · exact (l.gains_emit rfl).trans (Ledger.gains_giveBackAll _ _)

theorem traffic_create (reply : Reply) (options : Options) (server : ServerDescription)
    (connection : Option (Nat × ConnectionDescription)) (l : Ledger) :
    (Cursor.create reply options server connection l).ledger.traffic = l.traffic :=
  (gains_create reply options server connection l).traffic_eq

end ServerCursor
