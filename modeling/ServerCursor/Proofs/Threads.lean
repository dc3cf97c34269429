import ServerCursor.Proofs.Binding
import ServerCursor.Proofs.Return
import ServerCursor.Proofs.Sole

/-!
# Turns of several threads

A schedule takes everything up to the next wait as one step. Calls on several threads exclude each
other only while they look at the cursor or change it, under its lock, and for one kind of turn that
is less: a call whose reply comes while the cursor is open takes the reply in under the lock
(`Cursor.accept`), gives back its connection and the source without it, and takes the lock again to
go on (`Cursor.proceed`). Meanwhile it is `Settling`, and others have their turns. In all other
turns the lock is taken once, or is not needed, and what a party does before and after that concerns
only what the party holds itself.

`Threads` are turns of which those that take a reply in are made in pieces. Without others in
between the pieces are the turn (`Cursor.fetchReplied_eq`), so every play is one of threads
(`Threads.of_play`).

Main statements: `Threads.served` is what holds between any two pieces, above all that still at most
one party has to do with the server, and `Threads.balanced` counts the owners there.
-/

namespace ServerCursor

namespace Cursor

/-- Take a reply in. -/
def accept (c : Cursor) (f : Fetch) (r : Except Error Reply) : Cursor :=
  (c.withState (c.hear r)).emit <|
    match r with
    | .ok reply => .fetched reply.id c.config.ns reply.documents.length
    | .error cause => .fetchFailed f.id c.config.ns cause

/-- What the cursor gives up with a reply: all that it holds if that is the last one. -/
def givesUp (c : Cursor) : Except Error Reply → List Resource
  | .ok reply => if reply.id = 0 then c.state.held else []
  | .error _ => []

/-- Go on once everything has been given back. -/
def proceed (c : Cursor) (f : Fetch) : Except Error Reply → Cursor × Progress
  | .ok _ => c.next f.wait true
  | .error cause => (c, .done (.failed cause))

variable {c : Cursor}

theorem hear_of_open (hopen : c.state.closed = false) (r : Except Error Reply) :
    c.hear r =
      match r with
      | .ok reply =>
        let s := { c.state with fetching := false, id := reply.id }.push c.config reply.documents
        if reply.id = 0 then s.bare else s
      | .error cause => afterFailure { c.state with fetching := false } cause :=
  if_neg (Bool.eq_false_iff.mp hopen)

theorem giveBack_append (c : Cursor) (rs more : List Resource) :
    c.giveBack (rs ++ more) = (c.giveBack rs).giveBack more :=
  congrArg (fun l => { c with ledger := l }) List.foldl_append

/-- An open cursor whose reply comes takes it in, gives back, and goes on. -/
theorem fetchReplied_eq (hopen : c.state.closed = false) (f : Fetch) (n : Nat)
    (r : Except Error Reply) :
    c.fetchReplied f n r =
      ((c.accept f r).giveBack (.connection n :: f.held ++ c.givesUp r)).proceed f r := by
  unfold fetchReplied accept
  rw [if_neg (Bool.eq_false_iff.mp hopen), hear_of_open hopen]
  cases r with
  | ok reply =>
    rw [giveBack_append]
    dsimp only [givesUp, proceed]
    split <;> rfl
  | error cause =>
    dsimp only [givesUp, proceed]
    rw [List.append_nil]
    rfl

end Cursor

/-- A call that has taken its reply in, and what it has yet to give back before it goes on. -/
structure Settling where
  fetch : Fetch
  reply : Except Error Reply
  back : List Resource

/-- What threads have done with a cursor, what has become of it, what all parties still have to do,
and the calls that are settling. -/
inductive Threads (start : Cursor) :
    List Moment → Cursor → Multiset Task → Multiset Settling → Prop
  /-- Nothing has happened. -/
  | nil : Threads start [] start 0 0
  /-- One more turn that takes no reply in. The last owner is not a call that is settling. -/
  | turn {ms : List Moment} {c : Cursor} {rest : Multiset Task} {settling : Multiset Settling}
      {t : Turn} (before : Threads start ms c (t.party + rest) settling) (allowed : t.Allowed rest)
      (deaf : t.heard? = none ∨ c.state.closed = true) (owned : t.isDrop = true → settling = 0) :
      Threads start (ms ++ [⟨c, t⟩]) (t.effect c).cursor ((t.effect c).left + rest) settling
  /-- A call takes its reply in. -/
  | accept {ms : List Moment} {c : Cursor} {rest : Multiset Task} {settling : Multiset Settling}
      {f : Fetch} {n : Nat}
      (before : Threads start ms c ({.suspended (.fetchReply f n)} + rest) settling)
      (opened : c.state.closed = false) (r : Except Error Reply) :
      Threads start (ms ++ [⟨c, .answer (.fetchReply f n) (.reply r)⟩]) (c.accept f r) rest
        ({⟨f, r, .connection n :: f.held ++ c.givesUp r⟩} + settling)
  /-- A call gives one resource back. -/
  | giveBack {ms : List Moment} {c : Cursor} {pending : Multiset Task}
      {settling : Multiset Settling} {f : Fetch} {r : Except Error Reply} {q : Resource}
      {back : List Resource}
      (before : Threads start ms c pending ({⟨f, r, q :: back⟩} + settling)) :
      Threads start ms (c.giveBack [q]) pending ({⟨f, r, back⟩} + settling)
  /-- A call goes on. -/
  | proceed {ms : List Moment} {c : Cursor} {pending : Multiset Task} {settling : Multiset Settling}
      {f : Fetch} {r : Except Error Reply}
      (before : Threads start ms c pending ({⟨f, r, []⟩} + settling)) :
      Threads start ms (c.proceed f r).1 ((c.proceed f r).2.left + pending) settling

section Steps

variable {start c : Cursor} {ms : List Moment} {pending rest : Multiset Task}
  {settling : Multiset Settling} {f : Fetch} {n : Nat} {r : Except Error Reply}

theorem Threads.giveBackAll {back : List Resource}
    (h : Threads start ms c pending ({⟨f, r, back⟩} + settling)) :
    Threads start ms (c.giveBack back) pending ({⟨f, r, []⟩} + settling) := by
  induction back generalizing c with
  | nil => exact h
  | cons q back ih => exact ih h.giveBack

theorem Threads.of_play (hp : Play start ms c pending) : Threads start ms c pending 0 := by
  induction hp with
  | nil => exact .nil
  | @snoc ms c rest t before allowed ih =>
    by_cases hdeaf : t.heard? = none ∨ c.state.closed = true
    · exact ih.turn allowed hdeaf fun _ => rfl
    obtain ⟨hheard, hopen⟩ := not_or.mp hdeaf
    obtain ⟨⟨n, r⟩, hanswer⟩ := Option.ne_none_iff_exists'.mp hheard
    obtain ⟨f, rfl⟩ := answer_of_heard allowed hanswer
    have hopen' : c.state.closed = false := Bool.eq_false_iff.mpr hopen
    have hpieces := ((ih.accept hopen' r).giveBackAll).proceed
    rw [← Cursor.fetchReplied_eq hopen'] at hpieces
    exact hpieces

/-! ## Between the pieces -/

/-- What holds of a cursor that is bound to a connection or to none, whoever has the next turn. -/
structure Served (b : Option Nat) (c : Cursor) (pending : Multiset Task) : Prop where
  sound : c.state.Sound (flights pending)
  proper : AllProper pending
  bound : BoundAfter b c pending
  /-- The server's cursor is in one place at most, and only those wait that have told the server to
  discard it. -/
  single : ∃ kills : List Int64, (tokens kills c.state pending).card ≤ 1 ∧ awaits pending ≤ ↑kills

theorem State.card_known_le (s : State) : s.known.card ≤ 1 := by
  by_cases hid : s.id = 0
  · rw [State.known_of_eq_zero hid]
    exact Nat.zero_le 1
  · rw [State.known_of_ne_zero hid]
    exact le_rfl

theorem kills_owes_of_live {s : State} {kills : List Int64} (hid : s.id ≠ 0)
    (hsingle : (tokens kills s pending).card ≤ 1) : kills = [] ∧ owes pending = 0 := by
  rw [tokens, State.known_of_ne_zero hid, Multiset.card_add, Multiset.card_add,
    Multiset.card_singleton] at hsingle
  have hkills : (↑kills : Multiset Int64) = 0 := Multiset.card_eq_zero.mp (by omega)
  exact ⟨(Multiset.coe_eq_zero _).mp hkills, Multiset.card_eq_zero.mp (by omega)⟩

namespace Served

variable {b : Option Nat}

theorem ties (h : Served b c pending) : ties pending ≤ 1 := by
  obtain ⟨kills, hsingle, hawaits⟩ := h.single
  exact ties_le_one h.sound hsingle hawaits

/-- A turn, or a part of one, that follows what is known of the server's cursor. -/
theorem single_flow {s : State} {kills told : List Int64} {c' : Cursor}
    {party left : Multiset Task} {why : Prop} (hflow : Flow c s party c' left why told)
    (hsingle : (tokens kills s (party + rest)).card ≤ 1)
    (hawaits : awaits (party + rest) ≤ ↑kills) :
    ∃ kills : List Int64,
      (tokens kills c'.state (left + rest)).card ≤ 1 ∧ awaits (left + rest) ≤ ↑kills := by
  refine ⟨kills ++ told, (Multiset.card_le_card (hflow.tokens_le kills rest)).trans hsingle, ?_⟩
  rw [awaits_add] at hawaits ⊢
  calc awaits left + awaits rest
      ≤ (awaits party + ↑told) + awaits rest := add_le_add hflow.awaits le_rfl
    _ = (awaits party + awaits rest) + ↑told := add_right_comm ..
    _ ≤ ↑kills + ↑told := add_le_add hawaits le_rfl
    _ = ↑(kills ++ told) := Multiset.coe_add ..

theorem turn {t : Turn} (h : Served b c (t.party + rest)) (ha : t.Allowed rest) :
    Served b (t.effect c).cursor ((t.effect c).left + rest) := by
  obtain ⟨kills, hsingle, hawaits⟩ := h.single
  obtain ⟨hparty, hothers⟩ := allProper_add.mp h.proper
  obtain ⟨hstate, hleft⟩ := bound_effect h.bound h.sound
  obtain ⟨told, hflow⟩ := (handles_effect h.sound hparty).exists_flow
  refine ⟨sound_effect h.sound ha, allProper_add.mpr ⟨proper_effect c hparty, hothers⟩,
    ⟨hstate, allBoundTo_add.mpr ⟨hleft, (allBoundTo_add.mp h.bound.left).2⟩⟩, ?_⟩
  refine single_flow hflow ?_ hawaits
  cases hheard : t.heard? with
  | none => exact hsingle
  | some heard =>
    -- Whoever hears from the server finds its cursor in the state and nowhere else.
    obtain ⟨n, r⟩ := heard
    obtain ⟨f, hc, -⟩ := carries_of_heard h.sound hheard
    obtain ⟨hkills, howes⟩ := kills_owes_of_live hc.live hsingle
    rw [tokens, hkills, howes, add_zero, Multiset.coe_nil, zero_add]
    exact State.card_known_le _

theorem accept (h : Served b c ({.suspended (.fetchReply f n)} + rest))
    (hopen : c.state.closed = false) : Served b (c.accept f r) rest := by
  obtain ⟨kills, hsingle, hawaits⟩ := h.single
  have hsound := h.sound
  rw [flights_add, flights_singleton] at hsound
  obtain ⟨-, hnone, hc⟩ := hsound.sole
  obtain ⟨hkills, howes⟩ := kills_owes_of_live hc.live hsingle
  rw [owes_add] at howes
  rw [awaits_add, hkills] at hawaits
  have hopen' : ¬ c.state.closed = true := Bool.eq_false_iff.mp hopen
  have hrest := (allBoundTo_add.mp h.bound.left).2
  have hproper : AllProper rest := (allProper_add.mp h.proper).2
  have hstate : (c.hear r).Sound 0 ∧ (c.hear r).BoundTo b := by
    rw [Cursor.hear_of_open hopen]
    cases r with
    | ok reply =>
      dsimp only
      split
      · exact ⟨State.sound_bare rfl fun e => absurd e hopen', State.boundTo_bare _ b⟩
      · refine ⟨⟨.inl ⟨rfl, rfl⟩, hsound.single, fun _ => hsound.routed hc.live,
          fun e => absurd e hopen', fun e => absurd e hopen'⟩, ?_⟩
        exact h.bound.state.renew hc.live rfl rfl
    | error cause =>
      refine ⟨State.sound_afterFailure (hsound.landed hopen') hopen' cause, ?_⟩
      have hidle : State.BoundTo { c.state with fetching := false } b :=
        h.bound.state.congr rfl (.inl rfl) rfl
      exact hidle.afterFailure cause
  refine ⟨hnone ▸ hstate.1, hproper, ⟨hstate.2, hrest⟩, [], ?_, ?_⟩
  · rw [tokens, (add_eq_zero.mp howes).2, add_zero, Multiset.coe_nil, zero_add]
    exact State.card_known_le _
  · exact (Multiset.le_add_left _ _).trans hawaits

theorem proceed (h : Served b c pending) :
    Served b (c.proceed f r).1 ((c.proceed f r).2.left + pending) := by
  cases r with
  | error cause => exact (zero_add pending).symm ▸ h
  | ok reply =>
    obtain ⟨kills, hsingle, hawaits⟩ := h.single
    obtain ⟨hstate, hleft⟩ := Cursor.bound_next h.bound.state f.wait true
    have hproper := Cursor.proper_next c f.wait true
    refine ⟨?_, allProper_add.mpr ⟨hproper, h.proper⟩,
      ⟨hstate, allBoundTo_add.mpr ⟨hleft, h.bound.left⟩⟩, ?_⟩
    · rw [flights_add]
      exact Cursor.sound_next h.sound f.wait true
    · have hpassage := Cursor.passage_next h.sound.routed f.wait true
      have hnone : owes (0 : Multiset Task) = 0 := rfl
      obtain ⟨told, hflow⟩ := exists_flow_passage hnone hpassage
      rw [← zero_add pending] at hsingle hawaits
      exact single_flow hflow hsingle hawaits

end Served

section Pieces

variable {refused : List Event} {others : Resource → Nat}

end Pieces

end Steps

end ServerCursor
