import Mathlib.Data.List.Forall2
import ServerCursor.Proofs.Slot
import ServerCursor.Proofs.Wire

/-!
# Cursors that cannot be told apart

Two cursors are alike if they are in the same state, their surroundings count the same owners, and
what they have put on the wire since a certain moment matches one for one (`Cursor.Alike`). What
matches is a parameter. The events do not count, nor does what a server says to a cursor that is
discarded (`Action.Alike`).

Whatever a cursor does depends on no more than that, so two that are alike stay so in every turn,
and their calls end alike. Main statements: `Schedule.Alike.step` for one action and
`Schedule.Alike.run` for a whole history.
-/

namespace ServerCursor

/-- Cursors with these configurations use the same numbers and put matching things on the wire. -/
structure Config.Matches (R : Wire → Wire → Prop) (k k' : Config) : Prop where
  ns : k'.ns = k.ns
  limit : k'.limit = k.limit
  batchSize : k'.batchSize = k.batchSize
  silent : ∀ w : Wire, w.message? = none → R w w
  getMore : ∀ n id number,
    R (.sent n (k.requester.getMore id number)) (.sent n (k'.requester.getMore id number))
  kill : ∀ n id, R (.sent n (k.requester.kill id)) (.sent n (k'.requester.kill id))

/-- Two ledgers count the same, and what is on the wire beyond `before` matches. -/
structure Ledger.Alike (R : Wire → Wire → Prop) (before : List Wire) (l l' : Ledger) : Prop where
  owners : l'.owners = l.owners
  issued : l'.issued = l.issued
  wire : ∃ more more', l.wire = before ++ more ∧ l'.wire = before ++ more' ∧
    List.Forall₂ R more more'

/-- Two cursors are in the same state, and so are their surroundings. -/
structure Cursor.Alike (R : Wire → Wire → Prop) (before : List Wire) (c c' : Cursor) : Prop where
  config : c.config.Matches R c'.config
  state : c'.state = c.state
  ledger : c.ledger.Alike R before c'.ledger

namespace Ledger.Alike

variable {R : Wire → Wire → Prop} {before : List Wire} {l l' : Ledger}

theorem refl (l : Ledger) : l.Alike R l.wire l :=
  ⟨rfl, rfl, [], [], (List.append_nil _).symm, (List.append_nil _).symm, .nil⟩

theorem emit (h : l.Alike R before l') (e e' : Event) : (l.emit e).Alike R before (l'.emit e') :=
  ⟨h.owners, h.issued, h.wire⟩

theorem record (h : l.Alike R before l') {w w' : Wire} (hw : R w w') :
    (l.record w).Alike R before (l'.record w') := by
  obtain ⟨more, more', hmore, hmore', hall⟩ := h.wire
  refine ⟨h.owners, h.issued, more ++ [w], more' ++ [w'], ?_, ?_, ?_⟩
  · rw [Ledger.record, hmore, List.append_assoc]
  · rw [Ledger.record, hmore', List.append_assoc]
  · exact List.rel_append hall (.cons hw .nil)

theorem put (h : l.Alike R before l') (r : Resource) (n : Nat) :
    Ledger.Alike R before { l with owners := Ledger.put l.owners r n }
      { l' with owners := Ledger.put l'.owners r n } :=
  ⟨by rw [h.owners], h.issued, h.wire⟩

variable (hsilent : ∀ w : Wire, w.message? = none → R w w)

include hsilent

theorem checkout (h : l.Alike R before l') : l.checkout.Alike R before l'.checkout := by
  have hmade : Ledger.Alike R before
      { l with
        issued := l.issued + 1
        owners := Ledger.put l.owners (.connection (l.issued + 1)) 1 }
      { l' with
        issued := l'.issued + 1
        owners := Ledger.put l'.owners (.connection (l'.issued + 1)) 1 } :=
    ⟨by rw [h.owners, h.issued], by rw [h.issued], h.wire⟩
  unfold Ledger.checkout
  rw [h.issued] at hmade ⊢
  exact hmade.record (hsilent _ rfl)

omit hsilent in
theorem retain (h : l.Alike R before l') (r : Resource) :
    (∃ m m', l.retain r = .ok m ∧ l'.retain r = .ok m' ∧ m.Alike R before m') ∨
    (∃ m m', l.retain r = .error m ∧ l'.retain r = .error m' ∧ m.Alike R before m') := by
  unfold Ledger.retain
  rw [h.owners]
  cases Ownership.join (l.owners r) with
  | ok n =>
    have hput := h.put r n
    rw [h.owners] at hput
    exact .inl ⟨_, _, rfl, rfl, hput⟩
  | error cause => exact .inr ⟨_, _, rfl, rfl, h.emit _ _⟩

theorem release (h : l.Alike R before l') (r : Resource) :
    (∃ m m', l.release r = .ok m ∧ l'.release r = .ok m' ∧ m.Alike R before m') ∨
    (∃ m m', l.release r = .error m ∧ l'.release r = .error m' ∧ m.Alike R before m') := by
  unfold Ledger.release
  rw [h.owners]
  cases Ownership.leave (l.owners r) with
  | ok n =>
    have hput := h.put r n
    rw [h.owners] at hput
    refine .inl ⟨_, _, rfl, rfl, ?_⟩
    split
    · exact hput.record (hsilent _ rfl)
    · exact hput
  | error cause => exact .inr ⟨_, _, rfl, rfl, h.emit _ _⟩

theorem giveBack (h : l.Alike R before l') (r : Resource) :
    (l.giveBack r).Alike R before (l'.giveBack r) := by
  unfold Ledger.giveBack
  rcases h.release hsilent r with ⟨m, m', hm, hm', hafter⟩ | ⟨m, m', hm, hm', hafter⟩
  · rw [hm, hm']
    exact hafter
  · rw [hm, hm']
    exact hafter.emit _ _

theorem giveBackAll (h : l.Alike R before l') (rs : List Resource) :
    (l.giveBackAll rs).Alike R before (l'.giveBackAll rs) := by
  induction rs generalizing l l' with
  | nil => exact h
  | cons r rest ih => exact ih (h.giveBack hsilent r)

end Ledger.Alike

/-! ## What a call does -/

namespace Cursor

/-- Two calls have come to the same point with cursors that are alike. -/
def InStep (R : Wire → Wire → Prop) (before : List Wire) (r r' : Cursor × Progress) : Prop :=
  r.1.Alike R before r'.1 ∧ r'.2 = r.2

/-- Two calls were given up that leave the same to do. -/
def Lost (R : Wire → Wire → Prop) (before : List Wire) (r r' : Cursor × Option Task) : Prop :=
  r.1.Alike R before r'.1 ∧ r'.2 = r.2

namespace Alike

variable {R : Wire → Wire → Prop} {before : List Wire} {c c' : Cursor}

theorem emit (h : c.Alike R before c') (e e' : Event) : (c.emit e).Alike R before (c'.emit e') :=
  ⟨h.config, h.state, h.ledger.emit e e'⟩

theorem record (h : c.Alike R before c') {w w' : Wire} (hw : R w w') :
    (c.record w).Alike R before (c'.record w') :=
  ⟨h.config, h.state, h.ledger.record hw⟩

theorem silent (h : c.Alike R before c') {w : Wire} (hw : w.message? = none) :
    (c.record w).Alike R before (c'.record w) :=
  h.record (h.config.silent w hw)

theorem withState (h : c.Alike R before c') (s : State) :
    (c.withState s).Alike R before (c'.withState s) :=
  ⟨h.config, rfl, h.ledger⟩

theorem withLedger (h : c.Alike R before c') {l l' : Ledger} (hl : l.Alike R before l') :
    Cursor.Alike R before { c with ledger := l } { c' with ledger := l' } :=
  ⟨h.config, h.state, hl⟩

theorem giveBack (h : c.Alike R before c') (rs : List Resource) :
    (c.giveBack rs).Alike R before (c'.giveBack rs) :=
  h.withLedger (h.ledger.giveBackAll h.config.silent rs)

theorem checkout (h : c.Alike R before c') :
    c.checkout.1.Alike R before c'.checkout.1 ∧ c'.checkout.2 = c.checkout.2 :=
  ⟨h.withLedger (h.ledger.checkout h.config.silent), by
    rw [Cursor.checkout, Cursor.checkout, h.ledger.issued]⟩

theorem done (h : c.Alike R before c') (o : Outcome) : InStep R before (c, .done o) (c', .done o) :=
  ⟨h, rfl⟩

theorem waiting (h : c.Alike R before c') (p : Point) :
    InStep R before (c, .waiting p) (c', .waiting p) :=
  ⟨h, rfl⟩

theorem refuse (h : c.Alike R before c') (cause : IllegalState) :
    InStep R before (c.refuse cause) (c'.refuse cause) :=
  h.done _

theorem conclude (h : c.Alike R before c') (a : Abandoned) (after : Outcome) :
    InStep R before (c.conclude a after) (c'.conclude a after) := by
  unfold Cursor.conclude
  cases after with
  | closed => exact ((h.giveBack a.held).emit _ _).done _
  | _ => exact (h.giveBack a.held).done _

theorem sendKill (h : c.Alike R before c') (a : Abandoned) (n : Nat) (after : Outcome) :
    InStep R before (c.sendKill a n after) (c'.sendKill a n after) :=
  (h.record (h.config.kill n a.id)).waiting _

theorem kill (h : c.Alike R before c') (a : Abandoned) (after : Outcome) :
    InStep R before (c.kill a after) (c'.kill a after) := by
  unfold Cursor.kill
  split
  · exact h.conclude a after
  split
  · exact (h.emit _ _).conclude a after
  split
  · exact h.sendKill a _ after
  split
  · exact (h.silent rfl).waiting _
  · exact h.conclude a after

theorem killCheckedOut (h : c.Alike R before c') (a : Abandoned) (after : Outcome)
    (r : Except Error Unit) :
    InStep R before (c.killCheckedOut a after r) (c'.killCheckedOut a after r) := by
  cases r with
  | ok u =>
    obtain ⟨hafter, hn⟩ := h.checkout
    unfold Cursor.killCheckedOut
    simp only [hn]
    exact hafter.sendKill _ _ after
  | error cause => exact ((h.silent rfl).emit _ _).conclude a after

theorem killReplied (h : c.Alike R before c') (a : Abandoned) (after : Outcome)
    (r r' : Except Error Unit) :
    InStep R before (c.killReplied a after r) (c'.killReplied a after r') := by
  unfold Cursor.killReplied
  cases r <;> cases r' <;> exact (h.emit _ _).conclude a after

theorem deliver (h : c.Alike R before c') : InStep R before c.deliver c'.deliver := by
  have hreached : c'.config.limitReached = c.config.limitReached := by
    unfold Config.limitReached
    rw [h.config.limit]
  unfold Cursor.deliver
  simp only [h.state, hreached]
  split
  · exact ((h.withState _).emit _ _).kill _ _
  · exact (h.withState _).done _

theorem finish (h : c.Alike R before c') : InStep R before c.finish c'.finish := by
  unfold Cursor.finish
  simp only [h.state]
  exact (((h.withState _).giveBack _).emit _ _).done _

theorem sendFetch (h : c.Alike R before c') (f : Fetch) (n : Nat) :
    InStep R before (c.sendFetch f n) (c'.sendFetch f n) :=
  ((h.emit _ _).record (h.config.getMore n f.id f.number)).waiting _

theorem fetchUnrouted (h : c.Alike R before c') (f : Fetch) (cause : Error) :
    InStep R before (c.fetchUnrouted f cause) (c'.fetchUnrouted f cause) := by
  have hback := h.giveBack f.held
  unfold Cursor.fetchUnrouted
  simp only [hback.state]
  split
  · exact (hback.withState _).kill _ _
  · exact (hback.withState _).done _

/-- A request takes part in the source, if that is held, in both or in none. -/
theorem join (h : c.Alike R before c') (held : Bool) :
    (∃ l l', (if held then c.ledger.retain .source else .ok c.ledger) = .ok l ∧
      (if held then c'.ledger.retain .source else .ok c'.ledger) = .ok l' ∧
      l.Alike R before l') ∨
    (∃ l l', (if held then c.ledger.retain .source else .ok c.ledger) = .error l ∧
      (if held then c'.ledger.retain .source else .ok c'.ledger) = .error l' ∧
      l.Alike R before l') := by
  cases held with
  | true => exact h.ledger.retain .source
  | false => exact .inl ⟨_, _, rfl, rfl, h.ledger⟩

theorem startFetch (h : c.Alike R before c') (wait : Bool) :
    InStep R before (c.startFetch wait) (c'.startFetch wait) := by
  unfold Cursor.startFetch
  simp only [h.state, h.config.limit, h.config.batchSize]
  have hwith : ∀ (s : State) {m m' : Ledger}, m.Alike R before m' →
      Cursor.Alike R before ⟨c.config, s, m⟩ ⟨c'.config, s, m'⟩ :=
    fun s m m' hm => ⟨h.config, rfl, hm⟩
  rcases h.join c.state.source with ⟨l, l', hl, hl', hjoined⟩ | ⟨l, l', hl, hl', hrefused⟩
  · simp only [hl, hl']
    split
    · rename_i n _
      rcases hjoined.retain (.connection n) with ⟨m, m', hm, hm', hboth⟩ | ⟨m, m', hm, hm', hnone⟩
      · simp only [hm, hm']
        exact (hwith _ hboth).sendFetch _ n
      · simp only [hm, hm']
        exact ((hwith _ hnone).giveBack _).refuse _
    · split
      · exact ((hwith _ hjoined).silent rfl).waiting _
      · exact (hwith _ hjoined).fetchUnrouted _ _
  · simp only [hl, hl']
    exact (hwith _ hrefused).refuse _

theorem next (h : c.Alike R before c') (wait fetched : Bool) :
    InStep R before (c.next wait fetched) (c'.next wait fetched) := by
  unfold Cursor.next
  rw [h.state]
  split
  · exact h.refuse _
  split
  · exact h.refuse _
  split
  · exact h.deliver
  split
  · exact h.finish
  split
  · exact h.done _
  split
  · exact h.refuse _
  · exact h.startFetch wait

theorem fetchCheckedOut (h : c.Alike R before c') (f : Fetch) (r : Except Error Unit) :
    InStep R before (c.fetchCheckedOut f r) (c'.fetchCheckedOut f r) := by
  cases r with
  | ok u =>
    obtain ⟨hafter, hn⟩ := h.checkout
    unfold Cursor.fetchCheckedOut
    simp only [hn]
    exact hafter.sendFetch f _
  | error cause => exact (h.silent rfl).fetchUnrouted f cause

theorem fetchRepliedClosed (h : c.Alike R before c') (f : Fetch) (n : Nat)
    (r : Except Error Reply) :
    InStep R before (c.fetchRepliedClosed f n r) (c'.fetchRepliedClosed f n r) := by
  unfold Cursor.fetchRepliedClosed
  simp only [h.state]
  exact ((h.withState _).giveBack _).kill _ _

theorem push_eq (h : c.Alike R before c') (s : State) (batch : List Document) :
    s.push c'.config batch = s.push c.config batch := by
  unfold State.push Config.allowed
  rw [h.config.limit]

theorem fetchReplied (h : c.Alike R before c') (f : Fetch) (n : Nat) (r : Except Error Reply) :
    InStep R before (c.fetchReplied f n r) (c'.fetchReplied f n r) := by
  unfold Cursor.fetchReplied
  rw [h.state]
  split
  · exact h.fetchRepliedClosed f n r
  · cases r with
    | ok reply =>
      simp only [Cursor.config_emit, h.push_eq]
      split
      · exact ((((h.emit _ _).withState _).giveBack _).giveBack _).next _ _
      · exact (((h.emit _ _).withState _).giveBack _).next _ _
    | error cause => exact (((h.emit _ _).withState _).giveBack _).done _

theorem close (h : c.Alike R before c') : InStep R before c.close c'.close := by
  unfold Cursor.close
  simp only [h.state]
  split
  · exact h.done _
  split
  · exact ((h.withState _).emit _ _).done _
  · exact (h.withState _).kill _ _

theorem resume (h : c.Alike R before c') (p : Point) (a : Answer) :
    InStep R before (c.resume p a) (c'.resume p a) := by
  cases p with
  | fetchCheckout f =>
    cases a with
    | checkout r => exact h.fetchCheckedOut f r
    | _ => exact h.waiting _
  | fetchReply f n =>
    cases a with
    | reply r => exact h.fetchReplied f n r
    | _ => exact h.waiting _
  | killCheckout b after =>
    cases a with
    | checkout r => exact h.killCheckedOut b after r
    | _ => exact h.waiting _
  | killReply b after =>
    cases a with
    | kill r => exact h.killReplied b after r r
    | _ => exact h.waiting _

theorem resume_kill (h : c.Alike R before c') (p : Point) (r r' : Except Error Unit) :
    InStep R before (c.resume p (.kill r)) (c'.resume p (.kill r')) := by
  cases p with
  | killReply b after => exact h.killReplied b after r r'
  | _ => exact h.waiting _

/-! ## What becomes of a call or a cursor that is given up -/

theorem cancelFetch (h : c.Alike R before c') (back : List Resource) (runtime : Bool) :
    Lost R before (c.cancelFetch back runtime) (c'.cancelFetch back runtime) := by
  unfold Cursor.cancelFetch
  simp only [h.state]
  have hback := h.giveBack back
  split
  · split
    · exact ⟨((hback.withState _).emit _ _).giveBack _, rfl⟩
    split
    · exact ⟨(hback.withState _).emit _ _, rfl⟩
    · exact ⟨(((hback.withState _).emit _ _).giveBack _).emit _ _, rfl⟩
  · exact ⟨(hback.withState _).emit _ _, rfl⟩

theorem cancel (h : c.Alike R before c') (p : Point) (runtime : Bool) :
    Lost R before (c.cancel p runtime) (c'.cancel p runtime) := by
  cases p with
  | fetchCheckout f => exact h.cancelFetch f.held runtime
  | fetchReply f n => exact h.cancelFetch (.connection n :: f.held) runtime
  | killCheckout a after => exact ⟨h.giveBack a.held, rfl⟩
  | killReply a after => exact ⟨h.giveBack a.held, rfl⟩

theorem closeQuietly (h : c.Alike R before c') :
    c.closeQuietly.1.Alike R before c'.closeQuietly.1 ∧
      c'.closeQuietly.2 = c.closeQuietly.2 := by
  unfold Cursor.closeQuietly
  simp only [h.state]
  split
  · exact ⟨h, rfl⟩
  · exact ⟨(h.withState _).giveBack _, rfl⟩

theorem drop (h : c.Alike R before c') (runtime : Bool) :
    Lost R before (c.drop runtime) (c'.drop runtime) := by
  obtain ⟨hquiet, hid⟩ := h.closeQuietly
  have hneeds : c'.needsKill = c.needsKill := by
    unfold Cursor.needsKill
    rw [h.state]
  unfold Cursor.drop
  rw [hneeds]
  split
  · exact ⟨hquiet, rfl⟩
  split
  · exact ⟨h, rfl⟩
  · cases hc : c.closeQuietly with | mk d id? =>
    cases hc' : c'.closeQuietly with | mk d' id?' =>
    rw [hc, hc'] at hquiet hid
    obtain rfl : id?' = id? := hid
    cases id?' with
    | some id => exact ⟨Alike.emit hquiet _ _, rfl⟩
    | none => exact ⟨hquiet, rfl⟩

theorem startTask (h : c.Alike R before c') (t : Task) :
    InStep R before (c.startTask t) (c'.startTask t) := by
  cases t with
  | close => exact h.close
  | kill a => exact h.kill a .cleared
  | suspended p => exact h.waiting p

theorem discardTask (h : c.Alike R before c') (runtime : Bool) (t : Task) :
    Lost R before (c.discardTask runtime t) (c'.discardTask runtime t) := by
  cases t with
  | close => exact ⟨h, rfl⟩
  | kill a => exact ⟨h.giveBack a.held, rfl⟩
  | suspended p => exact h.cancel p runtime

end Alike

end Cursor

/-! ## Schedules -/

/-- Two actions are the same, or tell somebody differently what the server said to a cursor that is
discarded. -/
inductive Action.Alike : Action → Action → Prop
  | refl (a : Action) : Alike a a
  | kill (slot : Slot) (r r' : Except Error Unit) :
      Alike (.answer slot (.kill r)) (.answer slot (.kill r'))
  | killTask (i : Nat) (r r' : Except Error Unit) :
      Alike (.answerTask i (.kill r)) (.answerTask i (.kill r'))

namespace Schedule

/-- Two schedules have cursors that are alike, and the same handles, calls and tasks. -/
structure Alike (R : Wire → Wire → Prop) (before : List Wire) (s s' : Schedule) : Prop where
  cursor : s.cursor.Alike R before s'.cursor
  handles : s'.handles = s.handles
  calls : s'.calls = s.calls
  tasks : s'.tasks = s.tasks
  runtime : s'.runtime = s.runtime

/-- The same has happened in both, and the same call has ended in the same way. -/
def InStep (R : Wire → Wire → Prop) (before : List Wire)
    (r r' : Schedule × Option Outcome) : Prop :=
  r.1.Alike R before r'.1 ∧ r'.2 = r.2

section

variable {R : Wire → Wire → Prop} {before : List Wire} (s : Schedule) {c' : Cursor}
  (h : s.cursor.Alike R before c')

include h

theorem alike_with : s.Alike R before { s with cursor := c' } :=
  ⟨h, rfl, rfl, rfl, rfl⟩

theorem alike_letGo : s.letGo.Alike R before (Schedule.letGo { s with cursor := c' }) := by
  obtain ⟨hdrop, htask⟩ := h.drop s.runtime
  simp only [letGo, spawn]
  split
  · rw [htask]
    exact ⟨hdrop, rfl, rfl, rfl, rfl⟩
  · exact s.alike_with h

omit h in
theorem alike_setTask (i : Nat) {r r' : Cursor × Progress} (hr : Cursor.InStep R before r r') :
    (s.setTask i r).Alike R before (Schedule.setTask { s with cursor := c' } i r') := by
  obtain ⟨d, progress⟩ := r
  obtain ⟨d', progress'⟩ := r'
  obtain ⟨hd, hprogress⟩ := hr
  obtain rfl : progress' = progress := hprogress
  cases progress' with
  | waiting p => exact ⟨hd, rfl, rfl, rfl, rfl⟩
  | done o => exact ⟨hd, rfl, rfl, rfl, rfl⟩

theorem alike_beginCall (call : Call) :
    Cursor.InStep R before (beginCall s.cursor call) (beginCall c' call) := by
  cases call with
  | next => exact h.next true false
  | tryNext => exact h.next false false
  | close => exact h.close

theorem alike_begin (slot : Slot) (call : Call) :
    InStep R before (s.step (.begin slot call))
      (Schedule.step { s with cursor := c' } (.begin slot call)) := by
  by_cases hfree : s.handles ≠ 0 ∧ s.waitingIn? slot = none
  · obtain ⟨hd, hprogress⟩ := alike_beginCall s h call
    have hfree' : Schedule.waitingIn? { s with cursor := c' } slot = none := hfree.2
    rw [begin_of_free hfree.2 hfree.1, begin_of_free hfree' hfree.1, hprogress]
    exact ⟨⟨hd, rfl, rfl, rfl, rfl⟩, rfl⟩
  · have hfree' : ¬ (Schedule.handles { s with cursor := c' } ≠ 0 ∧
        Schedule.waitingIn? { s with cursor := c' } slot = none) := hfree
    rw [begin_of_taken hfree, begin_of_taken hfree']
    exact ⟨s.alike_with h, rfl⟩

theorem alike_answer (slot : Slot) {a a' : Answer}
    (ha : ∀ p, Cursor.InStep R before (s.cursor.resume p a) (c'.resume p a')) :
    InStep R before (s.step (.answer slot a))
      (Schedule.step { s with cursor := c' } (.answer slot a')) := by
  cases hp : s.waitingIn? slot with
  | none =>
    have hp' : Schedule.waitingIn? { s with cursor := c' } slot = none := hp
    simp only [step, answer, hp, hp']
    exact ⟨s.alike_with h, rfl⟩
  | some p =>
    have hp' : Schedule.waitingIn? { s with cursor := c' } slot = some p := hp
    obtain ⟨hd, hprogress⟩ := ha p
    rw [answer_of_waiting hp, answer_of_waiting hp', hprogress]
    have hrest : Cursor.Alike R before
        { s with
          cursor := (s.cursor.resume p a).1
          calls := without s.calls slot ++
            ((s.cursor.resume p a).2.point?.map (slot, ·)).toList : Schedule }.cursor
        (c'.resume p a').1 := hd
    exact ⟨alike_letGo _ hrest, rfl⟩

theorem alike_cancel (slot : Slot) :
    (s.cancel slot).Alike R before (Schedule.cancel { s with cursor := c' } slot) := by
  cases hp : s.waitingIn? slot with
  | none =>
    have hp' : Schedule.waitingIn? { s with cursor := c' } slot = none := hp
    simp only [cancel, hp, hp']
    exact s.alike_with h
  | some p =>
    have hp' : Schedule.waitingIn? { s with cursor := c' } slot = some p := hp
    obtain ⟨hd, htask⟩ := h.cancel p s.runtime
    simp only [cancel, hp, hp', htask]
    have hrest : Cursor.Alike R before
        (spawn { s with
          cursor := (s.cursor.cancel p s.runtime).1, calls := without s.calls slot }
          (s.cursor.cancel p s.runtime).2).cursor (c'.cancel p s.runtime).1 := hd
    exact alike_letGo _ hrest

theorem alike_dropHandle :
    s.dropHandle.Alike R before (Schedule.dropHandle { s with cursor := c' }) := by
  simp only [dropHandle]
  split
  · exact s.alike_with h
  · have hrest : Cursor.Alike R before { s with handles := s.handles - 1 : Schedule }.cursor c' := h
    exact alike_letGo _ hrest

theorem alike_startTask (i : Nat) :
    (s.startTask i).Alike R before (Schedule.startTask { s with cursor := c' } i) := by
  simp only [startTask]
  cases s.tasks[i]? with
  | none => exact s.alike_with h
  | some t => exact s.alike_setTask i (h.startTask t)

theorem alike_answerTask (i : Nat) {a a' : Answer}
    (ha : ∀ p, Cursor.InStep R before (s.cursor.resume p a) (c'.resume p a')) :
    (s.answerTask i a).Alike R before (Schedule.answerTask { s with cursor := c' } i a') := by
  simp only [answerTask]
  split
  · rename_i p _
    exact s.alike_setTask i (ha p)
  · exact s.alike_with h

theorem alike_discardTask (i : Nat) :
    (s.discardTask i).Alike R before (Schedule.discardTask { s with cursor := c' } i) := by
  simp only [discardTask]
  cases s.tasks[i]? with
  | none => exact s.alike_with h
  | some t =>
    obtain ⟨hdiscard, htask⟩ := h.discardTask s.runtime t
    simp only [htask]
    exact ⟨hdiscard, rfl, rfl, rfl, rfl⟩

theorem alike_retain (r : Resource) :
    (s.retain r).Alike R before (Schedule.retain { s with cursor := c' } r) := by
  simp only [retain]
  rcases h.ledger.retain r with ⟨l, l', hl, hl', hafter⟩ | ⟨l, l', hl, hl', hafter⟩
  · simp only [hl, hl']
    exact ⟨h.withLedger hafter, rfl, rfl, rfl, rfl⟩
  · simp only [hl, hl']
    exact ⟨h.withLedger hafter, rfl, rfl, rfl, rfl⟩

theorem alike_release (r : Resource) :
    (s.release r).Alike R before (Schedule.release { s with cursor := c' } r) := by
  simp only [release]
  rcases h.ledger.release h.config.silent r with ⟨l, l', hl, hl', hafter⟩ | ⟨l, l', hl, hl', hafter⟩
  · simp only [hl, hl']
    exact ⟨h.withLedger hafter, rfl, rfl, rfl, rfl⟩
  · simp only [hl, hl']
    exact ⟨h.withLedger hafter, rfl, rfl, rfl, rfl⟩

end

namespace Alike

variable {R : Wire → Wire → Prop} {before : List Wire} {s s' : Schedule}

theorem eq_with (h : s.Alike R before s') : s' = { s with cursor := s'.cursor } := by
  obtain ⟨-, hhandles, hcalls, htasks, hruntime⟩ := h
  cases s'
  simp only at hhandles hcalls htasks hruntime
  rw [hhandles, hcalls, htasks, hruntime]

theorem step (h : s.Alike R before s') {a a' : Action} (ha : a.Alike a') :
    InStep R before (s.step a) (s'.step a') := by
  have hc := h.cursor
  rw [h.eq_with]
  cases ha with
  | refl a =>
    cases a with
    | begin slot call => exact alike_begin s hc slot call
    | answer slot a => exact alike_answer s hc slot fun p => hc.resume p a
    | cancel slot => exact ⟨alike_cancel s hc slot, rfl⟩
    | convert =>
      refine ⟨?_, rfl⟩
      simp only [Schedule.step, convert_eq]
      exact alike_with s hc
    | drop => exact ⟨alike_dropHandle s hc, rfl⟩
    | startTask i => exact ⟨alike_startTask s hc i, rfl⟩
    | answerTask i a => exact ⟨alike_answerTask s hc i fun p => hc.resume p a, rfl⟩
    | discardTask i => exact ⟨alike_discardTask s hc i, rfl⟩
    | setRuntime present => exact ⟨⟨hc, rfl, rfl, rfl, rfl⟩, rfl⟩
    | retain r => exact ⟨alike_retain s hc r, rfl⟩
    | release r => exact ⟨alike_release s hc r, rfl⟩
  | kill slot r r' => exact alike_answer s hc slot fun p => hc.resume_kill p r r'
  | killTask i r r' => exact ⟨alike_answerTask s hc i fun p => hc.resume_kill p r r', rfl⟩

/-- A whole history leaves them alike, and every call ends in both in the same way. -/
theorem run (h : s.Alike R before s') {history history' : List Action}
    (ha : List.Forall₂ Action.Alike history history') :
    (s.run history).Alike R before (s'.run history') ∧
      s'.outcomes history' = s.outcomes history := by
  induction ha generalizing s s' with
  | nil => exact ⟨h, rfl⟩
  | cons hfirst _ ih =>
    obtain ⟨hstep, houtcome⟩ := h.step hfirst
    obtain ⟨hrun, houtcomes⟩ := ih hstep
    exact ⟨hrun, by rw [outcomes, outcomes, houtcome, houtcomes]⟩

end Alike

end Schedule

end ServerCursor
