import Mathlib.Data.List.Count
import ServerCursor.Proofs.Flight
import ServerCursor.Proofs.Room

/-!
# Coming to the end

A call that is answered until it ends (`Cursor.answered`) gives back what it holds and tells the
server what there is to tell. `Ledger.Settles` says what the ledger shows of that: the messages that
were sent, and the owners that every resource has lost. Connections that were handed out on the way
have no owners any more.

Main statements: `settled_close` and `settled_next` say so of a call that closes the cursor and of
one that asks for documents and need not ask the server, and `settled_replied` and
`settled_overtaken` of one that has its reply before or after the cursor was closed.
-/

namespace ServerCursor

namespace Ledger

theorem put_add_one (owners : Resource → Nat) (r q : Resource) :
    put owners r (owners r + 1) q = owners q + [r].count q := by
  by_cases hq : q = r
  · rw [hq, put_self, List.count_singleton_self]
  · rw [put_ne _ _ hq, List.count_singleton, if_neg (by simpa using Ne.symm hq)]
    rfl

theorem put_sub_one (owners : Resource → Nat) (r q : Resource) :
    put owners r (owners r - 1) q = owners q - [r].count q := by
  by_cases hq : q = r
  · rw [hq, put_self, List.count_singleton_self]
  · rw [put_ne _ _ hq, List.count_singleton, if_neg (by simpa using Ne.symm hq)]
    rfl

theorem owners_giveBack_eq (l : Ledger) (r q : Resource) :
    (l.giveBack r).owners q = l.owners q - [r].count q := by
  by_cases hr : l.owners r = 0
  · have hsame : (l.giveBack r).owners = l.owners := by
      unfold giveBack release
      simp only [Ownership.leave, hr, if_true]
      rfl
    rw [hsame, List.count_singleton]
    split
    · rename_i e
      rw [← beq_iff_eq.mp e, hr]
    · rfl
  · rw [owners_giveBack (Nat.pos_of_ne_zero hr), put_sub_one]

theorem issued_giveBack (l : Ledger) (r : Resource) : (l.giveBack r).issued = l.issued := by
  unfold giveBack release
  cases Ownership.leave (l.owners r) with
  | ok n =>
    by_cases hn : n = 0
    · simp only [if_pos hn]
      rfl
    · simp only [if_neg hn]
  | error cause => rfl

theorem release_counts {l l' : Ledger} {r : Resource}
    (h : l.release r = .ok l' ∨ l.release r = .error l') :
    l'.issued = l.issued ∧ ∀ q, l'.owners q = l.owners q - [r].count q := by
  have hissued := issued_giveBack l r
  have howners := owners_giveBack_eq l r
  unfold giveBack at hissued howners
  rcases h with h | h <;> rw [h] at hissued howners <;> exact ⟨hissued, howners⟩

theorem owners_giveBackAll (l : Ledger) (rs : List Resource) (q : Resource) :
    (l.giveBackAll rs).owners q = l.owners q - rs.count q := by
  induction rs generalizing l with
  | nil => rfl
  | cons r rest ih =>
    have hrest : ((l.giveBack r).giveBackAll rest).owners q = _ := ih (l.giveBack r)
    rw [owners_giveBack_eq, Nat.sub_sub, ← List.count_append] at hrest
    exact hrest

theorem issued_giveBackAll (l : Ledger) (rs : List Resource) :
    (l.giveBackAll rs).issued = l.issued := by
  induction rs generalizing l with
  | nil => rfl
  | cons r rest ih => exact (ih (l.giveBack r)).trans (issued_giveBack l r)

/-- A resource is no connection that is handed out between two moments. -/
def Lasts (l l' : Ledger) (r : Resource) : Prop :=
  ∀ n, r = .connection n → l.issued < n → l'.issued < n

theorem lasts_source (l l' : Ledger) : l.Lasts l' .source := by
  intro n h
  cases h

/-- Resources were given back and messages were sent, and nothing is left of the connections that
were handed out meanwhile. -/
structure Settles (l : Ledger) (back : List Resource) (sent : List Message) (l' : Ledger) :
    Prop where
  /-- These messages were sent. -/
  messages : l'.messages = l.messages ++ sent
  /-- No connection is handed out twice. -/
  issued : l.issued ≤ l'.issued
  /-- These resources were given back. -/
  owners : ∀ r, l.Lasts l' r → l'.owners r = l.owners r - back.count r
  /-- New connections have no owners. -/
  fresh : ∀ n, l.issued < n → n ≤ l'.issued → l'.owners (.connection n) = 0

variable {l l' l'' : Ledger} {back more : List Resource} {sent told : List Message}

theorem Settles.refl (l : Ledger) : l.Settles [] [] l where
  messages := (List.append_nil _).symm
  issued := le_rfl
  owners _ _ := rfl
  fresh n hn hle := by omega

theorem Settles.trans (h : l.Settles back sent l') (h' : l'.Settles more told l'') :
    l.Settles (back ++ more) (sent ++ told) l'' where
  messages := by rw [h'.messages, h.messages, List.append_assoc]
  issued := h.issued.trans h'.issued
  owners r hr := by
    have hfirst : l.Lasts l' r := fun n hn hlt => h'.issued.trans_lt (hr n hn hlt)
    have hlast : l'.Lasts l'' r := fun n hn hlt => hr n hn (h.issued.trans_lt hlt)
    rw [h'.owners r hlast, h.owners r hfirst, List.count_append, Nat.sub_sub]
  fresh n hn hle := by
    by_cases hold : n ≤ l'.issued
    · have hlast : l'.Lasts l'' (.connection n) := fun m hm hlt => by
        cases hm
        omega
      rw [h'.owners _ hlast, h.fresh n hn hold, Nat.zero_sub]
    · exact h'.fresh n (by omega) hle

theorem Settles.perm (h : l.Settles back sent l') (hperm : back.Perm more) :
    l.Settles more sent l' :=
  ⟨h.messages, h.issued, fun r hr => by rw [h.owners r hr, hperm.count_eq], h.fresh⟩

theorem settles_of_same (hmessages : l'.messages = l.messages ++ sent)
    (hissued : l'.issued = l.issued) (howners : l'.owners = l.owners) : l.Settles [] sent l' where
  messages := hmessages
  issued := hissued.ge
  owners _ _ := by rw [howners]; rfl
  fresh n hn hle := by omega

theorem settles_emit (l : Ledger) (e : Event) : l.Settles [] [] (l.emit e) :=
  settles_of_same (List.append_nil _).symm rfl rfl

theorem settles_record (l : Ledger) (w : Wire) : l.Settles [] w.message?.toList (l.record w) :=
  settles_of_same (messages_record l w) rfl rfl

theorem settles_giveBackAll (l : Ledger) (rs : List Resource) :
    l.Settles rs [] (l.giveBackAll rs) where
  messages := (messages_giveBackAll l rs).trans (List.append_nil _).symm
  issued := (issued_giveBackAll l rs).ge
  owners r _ := owners_giveBackAll l rs r
  fresh n hn hle := by
    rw [issued_giveBackAll] at hle
    omega

theorem settles_checkout
    (h : l.checkout.Settles (.connection (l.issued + 1) :: back) sent l') :
    l.Settles back sent l' where
  messages := by rw [h.messages, messages_checkout]
  issued := (Nat.le_succ _).trans h.issued
  owners r hr := by
    have hissued : l.issued + 1 ≤ l'.issued := h.issued
    have hne : r ≠ .connection (l.issued + 1) := fun e => by
      have hlt := hr _ e (Nat.lt_succ_self _)
      omega
    have hlast : l.checkout.Lasts l' r := fun n hn hlt => hr n hn (Nat.lt_of_succ_lt hlt)
    rw [h.owners r hlast, List.count_cons_of_ne hne.symm]
    exact congrArg (· - _) (put_ne l.owners 1 hne)
  fresh n hn hle := by
    by_cases hnew : n = l.issued + 1
    · subst hnew
      have hlast : l.checkout.Lasts l' (.connection (l.issued + 1)) := fun m hm hlt => by
        cases hm
        exact absurd hlt (Nat.lt_irrefl _)
      have hone : l.checkout.owners (.connection (l.issued + 1)) = 1 := put_self l.owners _ 1
      rw [h.owners _ hlast, hone, List.count_cons_self]
      omega
    · have hlt : l.checkout.issued < n := by
        change l.issued + 1 < n
        omega
      exact h.fresh n hlt hle

end Ledger

/-- What there is to tell the server about its cursor when that is given up. -/
def Cursor.dues (c : Cursor) (id : Int64) : List Message :=
  if id = 0 then [] else [c.config.requester.kill id]

theorem Cursor.dues_of_eq_zero (c : Cursor) {id : Int64} (h : id = 0) : c.dues id = [] :=
  if_pos h

theorem Cursor.dues_of_ne_zero (c : Cursor) {id : Int64} (h : id ≠ 0) :
    c.dues id = [c.config.requester.kill id] :=
  if_neg h

namespace Cursor

/-- A call that waits hears an answer, one that has ended does not. -/
def goOn (r : Cursor × Progress) (a : Answer) : Cursor × Progress :=
  match r.2 with
  | .waiting p => r.1.resume p a
  | .done _ => r

/-- A call hears some answers, one after the other. -/
def answered (r : Cursor × Progress) (answers : List Answer) : Cursor × Progress :=
  answers.foldl goOn r

theorem answered_done (c : Cursor) (o : Outcome) (answers : List Answer) :
    answered (c, .done o) answers = (c, .done o) := by
  induction answers with
  | nil => rfl
  | cons a rest ih => exact ih

theorem answered_of_done {r : Cursor × Progress} {o : Outcome} (h : r.2 = .done o)
    (answers : List Answer) : answered r answers = r := by
  obtain ⟨c, p⟩ := r
  cases h
  exact answered_done c o answers

/-- The answers by which a server's cursor is discarded: there is a connection, and the server has
answered, whatever it says. -/
def discarding (k : Except Error Unit) : List Answer :=
  [.checkout (.ok ()), .kill k]

variable {c : Cursor}

/-- What is left when a call is done that had its server's cursor discarded. -/
structure Discards (c : Cursor) (a : Abandoned) (after : Outcome) (r : Cursor × Progress) :
    Prop where
  /-- The call has ended. -/
  done : r.2 = .done after
  /-- The cursor has no part in it. -/
  state : r.1.state = c.state
  /-- Everything that was detached is given back. -/
  settles : c.ledger.Settles a.held (c.dues a.id) r.1.ledger

theorem ledger_conclude (c : Cursor) (a : Abandoned) (after : Outcome) :
    c.ledger.Settles a.held [] (c.conclude a after).1.ledger := by
  have hback := c.ledger.settles_giveBackAll a.held
  unfold conclude
  split
  · exact (hback.trans (Ledger.settles_emit _ _)).perm (List.append_nil _ ▸ .refl _)
  · exact hback

theorem settled_killReplied (c : Cursor) (a : Abandoned) (after : Outcome)
    (k : Except Error Unit) :
    let r := c.killReplied a after k
    r.2 = .done after ∧ r.1.state = c.state ∧ c.ledger.Settles a.held [] r.1.ledger := by
  have hemitted : ∀ e, c.ledger.Settles a.held [] ((c.emit e).conclude a after).1.ledger :=
    fun e => (c.ledger.settles_emit e).trans (ledger_conclude (c.emit e) a after)
  cases k with
  | ok _ => exact ⟨done_conclude _ _ _, state_conclude _ _ _, hemitted _⟩
  | error cause => exact ⟨done_conclude _ _ _, state_conclude _ _ _, hemitted _⟩

theorem settled_sendKill (c : Cursor) (a : Abandoned) (n : Nat) (after : Outcome)
    (k : Except Error Unit) :
    let r := answered (c.sendKill a n after) [.kill k]
    r.2 = .done after ∧ r.1.state = c.state ∧
      c.ledger.Settles a.held [c.config.requester.kill a.id] r.1.ledger := by
  let w : Wire := .sent n (c.config.requester.kill a.id)
  obtain ⟨hdone, hstate, hsettles⟩ := settled_killReplied (c.record w) a after k
  exact ⟨hdone, hstate, (c.ledger.settles_record w).trans hsettles⟩

theorem settled_killCheckedOut (c : Cursor) {a : Abandoned} (hnone : a.connection = none)
    (after : Outcome) (k : Except Error Unit) :
    let r := answered (c.killCheckedOut a after (.ok ())) [.kill k]
    r.2 = .done after ∧ r.1.state = c.state ∧
      c.ledger.Settles a.held [c.config.requester.kill a.id] r.1.ledger := by
  let n := c.ledger.issued + 1
  let b : Abandoned := { a with connection := some n }
  have hheld : b.held = .connection n :: a.held := by
    simp only [b, Abandoned.held, hnone]
    rfl
  obtain ⟨hdone, hstate, hsettles⟩ := settled_sendKill c.checkout.1 b n after k
  rw [hheld] at hsettles
  exact ⟨hdone, hstate, Ledger.settles_checkout hsettles⟩

/-- A server's cursor is discarded if it is still open and its connection has not failed. -/
theorem discards_kill {a : Abandoned} (hintact : a.pin.isFailed = false)
    (hroute : a.id ≠ 0 → a.source = true ∨ a.route? ≠ none) (after : Outcome)
    (k : Except Error Unit) :
    Discards c a after (answered (c.kill a after) (discarding k)) := by
  by_cases hid : a.id = 0
  · rw [kill_of_gone c hid, answered_of_done (done_conclude c a after)]
    refine ⟨done_conclude c a after, state_conclude c a after, ?_⟩
    rw [dues_of_eq_zero c hid]
    exact ledger_conclude c a after
  have hdues := dues_of_ne_zero c hid
  cases hr : a.route? with
  | some n =>
    have hkill : c.kill a after = c.sendKill a n after := by
      unfold kill
      rw [if_neg hid, hintact, hr]
      rfl
    obtain ⟨hdone, hstate, hsettles⟩ := settled_sendKill c a n after k
    rw [hkill]
    exact ⟨hdone, hstate, hdues ▸ hsettles⟩
  | none =>
    have hsource : a.source = true := (hroute hid).resolve_right fun h => h hr
    have hkill : c.kill a after = (c.record .asked, .waiting (.killCheckout a after)) := by
      unfold kill
      rw [if_neg hid, hintact, hr, hsource]
      rfl
    obtain ⟨hdone, hstate, hsettles⟩ :=
      settled_killCheckedOut (c.record .asked) (Option.or_eq_none_iff.mp hr).2 after k
    rw [hkill]
    exact ⟨hdone, hstate, hdues ▸ (c.ledger.settles_record .asked).trans hsettles⟩

theorem route_abandoned {s : State} (h : s.Routed) :
    s.id ≠ 0 → s.abandoned.source = true ∨ s.abandoned.route? ≠ none := by
  intro hid
  refine (h hid).imp_right fun hpin hnone => hpin ?_
  exact Pin.connection?_eq_none_iff.mp (Option.or_eq_none_iff.mp hnone).1

end Cursor

/-- The cursor is closed, and nothing is left of its server. -/
structure State.Over (s : State) : Prop where
  closed : s.closed = true
  id : s.id = 0
  buffer : s.buffer = []
  fetching : s.fetching = false
  source : s.source = false
  pin : s.pin = .unpinned

/-- No request is under way, and the connection to which the cursor is bound has not failed. -/
structure State.Rests (s : State) : Prop where
  sound : s.Sound 0
  intact : s.pin.isFailed = false

theorem State.rests_bare {s : State} (hidle : s.fetching = false) (hbuffer : s.buffer = []) :
    s.bare.Rests :=
  ⟨State.sound_bare hidle fun _ => hbuffer, rfl⟩

theorem State.Over.held {s : State} (h : s.Over) : s.held = [] := by
  rw [State.held, h.source, h.pin]
  rfl

theorem State.Sound.over_of_closed {s : State} (h : s.Sound 0) (hclosed : s.closed = true) :
    s.Over := by
  have hidle := h.resting
  obtain ⟨hid, hsource, hpin⟩ := h.cleared hclosed hidle
  exact ⟨hclosed, hid, h.drained hclosed, hidle, hsource, hpin⟩

/-- Of what is held and what there is to tell, some is given back and told, and the rest is still
with the cursor. -/
def Cursor.Winds (c : Cursor) (held : List Resource) (sent : List Message) (c' : Cursor) : Prop :=
  ∃ back told, c.ledger.Settles back told c'.ledger ∧
    (back ++ c'.state.held).Perm held ∧ told ++ c'.dues c'.state.id = sent

namespace Cursor

variable {c : Cursor}

theorem dues_congr {c' : Cursor} (h : c'.config = c.config) (id : Int64) :
    c'.dues id = c.dues id := by
  rw [dues, dues, h]

/-- What comes to its end after the rest is with the cursor. -/
theorem Winds.settles_of {c' : Cursor} {held : List Resource} {sent : List Message} {l : Ledger}
    (h : c.Winds held sent c')
    (hend : c'.ledger.Settles c'.state.held (c'.dues c'.state.id) l) :
    c.ledger.Settles held sent l := by
  obtain ⟨back, told, hfirst, hheld, hsent⟩ := h
  have hall := (hfirst.trans hend).perm hheld
  rw [hsent] at hall
  exact hall

theorem Winds.after {d c' : Cursor} {back held : List Resource} {sent : List Message}
    (h : d.Winds held sent c') (hbefore : c.ledger.Settles back [] d.ledger) :
    c.Winds (back ++ held) sent c' := by
  obtain ⟨more, told, hsettles, hheld, hsent⟩ := h
  refine ⟨back ++ more, told, hbefore.trans hsettles, ?_, hsent⟩
  rw [List.append_assoc]
  exact hheld.append_left back

theorem winds_kept {c' : Cursor} (hconfig : c'.config = c.config)
    (hledger : c.ledger.Settles [] [] c'.ledger) (hheld : c'.state.held = c.state.held)
    (hid : c'.state.id = c.state.id) : c.Winds c.state.held (c.dues c.state.id) c' := by
  refine ⟨[], [], hledger, ?_, ?_⟩
  · rw [hheld]
    exact .refl _
  · rw [dues_congr hconfig, hid]
    rfl

theorem settled_close (h : c.state.Rests) (k : Except Error Unit) :
    let r := answered c.close (discarding k)
    r.2 = .done .closed ∧ r.1.state.Over ∧
      c.ledger.Settles c.state.held (c.dues c.state.id) r.1.ledger := by
  have hidle := h.sound.resting
  by_cases hclosed : c.state.closed = true
  · have hover := h.sound.over_of_closed hclosed
    have hclose : c.close = (c, .done .closed) := if_pos hclosed
    rw [hclose, answered_done, hover.held, dues_of_eq_zero c hover.id]
    exact ⟨rfl, hover, .refl _⟩
  · let s : State := { c.state with closed := true, buffer := [] }
    have hclose : c.close = (c.withState s.bare).kill s.abandoned .closed :=
      close_of_open (Bool.eq_false_iff.mpr hclosed) hidle
    have hdiscards := discards_kill (c := c.withState s.bare) (a := s.abandoned) h.intact
      (route_abandoned h.sound.routed) .closed k
    rw [hclose]
    refine ⟨hdiscards.done, ?_, hdiscards.settles⟩
    rw [hdiscards.state]
    exact ⟨rfl, rfl, rfl, hidle, rfl, rfl⟩

theorem settled_finish (h : c.state.Rests) (hbuffer : c.state.buffer = [])
    (hid : c.state.id = 0) :
    c.finish.1.state.Rests ∧ c.Winds c.state.held (c.dues c.state.id) c.finish.1 := by
  refine ⟨State.rests_bare h.sound.resting hbuffer, c.state.held ++ [], [], ?_, ?_, ?_⟩
  · exact (c.ledger.settles_giveBackAll c.state.held).trans (Ledger.settles_emit _ _)
  · rw [List.append_nil]
    exact List.append_nil _ ▸ .refl _
  · have hgone : c.finish.1.state.id = 0 := rfl
    rw [dues_of_eq_zero c hid, dues_of_eq_zero _ hgone, List.append_nil]

theorem settled_deliver (h : c.state.Rests) (hopen : c.state.closed = false)
    (k : Except Error Unit) :
    let r := answered c.deliver (discarding k)
    (∃ o, r.2 = .done o) ∧ r.1.state.Rests ∧
      c.Winds c.state.held (c.dues c.state.id) r.1 := by
  have hidle := h.sound.resting
  let s : State := { c.state with buffer := [] }
  by_cases hlimit : c.config.limitReached c.state.received = true
  · let d := (c.withState s.bare).emit (.limitReached s.id c.config.ns c.config.limit)
    have hdeliver : c.deliver = d.kill s.abandoned (.batch c.state.buffer) := by
      simp only [deliver, hlimit, if_true]
      rfl
    have hdiscards := discards_kill (c := d) (a := s.abandoned) h.intact
      (route_abandoned h.sound.routed) (.batch c.state.buffer) k
    rw [hdeliver]
    refine ⟨⟨_, hdiscards.done⟩, ?_, c.state.held, c.dues c.state.id, ?_, ?_, ?_⟩
    · rw [hdiscards.state]
      exact State.rests_bare hidle rfl
    · exact (Ledger.settles_emit c.ledger _).trans hdiscards.settles
    · rw [hdiscards.state]
      exact List.append_nil _ ▸ .refl _
    · have hgone : d.state.id = 0 := rfl
      rw [hdiscards.state, dues_of_eq_zero _ hgone, List.append_nil]
  · have hdeliver : c.deliver = (c.withState s, .done (.batch c.state.buffer)) := by
      simp only [deliver, hlimit]
      rfl
    rw [hdeliver, answered_done]
    refine ⟨⟨_, rfl⟩, ⟨?_, h.intact⟩, winds_kept rfl (.refl _) rfl rfl⟩
    exact ⟨.inl ⟨hidle, rfl⟩, h.sound.single, h.sound.routed, fun _ => rfl,
      fun e => absurd (hopen.symm.trans e) Bool.false_ne_true⟩

theorem settled_next (h : c.state.Rests) (hopen : c.state.closed = false) {wait : Bool}
    (hwait : c.state.id ≠ 0 → c.state.buffer = [] → wait = false) (k : Except Error Unit) :
    let r := answered (c.next wait true) (discarding k)
    (∃ o, r.2 = .done o) ∧ r.1.state.Rests ∧
      c.Winds c.state.held (c.dues c.state.id) r.1 := by
  have hidle := h.sound.resting
  by_cases hbuffer : c.state.buffer = []
  · by_cases hid : c.state.id = 0
    · rw [next_of_drained hopen hidle hbuffer hid, answered_of_done (r := c.finish) rfl]
      exact ⟨⟨_, rfl⟩, settled_finish h hbuffer hid⟩
    · have hnext : c.next wait true = (c, .done .nothing) := by
        unfold next
        simp only [hopen, hidle, hbuffer, hid, hwait hid hbuffer, Bool.false_eq_true, if_false,
          List.isEmpty_nil, Bool.not_true, Bool.not_false, Bool.and_self, if_true]
      rw [hnext, answered_done]
      exact ⟨⟨_, rfl⟩, h, winds_kept rfl (.refl _) rfl rfl⟩
  · have hnext : c.next wait true = c.deliver := by
      have hsome : (!c.state.buffer.isEmpty) = true := by simpa using hbuffer
      unfold next
      simp only [hopen, hidle, hsome, Bool.false_eq_true, if_false, if_true]
    rw [hnext]
    exact settled_deliver h hopen k

/-- A request that has its reply after the cursor was closed leaves nothing. -/
theorem settled_overtaken {f : Fetch} {n : Nat} {rest : Multiset Flight}
    (hs : c.state.Sound ({(f, some n)} + rest)) (hclosed : c.state.closed = true) (reply : Reply)
    (k : Except Error Unit) :
    let r := answered (c.fetchReplied f n (.ok reply)) (discarding k)
    r.2 = .done (.failed (.illegalState .closedWhileFetching)) ∧ r.1.state.Over ∧
      c.ledger.Settles (.connection n :: (f.held ++ c.state.held)) (c.dues reply.id)
        r.1.ledger := by
  obtain ⟨-, -, hc⟩ := hs.sole
  let s : State := { c.state with fetching := false }
  let a : Abandoned := { s.abandoned with id := reply.id, connection := some n }
  let d := (c.withState s.bare).giveBack f.held
  have hreplied : c.fetchReplied f n (.ok reply) =
      d.kill a (.failed (.illegalState .closedWhileFetching)) := by
    unfold fetchReplied
    rw [if_pos hclosed]
    rfl
  have hroute : a.id ≠ 0 → a.source = true ∨ a.route? ≠ none := fun _ => by
    right
    simp [a, Abandoned.route?]
  have hdiscards := discards_kill (c := d) (a := a) hc.intact hroute
    (.failed (.illegalState .closedWhileFetching)) k
  rw [hreplied]
  refine ⟨hdiscards.done, ?_, ?_⟩
  · rw [hdiscards.state]
    exact ⟨hclosed, rfl, hc.buffer, rfl, rfl, rfl⟩
  · have hheld : a.held = .connection n :: c.state.held := rfl
    have hall := (c.ledger.settles_giveBackAll f.held).trans hdiscards.settles
    rw [hheld] at hall
    exact hall.perm List.perm_middle

/-- A request of an open cursor that has its reply comes to its end, unless it goes on for lack of
documents. -/
theorem settled_replied {f : Fetch} {n : Nat} {rest : Multiset Flight}
    (hs : c.state.Sound ({(f, some n)} + rest)) (hroom : c.state.Room c.config)
    (hopen : c.state.closed = false) {reply : Reply}
    (hreply : reply.documents ≠ [] ∨ reply.id = 0 ∨ f.wait = false) (k : Except Error Unit) :
    let r := answered (c.fetchReplied f n (.ok reply)) (discarding k)
    (∃ o, r.2 = .done o) ∧ r.1.state.Rests ∧
      c.Winds (.connection n :: (f.held ++ c.state.held)) (c.dues reply.id) r.1 := by
  obtain ⟨-, -, hc⟩ := hs.sole
  have hopen' := Bool.eq_false_iff.mp hopen
  let back : List Resource := .connection n :: f.held
  let s : State :=
    State.push { c.state with fetching := false, id := reply.id } c.config reply.documents
  let d := c.emit (.fetched reply.id c.config.ns reply.documents.length)
  have hemitted : c.ledger.Settles back [] (d.giveBack back).ledger :=
    (Ledger.settles_emit c.ledger _).trans (Ledger.settles_giveBackAll d.ledger back)
  by_cases hid : reply.id = 0
  · let e := ((d.withState s.bare).giveBack back).giveBack s.abandoned.held
    have hreplied : c.fetchReplied f n (.ok reply) = e.next f.wait true := by
      unfold fetchReplied
      rw [if_neg hopen']
      exact if_pos hid
    have hrests : e.state.Rests :=
      ⟨State.sound_bare rfl fun h => absurd h hopen', rfl⟩
    have hwait : e.state.id ≠ 0 → e.state.buffer = [] → f.wait = false := fun hlive =>
      absurd rfl hlive
    obtain ⟨hdone, hafter, hwinds⟩ := settled_next (c := e) hrests hopen hwait k
    rw [hreplied]
    refine ⟨hdone, hafter, ?_⟩
    have hbefore : c.ledger.Settles (back ++ c.state.held) [] e.ledger :=
      hemitted.trans (Ledger.settles_giveBackAll _ c.state.held)
    have hall := hwinds.after (c := c) hbefore
    have hnone : e.state.held = [] := rfl
    have hgone : e.state.id = 0 := rfl
    rw [hnone, List.append_nil, dues_of_eq_zero e hgone] at hall
    rw [dues_of_eq_zero c hid]
    exact hall
  · let e := (d.withState s).giveBack back
    have hreplied : c.fetchReplied f n (.ok reply) = e.next f.wait true := by
      unfold fetchReplied
      rw [if_neg hopen']
      exact if_neg hid
    have hrests : e.state.Rests := by
      refine ⟨⟨.inl ⟨rfl, rfl⟩, hs.single, fun _ => hs.routed hc.live, fun h => absurd h hopen',
        fun h => absurd h hopen'⟩, hc.intact⟩
    have hwait : e.state.id ≠ 0 → e.state.buffer = [] → f.wait = false := by
      intro _ hbuffer
      have hnone : c.config.allowed c.state.received reply.documents = [] :=
        (List.append_eq_nil_iff.mp hbuffer).2
      rcases hreply with hsome | h0 | hwait
      · exact absurd hnone (allowed_ne_nil (hroom hopen hc.live hc.buffer) hsome)
      · exact absurd h0 hid
      · exact hwait
    obtain ⟨hdone, hafter, hwinds⟩ := settled_next (c := e) hrests hopen hwait k
    rw [hreplied]
    exact ⟨hdone, hafter, hwinds.after (c := c) hemitted⟩

/-- The answers by which a request comes to its end: there is a connection, the server has
replied, and whatever is left is discarded. -/
def completing (reply : Reply) (k : Except Error Unit) : List Answer :=
  .checkout (.ok ()) :: .reply (.ok reply) :: discarding k

end Cursor

/-- The request that a call has yet to send. -/
def Point.unsent (c : Cursor) : Point → List Message
  | .fetchCheckout f => [c.config.requester.getMore f.id f.number]
  | _ => []

namespace Cursor

variable {c : Cursor}

/-- A request is sent, if it was not, and has its reply. -/
theorem answered_completing {p : Point} {g : Flight} (hs : c.state.Sound {g})
    (hp : p.flight? = some g) (reply : Reply) (k : Except Error Unit) :
    ∃ (d : Cursor) (n : Nat), d.state = c.state ∧ d.config = c.config ∧
      d.state.Sound ({(g.1, some n)} + 0) ∧
      answered (c, .waiting p) (completing reply k) =
        answered (d.fetchReplied g.1 n (.ok reply)) (discarding k) ∧
      ∀ {back sent l}, d.ledger.Settles (.connection n :: (g.1.held ++ back)) sent l →
        c.ledger.Settles (p.held ++ back) (p.unsent c ++ sent) l := by
  cases p with
  | fetchCheckout f =>
    cases hp
    have hsent : SoundAfter (c.fetchCheckedOut f (.ok ())) 0 := sound_fetchCheckedOut hs (.ok ())
    let d := (c.checkout.1.sendFetch f (c.ledger.issued + 1)).1
    refine ⟨d, c.ledger.issued + 1, rfl, rfl, hsent, rfl, fun {back sent l} hsettles => ?_⟩
    refine Ledger.settles_checkout ?_
    have hasked := ((c.ledger.checkout.settles_emit _).trans
      (Ledger.settles_record _ (.sent (c.ledger.issued + 1)
        (c.config.requester.getMore f.id f.number)))).trans hsettles
    exact hasked
  | fetchReply f n =>
    cases hp
    exact ⟨c, n, rfl, rfl, hs, rfl, fun hsettles => hsettles⟩
  | killCheckout a after => cases hp
  | killReply a after => cases hp

/-- A request that is answered after the cursor was closed. -/
theorem settled_completing_overtaken {p : Point} {g : Flight} (hs : c.state.Sound {g})
    (hp : p.flight? = some g) (hclosed : c.state.closed = true) (reply : Reply)
    (k : Except Error Unit) :
    let r := answered (c, .waiting p) (completing reply k)
    r.2 = .done (.failed (.illegalState .closedWhileFetching)) ∧ r.1.state.Over ∧
      c.ledger.Settles (p.held ++ c.state.held) (p.unsent c ++ c.dues reply.id) r.1.ledger := by
  obtain ⟨d, n, hstate, hconfig, hd, hanswered, hsettles⟩ := answered_completing hs hp reply k
  obtain ⟨hdone, hover, hledger⟩ := settled_overtaken hd (hstate ▸ hclosed) reply k
  rw [hanswered]
  rw [hstate, dues_congr hconfig] at hledger
  exact ⟨hdone, hover, hsettles hledger⟩

/-- A request that is answered before the cursor is closed. -/
theorem settled_completing_replied {p : Point} {g : Flight} (hs : c.state.Sound {g})
    (hp : p.flight? = some g) (hroom : c.state.Room c.config) (hopen : c.state.closed = false)
    {reply : Reply} (hreply : reply.documents ≠ [] ∨ reply.id = 0 ∨ g.1.wait = false)
    (k k' : Except Error Unit) :
    let r := answered (c, .waiting p) (completing reply k)
    let q := answered r.1.close (discarding k')
    (∃ o, r.2 = .done o) ∧ q.2 = .done .closed ∧ q.1.state.Over ∧
      c.ledger.Settles (p.held ++ c.state.held) (p.unsent c ++ c.dues reply.id) q.1.ledger := by
  obtain ⟨d, n, hstate, hconfig, hd, hanswered, hsettles⟩ := answered_completing hs hp reply k
  have hroom' : d.state.Room d.config := by
    rw [hstate, hconfig]
    exact hroom
  obtain ⟨hdone, hrests, hwinds⟩ := settled_replied hd hroom' (hstate ▸ hopen) hreply k
  obtain ⟨hclosed, hover, hend⟩ := settled_close hrests k'
  have hledger := hwinds.settles_of hend
  rw [hstate, dues_congr hconfig] at hledger
  intro r q
  have hr : r = answered (d.fetchReplied g.1 n (.ok reply)) (discarding k) := hanswered
  have hq : q = answered (answered (d.fetchReplied g.1 n (.ok reply)) (discarding k)).1.close
      (discarding k') := by rw [← hr]
  rw [hq, hr]
  exact ⟨hdone, hclosed, hover, hsettles hledger⟩

end Cursor

end ServerCursor
