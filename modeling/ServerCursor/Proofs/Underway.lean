import ServerCursor.Proofs.Flight
import ServerCursor.Proofs.Return
import ServerCursor.Proofs.Settle
import ServerCursor.Proofs.Sole

/-!
# A request while it is under way

A call for documents starts a request when it begins, or when it goes on after a reply without
documents (`Moment.Starts`). From then on, while the cursor stays open, nothing changes but that the
cursor knows of the request, that the request is another owner of what it needs, and what others do
to the count of resources (`Underway`).

Main statement: `underway_play` says so of every play, and traces every request back to its start.
-/

namespace ServerCursor

namespace Ledger

/-- Some resources have an owner more, and nothing else is counted. -/
structure Joins (l' l : Ledger) (joined : List Resource) : Prop where
  issued : l'.issued = l.issued
  messages : l'.messages = l.messages
  owners : ∀ q, l'.owners q = l.owners q + joined.count q

theorem Joins.refl (l : Ledger) : l.Joins l [] := ⟨rfl, rfl, fun _ => rfl⟩

theorem Joins.retain {l l' : Ledger} {r : Resource} (h : l.retain r = .ok l') : l'.Joins l [r] := by
  have hpos : 0 < l.owners r := by
    by_contra hnone
    simp [Ledger.retain, Ownership.join, Nat.eq_zero_of_not_pos hnone] at h
  rw [retain_of_pos hpos] at h
  cases h
  exact ⟨rfl, rfl, put_add_one l.owners r⟩

theorem Joins.trans {l l' l'' : Ledger} {joined more : List Resource} (h : l'.Joins l joined)
    (h' : l''.Joins l' more) : l''.Joins l (more ++ joined) := by
  refine ⟨h'.issued.trans h.issued, h'.messages.trans h.messages, fun q => ?_⟩
  rw [h'.owners, h.owners, List.count_append]
  omega

end Ledger

namespace Cursor

/-- A cursor that is free to ask for the next batch. -/
structure Ready (c : Cursor) : Prop where
  opened : c.state.closed = false
  idle : c.state.fetching = false
  drained : c.state.buffer = []
  live : c.state.id ≠ 0
  intact : c.state.pin.isFailed = false

theorem Ready.congr {c c' : Cursor} (h : c.Ready) (hstate : c'.state = c.state) : c'.Ready :=
  ⟨hstate ▸ h.opened, hstate ▸ h.idle, hstate ▸ h.drained, hstate ▸ h.live, hstate ▸ h.intact⟩

/-- The request that a cursor makes. -/
def request (c : Cursor) (wait : Bool) : Fetch :=
  ⟨c.state.id, numberToReturn c.config.limit c.config.batchSize c.state.received, c.state.source,
    wait⟩

/-- The message of this request. -/
def getMore (c : Cursor) (wait : Bool) : Message :=
  c.config.requester.getMore (c.request wait).id (c.request wait).number

/-- Where a request waits first. -/
def firstPoint (c : Cursor) (wait : Bool) : Point :=
  match c.state.pin.connection? with
  | some n => .fetchReply (c.request wait) n
  | none => .fetchCheckout (c.request wait)

/-- The messages that are sent when a request starts. -/
def firstMessages (c : Cursor) (wait : Bool) : List Message :=
  match c.state.pin.connection? with
  | some _ => [c.getMore wait]
  | none => []

/-- A request has started. -/
structure Asked (c : Cursor) (wait : Bool) (r : Cursor × Progress) : Prop where
  progress : r.2 = .waiting (c.firstPoint wait)
  state : r.1.state = { c.state with fetching := true }
  config : r.1.config = c.config
  issued : r.1.ledger.issued = c.ledger.issued
  messages : r.1.ledger.messages = c.ledger.messages ++ c.firstMessages wait
  /-- The request is another owner of what it needs. -/
  owners : ∀ q, r.1.ledger.owners q = c.ledger.owners q + (c.firstPoint wait).held.count q

/-- A cursor after a reply with which the server's cursor stays open, when everything that the
request held is given back. -/
def takenIn (c : Cursor) (f : Fetch) (n : Nat) (reply : Reply) : Cursor :=
  ((c.emit (.fetched reply.id c.config.ns reply.documents.length)).withState
    (State.push { c.state with fetching := false, id := reply.id } c.config
      reply.documents)).giveBack (.connection n :: f.held)

variable {c : Cursor}

theorem next_of_ready (h : c.Ready) {wait fetched : Bool} (hmore : fetched = true → wait = true) :
    c.next wait fetched = c.startFetch wait := by
  have hgo : (fetched && !wait) = false := by
    cases fetched with
    | false => rfl
    | true => rw [hmore rfl]; rfl
  unfold next
  simp only [h.opened, h.idle, h.drained, h.live, h.intact, hgo, Bool.false_eq_true, if_false,
    List.isEmpty_nil, Bool.not_true]

theorem fetchReplied_of_live {reply : Reply} (hopen : c.state.closed = false)
    (hid : reply.id ≠ 0) (f : Fetch) (n : Nat) :
    c.fetchReplied f n (.ok reply) = (c.takenIn f n reply).next f.wait true := by
  unfold fetchReplied
  rw [if_neg (Bool.eq_false_iff.mp hopen)]
  dsimp only
  rw [if_neg hid]
  rfl

/-- A cursor after the last reply, when everything that it held itself is given back as well. -/
def takenLast (c : Cursor) (f : Fetch) (n : Nat) (reply : Reply) : Cursor :=
  let s := State.push { c.state with fetching := false, id := reply.id } c.config reply.documents
  (((c.emit (.fetched reply.id c.config.ns reply.documents.length)).withState s.bare).giveBack
    (.connection n :: f.held)).giveBack s.held

theorem fetchReplied_of_gone {reply : Reply} (hopen : c.state.closed = false)
    (hid : reply.id = 0) (f : Fetch) (n : Nat) :
    c.fetchReplied f n (.ok reply) = (c.takenLast f n reply).next f.wait true := by
  unfold fetchReplied
  rw [if_neg (Bool.eq_false_iff.mp hopen)]
  exact if_pos hid

theorem hear_of_live {reply : Reply} (hopen : c.state.closed = false) (hid : reply.id ≠ 0)
    (f : Fetch) (n : Nat) : c.hear (.ok reply) = (c.takenIn f n reply).state := by
  unfold hear
  rw [if_neg (Bool.eq_false_iff.mp hopen)]
  dsimp only
  rw [if_neg hid]
  rfl

/-- Why no request starts. -/
inductive Unasked (c : Cursor) : Prop
  | source (held : c.state.source = true) (gone : c.ledger.owners .source = 0)
  | connection (n : Nat) (bound : c.state.pin.connection? = some n)
      (gone : c.ledger.owners (.connection n) = 0)
  | route (unsourced : c.state.source = false) (unpinned : c.state.pin = .unpinned)

theorem asked_or_unasked (c : Cursor) (wait : Bool) :
    c.Asked wait (c.startFetch wait) ∨
      flights (c.startFetch wait).2.left = 0 ∧ c.Unasked := by
  have hrefused : ∀ {l m : Ledger} {r : Resource}, l.retain r = .error m → l.owners r = 0 := by
    intro l m r h
    by_contra hne
    rw [Ledger.retain_of_pos (Nat.pos_of_ne_zero hne)] at h
    cases h
  unfold startFetch
  dsimp only
  split
  · rename_i l hl
    right
    cases hs : c.state.source with
    | false => rw [hs] at hl; cases hl
    | true =>
      rw [hs] at hl
      exact ⟨rfl, .source hs (hrefused hl)⟩
  rename_i l hl
  have hjoined : l.Joins c.ledger (sourceIf c.state.source) := by
    cases hs : c.state.source with
    | false =>
      rw [hs] at hl
      cases hl
      exact .refl _
    | true =>
      rw [hs] at hl
      exact .retain hl
  cases hn : c.state.pin.connection? with
  | some n =>
    dsimp only
    split
    · rename_i m hm
      right
      refine ⟨rfl, .connection n hn ?_⟩
      have hl0 := hrefused hm
      rw [hjoined.owners] at hl0
      omega
    · rename_i m hm
      left
      have hboth := hjoined.trans (.retain hm)
      refine ⟨by rw [firstPoint, hn]; rfl, rfl, rfl, hboth.issued, ?_, fun q => ?_⟩
      · rw [firstMessages, hn, ← hboth.messages]
        exact Ledger.messages_record ..
      · rw [firstPoint, hn]
        exact hboth.owners q
  | none =>
    dsimp only
    split
    · left
      refine ⟨by rw [firstPoint, hn]; rfl, rfl, rfl, hjoined.issued, ?_, fun q => ?_⟩
      · rw [firstMessages, hn, List.append_nil, ← hjoined.messages]
        exact (Ledger.messages_record ..).trans (List.append_nil _)
      · rw [firstPoint, hn]
        exact hjoined.owners q
    · rename_i hs
      right
      exact ⟨flights_fetchUnrouted ..,
        .route (Bool.eq_false_iff.mpr hs) (Pin.connection?_eq_none_iff.mp hn)⟩

theorem ready_of_flights {wait fetched : Bool} {f : Flight}
    (h : f ∈ flights (c.next wait fetched).2.left) : c.Ready ∧ (fetched = true → wait = true) := by
  obtain ⟨-, hopen, hidle, hbuffer, hid, hintact, hmore⟩ := startFetch_of_flights h
  exact ⟨⟨hopen, hidle, hbuffer, hid, hintact⟩, hmore⟩

theorem asked_of_flights {wait fetched : Bool} {f : Flight}
    (h : f ∈ flights (c.next wait fetched).2.left) :
    c.Ready ∧ c.next wait fetched = c.startFetch wait ∧ c.Asked wait (c.startFetch wait) := by
  obtain ⟨hready, hmore⟩ := ready_of_flights h
  have hnext := next_of_ready hready hmore
  rw [hnext] at h
  refine ⟨hready, hnext, (asked_or_unasked c wait).resolve_right ?_⟩
  rintro ⟨hnone, -⟩
  rw [hnone] at h
  exact Multiset.notMem_zero _ h

theorem flight_firstPoint (c : Cursor) (wait : Bool) :
    (c.firstPoint wait).flight? = some (c.request wait, c.state.pin.connection?) := by
  unfold firstPoint
  split
  · rename_i n hn
    rw [hn]
    rfl
  · rename_i hn
    rw [hn]
    rfl

theorem asked_of_covers (hcovers : c.ledger.Covers ↑c.state.held)
    (hroute : c.state.source = true ∨ c.state.pin ≠ .unpinned) (wait : Bool) :
    c.Asked wait (c.startFetch wait) := by
  refine (asked_or_unasked c wait).resolve_right ?_
  rintro ⟨-, hunasked⟩
  cases hunasked with
  | source held gone =>
    have hcount := hcovers .source
    rw [gone, State.held, held, Multiset.coe_count, List.count_append] at hcount
    have hone : List.count Resource.source (sourceIf true) = 1 := rfl
    omega
  | connection n bound gone =>
    have hcount := hcovers (.connection n)
    rw [gone, State.held, bound, Multiset.coe_count, List.count_append] at hcount
    have hone : List.count (Resource.connection n) (connectionIf (some n)) = 1 := by
      simp [connectionIf]
    omega
  | route unsourced unpinned =>
    rcases hroute with hsource | hpin
    · rw [unsourced] at hsource
      cases hsource
    · exact hpin unpinned

end Cursor

/-- In this turn a call starts a request, with this cursor. -/
inductive Moment.Starts : Moment → Cursor → Bool → Prop
  | next (c : Cursor) : Starts ⟨c, .begin .next⟩ c true
  | tryNext (c : Cursor) : Starts ⟨c, .begin .tryNext⟩ c false
  /-- The call goes on after a reply without documents. -/
  | goOn (c : Cursor) (f : Fetch) (n : Nat) (reply : Reply) :
      Starts ⟨c, .answer (.fetchReply f n) (.reply (.ok reply))⟩ (c.takenIn f n reply) f.wait

theorem othersAfter_own (others : Resource → Nat) (ms : List Moment) (c : Cursor) {t : Turn}
    (ht : t.isOthers = false) : othersAfter others (ms ++ [⟨c, t⟩]) = othersAfter others ms := by
  rw [othersAfter_snoc, Moment.others]
  cases t with
  | retain r => cases ht
  | release r => cases ht
  | _ => rfl

theorem Point.unsent_congr {c c' : Cursor} (h : c'.config = c.config) (p : Point) :
    p.unsent c' = p.unsent c := by
  cases p with
  | fetchCheckout f => rw [unsent, unsent, h]
  | _ => rfl

/-- What has become of a cursor since it started a request that now waits. -/
structure Underway (start : Cursor) (wait : Bool) (during : List Moment) (c : Cursor) (p : Point) :
    Prop where
  ready : start.Ready
  /-- The request waits for a connection, or for its reply. -/
  point : p = start.firstPoint wait ∨ start.state.pin = .unpinned ∧
    ∃ n, p = .fetchReply (start.request wait) n
  state : c.state = { start.state with fetching := true }
  config : c.config = start.config
  issued : start.ledger.issued ≤ c.ledger.issued
  /-- The request is sent once. -/
  messages : c.ledger.messages ++ p.unsent c = start.ledger.messages ++ [start.getMore wait]
  /-- Others have joined and left, and the request is another owner, unless others have taken its
  share. -/
  owners : ∀ r, start.ledger.Lasts c.ledger r →
    c.ledger.owners r = othersAfter start.ledger.owners during r + p.held.count r ∨
    c.ledger.owners r = 0 ∧ othersAfter start.ledger.owners during r = 0
  /-- A connection that was taken from the source has no owner but the request, unless others have
  joined it. -/
  fresh : ∀ n, start.ledger.issued < n → n ≤ c.ledger.issued →
    (∀ m ∈ during, m.turn ≠ .retain (.connection n)) →
    c.ledger.owners (.connection n) ≤ p.held.count (.connection n)

namespace Underway

variable {start c : Cursor} {wait : Bool} {during : List Moment} {p : Point}

theorem of_asked {d : Cursor} (hready : start.Ready) (h : start.Asked wait (d, .waiting p)) :
    Underway start wait [] d p := by
  have hp : p = start.firstPoint wait := by
    cases h.progress
    rfl
  refine ⟨hready, .inl hp, h.state, h.config, h.issued.ge, ?_, fun r _ => ?_, fun n hlt hle => ?_⟩
  · have hmessages : d.ledger.messages = start.ledger.messages ++ start.firstMessages wait :=
      h.messages
    have hconfig : d.config = start.config := h.config
    rw [Point.unsent_congr hconfig, hmessages, hp, Cursor.firstMessages, Cursor.firstPoint]
    cases start.state.pin.connection? with
    | some n => exact List.append_nil _
    | none => rw [List.append_nil]; rfl
  · rw [hp]
    exact .inl (h.owners r)
  · have hissued : d.ledger.issued = start.ledger.issued := h.issued
    omega

theorem stage (h : Underway start wait during c p) :
    p = .fetchCheckout (start.request wait) ∧ start.state.pin = .unpinned ∨
      ∃ n, p = .fetchReply (start.request wait) n := by
  rcases h.point with hfirst | ⟨-, hreply⟩
  · rw [Cursor.firstPoint] at hfirst
    cases hn : start.state.pin.connection? with
    | some n =>
      rw [hn] at hfirst
      exact .inr ⟨n, hfirst⟩
    | none =>
      rw [hn] at hfirst
      exact .inl ⟨hfirst, Pin.connection?_eq_none_iff.mp hn⟩
  · exact .inr hreply

theorem count_held_le (h : Underway start wait during c p) (r : Resource) :
    p.held.count r ≤ 1 := by
  have hsource : ∀ held : Bool, (sourceIf held).count .source ≤ 1 := by
    intro held
    cases held <;> decide
  have hconnection : ∀ (held : Bool) (n : Nat), (sourceIf held).count (.connection n) = 0 := by
    intro held n
    cases held <;> rfl
  have hreply : ∀ (f : Fetch) (n : Nat), (Point.fetchReply f n).held.count r ≤ 1 := by
    intro f n
    cases r with
    | source =>
      have hne : Resource.connection n ≠ .source := nofun
      rw [Point.held, List.count_cons_of_ne hne]
      exact hsource f.source
    | connection m =>
      rw [Point.held, Fetch.held, List.count_cons, hconnection]
      split <;> omega
  rcases h.stage with ⟨rfl, -⟩ | ⟨n, rfl⟩
  · cases r with
    | source => exact hsource _
    | connection m => exact (hconnection _ m).le.trans (Nat.zero_le 1)
  · exact hreply _ _

/-- Nothing has happened that counts. -/
theorem keep (h : Underway start wait during c p) {t : Turn} (ht : t.isOthers = false)
    {c' : Cursor} (hstate : c'.state = c.state) (hconfig : c'.config = c.config)
    (hissued : c'.ledger.issued = c.ledger.issued)
    (hmessages : c'.ledger.messages = c.ledger.messages)
    (howners : c'.ledger.owners = c.ledger.owners) :
    Underway start wait (during ++ [⟨c, t⟩]) c' p := by
  have hothers := othersAfter_own start.ledger.owners during c ht
  refine ⟨h.ready, h.point, hstate.trans h.state, hconfig.trans h.config, hissued ▸ h.issued, ?_,
    fun r hr => ?_, fun n hlt hle hnone => ?_⟩
  · rw [hmessages, Point.unsent_congr hconfig, h.messages]
  · rw [hothers, howners]
    refine h.owners r fun n hn hlt => ?_
    rw [← hissued]
    exact hr n hn hlt
  · rw [howners]
    rw [hissued] at hle
    exact h.fresh n hlt hle fun m hm => hnone m (List.mem_append_left _ hm)

/-- The request is handed a connection, and is sent over it. -/
theorem checkedOut {f : Fetch} (h : Underway start wait during c (.fetchCheckout f)) {t : Turn}
    (ht : t.isOthers = false) :
    Underway start wait (during ++ [⟨c, t⟩]) (c.fetchCheckedOut f (.ok ())).1
      (.fetchReply f (c.ledger.issued + 1)) := by
  obtain ⟨rfl, hpin⟩ : f = start.request wait ∧ start.state.pin = .unpinned := by
    rcases h.stage with ⟨hp, hpin⟩ | ⟨n, hp⟩
    · cases hp
      exact ⟨rfl, hpin⟩
    · cases hp
  have hothers := othersAfter_own start.ledger.owners during c ht
  have hlast := h.issued
  refine ⟨h.ready, .inr ⟨hpin, _, rfl⟩, h.state, h.config, hlast.trans (Nat.le_succ _), ?_,
    fun r hr => ?_, fun n hlt hle hnone => ?_⟩
  · refine Eq.trans ?_ h.messages
    refine (List.append_nil _).trans ((Ledger.messages_record ..).trans ?_)
    exact congrArg (· ++ _) (Ledger.messages_checkout _)
  · have hne : r ≠ .connection (c.ledger.issued + 1) := fun e => by
      have hlt : c.ledger.issued + 1 < c.ledger.issued + 1 := hr _ e (by omega)
      omega
    have hsame := h.owners r fun n hn hlt => (Nat.lt_succ_self _).trans (hr n hn hlt)
    have hcount : (Point.fetchReply (start.request wait) (c.ledger.issued + 1)).held.count r =
        (Point.fetchCheckout (start.request wait)).held.count r :=
      List.count_cons_of_ne hne.symm
    rw [hothers, hcount]
    change Ledger.put c.ledger.owners (.connection (c.ledger.issued + 1)) 1 r = _ ∨
      Ledger.put c.ledger.owners (.connection (c.ledger.issued + 1)) 1 r = _ ∧ _
    rw [Ledger.put_ne _ _ hne]
    exact hsame
  · change Ledger.put c.ledger.owners (.connection (c.ledger.issued + 1)) 1 (.connection n) ≤ _
    by_cases hn : n = c.ledger.issued + 1
    · rw [hn, Ledger.put_self, Point.held, List.count_cons_self]
      exact Nat.succ_le_succ (Nat.zero_le _)
    · have hold : n ≤ c.ledger.issued := by
        have hle : n ≤ c.ledger.issued + 1 := hle
        omega
      rw [Ledger.put_ne _ _ (by simpa using hn)]
      exact (h.fresh n hlt hold fun m hm => hnone m (List.mem_append_left _ hm)).trans
        (List.count_le_count_cons ..)

theorem joined (h : Underway start wait during c p) (r : Resource) :
    Underway start wait (during ++ [⟨c, .retain r⟩]) ((Turn.retain r).effect c).cursor p := by
  simp only [Turn.effect, Turn.Effect.ofLedger]
  by_cases hr : c.ledger.owners r = 0
  · have hrefused : c.ledger.retain r = .error (c.ledger.emit .retainRefused) := by
      simp [Ledger.retain, Ownership.join, hr]
    have hothers : othersAfter start.ledger.owners (during ++ [⟨c, .retain r⟩]) =
        othersAfter start.ledger.owners during := by
      rw [othersAfter_snoc]
      exact if_pos hr
    rw [hrefused]
    refine ⟨h.ready, h.point, h.state, h.config, h.issued, h.messages, fun q hq => ?_,
      fun n hlt hle hnone => ?_⟩
    · rw [hothers]
      exact h.owners q hq
    · exact h.fresh n hlt hle fun m hm => hnone m (List.mem_append_left _ hm)
  · have hothers : othersAfter start.ledger.owners (during ++ [⟨c, .retain r⟩]) =
        Ledger.put (othersAfter start.ledger.owners during) r
          (othersAfter start.ledger.owners during r + 1) := by
      rw [othersAfter_snoc]
      exact if_neg hr
    rw [Ledger.retain_of_pos (Nat.pos_of_ne_zero hr)]
    refine ⟨h.ready, h.point, h.state, h.config, h.issued, h.messages, fun q hq => ?_,
      fun n hlt hle hnone => ?_⟩
    · rw [hothers]
      have hsame := h.owners q hq
      by_cases hqr : q = r
      · subst hqr
        simp only [Ledger.put_self]
        omega
      · simp only [Ledger.put_ne _ _ hqr]
        exact hsame
    · have hne : Resource.connection n ≠ r := fun e =>
        hnone ⟨c, .retain r⟩ (List.mem_append_right _ List.mem_cons_self) (congrArg _ e.symm)
      simp only [Ledger.put_ne _ _ hne]
      exact h.fresh n hlt hle fun m hm => hnone m (List.mem_append_left _ hm)

theorem left (h : Underway start wait during c p) (r : Resource) :
    Underway start wait (during ++ [⟨c, .release r⟩]) ((Turn.release r).effect c).cursor p := by
  have hothers : othersAfter start.ledger.owners (during ++ [⟨c, .release r⟩]) =
      Ledger.put (othersAfter start.ledger.owners during) r
        (othersAfter start.ledger.owners during r - 1) :=
    othersAfter_snoc ..
  obtain ⟨l, hl, hleft⟩ : ∃ l : Ledger,
      ((Turn.release r).effect c).cursor = { c with ledger := l } ∧
        (c.ledger.release r = .ok l ∨ c.ledger.release r = .error l) := by
    simp only [Turn.effect, Turn.Effect.ofLedger]
    cases c.ledger.release r with
    | ok l => exact ⟨l, rfl, .inl rfl⟩
    | error l => exact ⟨l, rfl, .inr rfl⟩
  obtain ⟨hissued, howners⟩ := Ledger.release_counts hleft
  have hmessages := Ledger.messages_release hleft
  rw [hl]
  refine ⟨h.ready, h.point, h.state, h.config, hissued ▸ h.issued, ?_, fun q hq => ?_,
    fun n hlt hle hnone => ?_⟩
  · exact (congrArg (· ++ _) hmessages).trans h.messages
  · have hsame := h.owners q fun n hn hlt => hissued ▸ hq n hn hlt
    have hle := h.count_held_le q
    rw [hothers]
    simp only [howners, Ledger.put_sub_one]
    omega
  · simp only [howners]
    exact (Nat.sub_le _ _).trans
      (h.fresh n hlt (hissued ▸ hle) fun m hm => hnone m (List.mem_append_left _ hm))

end Underway

section Play

variable {start c : Cursor} {first : Reply} {ms : List Moment} {pending rest : Multiset Task}

/-- A request that waits in the end was started in some turn, and has been under way since. -/
def Traced (ms : List Moment) (c : Cursor) (p : Point) : Prop :=
  ∃ before m during begun wait, ms = before ++ m :: during ∧ m.Starts begun wait ∧
    m.turn.effect m.cursor = .ofCall (begun.startFetch wait) ∧ Underway begun wait during c p

theorem Traced.snoc {p q : Point} {d : Cursor} {m : Moment} (h : Traced ms c p)
    (hmore : ∀ {begun wait during}, Underway begun wait during c p →
      Underway begun wait (during ++ [m]) d q) : Traced (ms ++ [m]) d q := by
  obtain ⟨before, first, during, begun, wait, rfl, hstarts, heffect, hunderway⟩ := h
  refine ⟨before, first, during ++ [m], begun, wait, ?_, hstarts, heffect, hmore hunderway⟩
  rw [List.append_assoc, List.cons_append]

theorem mem_flights {m : Multiset Task} {p : Point} (h : .suspended p ∈ m)
    (hflight : p.flight?.isSome) : ∃ f, p.flight? = some f ∧ f ∈ flights m := by
  obtain ⟨f, hf⟩ := Option.isSome_iff_exists.mp hflight
  exact ⟨f, hf, (Multiset.mem_filterMap _ _).mpr ⟨_, h, hf⟩⟩

/-- A request that starts in this turn. -/
theorem traced_start {m : Moment} {begun : Cursor} {wait fetched : Bool} {p : Point}
    (hstarts : m.Starts begun wait)
    (heffect : m.turn.effect m.cursor = .ofCall (begun.next wait fetched))
    (hp : .suspended p ∈ (begun.next wait fetched).2.left) (hflight : p.flight?.isSome) :
    Traced (ms ++ [m]) (begun.next wait fetched).1 p := by
  obtain ⟨f, -, hf⟩ := mem_flights hp hflight
  obtain ⟨hready, hnext, hasked⟩ := Cursor.asked_of_flights hf
  rw [hnext] at heffect hp ⊢
  obtain rfl : p = begun.firstPoint wait := by
    rw [hasked.progress] at hp
    cases Multiset.mem_singleton.mp hp
    rfl
  refine ⟨ms, m, [], begun, wait, rfl, hstarts, heffect, .of_asked hready ?_⟩
  rw [← hasked.progress]
  exact hasked

/-- While a request is under way, the turns of others leave it as it is. -/
theorem traced_other {t : Turn} {p : Point} (hmem : .suspended p ∈ rest)
    (hidle : Idle t.party) (hallowed : t.Allowed rest) (hflight : p.flight?.isSome)
    (hopen : (t.effect c).cursor.state.closed = false) (h : Traced ms c p) :
    Traced (ms ++ [⟨c, t⟩]) (t.effect c).cursor p := by
  have hparty : ∀ {x : Task}, Idle {x} → x = .close := fun hone =>
    hone _ (Multiset.mem_singleton_self _)
  have hshut : ∀ {d : Cursor}, d = c.close.1 → d.state.closed ≠ false := by
    rintro _ rfl
    rw [Cursor.closed_close]
    nofun
  refine h.snoc fun {begun wait during} hunderway => ?_
  have hfetching : c.state.fetching = true := by rw [hunderway.state]
  cases t with
  | begin call =>
    by_cases hcall : call = .close
    · subst hcall
      exact absurd hopen (hshut rfl)
    · have hrefused := Cursor.beginCall_of_fetching hfetching hcall
      have hsame : ((Turn.begin call).effect c).cursor = c := by
        rw [Turn.effect, Turn.Effect.ofCall, hrefused]
      rw [hsame]
      exact hunderway.keep rfl rfl rfl rfl rfl rfl
  | answer q a => cases hparty hidle
  | cancel q runtime => cases hparty hidle
  | startTask task =>
    obtain rfl : task = .close := hparty hidle
    exact absurd hopen (hshut rfl)
  | answerTask q a => cases hparty hidle
  | discardTask task runtime =>
    obtain rfl : task = .close := hparty hidle
    exact hunderway.keep rfl rfl rfl rfl rfl rfl
  | drop runtime =>
    obtain ⟨f, -, hf⟩ := mem_flights hmem hflight
    rw [hallowed.drop rfl] at hf
    exact absurd hf (Multiset.notMem_zero f)
  | retain r => exact hunderway.joined r
  | release r => exact hunderway.left r

theorem traced_answer {p q : Point} {a : Answer} (hp : p.flight?.isSome) (hq : q.flight?.isSome)
    (hmem : .suspended q ∈ (c.resume p a).2.left) (h : Traced ms c p) :
    Traced (ms ++ [⟨c, .answer p a⟩]) (c.resume p a).1 q := by
  have hvoid : ∀ {r : Cursor × Progress}, r = (c, .waiting p) → .suspended q ∈ r.2.left →
      Traced (ms ++ [⟨c, .answer p a⟩]) r.1 q := by
    rintro _ rfl hmem
    cases Multiset.mem_singleton.mp hmem
    exact h.snoc fun hunderway => hunderway.keep rfl rfl rfl rfl rfl rfl
  obtain ⟨g, -, hg⟩ := mem_flights hmem hq
  cases p with
  | fetchCheckout f =>
    cases a with
    | checkout r =>
      cases r with
      | ok u =>
        cases Multiset.mem_singleton.mp hmem
        exact h.snoc fun hunderway => hunderway.checkedOut rfl
      | error cause =>
        have hnone : flights (c.resume (.fetchCheckout f) (.checkout (.error cause))).2.left = 0 :=
          Cursor.flights_fetchUnrouted ..
        rw [hnone] at hg
        exact absurd hg (Multiset.notMem_zero g)
    | reply r => exact hvoid rfl hmem
    | kill r => exact hvoid rfl hmem
  | fetchReply f n =>
    cases a with
    | checkout r => exact hvoid rfl hmem
    | kill r => exact hvoid rfl hmem
    | reply r =>
      obtain ⟨reply, rfl, hopen, hwait, hid, -⟩ := Cursor.flights_fetchReplied hg
      have hnext : c.resume (.fetchReply f n) (.reply (.ok reply)) =
          (c.takenIn f n reply).next f.wait true := Cursor.fetchReplied_of_live hopen hid f n
      rw [hnext] at hmem ⊢
      refine traced_start (.goOn c f n reply) ?_ hmem hq
      rw [Turn.effect, hnext]
  | killCheckout b after => cases hp
  | killReply b after => cases hp

theorem underway_play (hsound : start.state.Sound 0) (htracked : Tracked start first.id [] start 0)
    (hplay : Play start ms c pending) {p : Point} (hmem : .suspended p ∈ pending)
    (hflight : p.flight?.isSome) (hopen : c.state.closed = false) : Traced ms c p := by
  induction hplay generalizing p with
  | nil => exact absurd hmem (Multiset.notMem_zero _)
  | @snoc ms c rest t before allowed ih =>
    have hbefore : c.state.closed = false := by
      by_contra hshut
      rw [closed_effect (Bool.eq_true_of_not_eq_false hshut)] at hopen
      cases hopen
    obtain ⟨g, -, hg⟩ := mem_flights hmem hflight
    rcases Multiset.mem_add.mp hmem with hleft | hrest
    · obtain ⟨g, -, hg⟩ := mem_flights hleft hflight
      have hnone : ∀ {m : Multiset Task}, flights m = 0 → g ∉ flights m := fun h => by
        rw [h]
        exact Multiset.notMem_zero g
      cases t with
      | begin call =>
        cases call with
        | next => exact traced_start (.next c) rfl hleft hflight
        | tryNext => exact traced_start (.tryNext c) rfl hleft hflight
        | close => exact absurd hg (hnone (Cursor.flights_close c))
      | answer q a =>
        cases hq : q.flight? with
        | none => exact absurd hg (hnone (Cursor.flights_resume hq a))
        | some f =>
          have hparty : Task.suspended q ∈ (Turn.answer q a).party + rest :=
            Multiset.mem_add.mpr (.inl (Multiset.mem_singleton_self _))
          have hsome : q.flight?.isSome := by rw [hq]; rfl
          exact traced_answer hsome hflight hleft (ih hparty hsome hbefore)
      | cancel q runtime => exact absurd hg (hnone (Cursor.flights_cancel ..))
      | startTask task =>
        have hback := (background_singleton.mp (allowed.task rfl)).1
        exact absurd hg (hnone (Cursor.flights_startTask hback))
      | answerTask q a =>
        have hback := (background_singleton.mp (allowed.task rfl)).1
        exact absurd hg (hnone (Cursor.flights_resume hback a))
      | discardTask task runtime => exact absurd hg (hnone (Cursor.flights_discardTask ..))
      | drop runtime => exact absurd hg (hnone (Cursor.flights_drop ..))
      | retain r => exact absurd hleft (Multiset.notMem_zero _)
      | release r => exact absurd hleft (Multiset.notMem_zero _)
    · have hwaits : Task.suspended p ∈ t.party + rest := Multiset.mem_add.mpr (.inr hrest)
      obtain ⟨others, hothers⟩ := Multiset.exists_cons_of_mem hrest
      have hidle : Idle t.party := by
        rw [hothers, ← Multiset.singleton_add, add_left_comm] at before
        exact (idle_add.mp (sole_waiting hsound htracked before)).1
      exact traced_other hrest hidle allowed hflight hopen (ih hwaits hflight hbefore)

end Play

end ServerCursor
