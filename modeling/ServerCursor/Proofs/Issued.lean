import ServerCursor.Proofs.Settle

/-!
# Connections are numbered in order

The number of a connection is the number of connections that were handed out then, so no number is
used twice. A cursor takes connections from its source in two places, when a request is to be sent
and when the server's cursor is to be discarded, and nowhere does the number of connections go down.

Main statement: `issued_play` says so of every play.
-/

namespace ServerCursor

namespace Ledger

theorem issued_retain {l l' : Ledger} {r : Resource}
    (h : l.retain r = .ok l' ∨ l.retain r = .error l') : l'.issued = l.issued := by
  unfold retain at h
  cases hjoin : Ownership.join (l.owners r) <;> rw [hjoin] at h <;> rcases h with h | h <;>
    cases h <;> rfl

end Ledger

namespace Cursor

variable (c : Cursor)

@[simp] theorem issued_emit (e : Event) : (c.emit e).ledger.issued = c.ledger.issued := rfl

@[simp] theorem issued_record (w : Wire) : (c.record w).ledger.issued = c.ledger.issued := rfl

@[simp] theorem issued_withState (s : State) :
    (c.withState s).ledger.issued = c.ledger.issued := rfl

@[simp] theorem issued_giveBack (rs : List Resource) :
    (c.giveBack rs).ledger.issued = c.ledger.issued :=
  Ledger.issued_giveBackAll ..

@[simp] theorem issued_conclude (a : Abandoned) (after : Outcome) :
    (c.conclude a after).1.ledger.issued = c.ledger.issued := by
  unfold conclude
  split <;> simp

@[simp] theorem issued_kill (a : Abandoned) (after : Outcome) :
    (c.kill a after).1.ledger.issued = c.ledger.issued := by
  unfold kill
  split
  · simp
  split
  · simp
  split
  · rfl
  split <;> simp

theorem issued_killCheckedOut (a : Abandoned) (after : Outcome) (r : Except Error Unit) :
    c.ledger.issued ≤ (c.killCheckedOut a after r).1.ledger.issued := by
  cases r with
  | ok _ => exact Nat.le_succ _
  | error cause => simp [killCheckedOut]

@[simp] theorem issued_killReplied (a : Abandoned) (after : Outcome) (r : Except Error Unit) :
    (c.killReplied a after r).1.ledger.issued = c.ledger.issued := by
  cases r <;> simp [killReplied]

@[simp] theorem issued_deliver : c.deliver.1.ledger.issued = c.ledger.issued := by
  unfold deliver
  dsimp only
  split <;> simp

@[simp] theorem issued_finish : c.finish.1.ledger.issued = c.ledger.issued := by
  simp [finish]

@[simp] theorem issued_fetchUnrouted (f : Fetch) (cause : Error) :
    (c.fetchUnrouted f cause).1.ledger.issued = c.ledger.issued := by
  unfold fetchUnrouted
  dsimp only
  split <;> simp

@[simp] theorem issued_startFetch (wait : Bool) :
    (c.startFetch wait).1.ledger.issued = c.ledger.issued := by
  have hsource : ∀ {l : Ledger}, (if c.state.source then c.ledger.retain .source
      else .ok c.ledger) = .ok l ∨ (if c.state.source then c.ledger.retain .source
      else .ok c.ledger) = .error l → l.issued = c.ledger.issued := by
    intro l h
    split at h
    · exact Ledger.issued_retain h
    · rcases h with h | h
      · cases h
        rfl
      · cases h
  unfold startFetch
  dsimp only
  split
  · rename_i l hl
    exact hsource (.inr hl)
  rename_i l hl
  have hsame : l.issued = c.ledger.issued := hsource (.inl hl)
  split
  · split
    · rename_i m hm
      exact (issued_giveBack ..).trans ((Ledger.issued_retain (.inr hm)).trans hsame)
    · rename_i m hm
      exact (Ledger.issued_retain (.inl hm)).trans hsame
  split
  · exact hsame
  · exact (issued_fetchUnrouted ..).trans hsame

@[simp] theorem issued_next (wait fetched : Bool) :
    (c.next wait fetched).1.ledger.issued = c.ledger.issued := by
  unfold next
  split
  · rfl
  split
  · rfl
  split
  · exact issued_deliver c
  split
  · exact issued_finish c
  split
  · rfl
  split
  · rfl
  · exact issued_startFetch c wait

theorem issued_fetchCheckedOut (f : Fetch) (r : Except Error Unit) :
    c.ledger.issued ≤ (c.fetchCheckedOut f r).1.ledger.issued := by
  cases r with
  | ok _ => exact Nat.le_succ _
  | error cause => simp [fetchCheckedOut]

@[simp] theorem issued_fetchReplied (f : Fetch) (n : Nat) (r : Except Error Reply) :
    (c.fetchReplied f n r).1.ledger.issued = c.ledger.issued := by
  unfold fetchReplied
  split
  · exact (issued_kill ..).trans (issued_giveBack ..)
  cases r with
  | error cause => simp
  | ok reply =>
    dsimp only
    split <;> simp

@[simp] theorem issued_close : c.close.1.ledger.issued = c.ledger.issued := by
  unfold close
  split
  · rfl
  dsimp only
  split <;> simp

@[simp] theorem issued_cancelFetch (back : List Resource) (runtime : Bool) :
    (c.cancelFetch back runtime).1.ledger.issued = c.ledger.issued := by
  unfold cancelFetch
  dsimp only
  split
  · split
    · simp
    split <;> simp
  · simp

@[simp] theorem issued_closeQuietly : c.closeQuietly.1.ledger.issued = c.ledger.issued := by
  unfold closeQuietly
  split
  · rfl
  · simp

@[simp] theorem issued_drop (runtime : Bool) :
    (c.drop runtime).1.ledger.issued = c.ledger.issued := by
  have hquiet := issued_closeQuietly c
  unfold drop
  split
  · exact hquiet
  split
  · rfl
  split
  · rename_i d id hd
    rw [hd] at hquiet
    exact hquiet
  · rename_i d hd
    rw [hd] at hquiet
    exact hquiet

theorem issued_resume (p : Point) (a : Answer) :
    c.ledger.issued ≤ (c.resume p a).1.ledger.issued := by
  cases p with
  | fetchCheckout f =>
    cases a with
    | checkout r => exact issued_fetchCheckedOut c f r
    | _ => exact le_rfl
  | fetchReply f n =>
    cases a with
    | reply r => exact (issued_fetchReplied c f n r).ge
    | _ => exact le_rfl
  | killCheckout b after =>
    cases a with
    | checkout r => exact issued_killCheckedOut c b after r
    | _ => exact le_rfl
  | killReply b after =>
    cases a with
    | kill r => exact (issued_killReplied c b after r).ge
    | _ => exact le_rfl

@[simp] theorem issued_beginCall (call : Call) :
    (Schedule.beginCall c call).1.ledger.issued = c.ledger.issued := by
  cases call <;> simp [Schedule.beginCall]

@[simp] theorem issued_cancel (p : Point) (runtime : Bool) :
    (c.cancel p runtime).1.ledger.issued = c.ledger.issued := by
  cases p <;> simp [cancel]

end Cursor

theorem issued_effect (c : Cursor) (t : Turn) :
    c.ledger.issued ≤ (t.effect c).cursor.ledger.issued := by
  cases t with
  | begin call => exact (c.issued_beginCall call).ge
  | answer p a => exact c.issued_resume p a
  | cancel p runtime => exact (c.issued_cancel p runtime).ge
  | startTask t =>
    cases t with
    | close => exact c.issued_close.ge
    | kill a => exact (c.issued_kill a .cleared).ge
    | suspended p => exact le_rfl
  | answerTask p a => exact c.issued_resume p a
  | discardTask t runtime =>
    cases t with
    | close => exact le_rfl
    | kill a => exact (c.issued_giveBack a.held).ge
    | suspended p => exact (c.issued_cancel p runtime).ge
  | drop runtime => exact (c.issued_drop runtime).ge
  | retain r =>
    simp only [Turn.effect, Turn.Effect.ofLedger]
    cases h : c.ledger.retain r with
    | ok l => exact (Ledger.issued_retain (.inl h)).ge
    | error l => exact (Ledger.issued_retain (.inr h)).ge
  | release r =>
    simp only [Turn.effect, Turn.Effect.ofLedger]
    cases h : c.ledger.release r with
    | ok l => exact (Ledger.release_counts (.inl h)).1.ge
    | error l => exact (Ledger.release_counts (.inr h)).1.ge

theorem issued_play {start c : Cursor} {ms : List Moment} {pending : Multiset Task}
    (hp : Play start ms c pending) : start.ledger.issued ≤ c.ledger.issued := by
  induction hp with
  | nil => exact le_rfl
  | snoc before allowed ih => exact ih.trans (issued_effect _ _)

theorem issued_create (reply : Reply) (options : Options) (server : ServerDescription)
    (connection : Option (Nat × ConnectionDescription)) (l : Ledger) :
    (Cursor.create reply options server connection l).ledger.issued = l.issued := by
  unfold Cursor.create
  dsimp only
  cases connection with
  | none => split <;> simp <;> rfl
  | some h =>
    dsimp only
    split <;> split <;> simp <;> rfl

end ServerCursor
