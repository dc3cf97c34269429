import ServerCursor.Proofs.Race
import ServerCursor.Proofs.Tasks
import ServerCursor.Session

/-!
# Calls that a script answers

A session answers a call from its script until the call ends or meets a held gate. The answers are
those that the script has for the places where the call waits (`Script.told`), and the schedule is
afterwards what it is after a run in which the call begins and has these answers
(`Session.call_eq`).

While no gate is held a call that closes the cursor ends (`Session.call_close`).
-/

namespace ServerCursor

namespace Script

/-- What the script tells a call that has come so far, and what is left of the script. -/
def told (script : Script) (r : Cursor × Progress) : Nat → List Answer × Script
  | 0 => ([], script)
  | fuel + 1 =>
    match r.2.point?.bind (script.answer? r.1.config.requester.protocol) with
    | none => ([], script)
    | some (a, rest) =>
      let later := rest.told (Cursor.goOn r a) fuel
      (a :: later.1, later.2)

variable {script : Script}

theorem told_done (script : Script) {r : Cursor × Progress} {o : Outcome} (h : r.2 = .done o)
    (fuel : Nat) : script.told r fuel = ([], script) := by
  cases fuel with
  | zero => rfl
  | succ fuel =>
    rw [told, h]
    rfl

theorem told_of_answer {r : Cursor × Progress} {p : Point} {a : Answer} {rest : Script}
    (hp : r.2 = .waiting p)
    (ha : script.answer? r.1.config.requester.protocol p = some (a, rest)) (fuel : Nat) :
    script.told r (fuel + 1) =
      (a :: (rest.told (Cursor.goOn r a) fuel).1, (rest.told (Cursor.goOn r a) fuel).2) := by
  rw [told, hp]
  simp only [Progress.point?, Option.bind_some, ha]

section Unheld

variable (hheld : script.held = [])

include hheld

theorem answer?_killCheckout (protocol : Protocol) (a : Abandoned) (after : Outcome) :
    ∃ r rest, script.answer? protocol (.killCheckout a after) = some (.checkout r, rest) ∧
      rest.held = [] := by
  refine ⟨script.checkout.1, script.checkout.2, ?_, ?_⟩
  · simp [answer?, gate, hheld]
  · unfold checkout
    split <;> exact hheld

theorem answer?_killReply (protocol : Protocol) (a : Abandoned) (after : Outcome) :
    ∃ k rest, script.answer? protocol (.killReply a after) = some (.kill k, rest) :=
  ⟨(script.kill protocol).1, (script.kill protocol).2, by simp [answer?, gate, hheld]⟩

theorem told_sendKill (c : Cursor) (a : Abandoned) (n : Nat) (after : Outcome) (fuel : Nat) :
    ∃ k, (script.told (c.sendKill a n after) (fuel + 1)).1 = [.kill k] := by
  obtain ⟨k, rest, ha⟩ := answer?_killReply hheld c.config.requester.protocol a after
  have hdone : (Cursor.goOn (c.sendKill a n after) (.kill k)).2 = .done after :=
    (Cursor.settled_sendKill c a n after k).1
  refine ⟨k, ?_⟩
  rw [told_of_answer rfl ha, told_done rest hdone]

/-- While no gate is held a call that has the server's cursor discarded is told as much as it
needs. -/
theorem told_kill (c : Cursor) (a : Abandoned) (after : Outcome) {fuel : Nat} (hfuel : 2 ≤ fuel) :
    ∃ r k, Cursor.answered (c.kill a after) (script.told (c.kill a after) fuel).1 =
      Cursor.answered (c.kill a after) (Cursor.clearing r k) := by
  obtain ⟨more, rfl⟩ : ∃ more, fuel = more + 2 := ⟨fuel - 2, by omega⟩
  have hended : ∀ {q : Cursor × Progress}, q.2 = .done after → ∃ r k,
      Cursor.answered q (script.told q (more + 2)).1 =
        Cursor.answered q (Cursor.clearing r k) := by
    intro q hq
    rw [told_done script hq]
    exact ⟨.ok (), .ok (), (Cursor.answered_of_done hq _).symm⟩
  unfold Cursor.kill
  split
  · exact hended (Cursor.done_conclude ..)
  split
  · exact hended (Cursor.done_conclude ..)
  split
  · rename_i n _
    obtain ⟨k, hk⟩ := told_sendKill hheld c a n after (more + 1)
    exact ⟨.ok (), k, by rw [hk]; rfl⟩
  split
  · let d := c.record .asked
    obtain ⟨r, rest, ha, hrest⟩ :=
      answer?_killCheckout hheld d.config.requester.protocol a after
    rw [told_of_answer rfl ha]
    cases r with
    | ok u =>
      obtain ⟨k, hk⟩ :=
        told_sendKill hrest d.checkout.1 { a with connection := some (d.ledger.issued + 1) }
          (d.ledger.issued + 1) after more
      refine ⟨.ok u, k, ?_⟩
      have hgo : Cursor.goOn (d, .waiting (.killCheckout a after)) (.checkout (.ok u)) =
          d.checkout.1.sendKill { a with connection := some (d.ledger.issued + 1) }
            (d.ledger.issued + 1) after := rfl
      rw [hgo, hk]
      rfl
    | error cause =>
      have hgo : (Cursor.goOn (d, .waiting (.killCheckout a after)) (.checkout (.error cause))).2 =
          .done after := Cursor.done_conclude ..
      refine ⟨.error cause, .ok (), ?_⟩
      rw [told_done rest hgo]
      exact (Cursor.answered_of_done hgo [.kill (.ok ())]).symm
  · exact hended (Cursor.done_conclude ..)

theorem told_close (c : Cursor) {fuel : Nat} (hfuel : 2 ≤ fuel) :
    ∃ r k, Cursor.answered c.close (script.told c.close fuel).1 =
      Cursor.answered c.close (Cursor.clearing r k) := by
  have hended : ∀ {q : Cursor × Progress}, q.2 = .done .closed → ∃ r k,
      Cursor.answered q (script.told q fuel).1 =
        Cursor.answered q (Cursor.clearing r k) := by
    intro q hq
    rw [told_done script hq]
    exact ⟨.ok (), .ok (), (Cursor.answered_of_done hq _).symm⟩
  unfold Cursor.close
  split
  · exact hended rfl
  dsimp only
  split
  · exact hended rfl
  · exact told_kill hheld _ _ _ hfuel

end Unheld

end Script

namespace Session

variable {α : Type}

/-- A session in which a call in a slot that was free has come so far. -/
def withCall (x : Session α) (slot : Slot) (r : Cursor × Progress) (script : Script) : Session α :=
  { x with schedule := x.schedule.withCall slot r, script := script }

variable {x : Session α} {slot : Slot} (hfree : x.schedule.waitingIn? slot = none)
  (hhandles : x.schedule.handles ≠ 0)

include hfree hhandles

theorem act_answer (c : Cursor) (p : Point) (script : Script) (a : Answer) :
    (x.withCall slot (c, .waiting p) script).act (.answer slot a) =
      (x.withCall slot (c.resume p a) script, (c.resume p a).2.outcome?) := by
  have hwaiting : (x.schedule.withCall slot (c, .waiting p)).waitingIn? slot = some p :=
    Schedule.waitingIn?_withCall hfree _
  have hstep := Schedule.step_withCall hfree hhandles (c, .waiting p) a
  have houtcome := congrArg Prod.snd (Schedule.answer_of_waiting hwaiting a)
  exact Prod.ext (congrArg (fun s => { x with schedule := s, script := script }) hstep) houtcome

theorem drive_eq (c : Cursor) (p : Point) (script : Script) (fuel : Nat) :
    let told := script.told (c, .waiting p) fuel
    let r := Cursor.answered (c, .waiting p) told.1
    (x.withCall slot (c, .waiting p) script).drive slot fuel =
      (x.withCall slot r told.2, r.2.outcome?) := by
  induction fuel generalizing c p script with
  | zero => rfl
  | succ fuel ih =>
    have hwaiting : (x.withCall slot (c, .waiting p) script).schedule.waitingIn? slot = some p :=
      Schedule.waitingIn?_withCall hfree _
    rw [drive, hwaiting, Option.bind_some]
    cases ha : script.answer? c.config.requester.protocol p with
    | none =>
      have hnone : (x.withCall slot (c, .waiting p) script).scripted? p = none := ha
      have htold : script.told (c, .waiting p) (fuel + 1) = ([], script) := by
        rw [Script.told]
        simp only [Progress.point?, Option.bind_some, ha]
      rw [hnone, htold]
      rfl
    | some scripted =>
      obtain ⟨a, rest⟩ := scripted
      have hsome : (x.withCall slot (c, .waiting p) script).scripted? p = some (a, rest) := ha
      have hact : act { x.withCall slot (c, .waiting p) script with script := rest }
          (.answer slot a) = _ := act_answer hfree hhandles c p rest a
      have hgo : Cursor.goOn (c, .waiting p) a = c.resume p a := rfl
      rw [hsome, Script.told_of_answer rfl ha, hgo]
      dsimp only
      rw [hact]
      cases hresumed : c.resume p a with
      | mk d progress =>
        have hanswered : ∀ answers, Cursor.answered (c, .waiting p) (a :: answers) =
            Cursor.answered (d, progress) answers := fun answers =>
          congrArg (Cursor.answered · answers) (hgo.trans hresumed)
        rw [hanswered]
        cases progress with
        | waiting q => exact ih d q rest
        | done o =>
          rw [Script.told_done rest rfl]
          rfl

theorem call_eq (call : Call) :
    let r := Schedule.beginCall x.schedule.cursor call
    let told := x.script.told r x.script.bound
    x.call slot call =
      ({ x with
          schedule := x.schedule.run (Schedule.calling slot call told.1)
          script := told.2 },
        (Cursor.answered r told.1).2.outcome?) := by
  intro r told
  have hbegin : x.act (.begin slot call) = (x.withCall slot r x.script, r.2.outcome?) := by
    unfold act
    rw [Schedule.begin_of_free hfree hhandles]
    rfl
  have hrun : x.schedule.run (Schedule.calling slot call told.1) =
      x.schedule.withCall slot (Cursor.answered r told.1) :=
    Schedule.run_calling hfree hhandles call told.1
  rw [hrun]
  unfold Session.call
  rw [hbegin]
  cases hr : r with
  | mk d progress =>
    have htold : told = x.script.told (d, progress) x.script.bound := by rw [← hr]
    rw [htold]
    cases progress with
    | waiting p => exact drive_eq hfree hhandles d p x.script x.script.bound
    | done o =>
      rw [Script.told_done x.script rfl]
      rfl

/-- While no gate is held a call that closes the cursor ends. -/
theorem call_close (hheld : x.script.held = []) :
    ∃ r k rest, x.call slot .close =
      ({ x with
          schedule := x.schedule.run (Schedule.calling slot .close (Cursor.clearing r k))
          script := rest }, some .closed) := by
  have hfuel : 2 ≤ x.script.bound := by
    unfold Script.bound
    omega
  let c := x.schedule.cursor
  obtain ⟨r, k, hanswered⟩ := Script.told_close hheld c hfuel
  have hdone : (Cursor.answered c.close (Cursor.clearing r k)).2 = .done .closed :=
    Cursor.close_clearing c r k
  have hbegin : Schedule.beginCall c .close = c.close := rfl
  refine ⟨r, k, (x.script.told c.close x.script.bound).2, ?_⟩
  rw [call_eq hfree hhandles, Schedule.run_calling hfree hhandles,
    Schedule.run_calling hfree hhandles, hbegin, hanswered, hdone]
  rfl

end Session

end ServerCursor
