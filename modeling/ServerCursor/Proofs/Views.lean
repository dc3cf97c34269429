import Mathlib
import ServerCursor.Proofs.Readers
import ServerCursor.Proofs.Turn
import ServerCursor.Session

/-!
# The type of the documents is a view

A batch is decoded when it is handed out, and nothing else depends on what its documents are read
as. A cursor whose type may change between calls (`Typed`) goes through the states of its schedule
without types and without conversions, so it sends the same messages and holds the same handles. A
conversion makes a second handle before it lets the first go, so the cursor is not dropped and all
stays as it is (`Schedule.convert_eq`).

What a call shows is fixed by how it ends on the schedule (`View.Shows`): a batch is read document
by document, and the first document that cannot be read is the failure. The cursor takes no notice
of that, and the next call goes on behind the batch.

Main statement: `Typed.only_a_view`. The calls and conversions of a session are uses of this kind
(`Session.carries_call`, `Session.typed_readAs`).
-/

namespace ServerCursor

/-- A type of documents, and how a document is read as one. -/
structure View where
  Item : Type
  read : Reader Item

namespace View

/-- Plain documents, which every document can be read as. -/
def documents : View :=
  ⟨Document, fun d => .ok d.asRead⟩

/-- The records of a kind. -/
def ofKind (kind : RecordKind) : View :=
  ⟨Record, Record.decode kind⟩

/-- A batch whose documents have been read one after the other. -/
def ofRead {Item : Type} : Except DecodeError (List Item) → Result Item
  | .ok items => .batch items
  | .error cause => .error (.decode cause)

/-- What a call gives that ends so. -/
def see (v : View) : Outcome → Result v.Item
  | .batch documents => ofRead (documents.mapM v.read)
  | .nothing => .none
  | .failed cause => .error cause
  | .closed => .ok
  | .cleared => .ok

/-- What those who read documents in some way may be shown of a call that ends so. -/
inductive Shows (v : View) : Outcome → Result v.Item → Prop
  /-- Every document is read, in order. -/
  | batch (documents : List Document) (items : List v.Item) :
      List.Forall₂ (fun d item => v.read d = .ok item) documents items →
      Shows v (.batch documents) (.batch items)
  /-- The first document that cannot be read is the failure. -/
  | unreadable (before : List Document) (d : Document) (after : List Document)
      (cause : DecodeError) :
      (∀ e ∈ before, ∃ item, v.read e = .ok item) → v.read d = .error cause →
      Shows v (.batch (before ++ d :: after)) (.error (.decode cause))
  | nothing : Shows v .nothing .none
  | failed (cause : Error) : Shows v (.failed cause) (.error cause)
  | closed : Shows v .closed .ok
  | cleared : Shows v .cleared .ok

end View

/-- What a call shows to those who read documents in some way. -/
structure Shown where
  view : View
  result : Result view.Item

/-- What a call shows of plain documents. -/
def Shown.plain : Outcome → Shown
  | .batch documents => ⟨.documents, .batch (documents.map Document.asRead)⟩
  | .nothing => ⟨.documents, .none⟩
  | .failed cause => ⟨.documents, .error cause⟩
  | .closed => ⟨.documents, .ok⟩
  | .cleared => ⟨.documents, .ok⟩

/-- Something that is done with a cursor of some type. -/
inductive Use where
  | act (a : Action)
  /-- The documents are of another type from now on. -/
  | convert (v : View)

namespace Use

/-- What happens besides conversions. -/
def actions : List Use → List Action
  | [] => []
  | .act a :: rest => a :: actions rest
  | .convert _ :: rest => actions rest

end Use

/-- A cursor with its calls and tasks, and the type of its documents. -/
structure Typed where
  schedule : Schedule
  view : View

namespace Typed

/-- What a use leads to, and what a call shows if one ends. A conversion needs a handle, and no call
may wait. -/
def step (t : Typed) : Use → Typed × Option Shown
  | .act a =>
    let (schedule, o) := t.schedule.step a
    (⟨schedule, t.view⟩, o.map fun o => ⟨t.view, t.view.see o⟩)
  | .convert v =>
    if t.schedule.calls = [] ∧ t.schedule.handles ≠ 0 then
      (⟨(t.schedule.step .convert).1, v⟩, none)
    else (t, none)

/-- What several uses lead to. -/
def run (t : Typed) (uses : List Use) : Typed :=
  uses.foldl (fun t u => (t.step u).1) t

/-- What the calls show that end meanwhile, in order. -/
def results (t : Typed) : List Use → List Shown
  | [] => []
  | u :: rest => (t.step u).2.toList ++ (t.step u).1.results rest

/-- All that a conversion does. -/
structure Converts (t : Typed) (v : View) : Prop where
  schedule : t.schedule.step .convert = (t.schedule, none)
  state : (t.step (.convert v)).1.schedule = t.schedule
  shows : (t.step (.convert v)).2 = none
  view : (t.step (.convert v)).1.view =
    if t.schedule.calls = [] ∧ t.schedule.handles ≠ 0 then v else t.view

/-- An action does what it does without types, and the view is the same behind it. A call that ends
shows what may be shown of its end. -/
structure Follows (t : Typed) (a : Action) : Prop where
  state : (t.step (.act a)).1.schedule = (t.schedule.step a).1
  view : (t.step (.act a)).1.view = t.view
  shows : Option.Rel (fun o shown => ∃ result, shown = ⟨t.view, result⟩ ∧ t.view.Shows o result)
    (t.schedule.step a).2 (t.step (.act a)).2

end Typed

/-! ## Reading batches -/

/-- A list is read, or there is a first item that is not. -/
theorem mapM_cases {α β ε : Type} (read : α → Except ε β) (items : List α) :
    (∃ results, items.mapM read = .ok results ∧
      List.Forall₂ (fun v b => read v = .ok b) items results) ∨
    ∃ before v after cause, items = before ++ v :: after ∧ items.mapM read = .error cause ∧
      (∀ w ∈ before, ∃ b, read w = .ok b) ∧ read v = .error cause := by
  induction items with
  | nil => exact .inl ⟨[], rfl, .nil⟩
  | cons v rest ih =>
    cases hv : read v with
    | error cause =>
      refine .inr ⟨[], v, rest, cause, rfl, ?_, nofun, hv⟩
      rw [List.mapM_cons, hv]
      rfl
    | ok b =>
      rcases ih with ⟨bs, hread, hall⟩ | ⟨before, w, after, cause, rfl, hread, hbefore, hw⟩
      · refine .inl ⟨b :: bs, ?_, .cons hv hall⟩
        rw [List.mapM_cons, hv, hread]
        rfl
      · refine .inr ⟨v :: before, w, after, cause, rfl, ?_, ?_, hw⟩
        · rw [List.mapM_cons, hv, hread]
          rfl
        · rintro u (_ | ⟨_, hu⟩)
          · exact ⟨b, hv⟩
          · exact hbefore u hu

namespace View

theorem shows_see (v : View) (o : Outcome) : v.Shows o (v.see o) := by
  cases o with
  | batch documents =>
    obtain ⟨items, hread, hall⟩ | ⟨before, d, after, cause, rfl, hread, hbefore, hd⟩ :=
      mapM_cases v.read documents
    · rw [see, hread]
      exact .batch documents items hall
    · rw [see, hread]
      exact .unreadable before d after cause hbefore hd
  | nothing => exact .nothing
  | failed cause => exact .failed cause
  | closed => exact .closed
  | cleared => exact .cleared

theorem see_documents (o : Outcome) : (⟨documents, documents.see o⟩ : Shown) = .plain o := by
  cases o with
  | batch ds =>
    have hread : ds.mapM (fun d => (.ok d.asRead : Except DecodeError Document)) =
        .ok (ds.map Document.asRead) := by
      rw [Decode.mapM_eq_ok_iff, List.forall₂_map_right_iff, List.forall₂_same]
      exact fun d _ => rfl
    exact congrArg (fun r => Shown.mk documents (ofRead r)) hread
  | _ => rfl

end View

namespace Typed

/-! ## Runs -/

theorem step_act (t : Typed) (a : Action) : t.step (.act a) =
    (⟨(t.schedule.step a).1, t.view⟩,
      (t.schedule.step a).2.map fun o => ⟨t.view, t.view.see o⟩) :=
  rfl

theorem converts (t : Typed) (v : View) : t.Converts v := by
  have hsame : t.schedule.step .convert = (t.schedule, none) :=
    congrArg (·, none) t.schedule.convert_eq
  have hstep : t.step (.convert v) =
      (⟨t.schedule, if t.schedule.calls = [] ∧ t.schedule.handles ≠ 0 then v else t.view⟩,
        none) := by
    rw [step, hsame]
    split <;> rfl
  exact ⟨hsame, by rw [hstep], by rw [hstep], by rw [hstep]⟩

theorem follows (t : Typed) (a : Action) : t.Follows a := by
  refine ⟨rfl, rfl, ?_⟩
  rw [step_act]
  cases (t.schedule.step a).2 with
  | none => exact .none
  | some o => exact .some ⟨_, rfl, t.view.shows_see o⟩

/-- A cursor goes through the states of its schedule, whatever its documents are read as. -/
theorem schedule_run (t : Typed) (uses : List Use) :
    (t.run uses).schedule = t.schedule.run (Use.actions uses) := by
  induction uses generalizing t with
  | nil => rfl
  | cons u rest ih =>
    cases u with
    | act a => exact ih (t.step (.act a)).1
    | convert v =>
      refine (ih (t.step (.convert v)).1).trans ?_
      rw [(t.converts v).state]
      rfl

theorem shows_results (t : Typed) (uses : List Use) :
    List.Forall₂ (fun o shown => shown.view.Shows o shown.result)
      (t.schedule.outcomes (Use.actions uses)) (t.results uses) := by
  induction uses generalizing t with
  | nil => exact .nil
  | cons u rest ih =>
    cases u with
    | act a =>
      refine List.rel_append ?_ (ih (t.step (.act a)).1)
      rw [step_act]
      cases (t.schedule.step a).2 with
      | none => exact .nil
      | some o => exact .cons (t.view.shows_see o) .nil
    | convert v =>
      have hlater := ih (t.step (.convert v)).1
      rw [(t.converts v).state] at hlater
      rw [results, (t.converts v).shows]
      exact hlater

theorem results_documents (s : Schedule) (actions : List Action) :
    (Typed.mk s .documents).results (actions.map .act) = (s.outcomes actions).map .plain := by
  induction actions generalizing s with
  | nil => rfl
  | cons a rest ih =>
    have hlater := ih (s.step a).1
    rw [List.map_cons, results, Schedule.outcomes, List.map_append]
    refine congrArg₂ (· ++ ·) ?_ hlater
    rw [step_act]
    dsimp only
    cases (s.step a).2 with
    | none => rfl
    | some o => exact congrArg (fun shown => [shown]) (View.see_documents o)

/-- The documents of a cursor may be read as anything, and it may be converted whenever no call
waits. Its states are those of a cursor with plain documents that is never converted, and its calls
show what that one's show, read document by document. -/
theorem only_a_view (s : Schedule) (v : View) (uses : List Use) :
    let plain := (Use.actions uses).map Use.act
    (∀ before, before <+: uses →
      ((Typed.mk s v).run before).schedule = s.run (Use.actions before) ∧
      ((Typed.mk s v).run before).schedule =
        ((Typed.mk s .documents).run ((Use.actions before).map .act)).schedule) ∧
    (∀ before w after, uses = before ++ .convert w :: after →
      ((Typed.mk s v).run before).Converts w) ∧
    (∀ before a after, uses = before ++ .act a :: after → ((Typed.mk s v).run before).Follows a) ∧
    (Typed.mk s .documents).results plain = (s.outcomes (Use.actions uses)).map .plain ∧
    List.Forall₂ (fun o shown => shown.view.Shows o shown.result)
      (s.outcomes (Use.actions uses)) ((Typed.mk s v).results uses) := by
  intro plain
  have hactions : ∀ actions : List Action, Use.actions (actions.map .act) = actions := by
    intro actions
    induction actions with
    | nil => rfl
    | cons a rest ih => exact congrArg (a :: ·) ih
  refine ⟨fun before _ => ⟨schedule_run _ _, ?_⟩, fun _ w _ _ => converts _ w,
    fun _ a _ _ => follows _ a, results_documents s _, shows_results ⟨s, v⟩ uses⟩
  rw [schedule_run, schedule_run, hactions]

/-- One batch is read as items, the second cannot be, and the call after that goes on with the
third, as a cursor of plain documents does. -/
theorem only_a_view_of_items :
    let s := Schedule.opened ⟨⟨"db", "items"⟩, [[("_id", .int32 1)]], 7, .localhost⟩ .default .blank
      none Ledger.start false
    let asked (documents : List Document) (id : Int64) : List Use :=
      [.act (.begin .blocking .next), .act (.answer .blocking (.checkout (.ok ()))),
        .act (.answer .blocking (.reply (.ok ⟨⟨"db", "items"⟩, documents, id, .localhost⟩)))]
    let uses := .convert (.ofKind .item) :: .act (.begin .blocking .next) ::
      (asked [[("_id", .int32 2)], []] 7 ++ asked [[("_id", .int32 3)]] 0)
    (Typed.mk s .documents).results uses =
      [⟨.ofKind .item, .batch [.item 1]⟩,
        ⟨.ofKind .item, .error (.decode (.missingField "_id"))⟩,
        ⟨.ofKind .item, .batch [.item 3]⟩] ∧
    (Typed.mk s .documents).results ((Use.actions uses).map .act) =
      [⟨.documents, .batch [[("_id", .int32 1)]]⟩,
        ⟨.documents, .batch [[("_id", .int32 2)], []]⟩,
        ⟨.documents, .batch [[("_id", .int32 3)]]⟩] ∧
    ((Typed.mk s .documents).run uses).schedule = s.run (Use.actions uses) := by
  intro s asked uses
  obtain ⟨hstates, -, -, hplain, -⟩ := only_a_view s .documents uses
  obtain ⟨hstate, -⟩ := hstates uses (List.prefix_refl uses)
  have hread : (Typed.mk s .documents).results uses =
      [⟨.ofKind .item, .batch [.item 1]⟩,
        ⟨.ofKind .item, .error (.decode (.missingField "_id"))⟩,
        ⟨.ofKind .item, .batch [.item 3]⟩] := by cbv
  have hbatches : s.outcomes (Use.actions uses) =
      [.batch [[("_id", .int32 1)]], .batch [[("_id", .int32 2)], []],
        .batch [[("_id", .int32 3)]]] := by cbv
  refine ⟨hread, ?_, hstate⟩
  rw [hplain, hbatches]
  cbv

end Typed

/-! ## Sessions -/

namespace Session

variable {α : Type}

/-- The cursor of a session, with the type that its documents have. -/
def typed (s : Session α) : Typed :=
  ⟨s.schedule, ⟨α, s.read⟩⟩

/-- What a call of a session shows. -/
def seen (s : Session α) (o : Outcome) : Shown :=
  ⟨⟨α, s.read⟩, s.result (some o)⟩

theorem result_eq_see (s : Session α) (o : Outcome) :
    s.result (some o) = View.see ⟨α, s.read⟩ o := by
  cases o with
  | batch documents =>
    rw [result, View.see]
    cases documents.mapM s.read <;> rfl
  | _ => rfl

/-- The session has done to its cursor what these actions do, and a call has ended so if one has. -/
def Carries (s : Session α) (actions : List Action) (r : Session α × Option Outcome) : Prop :=
  r.1.typed = s.typed.run (actions.map .act) ∧
    s.typed.results (actions.map .act) = (r.2.map s.seen).toList

theorem carries_act (s : Session α) (a : Action) : s.Carries [a] (s.act a) := by
  refine ⟨rfl, (List.append_nil _).trans ?_⟩
  rw [Typed.step_act, act]
  change (Option.map _ (s.schedule.step a).2).toList = (Option.map _ (s.schedule.step a).2).toList
  refine congrArg (fun f => (Option.map f (s.schedule.step a).2).toList) (funext fun o => ?_)
  exact congrArg (Shown.mk ⟨α, s.read⟩) (s.result_eq_see o).symm

theorem Carries.cons {s : Session α} {a : Action} {actions : List Action}
    {r : Session α × Option Outcome} (hnone : (s.act a).2 = none)
    (h : (s.act a).1.Carries actions r) : s.Carries (a :: actions) r := by
  obtain ⟨htyped, hresults⟩ := h
  refine ⟨htyped, ?_⟩
  have hfirst : (s.typed.step (.act a)).2 = none := by
    change (s.schedule.step a).2.map _ = none
    rw [show (s.schedule.step a).2 = none from hnone, Option.map_none]
  rw [List.map_cons, Typed.results, hfirst]
  exact hresults

theorem carries_drive (s : Session α) (slot : Slot) (fuel : Nat) :
    ∃ actions, s.Carries actions (s.drive slot fuel) := by
  induction fuel generalizing s with
  | zero => exact ⟨[], rfl, rfl⟩
  | succ fuel ih =>
    rw [drive]
    cases (s.schedule.waitingIn? slot).bind s.scripted? with
    | none => exact ⟨[], rfl, rfl⟩
    | some scripted =>
      obtain ⟨a, script⟩ := scripted
      let x : Session α := { s with script := script }
      have hfirst : x.Carries [.answer slot a] (x.act (.answer slot a)) := x.carries_act _
      cases hact : x.act (.answer slot a) with
      | mk y o =>
        rw [hact] at hfirst
        simp only [x] at hact
        simp only [hact]
        cases o with
        | some o => exact ⟨_, hfirst⟩
        | none =>
          obtain ⟨actions, hlater⟩ := ih y
          refine ⟨.answer slot a :: actions, Carries.cons (s := x) ?_ ?_⟩
          · exact congrArg Prod.snd hact
          · rw [show x.act (.answer slot a) = (y, none) from hact]
            exact hlater

theorem carries_call (s : Session α) (slot : Slot) (c : Call) :
    ∃ actions, s.Carries actions (s.call slot c) := by
  have hfirst := s.carries_act (.begin slot c)
  rw [call]
  cases hact : s.act (.begin slot c) with
  | mk y o =>
    rw [hact] at hfirst
    cases o with
    | some o => exact ⟨_, hfirst⟩
    | none =>
      obtain ⟨actions, hlater⟩ := y.carries_drive slot y.script.bound
      refine ⟨.begin slot c :: actions, Carries.cons (congrArg Prod.snd hact) ?_⟩
      rw [hact]
      exact hlater

/-- To read documents as something else is a conversion, if the session is used by calls and none of
them waits. -/
theorem typed_readAs {s : Session α} (hfront : s.front = .concurrent)
    (hcalls : s.schedule.calls = []) (hhandles : s.schedule.handles ≠ 0) (read : Reader α) :
    (s.readAs read).1.typed = (s.typed.step (.convert ⟨α, read⟩)).1 := by
  have hwaiting : s.hasWaiting = false := by
    rw [hasWaiting, hcalls]
    rfl
  have hreadAs : (s.readAs read).1 = { s with read := read }.perform .convert := by
    rw [readAs, withWhole, hwaiting, hfront]
    rfl
  rw [hreadAs]
  have hconvert : s.typed.step (.convert ⟨α, read⟩) =
      (⟨(s.schedule.step .convert).1, ⟨α, read⟩⟩, none) := if_pos ⟨hcalls, hhandles⟩
  rw [hconvert]
  rfl

end Session

end ServerCursor
