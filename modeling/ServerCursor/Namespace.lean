import ServerCursor.Decode.Basic

/-!
# Namespaces

The name of a collection is the name of its database and its own name with a dot between them. The
database has no dot, the collection may have several, so only the first dot of a text separates;
neither part may be empty.

Main statement: `Namespace.splitChars?_eq_some_iff` says which texts are split, and where.
-/

namespace ServerCursor

/-- A database and a collection in it. -/
structure Namespace where
  db : String
  coll : String
  deriving DecidableEq, Repr, Inhabited

namespace Namespace

/-- The two names with a dot between them. -/
def display (ns : Namespace) : String :=
  ns.db ++ "." ++ ns.coll

/-- Split at the first dot, if both parts have a character. -/
def splitChars? (cs : List Char) : Option (List Char × List Char) :=
  match cs.takeWhile (· != '.'), cs.dropWhile (· != '.') with
  | [], _ => none
  | _, [] => none
  | _, [_] => none
  | db, _ :: coll => some (db, coll)

/-- The namespace that a text names. -/
def parse? (s : String) : Option Namespace :=
  (splitChars? s.toList).map fun parts => ⟨String.ofList parts.1, String.ofList parts.2⟩

/-- Two parts with a dot between them are split there if the first has no dot of its own and
neither is empty. -/
theorem splitChars?_append {db coll : List Char} (hdot : '.' ∉ db) (hdb : db ≠ [])
    (hcoll : coll ≠ []) : splitChars? (db ++ '.' :: coll) = some (db, coll) := by
  have hall : ∀ c ∈ db, (c != '.') = true := by
    intro c hc
    simp only [bne_iff_ne, ne_eq]
    rintro rfl
    exact hdot hc
  have htake : (db ++ '.' :: coll).takeWhile (· != '.') = db := by
    rw [List.takeWhile_append_of_pos hall]
    simp
  have hdrop : (db ++ '.' :: coll).dropWhile (· != '.') = '.' :: coll := by
    rw [List.dropWhile_append_of_pos hall]
    simp
  unfold splitChars?
  rw [htake, hdrop]
  cases db with
  | nil => exact absurd rfl hdb
  | cons d ds =>
    cases coll with
    | nil => exact absurd rfl hcoll
    | cons e es => rfl

theorem eq_append_of_splitChars? {cs db coll : List Char} (h : splitChars? cs = some (db, coll)) :
    cs = db ++ '.' :: coll ∧ '.' ∉ db ∧ db ≠ [] ∧ coll ≠ [] := by
  have hsplit := List.takeWhile_append_dropWhile (l := cs) (p := (· != '.'))
  have hall := List.all_takeWhile (l := cs) (p := (· != '.'))
  have hhead := fun w => List.head_dropWhile_not (l := cs) (· != '.') w
  unfold splitChars? at h
  generalize cs.takeWhile (· != '.') = front at *
  generalize cs.dropWhile (· != '.') = back at *
  match front, back with
  | [], _ => simp at h
  | _ :: _, [] => simp at h
  | _ :: _, [_] => simp at h
  | d :: ds, c :: e :: es =>
    simp only [Option.some.injEq, Prod.mk.injEq] at h
    obtain ⟨rfl, rfl⟩ := h
    have hc := hhead (by simp)
    simp only [List.head_cons, bne_eq_false_iff_eq] at hc
    subst hc
    refine ⟨hsplit.symm, ?_, by simp, by simp⟩
    intro hmem
    have := List.all_eq_true.1 hall '.' hmem
    simp at this

theorem splitChars?_eq_some_iff {cs db coll : List Char} :
    splitChars? cs = some (db, coll) ↔
      cs = db ++ '.' :: coll ∧ '.' ∉ db ∧ db ≠ [] ∧ coll ≠ [] := by
  constructor
  · exact eq_append_of_splitChars?
  · rintro ⟨rfl, hdot, hdb, hcoll⟩
    exact splitChars?_append hdot hdb hcoll

/-- A namespace is written as its display. -/
def toValue (ns : Namespace) : Value :=
  .string ns.display

/-- A namespace is written as its display. -/
def toJson (ns : Namespace) : Json :=
  .string ns.display

/-- Read a namespace from a text. -/
def decode {α : Type} [Readable α] (v : α) : Except DecodeError Namespace := do
  let s ← Decode.text v
  match parse? s with
  | some ns => return ns
  | none => throw .namespaceParts

end Namespace

end ServerCursor
