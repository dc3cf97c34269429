import Mathlib.Data.List.Basic
import ServerCursor.Error
import ServerCursor.Proofs.Writing

/-!
# Namespaces as texts

A namespace is written as one text, in which the boundary of its two names is lost. It is found
again at the first dot, so a text is read exactly if its first dot stands within it
(`Namespace.DotWithin`), and a namespace comes back from its text exactly if the first dot of that
text is the one between its names (`Namespace.Separable`).

The texts that are read are the texts of the namespaces that come back
(`Namespace.dotWithin_iff`), so both laws follow from `Namespace.parse?_eq_some_iff`, in each of
the forms in which a namespace is written (`Namespace.inverts_of_parse?`).

Main statement: `Namespace.reading_inverts_writing`.
-/

namespace ServerCursor.Namespace

/-- A text has a dot, and the first one is neither its first character nor its last. -/
def DotWithin (s : String) : Prop :=
  '.' ∈ s.toList ∧ s.toList.idxOf '.' ≠ 0 ∧ s.toList.idxOf '.' + 1 ≠ s.toList.length

instance (s : String) : Decidable (DotWithin s) :=
  inferInstanceAs (Decidable (_ ∧ _))

/-- The first dot in the display of a namespace is the one between its names, and neither name is
empty. -/
structure Separable (ns : Namespace) : Prop where
  db_ne : ns.db ≠ ""
  notMem : '.' ∉ ns.db.toList
  coll_ne : ns.coll ≠ ""

theorem toList_display (ns : Namespace) :
    ns.display.toList = ns.db.toList ++ '.' :: ns.coll.toList := by
  simp [display]

theorem parse?_eq_some_iff {s : String} {ns : Namespace} :
    parse? s = some ns ↔ s = ns.display ∧ ns.Separable := by
  constructor
  · intro h
    obtain ⟨⟨db, coll⟩, hsplit, rfl⟩ := Option.map_eq_some_iff.mp h
    obtain ⟨htext, hdot, hdb, hcoll⟩ := splitChars?_eq_some_iff.mp hsplit
    refine ⟨String.toList_inj.mp ?_,
      ⟨by simpa using hdb, by simpa using hdot, by simpa using hcoll⟩⟩
    rw [htext, toList_display, String.toList_ofList, String.toList_ofList]
  · rintro ⟨rfl, hdb, hdot, hcoll⟩
    have hsplit : splitChars? ns.display.toList = some (ns.db.toList, ns.coll.toList) :=
      splitChars?_eq_some_iff.mpr
        ⟨ns.toList_display, hdot, by simpa using hdb, by simpa using hcoll⟩
    simp [parse?, hsplit]

theorem idxOf_dot {before : List Char} (h : '.' ∉ before) (after : List Char) :
    (before ++ '.' :: after).idxOf '.' = before.length := by
  rw [List.idxOf_append_of_notMem h, List.idxOf_cons_self, Nat.add_zero]

theorem dotWithin_iff {s : String} :
    DotWithin s ↔ ∃ ns : Namespace, s = ns.display ∧ ns.Separable := by
  constructor
  · rintro ⟨hmem, hfirst, hlast⟩
    obtain ⟨before, after, htext, hdot⟩ := List.eq_append_cons_of_mem hmem
    rw [htext, idxOf_dot hdot] at hfirst hlast
    have hbefore : before ≠ [] := by
      rintro rfl
      exact hfirst rfl
    have hafter : after ≠ [] := by
      rintro rfl
      simp at hlast
    refine ⟨⟨String.ofList before, String.ofList after⟩, String.toList_inj.mp ?_,
      ⟨by simpa using hbefore, by simpa using hdot, by simpa using hafter⟩⟩
    rw [htext, toList_display, String.toList_ofList, String.toList_ofList]
  · rintro ⟨ns, rfl, hdb, hdot, hcoll⟩
    have hbefore : ns.db.toList.length ≠ 0 := by simpa using hdb
    have hafter : ns.coll.toList.length ≠ 0 := by simpa using hcoll
    rw [DotWithin, toList_display, idxOf_dot hdot, List.length_append, List.length_cons]
    exact ⟨by simp, hbefore, by omega⟩

/-- Reading and writing are inverse where they can be: `text` is the form that a text takes and
`failure` what is said of one that names nothing. -/
structure Inverts {ω ε : Type} (text : String → ω) (write : Namespace → ω)
    (read : ω → Except ε Namespace) (failure : String → ε) : Prop where
  /-- A text is read if its first dot stands within it, -/
  read_iff : ∀ s, (∃ ns, read (text s) = .ok ns) ↔ DotWithin s
  /-- and refused otherwise. -/
  refused : ∀ s, ¬ DotWithin s → read (text s) = .error (failure s)
  /-- What was read is written as it was. -/
  write_read : ∀ s ns, read (text s) = .ok ns → write ns = text s
  /-- What is written is read as it was if the namespace can be told from its text. -/
  read_write : ∀ ns : Namespace, read (write ns) = .ok ns ↔ ns.Separable

theorem decode_of_text {α : Type} [Readable α] {v : α} {s : String} (h : Decode.text v = .ok s) :
    decode v = (parse? s).elim (.error .namespaceParts) .ok := by
  cases hparse : parse? s <;> simp only [decode, h, hparse, bind, Except.bind] <;> rfl

/-- Both laws hold wherever a namespace is written as its display and read by its first dot. -/
theorem inverts_of_parse? {ω ε : Type} {text : String → ω} {write : Namespace → ω}
    {read : ω → Except ε Namespace} {failure : String → ε}
    (hread : ∀ s, read (text s) = (parse? s).elim (.error (failure s)) .ok)
    (hwrite : ∀ ns, write ns = text ns.display) : Inverts text write read failure := by
  have hok : ∀ s ns, read (text s) = .ok ns ↔ s = ns.display ∧ ns.Separable := by
    intro s ns
    rw [hread, ← parse?_eq_some_iff]
    cases parse? s with
    | none => simp
    | some found => simp
  constructor
  case read_iff =>
    intro s
    simp only [hok, dotWithin_iff]
  case refused =>
    intro s hs
    have hnone : parse? s = none := by
      cases hparse : parse? s with
      | none => rfl
      | some ns => exact absurd (dotWithin_iff.mpr ⟨ns, parse?_eq_some_iff.mp hparse⟩) hs
    rw [hread, hnone]
    rfl
  case write_read =>
    intro s ns h
    rw [hwrite, ← ((hok s ns).mp h).1]
  case read_write =>
    intro ns
    rw [hwrite, hok]
    exact and_iff_right rfl

/-- Texts, BSON values and JSON values name the same namespaces. What is read is written back as it
was, and a namespace comes back exactly if its database has no dot and neither of its names is
empty. -/
theorem reading_inverts_writing :
    Inverts id display parse (fun s => Error.invalidReply (.namespaceText s)) ∧
    Inverts Value.string toValue decode (fun _ => DecodeError.namespaceParts) ∧
    Inverts Json.string toJson decode (fun _ => DecodeError.namespaceParts) ∧
    ∀ ns : Namespace, Json.read? ns.toJson.compact = some ns.toJson := by
  refine ⟨inverts_of_parse? ?_ fun _ => rfl, inverts_of_parse? ?_ fun _ => rfl,
    inverts_of_parse? ?_ fun _ => rfl, fun ns => Json.read?_compact trivial⟩
  · intro s
    rw [id, parse]
    cases parse? s <;> rfl
  · exact fun s => decode_of_text rfl
  · exact fun s => decode_of_text rfl

/-- A collection may begin with a dot, but a database may have none. -/
example : parse? "db..coll" = some ⟨"db", ".coll"⟩ ∧
    parse? (display ⟨"d.b", "coll"⟩) ≠ some ⟨"d.b", "coll"⟩ ∧ ¬ DotWithin "db." := by
  decide

end ServerCursor.Namespace
