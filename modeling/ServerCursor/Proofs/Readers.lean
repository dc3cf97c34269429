import Mathlib.Algebra.Group.Nat.Defs
import Mathlib.Data.List.Forall2
import ServerCursor.Proofs.Fields

/-!
# What single values are read as

The readers of single values, each with the values that it accepts. A reply tells its outcome by a
number or a truth value, an integer may have either width, and plain bytes that are UTF-8 are a
text.

Main statements: `Value.truthy?_eq_some_true_iff` and `Value.truthy?_eq_some_false_iff` for the
outcome, with `Decimal.Double.isOne_ofBits_iff` for its doubles; `Decode.int64_eq_ok_iff`,
`Decode.int32_eq_ok_iff`, `Decode.text_eq_ok_iff`, `Decode.listOf_text_eq_ok_iff`,
`Namespace.decode_display` and `readBatch_array` for the rest.
-/

namespace ServerCursor

namespace Decimal.Double

/-- A number is one. -/
def IsOne : Double → Prop
  | .finite false b =>
    (Ratio.scaled b.mantissa 2 b.exponent).num = (Ratio.scaled b.mantissa 2 b.exponent).den
  | _ => False

theorem eq_of_isOne {negative : Bool} {m : Nat} {e : Int} (h : (finite negative ⟨m, e⟩).IsOne) :
    negative = false ∧ (0 ≤ e → m = 1) ∧ (e < 0 → m = 2 ^ (-e).toNat) := by
  cases negative with
  | true => exact h.elim
  | false =>
    simp only [IsOne, Ratio.scaled] at h
    refine ⟨rfl, ?_, ?_⟩
    · intro he
      rw [if_pos he] at h
      exact Nat.eq_one_of_mul_eq_one_right h
    · intro he
      rw [if_neg (by omega)] at h
      exact h

theorem eq_of_add_eq_pow {n k m : Nat} (hlt : m < 2 ^ n) (h : 2 ^ n + m = 2 ^ k) :
    k = n ∧ m = 0 := by
  have hlow : n ≤ k := (Nat.pow_le_pow_iff_right (by omega : 1 < 2)).mp (by omega)
  have hhigh : k < n + 1 := by
    apply (Nat.pow_lt_pow_iff_right (by omega : 1 < 2)).mp
    rw [Nat.pow_succ]
    omega
  obtain rfl : k = n := by omega
  exact ⟨rfl, by omega⟩

theorem isOne_ofBits_iff {bits : UInt64} :
    (ofBits bits).IsOne ↔ bits = 0x3ff0000000000000 := by
  constructor
  · intro h
    have hlt : bits.toNat < 2 ^ 64 := bits.toNat_lt
    have hpow : Nat.pow 2 52 = 2 ^ 52 := rfl
    have hpow' : Nat.pow 2 11 = 2 ^ 11 := rfl
    have hpow'' : Nat.pow 2 63 = 2 ^ 63 := rfl
    have hbits : bits.toNat = 0x3ff0000000000000 := by
      simp only [ofBits, hpow, hpow', hpow''] at h
      split at h
      · split at h <;> exact h.elim
      · split at h
        · split at h
          · exact h.elim
          · -- the numbers next to zero are below one
            obtain ⟨-, -, hmantissa⟩ := eq_of_isOne h
            have hvalue := hmantissa (by omega)
            have hle : (2 : Nat) ^ 52 ≤ 2 ^ (-(-1074 : Int)).toNat :=
              Nat.pow_le_pow_right (by omega) (by omega)
            omega
        · obtain ⟨hpositive, hwhole, hmantissa⟩ := eq_of_isOne h
          have hsign : bits.toNat < 2 ^ 63 := by simpa using hpositive
          rcases Int.lt_or_le ((bits.toNat / 2 ^ 52 % 2 ^ 11 : Nat) - 1075 : Int) 0 with hneg | hnat
          · obtain ⟨hexponent, hfraction⟩ := eq_of_add_eq_pow (by omega) (hmantissa hneg)
            omega
          · have hvalue := hwhole hnat
            omega
    exact UInt64.toNat_inj.mp hbits
  · rintro rfl
    rfl

end Decimal.Double

namespace Value

/-- A number or a truth value, by which a reply can say how a command went. -/
inductive TellsOutcome : Value → Prop
  | double (bits : UInt64) : TellsOutcome (.double bits)
  | int32 (n : Int32) : TellsOutcome (.int32 n)
  | int64 (n : Int64) : TellsOutcome (.int64 n)
  | bool (b : Bool) : TellsOutcome (.bool b)

/-- One or true, by which a reply says that a command succeeded. -/
inductive Succeeds : Value → Prop
  | double (bits : UInt64) : (Decimal.Double.ofBits bits).IsOne → Succeeds (.double bits)
  | int32 : Succeeds (.int32 1)
  | int64 : Succeeds (.int64 1)
  | bool : Succeeds (.bool true)

/-- An integer of either width. -/
inductive IsInteger : Value → Int → Prop
  | int32 (n : Int32) : IsInteger (.int32 n) n.toInt
  | int64 (n : Int64) : IsInteger (.int64 n) n.toInt

/-- A text, or plain bytes that are one. -/
inductive IsText : Value → String → Prop
  | string (s : String) : IsText (.string s) s
  | bytes (s : String) : IsText (.binary 0 s.toByteArray.data.toList) s

theorem truthy?_eq_some_true_iff {v : Value} : truthy? v = some true ↔ v.Succeeds := by
  constructor
  · intro h
    cases v with
    | double bits =>
      have hone : bits = 0x3ff0000000000000 := by simpa [truthy?] using h
      exact .double bits (Decimal.Double.isOne_ofBits_iff.mpr hone)
    | int32 n =>
      have hone : n = 1 := by simpa [truthy?] using h
      exact hone ▸ .int32
    | int64 n =>
      have hone : n = 1 := by simpa [truthy?] using h
      exact hone ▸ .int64
    | bool b =>
      have htrue : b = true := by simpa [truthy?] using h
      exact htrue ▸ .bool
    | _ => cases h
  · rintro (⟨bits, hone⟩ | _ | _ | _)
    · simp [truthy?, Decimal.Double.isOne_ofBits_iff.mp hone]
    all_goals rfl

theorem truthy?_ne_none_iff {v : Value} : truthy? v ≠ none ↔ v.TellsOutcome := by
  constructor
  · intro h
    cases v with
    | double bits => exact .double bits
    | int32 n => exact .int32 n
    | int64 n => exact .int64 n
    | bool b => exact .bool b
    | _ => exact absurd rfl h
  · rintro (_ | _ | _ | _) <;> exact Option.some_ne_none _

theorem truthy?_eq_some_false_iff {v : Value} :
    truthy? v = some false ↔ v.TellsOutcome ∧ ¬ v.Succeeds := by
  rw [← truthy?_ne_none_iff, ← truthy?_eq_some_true_iff]
  match truthy? v with
  | none => simp
  | some true => simp
  | some false => simp

end Value

namespace Decode

theorem integerIn_eq_ok_iff {low high n : Int} {expected : Expected} {v : Value} :
    integerIn low high expected v = .ok n ↔ v.IsInteger n ∧ low ≤ n ∧ n ≤ high := by
  have hshape : v.shape = .integer n ↔ v.IsInteger n := by
    constructor
    · intro h
      cases v with
      | int32 m => cases h; exact .int32 m
      | int64 m => cases h; exact .int64 m
      | binary subtype bytes =>
        simp only [Value.shape] at h
        split at h <;> cases h
      | _ => cases h
    · rintro (m | m) <;> rfl
  rw [← hshape]
  unfold integerIn
  split
  · rename_i m hm
    rw [show v.shape = .integer m from hm]
    split
    · grind
    · grind
  · rename_i hm
    simp [refuse, show v.shape ≠ .integer n from hm n]

/-- Integers of a fixed width are read from the integers that have room in them. -/
theorem map_integerIn_eq_ok_iff {β : Type} {low high : Int} {expected : Expected} {v : Value}
    {ofInt : Int → β} {toInt : β → Int} (hlow : ∀ n, low ≤ toInt n) (hhigh : ∀ n, toInt n ≤ high)
    (hofInt : ∀ n, ofInt (toInt n) = n)
    (htoInt : ∀ m, low ≤ m → m ≤ high → toInt (ofInt m) = m) {n : β} :
    (integerIn low high expected v).map ofInt = .ok n ↔ v.IsInteger (toInt n) := by
  constructor
  · intro h
    match hread : integerIn low high expected v with
    | .error e =>
      rw [hread] at h
      cases h
    | .ok m =>
      rw [hread] at h
      obtain ⟨hm, hlow', hhigh'⟩ := integerIn_eq_ok_iff.mp hread
      obtain rfl : ofInt m = n := Except.ok.inj h
      rwa [htoInt m hlow' hhigh']
  · intro h
    have hread : integerIn low high expected v = .ok (toInt n) :=
      integerIn_eq_ok_iff.mpr ⟨h, hlow n, hhigh n⟩
    rw [hread]
    exact congrArg Except.ok (hofInt n)

theorem int64_eq_ok_iff {v : Value} {n : Int64} : int64 v = .ok n ↔ v.IsInteger n.toInt :=
  map_integerIn_eq_ok_iff Int64.le_toInt (fun n => Int.le_sub_one_of_lt n.toInt_lt)
    (fun _ => Int64.ofInt_toInt _)
    fun _ hlow hhigh => Int64.toInt_ofInt_of_le hlow (Int.lt_of_le_sub_one hhigh)

theorem int32_eq_ok_iff {v : Value} {n : Int32} : int32 v = .ok n ↔ v.IsInteger n.toInt :=
  map_integerIn_eq_ok_iff Int32.le_toInt (fun n => Int.le_sub_one_of_lt n.toInt_lt)
    (fun _ => Int32.ofInt_toInt _)
    fun _ hlow hhigh => Int32.toInt_ofInt_of_le hlow (Int.lt_of_le_sub_one hhigh)

theorem fromUTF8?_eq_some_iff {bytes : List UInt8} {s : String} :
    String.fromUTF8? (ByteArray.mk bytes.toArray) = some s ↔ bytes = s.toByteArray.data.toList := by
  unfold String.fromUTF8?
  constructor
  · intro h
    split at h
    · obtain rfl := Option.some.inj h
      rfl
    · cases h
  · rintro rfl
    rw [dif_pos s.isValidUTF8]
    rfl

theorem text_eq_ok_iff {v : Value} {s : String} : text v = .ok s ↔ v.IsText s := by
  constructor
  · intro h
    unfold text at h
    split at h
    · rename_i t hshape
      obtain rfl : t = s := Except.ok.inj h
      cases v with
      | string t => cases hshape; exact .string t
      | binary subtype bytes =>
        simp only [Readable.shape, Value.shape] at hshape
        split at hshape <;> cases hshape
      | _ => cases hshape
    · rename_i bytes hshape
      split at h
      · rename_i t ht
        obtain rfl : t = s := Except.ok.inj h
        cases v with
        | binary subtype bytes' =>
          simp only [Readable.shape, Value.shape] at hshape
          split at hshape
          · rename_i hgeneric
            cases hshape
            rw [hgeneric, fromUTF8?_eq_some_iff.mp ht]
            exact .bytes t
          · cases hshape
        | _ => cases hshape
      · cases h
    · cases h
  · rintro (s | s)
    · rfl
    · have hread := fromUTF8?_eq_some_iff.mpr (rfl : s.toByteArray.data.toList = _)
      unfold text
      simp only [Readable.shape, Value.shape, if_pos]
      rw [hread]

theorem mapM_eq_ok_iff {α β ε : Type} {read : α → Except ε β} {items : List α}
    {results : List β} :
    items.mapM read = .ok results ↔ List.Forall₂ (fun v b => read v = .ok b) items results := by
  induction items generalizing results with
  | nil =>
    rw [List.mapM_nil, List.forall₂_nil_left_iff]
    exact ⟨fun h => (Except.ok.inj h).symm, fun h => congrArg Except.ok h.symm⟩
  | cons v rest ih =>
    rw [List.mapM_cons, bind_eq_ok_iff, List.forall₂_cons_left_iff]
    constructor
    · rintro ⟨b, hb, hrest⟩
      obtain ⟨bs, hbs, hresults⟩ := bind_eq_ok_iff.mp hrest
      exact ⟨b, bs, hb, ih.mp hbs, (Except.ok.inj hresults).symm⟩
    · rintro ⟨b, bs, hb, hbs, rfl⟩
      exact ⟨b, hb, bind_eq_ok_iff.mpr ⟨bs, ih.mpr hbs, rfl⟩⟩

theorem listOf_text_eq_ok_iff {v : Value} {labels : List String} :
    listOf text v = .ok labels ↔
      ∃ items, v = .array items ∧ List.Forall₂ Value.IsText items labels := by
  constructor
  · intro h
    unfold listOf at h
    split at h
    · rename_i items hshape
      have htexts := mapM_eq_ok_iff.mp h
      cases v with
      | array items' =>
        cases hshape
        exact ⟨items, rfl, htexts.imp fun _ _ => text_eq_ok_iff.mp⟩
      | binary subtype bytes =>
        simp only [Readable.shape, Value.shape] at hshape
        split at hshape <;> cases hshape
      | _ => cases hshape
    · cases h
  · rintro ⟨items, rfl, htexts⟩
    exact mapM_eq_ok_iff.mpr (htexts.imp fun _ _ => text_eq_ok_iff.mpr)

end Decode

theorem Namespace.decode_display {db coll : String} (hdb : db ≠ "") (hdot : '.' ∉ db.toList)
    (hcoll : coll ≠ "") :
    Namespace.decode (Value.string (db ++ "." ++ coll)) = .ok ⟨db, coll⟩ := by
  have hdb' : db.toList ≠ [] := by simpa using hdb
  have hcoll' : coll.toList ≠ [] := by simpa using hcoll
  have hsplit := splitChars?_append hdot hdb' hcoll'
  have hparse : parse? (db ++ "." ++ coll) = some ⟨db, coll⟩ := by
    simp [parse?, hsplit]
  have htext : Decode.text (Value.string (db ++ "." ++ coll)) = .ok (db ++ "." ++ coll) := rfl
  apply Decode.bind_eq_ok_iff.mpr
  refine ⟨_, htext, ?_⟩
  rw [hparse]
  rfl

theorem readBatch_array (documents : List Document) :
    readBatch (.array (documents.map .document)) = .ok (documents.map Document.asRead) := by
  have hmap : (documents.map Value.document).mapM readDocument =
      .ok (documents.map Document.asRead) := by
    induction documents with
    | nil => rfl
    | cons d rest ih =>
      rw [List.map_cons, List.mapM_cons, readDocument_document, ih]
      rfl
  exact hmap

end ServerCursor
