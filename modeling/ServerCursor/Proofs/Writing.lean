import Mathlib.Data.List.TakeWhile
import Mathlib.Data.Nat.Digits.Defs
import ServerCursor.Json.Reader

/-!
# Reading back what was written

The compact text of a JSON value is read as that value, if the value can be told from it
(`Json.IsExact`): its integers have room in 64 bits, and no object writes a key twice. Doubles are
left out, as their digits are rounded twice when they are read.

What follows a value in a text ends it (`Json.Ends`), so that a number takes no more than its own
digits. Values, items and fields are read back together (`Json.ReadsBack`), by induction on the
length that bounds the readers.

Main statement: `Json.read?_compact`.
-/

namespace ServerCursor.Json

mutual

/-- The value can be told from its text. -/
def IsExact : Json → Prop
  | null => True
  | bool _ => True
  | integer n => -2 ^ 63 ≤ n ∧ n < 2 ^ 64
  | float _ => False
  | string _ => True
  | array items => ItemsExact items
  | object fields => FieldsExact fields ∧ (fields.map (·.1)).Nodup

/-- Each item can be told from its text. -/
def ItemsExact : List Json → Prop
  | [] => True
  | v :: rest => IsExact v ∧ ItemsExact rest

/-- The value of each field can be told from its text. -/
def FieldsExact : List (String × Json) → Prop
  | [] => True
  | (_, v) :: rest => IsExact v ∧ FieldsExact rest

end

/-- What follows a value ends it. -/
def Ends (rest : List Char) : Prop :=
  ∀ c ∈ rest.head?, c = ',' ∨ c = ']' ∨ c = '\x7d'

theorem ends_nil : Ends [] := by
  simp [Ends]

theorem ends_comma (rest : List Char) : Ends (',' :: rest) := by
  simp [Ends]

theorem ends_bracket (rest : List Char) : Ends (']' :: rest) := by
  simp [Ends]

theorem ends_brace (rest : List Char) : Ends ('\x7d' :: rest) := by
  simp [Ends]

/-! ## Texts -/

theorem hexValue?_hexDigit {n : Nat} (h : n < 16) : Text.hexValue? (Text.hexDigit n) = some n := by
  have hall : ∀ n < 16, Text.hexValue? (Text.hexDigit n) = some n := by decide
  exact hall n h

theorem codePoint_control {c : Char} (h : c.toNat < 0x20) (rest : List Char) :
    codePoint ('0' :: '0' :: Text.hexOfByte (UInt8.ofNat c.toNat) ++ rest) = some (c, rest) := by
  have hbyte : (UInt8.ofNat c.toNat).toNat = c.toNat := by
    rw [UInt8.toNat_ofNat']
    omega
  have hzero : Text.hexValue? '0' = some 0 := by decide
  have hhigh := hexValue?_hexDigit (n := c.toNat / 16) (by omega)
  have hlow := hexValue?_hexDigit (n := c.toNat % 16) (by omega)
  have hsum : 4096 * 0 + 256 * 0 + 16 * (c.toNat / 16) + c.toNat % 16 = c.toNat := by omega
  have hdigits : fourDigits ('0' :: '0' :: Text.hexOfByte (UInt8.ofNat c.toNat) ++ rest) =
      some (c.toNat, rest) := by
    simp only [Text.hexOfByte, hbyte, List.cons_append, List.nil_append, fourDigits, hzero, hhigh,
      hlow, Option.bind_eq_bind, Option.bind_some, hsum]
    rfl
  have hplain : ¬ (0xd800 ≤ c.toNat ∧ c.toNat < 0xdc00) := by omega
  simp only [codePoint, hdigits, Option.bind_eq_bind, Option.bind_some, if_neg hplain,
    Char.ofNat_toNat]
  rfl

theorem textChars_escapeChar (c : Char) (fuel : Nat) (before rest : List Char) :
    textChars (fuel + 1) before (escapeChar c ++ rest) = textChars fuel (c :: before) rest := by
  unfold escapeChar
  split
  · subst_vars; rfl
  split
  · subst_vars; rfl
  split
  · subst_vars; rfl
  split
  · subst_vars; rfl
  split
  · subst_vars; rfl
  split
  · subst_vars; rfl
  split
  · subst_vars; rfl
  split
  · rename_i hcontrol
    have hread := codePoint_control hcontrol rest
    simp only [List.cons_append] at hread ⊢
    simp only [textChars, escaped, hread, Option.bind_eq_bind, Option.bind_some]
  · rename_i hquote hbackslash _ _ _ _ _ _
    rw [List.singleton_append, textChars]
    · exact hquote
    · exact hbackslash

/-- Characters are read back up to the closing quote. -/
theorem textChars_flatMap (cs : List Char) (fuel : Nat) (before rest : List Char)
    (hfuel : cs.length < fuel) :
    textChars fuel before (cs.flatMap escapeChar ++ '"' :: rest) =
      some (String.ofList (before.reverse ++ cs), rest) := by
  induction cs generalizing fuel before with
  | nil =>
    obtain ⟨fuel, rfl⟩ := Nat.exists_eq_succ_of_ne_zero (Nat.ne_of_gt hfuel)
    simp [textChars]
  | cons c cs ih =>
    obtain ⟨fuel, rfl⟩ := Nat.exists_eq_succ_of_ne_zero (Nat.ne_zero_of_lt hfuel)
    have hrest : cs.length < fuel := Nat.lt_of_succ_lt_succ hfuel
    rw [List.flatMap_cons, List.append_assoc, textChars_escapeChar, ih fuel (c :: before) hrest]
    simp

theorem length_escapeChar (c : Char) : 1 ≤ (escapeChar c).length := by
  unfold escapeChar
  repeat' split
  all_goals simp

theorem text_renderString (s : String) (rest : List Char) :
    text ((renderString s).toList ++ rest) = some (s, rest) := by
  have hlong : s.toList.length ≤ (s.toList.flatMap escapeChar).length := by
    generalize s.toList = cs
    induction cs with
    | nil => exact le_rfl
    | cons c cs ih =>
      have hc := length_escapeChar c
      rw [List.flatMap_cons, List.length_append, List.length_cons]
      omega
  have hread := textChars_flatMap s.toList
    ((s.toList.flatMap escapeChar ++ '"' :: rest).length + 1) [] rest
    (by rw [List.length_append]; omega)
  rw [List.reverse_nil, List.nil_append, String.ofList_toList] at hread
  simp only [renderString, String.toList_ofList, List.cons_append, List.append_assoc,
    List.nil_append, text]
  exact hread

/-! ## Numbers -/

theorem digits_append {ds rest : List Char} (hds : ∀ c ∈ ds, c.isDigit = true)
    (hrest : Ends rest) : digits (ds ++ rest) = (ds, rest) := by
  have hstop : rest.takeWhile Char.isDigit = [] ∧ rest.dropWhile Char.isDigit = rest := by
    cases rest with
    | nil => exact ⟨rfl, rfl⟩
    | cons c rest =>
      have hc : c.isDigit = false := by
        obtain rfl | rfl | rfl := hrest c rfl <;> rfl
      simp [hc]
  rw [digits, List.takeWhile_append_of_pos hds, List.dropWhile_append_of_pos hds, hstop.1, hstop.2,
    List.append_nil]

theorem number_ends {rest : List Char} (h : Ends rest) :
    decimals rest = (none, rest) ∧ exponent rest = (none, rest) := by
  cases rest with
  | nil => exact ⟨rfl, rfl⟩
  | cons c rest => obtain rfl | rfl | rfl := h c rfl <;> exact ⟨rfl, rfl⟩

/-- The digits of an integer are read back, as far as there is room for it. -/
theorem number_digits (negative : Bool) {n : Nat} {rest : List Char} (hrest : Ends rest)
    (hfits : if negative then n ≠ 0 ∧ n ≤ 2 ^ 63 else n < 2 ^ 64) :
    number ((if negative then ['-'] else []) ++ Nat.toDigits 10 n ++ rest) =
      some (.integer (if negative then -n else n), rest) := by
  have hdigit : ∀ c ∈ Nat.toDigits 10 n, c.isDigit = true := fun c hc =>
    Nat.isDigit_of_mem_toDigits (by omega) (by omega) hc
  have hsign : sign ((if negative then ['-'] else []) ++ Nat.toDigits 10 n ++ rest) =
      (negative, Nat.toDigits 10 n ++ rest) := by
    cases negative with
    | true => rfl
    | false =>
      obtain ⟨d, ds, hd⟩ := List.exists_cons_of_ne_nil (Nat.toDigits_ne_nil (n := n) (b := 10))
      have hminus : d ≠ '-' := by
        rintro rfl
        exact absurd (hdigit '-' (hd ▸ List.mem_cons_self)) (by decide)
      simp [sign, hd, hminus]
  have hvalue : natOfDigits (Nat.toDigits 10 n) = n := Nat.ofDigitChars_ten_toDigits
  have hsome : ¬ (Nat.toDigits 10 n).isEmpty = true := by
    simp [Nat.toDigits_ne_nil]
  simp only [number, hsign, digits_append hdigit hrest, number_ends hrest, hvalue, if_neg hsome]
  exact if_pos ⟨rfl, rfl, hfits⟩

/-! ## Values -/

/-- The characters with which the text of a value begins. -/
def Opens (c : Char) : Prop :=
  c = 'n' ∨ c = 't' ∨ c = 'f' ∨ c = '"' ∨ c = '[' ∨ c = '\x7b' ∨ c = '-' ∨ c.isDigit = true

theorem skipBlanks_cons {c : Char} (h : ¬ (c = ' ' ∨ c = '\n' ∨ c = '\r' ∨ c = '\t'))
    (cs : List Char) : skipBlanks (c :: cs) = c :: cs := by
  rw [not_or, not_or, not_or] at h
  obtain ⟨hblank, hline, hreturn, htab⟩ := h
  simp [skipBlanks, hblank, hline, hreturn, htab]

theorem Opens.ne {c : Char} (h : Opens c) :
    ¬ (c = ' ' ∨ c = '\n' ∨ c = '\r' ∨ c = '\t') ∧ c ≠ ']' ∧ c ≠ '\x7d' := by
  obtain rfl | rfl | rfl | rfl | rfl | rfl | rfl | hdigit := h
  · decide
  · decide
  · decide
  · decide
  · decide
  · decide
  · decide
  · refine ⟨?_, ?_, ?_⟩
    · rintro (rfl | rfl | rfl | rfl) <;> exact absurd hdigit (by decide)
    · rintro rfl
      exact absurd hdigit (by decide)
    · rintro rfl
      exact absurd hdigit (by decide)

theorem value_number {c : Char} (h : c = '-' ∨ c.isDigit = true) (fuel : Nat) (cs : List Char) :
    value (fuel + 1) (c :: cs) = number (c :: cs) := by
  have hskip : skipBlanks (c :: cs) = c :: cs := by
    refine skipBlanks_cons (Opens.ne ?_).1 cs
    unfold Opens
    tauto
  have hne : ∀ d : Char, d.isDigit = false → d ≠ '-' → c ≠ d := by
    rintro d hd hminus rfl
    obtain rfl | hdigit := h
    · exact hminus rfl
    · rw [hd] at hdigit
      cases hdigit
  rw [value, hskip]
  split
  case h_7 => rfl
  all_goals
    rename_i heq
    exact absurd (List.cons.inj heq).1 (hne _ rfl (by decide))

theorem toList_integer (n : Int) : (integer n).compact.toList =
    (if decide (n < 0) then ['-'] else []) ++ Nat.toDigits 10 n.natAbs := by
  cases n with
  | ofNat m =>
    have hnat : ¬ (Int.ofNat m < 0) := by simp
    rw [decide_eq_false hnat]
    exact String.toList_ofList
  | negSucc m =>
    rw [decide_eq_true (Int.negSucc_lt_zero m)]
    exact (String.toList_append ..).trans (congrArg ('-' :: ·) String.toList_ofList)

theorem value_integer {n : Int} (h : -2 ^ 63 ≤ n ∧ n < 2 ^ 64) (fuel : Nat) {rest : List Char}
    (hrest : Ends rest) :
    value (fuel + 1) ((integer n).compact.toList ++ rest) = some (.integer n, rest) := by
  have hread := number_digits (decide (n < 0)) (n := n.natAbs) hrest (by
    split
    · rename_i hneg
      have hneg := of_decide_eq_true hneg
      omega
    · rename_i hnat
      have hnat := of_decide_eq_false (Bool.eq_false_iff.mpr hnat)
      omega)
  have hsigned : (if decide (n < 0) then -(n.natAbs : Int) else n.natAbs) = n := by
    split
    · rename_i hneg
      have hneg := of_decide_eq_true hneg
      omega
    · rename_i hnat
      have hnat := of_decide_eq_false (Bool.eq_false_iff.mpr hnat)
      omega
  rw [hsigned, ← toList_integer] at hread
  rw [← hread]
  obtain ⟨d, ds, hd⟩ := List.exists_cons_of_ne_nil (Nat.toDigits_ne_nil (n := n.natAbs) (b := 10))
  have hdigit : d.isDigit = true :=
    Nat.isDigit_of_mem_toDigits (by omega) (by omega) (hd ▸ List.mem_cons_self)
  rw [toList_integer, hd]
  cases decide (n < 0) with
  | true => exact value_number (.inl rfl) fuel _
  | false => exact value_number (.inr hdigit) fuel _

theorem exists_opens {v : Json} (h : v.IsExact) : ∃ c cs, v.compact.toList = c :: cs ∧ Opens c := by
  cases v with
  | null => exact ⟨'n', _, rfl, by simp [Opens]⟩
  | bool b =>
    cases b with
    | true => exact ⟨'t', _, rfl, by simp [Opens]⟩
    | false => exact ⟨'f', _, rfl, by simp [Opens]⟩
  | integer n =>
    obtain ⟨d, ds, hd⟩ := List.exists_cons_of_ne_nil (Nat.toDigits_ne_nil (n := n.natAbs) (b := 10))
    have hdigit : d.isDigit = true :=
      Nat.isDigit_of_mem_toDigits (by omega) (by omega) (hd ▸ List.mem_cons_self)
    rw [toList_integer, hd]
    cases decide (n < 0) with
    | true => exact ⟨'-', _, rfl, by simp [Opens]⟩
    | false => exact ⟨d, _, rfl, by simp [Opens, hdigit]⟩
  | float bits => exact h.elim
  | string s => exact ⟨'"', _, String.toList_ofList, by simp [Opens]⟩
  | array items => exact ⟨'[', _, by simp [compact]; rfl, by simp [Opens]⟩
  | object fields => exact ⟨'\x7b', _, by simp [compact]; rfl, by simp [Opens]⟩

theorem exists_opens_items {v : Json} {more : List Json} (h : ItemsExact (v :: more)) :
    ∃ c cs, (compactItems (v :: more)).toList = c :: cs ∧ Opens c := by
  obtain ⟨c, cs, hc, hopens⟩ := exists_opens h.1
  cases more with
  | nil => exact ⟨c, cs, hc, hopens⟩
  | cons w more =>
    refine ⟨c, cs ++ ',' :: (compactItems (w :: more)).toList, ?_, hopens⟩
    simp [compactItems, hc]

theorem exists_quote_fields (f : String × Json) (more : List (String × Json)) :
    ∃ cs, (compactFields (f :: more)).toList = '"' :: cs := by
  obtain ⟨key, v⟩ := f
  cases more with
  | nil => exact ⟨_, by simp [compactFields, renderString]; rfl⟩
  | cons g more => exact ⟨_, by simp [compactFields, renderString]; rfl⟩

theorem value_string (s : String) (fuel : Nat) (rest : List Char) :
    value (fuel + 1) ((string s).compact.toList ++ rest) = some (.string s, rest) := by
  have hread := text_renderString s rest
  have hopen : (renderString s).toList ++ rest =
      '"' :: (s.toList.flatMap escapeChar ++ '"' :: rest) := by
    simp [renderString]
  rw [hopen] at hread
  rw [compact, hopen, value, skipBlanks_cons (by decide)]
  simp only [hread, Option.map_some]

theorem insertField_of_notMem {key : String} {before : List (String × Json)}
    (h : key ∉ before.map (·.1)) (v : Json) :
    insertField key v before = before ++ [(key, v)] := by
  induction before with
  | nil => rfl
  | cons f before ih =>
    rw [List.map_cons, List.mem_cons, not_or] at h
    have hne : ¬ f.1 = key := fun heq => h.1 heq.symm
    simp [insertField, hne, ih h.2]

theorem value_bracket {c : Char} (h : Opens c) (fuel : Nat) (cs : List Char) :
    value (fuel + 1) ('[' :: c :: cs) = items fuel [] (c :: cs) := by
  rw [value, skipBlanks_cons (by decide)]
  simp only [skipBlanks_cons h.ne.1]
  split
  · rename_i heq
    exact absurd (List.cons.inj heq).1 h.ne.2.1
  · rfl

theorem value_brace (fuel : Nat) (cs : List Char) :
    value (fuel + 1) ('\x7b' :: '"' :: cs) = members fuel [] ('"' :: cs) := by
  rw [value, skipBlanks_cons (by decide)]
  simp only [skipBlanks_cons (c := '"') (by decide)]
  rfl

theorem toList_renderString (s : String) :
    (renderString s).toList = '"' :: (s.toList.flatMap escapeChar ++ ['"']) :=
  String.toList_ofList

/-- A key and its colon are read. -/
theorem members_key (key : String) (fuel : Nat) (before : List (String × Json))
    (rest : List Char) :
    members (fuel + 1) before ((renderString key).toList ++ ':' :: rest) =
      (value fuel rest).bind fun r =>
        match skipBlanks r.2 with
        | ',' :: rest => members fuel (insertField key r.1 before) rest
        | '\x7d' :: rest => some (.object (insertField key r.1 before), rest)
        | _ => none := by
  have hread := text_renderString key (':' :: rest)
  have hskip : skipBlanks ((renderString key).toList ++ ':' :: rest) =
      (renderString key).toList ++ ':' :: rest := by
    rw [toList_renderString]
    exact skipBlanks_cons (by decide) _
  have hstep := members.eq_def (fuel + 1) before ((renderString key).toList ++ ':' :: rest)
  simp only [hskip, hread, Option.bind_eq_bind, Option.bind_some,
    skipBlanks_cons (c := ':') (by decide)] at hstep
  exact hstep

theorem toList_compactItems (v w : Json) (more : List Json) :
    (compactItems (v :: w :: more)).toList =
      v.compact.toList ++ ',' :: (compactItems (w :: more)).toList := by
  simp [compactItems]

theorem toList_compactField (key : String) (v : Json) :
    (compactFields [(key, v)]).toList = (renderString key).toList ++ ':' :: v.compact.toList := by
  simp [compactFields]

theorem toList_compactFields (key : String) (v : Json) (f : String × Json)
    (more : List (String × Json)) :
    (compactFields ((key, v) :: f :: more)).toList = (renderString key).toList ++
      ':' :: (v.compact.toList ++ ',' :: (compactFields (f :: more)).toList) := by
  simp [compactFields]

theorem notMem_of_nodup {before more : List (String × Json)} {key : String} {v : Json}
    (h : ((before ++ (key, v) :: more).map (·.1)).Nodup) : key ∉ before.map (·.1) := by
  rw [List.map_append, List.map_cons] at h
  exact fun hmem => (List.nodup_append.mp h).2.2 key hmem key List.mem_cons_self rfl

/-- Whatever is written within a length is read back, whatever stands behind it. -/
structure ReadsBack (fuel : Nat) : Prop where
  /-- A value is read. -/
  value_eq : ∀ {v : Json}, v.IsExact → v.compact.toList.length < fuel →
    ∀ {rest : List Char}, Ends rest → value fuel (v.compact.toList ++ rest) = some (v, rest)
  /-- The items of a list are read behind those before them. -/
  items_eq : ∀ {v : Json} {more : List Json}, ItemsExact (v :: more) →
    (compactItems (v :: more)).toList.length + 1 < fuel →
    ∀ (before : List Json) (rest : List Char),
      items fuel before ((compactItems (v :: more)).toList ++ ']' :: rest) =
        some (.array (before.reverse ++ v :: more), rest)
  /-- The fields of an object are read, each key behind those before it. -/
  members_eq : ∀ {f : String × Json} {more : List (String × Json)}, FieldsExact (f :: more) →
    (compactFields (f :: more)).toList.length + 1 < fuel →
    ∀ before : List (String × Json), ((before ++ f :: more).map (·.1)).Nodup →
      ∀ rest : List Char,
        members fuel before ((compactFields (f :: more)).toList ++ '\x7d' :: rest) =
          some (.object (before ++ f :: more), rest)

theorem ReadsBack.value_succ {fuel : Nat} (ih : ReadsBack fuel) {v : Json} (h : v.IsExact)
    (hlength : v.compact.toList.length < fuel + 1) {rest : List Char} (hrest : Ends rest) :
    value (fuel + 1) (v.compact.toList ++ rest) = some (v, rest) := by
  cases v with
  | null => rfl
  | bool b => cases b <;> rfl
  | integer n => exact value_integer h fuel hrest
  | float bits => exact h.elim
  | string s => exact value_string s fuel rest
  | array vs =>
    cases vs with
    | nil => rfl
    | cons v more =>
      obtain ⟨c, cs, hc, hopens⟩ := exists_opens_items h
      have htext : (array (v :: more)).compact.toList =
          '[' :: ((compactItems (v :: more)).toList ++ [']']) := by
        simp [compact]
      rw [htext, List.length_cons, List.length_append, List.length_singleton] at hlength
      have hread := ih.items_eq h (by omega) [] rest
      rw [htext, List.cons_append, List.append_assoc, List.singleton_append, hc, List.cons_append,
        value_bracket hopens, ← List.cons_append, ← hc, hread]
      rfl
  | object fs =>
    cases fs with
    | nil => rfl
    | cons f more =>
      obtain ⟨cs, hcs⟩ := exists_quote_fields f more
      have htext : (object (f :: more)).compact.toList =
          '\x7b' :: ((compactFields (f :: more)).toList ++ ['\x7d']) := by
        simp [compact]
      rw [htext, List.length_cons, List.length_append, List.length_singleton] at hlength
      have hread := ih.members_eq h.1 (by omega) [] h.2 rest
      rw [htext, List.cons_append, List.append_assoc, List.singleton_append, hcs, List.cons_append,
        value_brace, ← List.cons_append, ← hcs, hread]
      rfl

/-- One more item. -/
theorem ReadsBack.items_succ {fuel : Nat} (ih : ReadsBack fuel) {v : Json} {more : List Json}
    (h : ItemsExact (v :: more))
    (hlength : (compactItems (v :: more)).toList.length + 1 < fuel + 1) (before : List Json)
    (rest : List Char) :
    items (fuel + 1) before ((compactItems (v :: more)).toList ++ ']' :: rest) =
      some (.array (before.reverse ++ v :: more), rest) := by
  cases more with
  | nil =>
    have hv := ih.value_eq h.1 (Nat.lt_of_succ_lt_succ hlength) (ends_bracket rest)
    rw [compactItems, items, hv]
    simp [skipBlanks_cons]
  | cons w more =>
    rw [toList_compactItems, List.length_append, List.length_cons] at hlength
    have hv := ih.value_eq h.1 (by omega)
      (ends_comma ((compactItems (w :: more)).toList ++ ']' :: rest))
    have hmore := ih.items_eq h.2 (by omega) (v :: before) rest
    rw [List.reverse_cons, List.append_assoc, List.singleton_append] at hmore
    rw [toList_compactItems, List.append_assoc, List.cons_append, items, hv]
    simp only [Option.bind_eq_bind, Option.bind_some, skipBlanks_cons (c := ',') (by decide)]
    exact hmore

/-- One more field. -/
theorem ReadsBack.members_succ {fuel : Nat} (ih : ReadsBack fuel) {f : String × Json}
    {more : List (String × Json)} (h : FieldsExact (f :: more))
    (hlength : (compactFields (f :: more)).toList.length + 1 < fuel + 1)
    (before : List (String × Json)) (hkeys : ((before ++ f :: more).map (·.1)).Nodup)
    (rest : List Char) :
    members (fuel + 1) before ((compactFields (f :: more)).toList ++ '\x7d' :: rest) =
      some (.object (before ++ f :: more), rest) := by
  obtain ⟨key, v⟩ := f
  have hnew := notMem_of_nodup hkeys
  cases more with
  | nil =>
    rw [toList_compactField, List.length_append, List.length_cons] at hlength
    have hv := ih.value_eq h.1 (by omega) (ends_brace rest)
    rw [toList_compactField, List.append_assoc, List.cons_append, members_key, hv]
    simp only [Option.bind_some, skipBlanks_cons (c := '\x7d') (by decide),
      insertField_of_notMem hnew]
  | cons g more =>
    rw [toList_compactFields, List.length_append, List.length_cons, List.length_append,
      List.length_cons] at hlength
    have hv := ih.value_eq h.1 (by omega)
      (ends_comma ((compactFields (g :: more)).toList ++ '\x7d' :: rest))
    rw [← List.singleton_append, ← List.append_assoc] at hkeys
    have hmore := ih.members_eq h.2 (by omega) (before ++ [(key, v)]) hkeys rest
    rw [List.append_assoc, List.singleton_append] at hmore
    rw [toList_compactFields, List.append_assoc, List.cons_append, List.append_assoc,
      List.cons_append, members_key, hv]
    simp only [Option.bind_some, skipBlanks_cons (c := ',') (by decide),
      insertField_of_notMem hnew]
    exact hmore

theorem readsBack (fuel : Nat) : ReadsBack fuel := by
  induction fuel with
  | zero =>
    exact
      { value_eq := fun _ h => absurd h (Nat.not_lt_zero _)
        items_eq := fun _ h => absurd h (Nat.not_lt_zero _)
        members_eq := fun _ h => absurd h (Nat.not_lt_zero _) }
  | succ fuel ih =>
    exact
      { value_eq := fun h hlength _ hrest => ih.value_succ h hlength hrest
        items_eq := fun h hlength before rest => ih.items_succ h hlength before rest
        members_eq := fun h hlength before hkeys rest =>
          ih.members_succ h hlength before hkeys rest }

theorem read?_compact {v : Json} (h : v.IsExact) : read? v.compact = some v := by
  have hread := (readsBack (v.compact.toList.length + 1)).value_eq h (Nat.lt_succ_self _) ends_nil
  rw [List.append_nil] at hread
  simp only [read?, hread]
  rfl

end ServerCursor.Json
