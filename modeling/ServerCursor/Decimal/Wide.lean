/-!
# Decimals of 128 bits

Sixteen bytes, the lowest first, hold a sign, an exponent with a bias of 6176 and a whole number of
at most thirty-four digits; other bytes stand for zero, an infinity or no number. The text is
positional down to six zeros after the point, else it has one digit before the point and the power
of ten behind an `E`.

Different bytes can stand for one decimal. `Wide.toBytes` writes the canonical ones: a whole number
out of range has become zero, and what is no number has no sign. Main statements: canonical bytes
read back as the decimal (`Wide.ofBytes_toBytes`), so writing them again changes nothing
(`Wide.canonicalBytes_canonicalBytes`).
-/

namespace ServerCursor.Decimal

/-- What sixteen bytes stand for. -/
inductive Wide where
  | nan
  | infinite (negative : Bool)
  /-- The number `digits · 10 ^ exponent`, or its negative. -/
  | finite (negative : Bool) (digits : Nat) (exponent : Int)
  deriving DecidableEq, Repr

namespace Wide

/-- The number whose base-256 digits are the bytes, the lowest first. -/
def littleEndian (bytes : List UInt8) : Nat :=
  bytes.foldr (fun b n => b.toNat + 256 * n) 0

/-- So many base-256 digits of a number, the lowest first. -/
def bytesOfNat : Nat → Nat → List UInt8
  | 0, _ => []
  | count + 1, n => UInt8.ofNat n :: bytesOfNat count (n / 256)

/-- What is added to an exponent before it is stored. -/
def bias : Nat := 6176

/-- The greatest whole number, of thirty-four nines. -/
def greatest : Nat := Nat.pow 10 34 - 1

/-- A whole number, or zero if it is too great. -/
def clipped (digits : Nat) : Nat :=
  if digits ≤ greatest then digits else 0

/-- What the sixteen bytes stand for. A whole number in the long form is always too great. -/
def ofBytes (bytes : List UInt8) : Wide :=
  let n := littleEndian bytes
  let negative := decide (n / Nat.pow 2 127 % 2 = 1)
  let top := n / Nat.pow 2 122 % Nat.pow 2 5
  if top = 31 then nan
  else if top = 30 then infinite negative
  else if 24 ≤ top then finite negative 0 (((n / Nat.pow 2 111 % Nat.pow 2 14 : Nat) : Int) - bias)
  else finite negative (clipped (n % Nat.pow 2 113))
    (((n / Nat.pow 2 113 % Nat.pow 2 14 : Nat) : Int) - bias)

/-- The bit of a sign. -/
def signBit (negative : Bool) : Nat :=
  if negative then Nat.pow 2 127 else 0

/-- The canonical bytes. -/
def toBytes : Wide → List UInt8
  | nan => bytesOfNat 16 (31 * Nat.pow 2 122)
  | infinite negative => bytesOfNat 16 (signBit negative + 30 * Nat.pow 2 122)
  | finite negative digits exponent =>
    bytesOfNat 16 (signBit negative + (exponent + bias).toNat * Nat.pow 2 113 + digits)

/-- The bytes that hold the same value in the canonical way. -/
def canonicalBytes (bytes : List UInt8) : List UInt8 :=
  (ofBytes bytes).toBytes

/-- A minus sign for what is negative. -/
def sign (negative : Bool) : String :=
  if negative then "-" else ""

/-- The text of `digits · 10 ^ exponent`. -/
def renderFinite (digits : Nat) (exponent : Int) : String :=
  let cs := Nat.toDigits 10 digits
  let power : Int := exponent + cs.length - 1
  if exponent ≤ 0 ∧ -6 ≤ power then
    let places := (-exponent).toNat
    if places = 0 then String.ofList cs
    else if cs.length ≤ places then
      String.ofList ('0' :: '.' :: List.replicate (places - cs.length) '0' ++ cs)
    else String.ofList (cs.take (cs.length - places) ++ '.' :: cs.drop (cs.length - places))
  else
    let rest := cs.drop 1
    String.ofList (cs.take 1 ++ (if rest.isEmpty then [] else '.' :: rest) ++ ['E']) ++
      (if 0 < power then "+" else "") ++ toString power

/-- The text of a decimal. -/
def render : Wide → String
  | nan => "NaN"
  | infinite negative => sign negative ++ "Infinity"
  | finite negative digits exponent => sign negative ++ renderFinite digits exponent

/-- Whether sixteen bytes can stand for a decimal. -/
def InRange : Wide → Prop
  | nan => True
  | infinite _ => True
  | finite _ digits exponent =>
    digits ≤ greatest ∧ 0 ≤ exponent + bias ∧ exponent + bias < 3 * Int.pow 2 12

theorem littleEndian_bytesOfNat (count n : Nat) :
    littleEndian (bytesOfNat count n) = n % Nat.pow 256 count := by
  induction count generalizing n with
  | zero => simp [bytesOfNat, littleEndian, Nat.mod_one]
  | succ count ih =>
    have h : littleEndian (bytesOfNat (count + 1) n) =
        n % 256 + 256 * littleEndian (bytesOfNat count (n / 256)) := by
      simp [bytesOfNat, littleEndian]
    have hpow : Nat.pow 256 (count + 1) = Nat.pow 256 count * 256 := rfl
    rw [h, ih, hpow, Nat.mul_comm (Nat.pow 256 count) 256, Nat.mod_mul]

theorem clipped_le (n : Nat) : clipped n ≤ greatest := by
  unfold clipped; split <;> omega

theorem inRange_ofBytes (bytes : List UInt8) : (ofBytes bytes).InRange := by
  have hpow : ∀ b k : Nat, Nat.pow b k = b ^ k := fun _ _ => rfl
  have h12 : Int.pow 2 12 = 4096 := rfl
  simp only [ofBytes, hpow]
  generalize littleEndian bytes = n
  split
  · trivial
  · split
    · trivial
    · split
      · refine ⟨Nat.zero_le _, ?_, ?_⟩ <;> omega
      · refine ⟨clipped_le _, ?_, ?_⟩ <;> omega

theorem ofBytes_toBytes {w : Wide} (h : w.InRange) : ofBytes w.toBytes = w := by
  cases w with
  | nan => decide +kernel
  | infinite negative => cases negative <;> decide +kernel
  | finite negative digits exponent =>
    obtain ⟨hd, h0, h1⟩ := h
    obtain ⟨e, he⟩ : ∃ e : Nat, exponent + bias = e := ⟨_, (Int.toNat_of_nonneg h0).symm⟩
    have hpow : ∀ b k : Nat, Nat.pow b k = b ^ k := fun _ _ => rfl
    have h12 : Int.pow 2 12 = 4096 := rfl
    have hg : greatest < 2 ^ 113 := by decide
    have hexp : exponent = (e : Int) - bias := by omega
    subst hexp
    have hs : signBit negative = 0 ∨ signBit negative = 2 ^ 127 := by
      cases negative
      · exact .inl rfl
      · exact .inr rfl
    simp only [toBytes, ofBytes, littleEndian_bytesOfNat, hpow]
    have hc : clipped digits = digits := by simp [clipped, hd]
    have hn : ((e : Int) - bias + bias).toNat = e := by omega
    rw [hn]
    have he' : e < 3 * 2 ^ 12 := by omega
    have hd' : digits < 2 ^ 113 := by omega
    generalize hN : signBit negative + e * 2 ^ 113 + digits = n
    have hm : n % 256 ^ 16 = n := by rcases hs with hs | hs <;> omega
    have h31 : ¬ n / 2 ^ 122 % 2 ^ 5 = 31 := by rcases hs with hs | hs <;> omega
    have h30 : ¬ n / 2 ^ 122 % 2 ^ 5 = 30 := by rcases hs with hs | hs <;> omega
    have h24 : ¬ 24 ≤ n / 2 ^ 122 % 2 ^ 5 := by rcases hs with hs | hs <;> omega
    have hdig : n % 2 ^ 113 = digits := by rcases hs with hs | hs <;> omega
    have hexp : n / 2 ^ 113 % 2 ^ 14 = e := by rcases hs with hs | hs <;> omega
    have hneg : decide (n / 2 ^ 127 % 2 = 1) = negative := by
      cases negative with
      | false =>
        have hz : signBit false = 0 := rfl
        exact decide_eq_false (by omega)
      | true =>
        have ho : signBit true = 2 ^ 127 := rfl
        exact decide_eq_true (by omega)
    rw [hm, if_neg h31, if_neg h30, if_neg h24, hdig, hexp, hneg, hc]

theorem canonicalBytes_canonicalBytes (bytes : List UInt8) :
    canonicalBytes (canonicalBytes bytes) = canonicalBytes bytes := by
  simp only [canonicalBytes, ofBytes_toBytes (inRange_ofBytes bytes)]

end Wide

/-- The text of the sixteen bytes. -/
def renderWide (bytes : List UInt8) : String :=
  (Wide.ofBytes bytes).render

end ServerCursor.Decimal
