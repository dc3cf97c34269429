import ServerCursor.Decimal.Shortest

/-!
# Layouts of a decimal

How the shortest digits of a double are set: which of two equally short and equally near decimals
is written, where positional writing ends, and whether a whole number keeps a point and a zero. The
values that have no digits are written `NaN`, `inf` and `-inf`. Three layouts are in use:
`Layout.plain` in the display of documents, `Layout.pointed` in messages about a BSON value of the
wrong type, and `Layout.exponential` in JSON texts and in messages about JSON values.
-/

namespace ServerCursor.Decimal

/-- The decisions about a written double. -/
structure Layout where
  /-- Which of two equally near decimals is written. -/
  tie : Tie
  /-- Whether a whole number ends in a point and a zero. -/
  pointOfWhole : Bool
  /-- The greatest number of digits before the point in positional writing, if it is bounded. -/
  mostBefore : Option Nat
  /-- The greatest number of zeros after the point in positional writing, if it is bounded. -/
  mostZeros : Option Nat
  deriving DecidableEq, Repr

/-- Never an exponent, and no point in a whole number. -/
def Layout.plain : Layout := ⟨.up, false, none, none⟩

/-- Never an exponent, and always a point. -/
def Layout.pointed : Layout := ⟨.up, true, none, none⟩

/-- At most sixteen digits before the point and four zeros after it, else an exponent. -/
def Layout.exponential : Layout := ⟨.toEven, true, some 16, some 4⟩

/-- A number of zeros. -/
def zeros (n : Nat) : List Char :=
  List.replicate n '0'

/-- Digits and point, without an exponent. -/
def Layout.positional (l : Layout) (d : Scaled) : List Char :=
  let digits := Nat.toDigits 10 d.digits
  let before : Int := digits.length + d.exponent
  if 0 ≤ d.exponent then
    digits ++ zeros d.exponent.toNat ++ (if l.pointOfWhole then ['.', '0'] else [])
  else if 0 < before then digits.take before.toNat ++ '.' :: digits.drop before.toNat
  else '0' :: '.' :: zeros (-before).toNat ++ digits

/-- A power of ten with its sign; zero counts as positive. -/
def signedPower (power : Int) : List Char :=
  (if power < 0 then '-' else '+') :: Nat.toDigits 10 power.natAbs

/-- One digit before the point, and the power of ten behind an `e`. -/
def scientific (d : Scaled) : List Char :=
  let digits := Nat.toDigits 10 d.digits
  let power : Int := digits.length + d.exponent - 1
  let rest := digits.drop 1
  digits.take 1 ++ (if rest.isEmpty then [] else '.' :: rest) ++ 'e' :: signedPower power

/-- Whether the number is written without an exponent. -/
def Layout.isPositional (l : Layout) (d : Scaled) : Bool :=
  let before : Int := digitCount d.digits + d.exponent
  (l.mostBefore.all fun most => before ≤ most) &&
    (l.mostZeros.all fun most => -(most : Int) ≤ before)

/-- The text of a positive decimal. -/
def Layout.ofScaled (l : Layout) (d : Scaled) : List Char :=
  if l.isPositional d then l.positional d else scientific d

/-- The text of a double. -/
def Layout.render (l : Layout) (bits : UInt64) : String :=
  let sign (negative : Bool) (cs : List Char) : String :=
    String.ofList (if negative then '-' :: cs else cs)
  match Double.ofBits bits with
  | .nan => "NaN"
  | .infinite negative => sign negative "inf".toList
  | .zero negative => sign negative (if l.pointOfWhole then ['0', '.', '0'] else ['0'])
  | .finite negative magnitude => sign negative (l.ofScaled (magnitude.shortest l.tie))

example : Layout.plain.render 0x3ff8000000000000 = "1.5" := by decide +kernel

example : Layout.plain.render 0x4341c37937e08000 = "10000000000000000" := by decide +kernel

/-- The double is a quarter above a whole number, and halfway between two decimals. -/
example : Layout.plain.render 0x4310000000000001 = "1125899906842624.3" := by decide +kernel

example : Layout.pointed.render 0xc045000000000000 = "-42.0" := by decide +kernel

example : Layout.exponential.render 0x4341c37937e08000 = "1e+16" := by decide +kernel

example : Layout.exponential.render 0x4310000000000001 = "1125899906842624.2" := by decide +kernel

example : Layout.exponential.render 1 = "5e-324" := by decide +kernel

end ServerCursor.Decimal
