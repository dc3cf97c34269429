/-!
# The shortest decimal that reads back

A finite double stands for `mantissa · 2 ^ exponent`, and a decimal text reads back as it when the
decimal lies in the interval of reals that round to it. `shortest` walks through the grids of one,
two, … seventeen digits and takes the first that has a point in the interval; of two points the
nearer, and of two equally near ones the one that a `Tie` names.

All comparisons are between natural numbers: the value, the bounds and the grid points are brought
to one denominator first. Nothing is asserted here about the reader.
-/

namespace ServerCursor.Decimal

/-- A positive binary fraction `mantissa · 2 ^ exponent`. -/
structure Binary where
  mantissa : Nat
  exponent : Int
  deriving DecidableEq, Repr

/-- A decimal `digits · 10 ^ exponent`. -/
structure Scaled where
  digits : Nat
  exponent : Int
  deriving DecidableEq, Repr

/-- Which of two equally near neighbours is taken. -/
inductive Tie where
  | toEven
  | up
  deriving DecidableEq, Repr

/-- What a double stands for. -/
inductive Double where
  | nan
  | infinite (negative : Bool)
  /-- A zero, which keeps its sign. -/
  | zero (negative : Bool)
  /-- Any other number. -/
  | finite (negative : Bool) (magnitude : Binary)
  deriving DecidableEq, Repr

/-- Read the sign, the eleven exponent bits and the fifty-two fraction bits. -/
def Double.ofBits (bits : UInt64) : Double :=
  let n := bits.toNat
  let negative := decide (Nat.pow 2 63 ≤ n)
  let biased : Nat := n / Nat.pow 2 52 % Nat.pow 2 11
  let fraction : Nat := n % Nat.pow 2 52
  if biased = Nat.pow 2 11 - 1 then
    if fraction = 0 then .infinite negative else .nan
  else if biased = 0 then
    if fraction = 0 then .zero negative else .finite negative ⟨fraction, -1074⟩
  else .finite negative ⟨Nat.pow 2 52 + fraction, (biased : Int) - 1075⟩

/-- A positive fraction of two natural numbers. -/
structure Ratio where
  num : Nat
  den : Nat

/-- `n · base ^ exponent`. -/
def Ratio.scaled (n base : Nat) (exponent : Int) : Ratio :=
  if 0 ≤ exponent then ⟨n * Nat.pow base exponent.toNat, 1⟩ else ⟨n, Nat.pow base (-exponent).toNat⟩

/-- Less than, by cross multiplication. -/
def Ratio.lt (a b : Ratio) : Bool :=
  a.num * b.den < b.num * a.den

/-- At most, by cross multiplication. -/
def Ratio.le (a b : Ratio) : Bool :=
  a.num * b.den ≤ b.num * a.den

/-- The value itself, in quarters of its last place. -/
def Binary.value (b : Binary) : Ratio :=
  Ratio.scaled (4 * b.mantissa) 2 (b.exponent - 2)

/-- The lower end of the interval that rounds to the value. The neighbour below a power of two is
only half as far away. -/
def Binary.lower (b : Binary) : Ratio :=
  if b.mantissa = Nat.pow 2 52 ∧ -1074 < b.exponent then
    Ratio.scaled (4 * b.mantissa - 1) 2 (b.exponent - 2)
  else Ratio.scaled (4 * b.mantissa - 2) 2 (b.exponent - 2)

/-- The upper end of the interval that rounds to the value. -/
def Binary.upper (b : Binary) : Ratio :=
  Ratio.scaled (4 * b.mantissa + 2) 2 (b.exponent - 2)

/-- Whether a decimal rounds to the value; the ends of the interval do when the mantissa is
even. -/
def Binary.readsAs (b : Binary) (d : Scaled) : Bool :=
  let r := Ratio.scaled d.digits 10 d.exponent
  if b.mantissa % 2 = 0 then b.lower.le r && r.le b.upper else b.lower.lt r && r.lt b.upper

/-- The number of decimal digits of a natural number, at least one. -/
def digitCount (n : Nat) : Nat :=
  (Nat.toDigits 10 n).length

/-- The power of ten at the leading digit of a positive fraction. -/
def Ratio.leading (r : Ratio) : Int :=
  let guess : Int := digitCount r.num - digitCount r.den
  if (Ratio.scaled 1 10 guess).le r then guess else guess - 1

/-- The greatest grid point `n · 10 ^ exponent` that is not above the fraction, as `n`. -/
def Ratio.floorOn (r : Ratio) (exponent : Int) : Nat :=
  if 0 ≤ exponent then r.num / (r.den * Nat.pow 10 exponent.toNat)
  else r.num * Nat.pow 10 (-exponent).toNat / r.den

/-- Whether a tie above the given neighbour goes to it. -/
def Tie.keeps (tie : Tie) (below : Nat) : Bool :=
  match tie with
  | .toEven => below % 2 = 0
  | .up => false

/-- Of the two grid points around the value, one that reads back: the nearer, or that of the
tie. -/
def Binary.onGrid? (b : Binary) (tie : Tie) (exponent : Int) : Option Scaled :=
  let v := b.value
  let below := v.floorOn exponent
  let low : Scaled := ⟨below, exponent⟩
  let high : Scaled := ⟨below + 1, exponent⟩
  match b.readsAs low, b.readsAs high with
  | false, false => none
  | true, false => some low
  | false, true => some high
  | true, true =>
    let middle : Ratio :=
      let m := Ratio.scaled (2 * below + 1) 10 exponent
      ⟨m.num, 2 * m.den⟩
    if v.lt middle then some low
    else if middle.lt v then some high
    else if tie.keeps below then some low else some high

/-- Move trailing zeros of the digits into the exponent; `fuel` bounds the number of zeros. -/
def Scaled.strip : Nat → Scaled → Scaled
  | 0, d => d
  | fuel + 1, d =>
    if d.digits % 10 = 0 ∧ d.digits ≠ 0 then Scaled.strip fuel ⟨d.digits / 10, d.exponent + 1⟩
    else d

/-- The first of the grids with `count`, `count + 1`, … digits that has a point which reads back;
`more` bounds the number of grids. -/
def Binary.search (b : Binary) (tie : Tie) (leading : Int) : Nat → Nat → Scaled
  | 0, count => ⟨b.value.floorOn (leading - count + 1), leading - count + 1⟩
  | more + 1, count =>
    match b.onGrid? tie (leading - count + 1) with
    | some d => d
    | none => b.search tie leading more (count + 1)

/-- The shortest decimal that reads back as the value. -/
def Binary.shortest (b : Binary) (tie : Tie) : Scaled :=
  (b.search tie b.value.leading 17 1).strip 20

end ServerCursor.Decimal
