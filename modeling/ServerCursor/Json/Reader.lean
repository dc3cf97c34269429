import ServerCursor.Json.Basic

/-!
# Reading JSON texts

Each reader takes characters from the front and gives what it read with the characters that are
left, or nothing. A key that occurs twice keeps its first place and its last value. A number is an
integer if it is written without point and exponent, lies between the least signed and the greatest
unsigned integer of 64 bits, and is not a negative zero. Any other number is a double.

Doubles are read in two steps: the digits are rounded to a double, and so is its product with the
power of ten. The result is the nearest double if digits and power are exact, which holds up to
fifteen digits and the twenty-second power, and can be its neighbour otherwise.

The number of characters bounds the depth of the recursion. The readers accept some texts that are
no JSON, such as numbers with leading zeros.
-/

namespace ServerCursor.Json

/-- Leave out blanks. -/
def skipBlanks (cs : List Char) : List Char :=
  cs.dropWhile fun c => c = ' ' || c = '\n' || c = '\r' || c = '\t'

/-- The characters after a given word. -/
def word? : List Char → List Char → Option (List Char)
  | [], cs => some cs
  | w :: ws, c :: cs => if w = c then word? ws cs else none
  | _ :: _, [] => none

/-- The number of a list of decimal digits. -/
def natOfDigits (cs : List Char) : Nat :=
  cs.foldl (fun n c => 10 * n + (c.toNat - '0'.toNat)) 0

/-- Digits at the front. -/
def digits (cs : List Char) : List Char × List Char :=
  (cs.takeWhile Char.isDigit, cs.dropWhile Char.isDigit)

/-- The exponent of a number, with its sign. -/
def exponent (cs : List Char) : Option Int × List Char :=
  match cs with
  | e :: rest =>
    if e = 'e' || e = 'E' then
      let (negative, rest) := match rest with
        | '-' :: rest => (true, rest)
        | '+' :: rest => (false, rest)
        | rest => (false, rest)
      let (ds, rest) := digits rest
      let n : Int := natOfDigits ds
      (some (if negative then -n else n), rest)
    else (none, cs)
  | [] => (none, [])

/-- The number of the digits at the front that fit in 64 bits behind the given number, and how many
digits do not. -/
def fitting : Nat → List Char → Nat × Nat
  | n, [] => (n, 0)
  | n, c :: rest =>
    let next := 10 * n + (c.toNat - '0'.toNat)
    if next < Nat.pow 2 64 then fitting next rest else (n, rest.length + 1)

/-- The double nearest to a natural number times a power of ten. -/
def nearest (n power : Nat) : Float :=
  Float.ofScientific n false power

/-- The greatest power of ten that is a double. -/
def greatestPower : Nat := 308

/-- A double times a power of ten, if that is a double. -/
def raised (f : Float) (power : Nat) : Option Float :=
  if f == 0 then some f
  else if greatestPower < power then none
  else
    let product := f * nearest 1 power
    if product.isInf then none else some product

/-- A double divided by a power of ten. -/
def lowered (f : Float) (power : Nat) : Float :=
  if f == 0 then f
  else if greatestPower < power then
    lowered (f / nearest 1 greatestPower) (power - greatestPower)
  else f / nearest 1 power
termination_by power
decreasing_by simp only [greatestPower] at *; omega

/-- The double of some digits and a power of ten; one that is too great is none. -/
def floatOf (negative : Bool) (mantissa : Nat) (power : Int) : Option Json := do
  let f := nearest mantissa 0
  let magnitude ← if power < 0 then some (lowered f power.natAbs) else raised f power.natAbs
  return .float (if negative then -magnitude else magnitude).toBits

/-- The sign of a number. -/
def sign : List Char → Bool × List Char
  | '-' :: rest => (true, rest)
  | cs => (false, cs)

/-- The digits of a number behind its point. -/
def decimals : List Char → Option (List Char) × List Char
  | '.' :: rest => (some (digits rest).1, (digits rest).2)
  | cs => (none, cs)

/-- A number. -/
def number (cs : List Char) : Option (Json × List Char) :=
  let (negative, cs) := sign cs
  let (whole, cs) := digits cs
  let (fraction, cs) := decimals cs
  let (power, cs) := exponent cs
  if whole.isEmpty then none
  else
    let n := natOfDigits whole
    let fits := if negative then n ≠ 0 ∧ n ≤ Nat.pow 2 63 else n < Nat.pow 2 64
    if fraction.isNone ∧ power.isNone ∧ fits then
      some (.integer (if negative then -n else n), cs)
    else
      let places := (fraction.getD []).length
      let (mantissa, left) := fitting 0 (whole ++ fraction.getD [])
      (floatOf negative mantissa (power.getD 0 - places + left)).map fun v => (v, cs)

/-- Four hexadecimal digits. -/
def fourDigits : List Char → Option (Nat × List Char)
  | a :: b :: c :: d :: rest => do
    let a ← Text.hexValue? a
    let b ← Text.hexValue? b
    let c ← Text.hexValue? c
    let d ← Text.hexValue? d
    return (4096 * a + 256 * b + 16 * c + d, rest)
  | _ => none

/-- A character by its number, in one half or two. -/
def codePoint (cs : List Char) : Option (Char × List Char) := do
  let (high, rest) ← fourDigits cs
  if 0xd800 ≤ high ∧ high < 0xdc00 then
    match rest with
    | '\\' :: 'u' :: rest => do
      let (low, rest) ← fourDigits rest
      return (Char.ofNat (0x10000 + 0x400 * (high - 0xd800) + (low - 0xdc00)), rest)
    | _ => none
  else return (Char.ofNat high, rest)

/-- The character behind a backslash. -/
def escaped : List Char → Option (Char × List Char)
  | '"' :: rest => some ('"', rest)
  | '\\' :: rest => some ('\\', rest)
  | '/' :: rest => some ('/', rest)
  | 'b' :: rest => some ('\x08', rest)
  | 'f' :: rest => some ('\x0c', rest)
  | 'n' :: rest => some ('\n', rest)
  | 'r' :: rest => some ('\r', rest)
  | 't' :: rest => some ('\t', rest)
  | 'u' :: rest => codePoint rest
  | _ => none

/-- The characters up to the closing quote; `before` holds those read, the last first. -/
def textChars : Nat → List Char → List Char → Option (String × List Char)
  | 0, _, _ => none
  | _ + 1, _, [] => none
  | _ + 1, before, '"' :: rest => some (String.ofList before.reverse, rest)
  | fuel + 1, before, '\\' :: rest => do
    let (c, rest) ← escaped rest
    textChars fuel (c :: before) rest
  | fuel + 1, before, c :: rest => textChars fuel (c :: before) rest

/-- A text between quotes. -/
def text : List Char → Option (String × List Char)
  | '"' :: rest => textChars (rest.length + 1) [] rest
  | _ => none

/-- Write a key: a new one goes to the end, a known one keeps its place. -/
def insertField (key : String) (v : Json) : List (String × Json) → List (String × Json)
  | [] => [(key, v)]
  | (k, w) :: rest => if k = key then (k, v) :: rest else (k, w) :: insertField key v rest

mutual

/-- A value. -/
def value : Nat → List Char → Option (Json × List Char)
  | 0, _ => none
  | fuel + 1, cs =>
    match skipBlanks cs with
    | '\x7b' :: rest =>
      match skipBlanks rest with
      | '\x7d' :: rest => some (.object [], rest)
      | rest => members fuel [] rest
    | '[' :: rest =>
      match skipBlanks rest with
      | ']' :: rest => some (.array [], rest)
      | rest => items fuel [] rest
    | '"' :: rest => (text ('"' :: rest)).map fun r => (.string r.1, r.2)
    | 't' :: rest => (word? ['r', 'u', 'e'] rest).map fun rest => (.bool true, rest)
    | 'f' :: rest => (word? ['a', 'l', 's', 'e'] rest).map fun rest => (.bool false, rest)
    | 'n' :: rest => (word? ['u', 'l', 'l'] rest).map fun rest => (.null, rest)
    | cs => number cs

/-- The items of a list up to its end; `before` holds those read, the last first. -/
def items : Nat → List Json → List Char → Option (Json × List Char)
  | 0, _, _ => none
  | fuel + 1, before, cs => do
    let (v, rest) ← value fuel cs
    match skipBlanks rest with
    | ',' :: rest => items fuel (v :: before) rest
    | ']' :: rest => some (.array (v :: before).reverse, rest)
    | _ => none

/-- The members of an object up to its end; `before` holds those read. -/
def members : Nat → List (String × Json) → List Char → Option (Json × List Char)
  | 0, _, _ => none
  | fuel + 1, before, cs => do
    let (key, rest) ← text (skipBlanks cs)
    match skipBlanks rest with
    | ':' :: rest => do
      let (v, rest) ← value fuel rest
      match skipBlanks rest with
      | ',' :: rest => members fuel (insertField key v before) rest
      | '\x7d' :: rest => some (.object (insertField key v before), rest)
      | _ => none
    | _ => none

end

/-- The value that a text holds, if it holds nothing else. -/
def read? (s : String) : Option Json := do
  let cs := s.toList
  let (v, rest) ← value (cs.length + 1) cs
  if (skipBlanks rest).isEmpty then some v else none

end ServerCursor.Json
