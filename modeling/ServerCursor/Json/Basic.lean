import ServerCursor.Decimal.Layout
import ServerCursor.Text.Hex

/-!
# JSON values and their compact text

A JSON number is an integer of any size or a double, and an object keeps its keys in the order in
which they were written. The compact text has no blanks; in strings only the quote, the backslash
and the controls below the space are escaped.
-/

namespace ServerCursor

/-- A JSON value. -/
inductive Json where
  | null
  | bool (b : Bool)
  /-- A number written without point and exponent. -/
  | integer (n : Int)
  /-- Any other number, as the bits of a double. -/
  | float (bits : UInt64)
  | string (s : String)
  | array (items : List Json)
  | object (fields : List (String × Json))
  deriving Inhabited

namespace Json

/-- One character inside a JSON text. -/
def escapeChar (c : Char) : List Char :=
  if c = '"' then ['\\', '"']
  else if c = '\\' then ['\\', '\\']
  else if c = '\n' then ['\\', 'n']
  else if c = '\r' then ['\\', 'r']
  else if c = '\t' then ['\\', 't']
  else if c = '\x08' then ['\\', 'b']
  else if c = '\x0c' then ['\\', 'f']
  else if c.toNat < 0x20 then '\\' :: 'u' :: '0' :: '0' :: Text.hexOfByte (UInt8.ofNat c.toNat)
  else [c]

/-- A text between quotes. -/
def renderString (s : String) : String :=
  String.ofList ('"' :: s.toList.flatMap escapeChar ++ ['"'])

/-- A double; one that has no digits is null. -/
def renderFloat (bits : UInt64) : String :=
  match Decimal.Double.ofBits bits with
  | .nan | .infinite _ => "null"
  | _ => Decimal.Layout.exponential.render bits

mutual

/-- The compact text of a value. -/
def compact : Json → String
  | null => "null"
  | bool b => if b then "true" else "false"
  | integer n => toString n
  | float bits => renderFloat bits
  | string s => renderString s
  | array items => "[" ++ compactItems items ++ "]"
  | object fields => "\x7b" ++ compactFields fields ++ "\x7d"

/-- Values with commas between them. -/
def compactItems : List Json → String
  | [] => ""
  | [v] => compact v
  | v :: rest => compact v ++ "," ++ compactItems rest

/-- Fields with commas between them. -/
def compactFields : List (String × Json) → String
  | [] => ""
  | [(k, v)] => renderString k ++ ":" ++ compact v
  | (k, v) :: rest => renderString k ++ ":" ++ compact v ++ "," ++ compactFields rest

end

end Json

end ServerCursor
