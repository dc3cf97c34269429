import ServerCursor.Text.Hex
import ServerCursor.Text.Unprintable

/-!
# Quoted text

Messages show a text between double quotes. A quote and a backslash are written behind a
backslash, the four common controls by a letter or a zero, and any other character that is not
printed as it is by its number in braces.
-/

namespace ServerCursor.Text

/-- One character inside a quoted text. -/
def quoteChar (c : Char) : List Char :=
  if c = '"' then ['\\', '"']
  else if c = '\\' then ['\\', '\\']
  else if c = '\n' then ['\\', 'n']
  else if c = '\r' then ['\\', 'r']
  else if c = '\t' then ['\\', 't']
  else if c = '\x00' then ['\\', '0']
  else if isPrintable c then [c]
  else ['\\', 'u', '\x7b'] ++ hexOfNat c.toNat ++ ['\x7d']

/-- A text between double quotes. -/
def quoted (s : String) : String :=
  String.ofList ('"' :: s.toList.flatMap quoteChar ++ ['"'])

example : quoted "a\"\x1b" = "\"a\\\"\\u\x7b1b\x7d\"" := by decide +kernel

end ServerCursor.Text
