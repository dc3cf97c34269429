import ServerCursor.Bson.Basic
import ServerCursor.Decimal.Layout
import ServerCursor.Decimal.Wide
import ServerCursor.Text.Calendar
import ServerCursor.Text.Hex

/-!
# The display of documents

The text of a document inside a message. Keys and texts stand between quotes without any escaping,
integers lose their width, and doubles are written positionally without a needless point.
-/

namespace ServerCursor

/-- The items with a comma and a blank between them. -/
def commaSeparated (items : List String) : String :=
  String.intercalate ", " items

namespace Value

/-- A text between quotes, as it is. -/
def inQuotes (s : String) : String :=
  "\"" ++ s ++ "\""

mutual

/-- The display of a value. -/
def display : Value → String
  | null => "null"
  | bool b => if b then "true" else "false"
  | int32 n => toString n.toInt
  | int64 n => toString n.toInt
  | double bits => Decimal.Layout.plain.render bits
  | string s => inQuotes s
  | array items => "[" ++ commaSeparated (displayItems items) ++ "]"
  | document fields =>
    if fields.isEmpty then "\x7b\x7d"
    else "\x7b " ++ commaSeparated (displayFields fields) ++ " \x7d"
  | objectId bytes => "ObjectId(" ++ inQuotes (Text.hexOfBytes bytes) ++ ")"
  | dateTime millis => "DateTime(" ++ inQuotes (Text.renderInstant millis.toInt) ++ ")"
  | timestamp time increment => "Timestamp(" ++ toString time ++ ", " ++ toString increment ++ ")"
  | binary subtype bytes =>
    "Binary(0x" ++ String.ofList (Text.hexOfNat subtype.toNat) ++ ", " ++
      Text.base64OfBytes bytes ++ ")"
  | regex pattern options => "/" ++ pattern ++ "/" ++ options
  | symbol s => "Symbol(" ++ inQuotes s ++ ")"
  | code s => s
  | decimal128 bytes => Decimal.renderWide bytes
  | minKey => "MinKey"
  | maxKey => "MaxKey"
  | undefined => "undefined"

/-- The displays of the items. -/
def displayItems : List Value → List String
  | [] => []
  | v :: rest => display v :: displayItems rest

/-- The displays of the fields. -/
def displayFields : List (String × Value) → List String
  | [] => []
  | (k, v) :: rest => (inQuotes k ++ ": " ++ display v) :: displayFields rest

end

end Value

/-- The display of a document. -/
def Document.display (d : Document) : String :=
  (Value.document d).display

end ServerCursor
