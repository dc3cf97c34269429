import ServerCursor.Bson.Normal
import ServerCursor.Decode.Basic

/-!
# The two formats

How BSON values and JSON values look to a reader. A BSON value is kept as it is read, and a JSON
value stands for the BSON value with the narrowest integers that hold its numbers, except that a
negative integer always takes 64 bits.
-/

namespace ServerCursor

namespace Value

/-- The words of BSON. -/
def dialect : Dialect where
  nothing := "unit value"
  float := .pointed
  choice := "expected an enum"
  singleKey second :=
    "expected map with a single key, got extra key " ++ inQuotes second
  noKey := .wrongValue (.phrase "empty document") (.phrase "variant name")
  variantFields := "expected a struct"
  bareVariant := .endOfInput
  refusesExcess := false

/-- Bytes are plain in the generic subtype only. -/
def shape : Value → Shape Value
  | null => .nothing
  | bool b => .bool b
  | int32 n => .integer n.toInt
  | int64 n => .integer n.toInt
  | double bits => .float bits
  | string s => .text s
  | array items => .sequence items
  | document fields => .fields fields
  | objectId _ => .foreign (.phrase "objectid")
  | dateTime _ => .foreign (.phrase "datetime")
  | timestamp _ _ => .foreign (.phrase "timestamp")
  | binary subtype bytes => if subtype = 0 then .bytes bytes else .foreign .bytes
  | regex _ _ => .foreign (.phrase "regex")
  | symbol _ => .foreign (.phrase "symbol")
  | code _ => .foreign (.phrase "javascript code")
  | decimal128 _ => .foreign (.phrase "decimal128")
  | minKey => .foreign (.phrase "minkey")
  | maxKey => .foreign (.phrase "maxkey")
  | undefined => .foreign (.phrase "undefined")

instance : Readable Value where
  shape := shape
  toValue v := .ok v.asRead
  dialect := dialect

end Value

namespace Json

/-- The words of JSON. -/
def dialect : Dialect where
  nothing := "null"
  float := .exponential
  choice := "string or map"
  singleKey _ := "map with a single key"
  noKey := .wrongValue .map (.phrase "map with a single key")
  variantFields := "struct variant"
  bareVariant := .wrongKind .bareVariant (.phrase "struct variant")
  refusesExcess := true

/-- Every JSON value has a shape of its own. -/
def shape : Json → Shape Json
  | null => .nothing
  | bool b => .bool b
  | integer n => .integer n
  | float bits => .float bits
  | string s => .text s
  | array items => .sequence items
  | object fields => .fields fields

/-- The BSON integer that an integer stands for. -/
def integerToValue (n : Int) : Except DecodeError Value :=
  if n < 0 then .ok (.int64 (Int64.ofInt n))
  else if n ≤ Int.pow 2 31 - 1 then .ok (.int32 (Int32.ofInt n))
  else if n ≤ Int.pow 2 63 - 1 then .ok (.int64 (Int64.ofInt n))
  else .error (.beyondSigned n)

mutual

/-- The BSON value that a value stands for. -/
def toValue : Json → Except DecodeError Value
  | null => .ok .null
  | bool b => .ok (.bool b)
  | integer n => integerToValue n
  | float bits => .ok (.double bits)
  | string s => .ok (.string s)
  | array items => (itemsToValues items).map .array
  | object fields => (fieldsToValues fields).map .document

/-- The BSON values of the items. -/
def itemsToValues : List Json → Except DecodeError (List Value)
  | [] => .ok []
  | v :: rest => do
    let w ← toValue v
    let ws ← itemsToValues rest
    return w :: ws

/-- The BSON values of the fields, under the same keys. -/
def fieldsToValues : List (String × Json) → Except DecodeError (List (String × Value))
  | [] => .ok []
  | (k, v) :: rest => do
    let w ← toValue v
    let ws ← fieldsToValues rest
    return (k, w) :: ws

end

instance : Readable Json where
  shape := shape
  toValue := toValue
  dialect := dialect

end Json

end ServerCursor
