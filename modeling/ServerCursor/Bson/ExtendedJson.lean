import ServerCursor.Bson.Basic
import ServerCursor.Decimal.Wide
import ServerCursor.Json.Basic

/-!
# BSON values as JSON

Where a value stands inside a JSON text, integers and doubles are numbers, a double without digits
is null, and each kind that JSON does not know is an object with one key that names it.
-/

namespace ServerCursor.Value

/-- An object with one key. -/
def tagged (key : String) (v : Json) : Json :=
  .object [(key, v)]

/-- Bytes of the generic subtype are a list of numbers, all others a tagged text. -/
def binaryJson (subtype : UInt8) (bytes : List UInt8) : Json :=
  if subtype = 0 then .array (bytes.map fun b => .integer b.toNat)
  else tagged "$binary" (.object
    [("base64", .string (Text.base64OfBytes bytes)),
      ("subType", .string (Text.hexOfBytes [subtype]))])

/-- A double is a number if it has digits. -/
def doubleJson (bits : UInt64) : Json :=
  match Decimal.Double.ofBits bits with
  | .nan | .infinite _ => .null
  | _ => .float bits

mutual

/-- The JSON value that stands for a value. -/
def toJson : Value → Json
  | null => .null
  | bool b => .bool b
  | int32 n => .integer n.toInt
  | int64 n => .integer n.toInt
  | double bits => doubleJson bits
  | string s => .string s
  | array items => .array (itemsToJson items)
  | document fields => .object (fieldsToJson fields)
  | objectId bytes => tagged "$oid" (.string (Text.hexOfBytes bytes))
  | dateTime millis =>
    tagged "$date" (tagged "$numberLong" (.string (toString millis.toInt)))
  | timestamp time increment =>
    tagged "$timestamp" (.object [("t", .integer time.toNat), ("i", .integer increment.toNat)])
  | binary subtype bytes => binaryJson subtype bytes
  | regex pattern options =>
    tagged "$regularExpression"
      (.object [("pattern", .string pattern), ("options", .string options)])
  | symbol s => tagged "$symbol" (.string s)
  | code s => tagged "$code" (.string s)
  | decimal128 bytes => tagged "$numberDecimal" (.string (Decimal.renderWide bytes))
  | minKey => tagged "$minKey" (.integer 1)
  | maxKey => tagged "$maxKey" (.integer 1)
  | undefined => tagged "$undefined" (.bool true)

/-- The JSON values of the items. -/
def itemsToJson : List Value → List Json
  | [] => []
  | v :: rest => toJson v :: itemsToJson rest

/-- The JSON values of the fields, under the same keys. -/
def fieldsToJson : List (String × Value) → List (String × Json)
  | [] => []
  | (k, v) :: rest => (k, toJson v) :: fieldsToJson rest

end

end ServerCursor.Value
