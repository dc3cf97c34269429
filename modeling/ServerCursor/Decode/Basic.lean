import ServerCursor.Bson.Display
import ServerCursor.Json.Basic
import ServerCursor.Text.Quoted

/-!
# Reading typed data

Typed data is read from two formats, BSON values and JSON values. What a reader has to know of a
value is its `Shape`; the few words and habits in which the formats differ are a `Dialect`. The
readers of single values stand here, those of records beside the types they produce.

A failure is a `DecodeError`; its text is fixed by `DecodeError.message` alone. A record is read in
the order in which its fields are written, and the first failure is the answer.
-/

namespace ServerCursor

/-- What stands where something else was expected. -/
inductive Found where
  /-- The null value, under the name that the format gives it. -/
  | nothing (name : String)
  | bool (b : Bool)
  | integer (n : Int)
  /-- A double, as the format writes it. -/
  | float (digits : String)
  | text (s : String)
  | bytes
  | sequence
  | map
  /-- The name of a variant without its fields. -/
  | bareVariant
  /-- Anything else, in words. -/
  | phrase (words : String)
  deriving DecidableEq, Repr

/-- What a reader expects. -/
inductive Expected where
  | int32
  | int64
  | nat16
  | nat64
  | text
  | sequence
  /-- A record with the given name. -/
  | record (name : String)
  /-- Anything else, in words. -/
  | phrase (words : String)
  deriving DecidableEq, Repr

/-- Why a value could not be read. -/
inductive DecodeError where
  /-- A value of another kind. -/
  | wrongKind (found : Found) (expected : Expected)
  /-- A value of the right kind that is out of range. -/
  | wrongValue (found : Found) (expected : Expected)
  | missingField (name : String)
  | duplicateField (name : String)
  /-- A variant that is not the one known. -/
  | unknownVariant (name known : String)
  /-- A list too short for a record of so many fields. -/
  | tooFew (length : Nat) (record : String) (fields : Nat)
  /-- A list too long for a record. -/
  | tooMany (length : Nat)
  /-- A text that is no namespace. -/
  | namespaceParts
  /-- A natural number beyond the signed integers. -/
  | beyondSigned (n : Int)
  /-- An element of a batch that is no document. -/
  | notDocument (v : Value)
  /-- The input ends where a value should follow. -/
  | endOfInput
  /-- What a type has to say that reads its documents in a way of its own. -/
  | custom (text : String)

/-- The name of what was found. -/
def Found.describe : Found → String
  | nothing name => name
  | bool b => "boolean `" ++ (if b then "true" else "false") ++ "`"
  | integer n => "integer `" ++ toString n ++ "`"
  | float digits => "floating point `" ++ digits ++ "`"
  | text s => "string " ++ Text.quoted s
  | bytes => "byte array"
  | sequence => "sequence"
  | map => "map"
  | bareVariant => "unit variant"
  | phrase words => words

/-- The name of what was expected. -/
def Expected.describe : Expected → String
  | int32 => "i32"
  | int64 => "i64"
  | nat16 => "u16"
  | nat64 => "u64"
  | text => "a string"
  | sequence => "a sequence"
  | record name => "struct " ++ name
  | phrase words => words

/-- The text of a failure. -/
def DecodeError.message : DecodeError → String
  | wrongKind found expected =>
    "invalid type: " ++ found.describe ++ ", expected " ++ expected.describe
  | wrongValue found expected =>
    "invalid value: " ++ found.describe ++ ", expected " ++ expected.describe
  | missingField name => "missing field `" ++ name ++ "`"
  | duplicateField name => "duplicate field `" ++ name ++ "`"
  | unknownVariant name known => "unknown variant `" ++ name ++ "`, expected `" ++ known ++ "`"
  | tooFew length record fields =>
    "invalid length " ++ toString length ++ ", expected struct " ++ record ++ " with " ++
      toString fields ++ " elements"
  | tooMany length => "invalid length " ++ toString length ++ ", expected fewer elements in array"
  | namespaceParts => "Missing one or more fields in namespace"
  | beyondSigned n => "cannot represent " ++ toString n ++ " as a signed number"
  | notDocument v =>
    "invalid type: map, expected expected document, found extended JSON data type: " ++ v.display
  | endOfInput => "end of stream"
  | custom text => text

/-- What a reader sees of a value whose parts are of the type `α`. -/
inductive Shape (α : Type) where
  | nothing
  | bool (b : Bool)
  /-- An integer of any width. -/
  | integer (n : Int)
  | float (bits : UInt64)
  | text (s : String)
  | bytes (bytes : List UInt8)
  | sequence (items : List α)
  | fields (fields : List (String × α))
  /-- A value of a kind that only its own format knows, with what is seen of it where a variant is
  read. Everywhere else it reads as keys and values, none of which a record knows. -/
  | foreign (kind : Found)

/-- The words and habits in which the formats differ. -/
structure Dialect where
  /-- The name of the null value. -/
  nothing : String
  /-- How a double is written. -/
  float : Decimal.Layout
  /-- What is expected where a variant is read. -/
  choice : String
  /-- What is expected where a variant has a second key. -/
  singleKey : String → String
  /-- The failure of a variant without any key. -/
  noKey : DecodeError
  /-- What is expected as the fields of a variant. -/
  variantFields : String
  /-- The failure of a variant that is only named. -/
  bareVariant : DecodeError
  /-- Whether a list longer than the record is refused. -/
  refusesExcess : Bool

/-- A format from which typed data is read. -/
class Readable (α : Type) where
  /-- What a reader sees of a value. -/
  shape : α → Shape α
  /-- The BSON value that a value stands for. -/
  toValue : α → Except DecodeError Value
  /-- The words of the format. -/
  dialect : Dialect

namespace Decode

variable {α : Type} [Readable α]

/-- What a message says of a value, given what it says of a foreign one. -/
def foundWith (foreign : Found → Found) (v : α) : Found :=
  match Readable.shape v with
  | .nothing => .nothing (Readable.dialect α).nothing
  | .bool b => .bool b
  | .integer n => .integer n
  | .float bits => .float ((Readable.dialect α).float.render bits)
  | .text s => .text s
  | .bytes _ => .bytes
  | .sequence _ => .sequence
  | .fields _ => .map
  | .foreign kind => foreign kind

/-- What a message says of a value. -/
def found (v : α) : Found :=
  foundWith (fun _ => .map) v

/-- Refuse a value of another kind. -/
def refuse {β : Type} (v : α) (expected : Expected) : Except DecodeError β :=
  .error (.wrongKind (found v) expected)

/-- Refuse a value where a variant or its content is read. There a foreign value is known by its
kind. -/
def refuseVariant {β : Type} (v : α) (expected : String) : Except DecodeError β :=
  .error (.wrongKind (foundWith id v) (.phrase expected))

/-- An integer between two bounds, ends included. -/
def integerIn (low high : Int) (expected : Expected) (v : α) : Except DecodeError Int :=
  match Readable.shape v with
  | .integer n =>
    if low ≤ n ∧ n ≤ high then .ok n else .error (.wrongValue (.integer n) expected)
  | _ => refuse v expected

/-- An integer of 32 bits. -/
def int32 (v : α) : Except DecodeError Int32 :=
  (integerIn (-Int.pow 2 31) (Int.pow 2 31 - 1) .int32 v).map Int32.ofInt

/-- An integer of 64 bits. -/
def int64 (v : α) : Except DecodeError Int64 :=
  (integerIn (-Int.pow 2 63) (Int.pow 2 63 - 1) .int64 v).map Int64.ofInt

/-- A natural number of 16 bits. -/
def nat16 (v : α) : Except DecodeError UInt16 :=
  (integerIn 0 (Int.pow 2 16 - 1) .nat16 v).map fun n => UInt16.ofNat n.toNat

/-- A natural number of 64 bits. -/
def nat64 (v : α) : Except DecodeError Nat :=
  (integerIn 0 (Int.pow 2 64 - 1) .nat64 v).map Int.toNat

/-- A text; plain bytes are one if they are UTF-8. -/
def text (v : α) : Except DecodeError String :=
  match Readable.shape v with
  | .text s => .ok s
  | .bytes bytes =>
    match String.fromUTF8? (ByteArray.mk bytes.toArray) with
    | some s => .ok s
    | none => .error (.wrongValue .bytes .text)
  | _ => refuse v .text

/-- A value that may be null. -/
def optional {β : Type} (read : α → Except DecodeError β) (v : α) :
    Except DecodeError (Option β) :=
  match Readable.shape v with
  | .nothing => .ok none
  | _ => (read v).map some

/-- A list, read from its front. -/
def listOf {β : Type} (read : α → Except DecodeError β) (v : α) : Except DecodeError (List β) :=
  match Readable.shape v with
  | .sequence items => items.mapM read
  | _ => refuse v .sequence

/-- Read a field into its place, which must still be empty. -/
def once {β : Type} (name : String) (place : Option β) (read : Except DecodeError β) :
    Except DecodeError (Option β) :=
  if place.isSome then .error (.duplicateField name) else read.map some

/-- The content of a place that must be filled. -/
def required {β : Type} (name : String) : Option β → Except DecodeError β
  | some b => .ok b
  | none => .error (.missingField name)

/-- Read fields one after the other into a partial record. -/
def foldFields {σ : Type} (step : σ → String → α → Except DecodeError σ) (start : σ)
    (fields : List (String × α)) : Except DecodeError σ :=
  fields.foldlM (fun s f => step s f.1 f.2) start

/-- A record, written as keys and values or as a list of its fields in order. -/
def record {β : Type} (name : String) (ofFields : List (String × α) → Except DecodeError β)
    (ofItems : List α → Except DecodeError β) (v : α) : Except DecodeError β :=
  match Readable.shape v with
  | .fields fields => ofFields fields
  | .foreign _ => ofFields []
  | .sequence items => ofItems items
  | _ => refuse v (.record name)

/-- Hand out the result of a list that was read to its end, unless the format refuses the
excess. -/
def endOfItems {β : Type} (items excess : List α) (b : β) : Except DecodeError β :=
  if (Readable.dialect α).refusesExcess && !excess.isEmpty then .error (.tooMany items.length)
  else .ok b

end Decode

end ServerCursor
