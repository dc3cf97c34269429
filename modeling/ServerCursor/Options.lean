import ServerCursor.Bson.ExtendedJson
import ServerCursor.Bson.Normal
import ServerCursor.Decode.Basic

/-!
# Options of a cursor

How many documents a cursor may bring in all, how many it asks for at a time, how long the server
may wait for new ones, and a comment for the server's logs. A duration is a number of nanoseconds;
it is written in whole milliseconds.
-/

namespace ServerCursor

/-- A span of time. -/
structure Duration where
  nanos : Nat
  deriving DecidableEq, Repr

namespace Duration

/-- Whole seconds and nanoseconds. -/
def ofSeconds (seconds nanos : Nat) : Duration :=
  ⟨seconds * 1000000000 + nanos⟩

/-- Whole milliseconds. -/
def ofMillis (millis : Nat) : Duration :=
  ⟨millis * 1000000⟩

/-- The whole milliseconds of a duration. -/
def millis (d : Duration) : Nat :=
  d.nanos / 1000000

/-- The whole seconds of a duration. -/
def seconds (d : Duration) : Nat :=
  d.nanos / 1000000000

/-- The nanoseconds beyond the whole seconds. -/
def subsecond (d : Duration) : Nat :=
  d.nanos % 1000000000

/-- The whole milliseconds as a 32-bit integer, at most the greatest one. -/
def millis32 (d : Duration) : Int32 :=
  Int32.ofNat (min d.millis (Nat.pow 2 31 - 1))

/-- The whole milliseconds in the narrowest integer that holds them, at most the greatest one of
64 bits. -/
def toValue (d : Duration) : Value :=
  if d.millis ≤ Nat.pow 2 31 - 1 then .int32 (Int32.ofNat d.millis)
  else .int64 (Int64.ofNat (min d.millis (Nat.pow 2 63 - 1)))

end Duration

/-- What a cursor is asked to do. -/
structure Options where
  /-- The greatest number of documents in all, whatever its sign; zero sets no limit. -/
  limit : Int32
  /-- The number of documents of one batch; zero leaves it to the server. -/
  batchSize : Int32
  /-- How long the server may wait for new documents. -/
  maxAwait : Option Duration
  /-- A value that the server writes to its logs. -/
  comment : Option Value

namespace Options

/-- No limit, and everything else left to the server. -/
def default : Options := ⟨0, 0, none, none⟩

instance : Inhabited Options := ⟨default⟩

/-- Whether nothing is asked for. -/
def isDefault (o : Options) : Bool :=
  o.limit == 0 && o.batchSize == 0 && o.maxAwait.isNone && o.comment.isNone

/-- The limit without its sign; zero sets no limit. -/
def effectiveLimit (o : Options) : Nat :=
  o.limit.toInt.natAbs

/-- The name of the field of the limit. -/
def limitKey : String := "limit"

/-- The name of the field of the batch size. -/
def batchSizeKey : String := "batchSize"

/-- The name of the field of the waiting time. -/
def maxAwaitKey : String := "maxAwaitTimeMS"

/-- The name of the field of the comment. -/
def commentKey : String := "comment"

/-- The fields; what is absent is left out. -/
def fields (o : Options) : Document :=
  [(limitKey, .int32 o.limit), (batchSizeKey, .int32 o.batchSize)] ++
    (o.maxAwait.map fun d => (maxAwaitKey, d.toValue)).toList ++
    (o.comment.map fun v => (commentKey, v)).toList

/-- The document form. -/
def toDocument (o : Options) : Document :=
  o.fields.asWritten

/-- The JSON form, in which the comment is as it was given. -/
def toJson (o : Options) : Json :=
  (Value.document o.fields).toJson

section Reading

variable {α : Type} [Readable α]

/-- The fields read so far. -/
structure Partial where
  limit : Option Int32
  batchSize : Option Int32
  maxAwait : Option (Option Duration)
  comment : Option (Option Value)

/-- A waiting time in milliseconds, or null. -/
def readMaxAwait (v : α) : Except DecodeError (Option Duration) :=
  Decode.optional (fun w => (Decode.nat64 w).map Duration.ofMillis) v

/-- A comment, or null. -/
def readComment (v : α) : Except DecodeError (Option Value) :=
  Decode.optional Readable.toValue v

/-- Read one field. -/
def Partial.read (p : Partial) (name : String) (v : α) : Except DecodeError Partial :=
  if name = limitKey then
    return { p with limit := ← Decode.once limitKey p.limit (Decode.int32 v) }
  else if name = batchSizeKey then
    return { p with batchSize := ← Decode.once batchSizeKey p.batchSize (Decode.int32 v) }
  else if name = maxAwaitKey then
    return { p with maxAwait := ← Decode.once maxAwaitKey p.maxAwait (readMaxAwait v) }
  else if name = commentKey then
    return { p with comment := ← Decode.once commentKey p.comment (readComment v) }
  else return p

/-- The options of a partial record; what is absent has its default. -/
def Partial.finish (p : Partial) : Options :=
  ⟨p.limit.getD 0, p.batchSize.getD 0, p.maxAwait.getD none, p.comment.getD none⟩

/-- The options of some fields. -/
def ofFields (fields : List (String × α)) : Except DecodeError Options :=
  (Decode.foldFields Partial.read ⟨none, none, none, none⟩ fields).map Partial.finish

/-- Read an item if there is one. -/
def readItem {β : Type} (read : α → Except DecodeError β) : Option α → Except DecodeError Unit
  | some v => (read v).map fun _ => ()
  | none => .ok ()

/-- The options of a list of all four fields. Of a shorter list only the comment is missed, as the
other fields have defaults. -/
def ofItems : List α → Except DecodeError Options
  | limit :: batchSize :: maxAwait :: comment :: excess => do
    let limit' ← Decode.int32 limit
    let batchSize' ← Decode.int32 batchSize
    let maxAwait' ← readMaxAwait maxAwait
    let comment' ← readComment comment
    Decode.endOfItems (limit :: batchSize :: maxAwait :: comment :: excess) excess
      ⟨limit', batchSize', maxAwait', comment'⟩
  | items => do
    readItem Decode.int32 items[0]?
    readItem Decode.int32 items[1]?
    readItem readMaxAwait items[2]?
    throw (.tooFew 3 "CursorOptions" 4)

/-- Read options. -/
def decode (v : α) : Except DecodeError Options :=
  Decode.record "CursorOptions" ofFields ofItems v

end Reading

end Options

end ServerCursor
