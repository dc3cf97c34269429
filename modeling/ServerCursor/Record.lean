import ServerCursor.Cursor.State

/-!
# Typed documents

The caller names a type, and documents are read as items of it: as documents, as records of a kind,
or in any way of the caller's own (`Reader`). A batch is read from its front, and the first document
that cannot be read fails the whole batch.
-/

namespace ServerCursor

/-- How a document is read as an item of a type. -/
abbrev Reader (α : Type) := Document → Except DecodeError α

/-- As what documents are read. -/
inductive RecordKind where
  | document
  | item
  /-- A number of 64 bits, perhaps a name, and tags. -/
  | named
  deriving DecidableEq, Repr, Inhabited

/-- A document that has been read. -/
inductive Record where
  | document (d : Document)
  | item (id : Int32)
  /-- A number, perhaps a name, and tags. -/
  | named (id : Int64) (name : Option String) (tags : List String)

namespace Record

/-- The name of the field of the number. -/
def idKey : String := "_id"

/-- Read the number of an item into its place. -/
def readItemField (p : Option Int32) (name : String) (v : Value) :
    Except DecodeError (Option Int32) :=
  if name = idKey then Decode.once idKey p (Decode.int32 v) else .ok p

/-- The fields of a named record read so far. -/
structure Partial where
  id : Option Int64
  name : Option (Option String)
  tags : Option (List String)

/-- Read one field of a named record. -/
def Partial.read (p : Partial) (name : String) (v : Value) : Except DecodeError Partial :=
  match name with
  | "_id" => return { p with id := ← Decode.once "_id" p.id (Decode.int64 v) }
  | "name" => return { p with name := ← Decode.once "name" p.name (Decode.optional Decode.text v) }
  | "tags" => return { p with tags := ← Decode.once "tags" p.tags (Decode.listOf Decode.text v) }
  | _ => return p

/-- How the records of a kind are read. -/
def decode (kind : RecordKind) : Reader Record := fun d =>
  match kind with
  | .document => .ok (.document d.asRead)
  | .item => do
    let id ← Decode.required idKey (← Decode.foldFields readItemField none d)
    return .item id
  | .named => do
    let p ← Decode.foldFields Partial.read ⟨none, none, none⟩ d
    return .named (← Decode.required idKey p.id) (p.name.getD none) (p.tags.getD [])

end Record

end ServerCursor
