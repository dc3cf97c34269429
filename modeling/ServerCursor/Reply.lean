import ServerCursor.Address
import ServerCursor.Error
import ServerCursor.Namespace

/-!
# Replies

The answer to a command that opens or continues a cursor: a batch of documents and the number of
the cursor, which is zero once the server has no more results. `checkOk` says whether a command
succeeded, `Reply.ofResponse` reads the batch, and `Reply.toResponse` writes what it reads.
-/

namespace ServerCursor

/-- One batch of results. -/
structure Reply where
  /-- The collection that the cursor iterates. -/
  ns : Namespace
  documents : List Document
  /-- The number of the cursor; zero once the server has no more results. -/
  id : Int64
  address : Address

/-- Whether a value of the field `ok` means success; a value that is neither a number nor a truth
value means nothing. -/
def truthy? : Value → Option Bool
  | .double bits => some (bits == 0x3ff0000000000000)
  | .int32 n => some (n == 1)
  | .int64 n => some (n == 1)
  | .bool b => some b
  | _ => none

/-- Accept the reply to a command if it says that the command succeeded. -/
def checkOk (response : Document) : Except Error Unit :=
  match (response.get? "ok").bind truthy? with
  | none => .error (.invalidReply .noOutcome)
  | some true => .ok ()
  | some false =>
    match CommandError.ofFields response with
    | .ok cause => .error (.command cause)
    | .error _ => .error (.invalidReply (.unreadableFailure response))

/-- Read a document of a batch. -/
def readDocument (v : Value) : Except DecodeError Document :=
  match v.asRead with
  | .document fields => .ok fields
  | w => .error (.notDocument w)

theorem readDocument_document (d : Document) : readDocument (.document d) = .ok d.asRead := by
  simp [readDocument, Value.asRead_document]

/-- Read the documents of a batch. -/
def readBatch (v : Value) : Except DecodeError (List Document) :=
  Decode.listOf readDocument v

/-- Number, namespace and batch of a reply. -/
structure Body where
  id : Int64
  ns : Namespace
  batch : List Document

namespace Body

/-- The fields read so far. -/
structure Partial where
  id : Option Int64
  ns : Option Namespace
  batch : Option (List Document)

/-- Read one field. The batch goes by either of two names, and a failure always gives the later
one. -/
def Partial.read (p : Partial) (name : String) (v : Value) : Except DecodeError Partial :=
  match name with
  | "id" => return { p with id := ← Decode.once "id" p.id (Decode.int64 v) }
  | "ns" => return { p with ns := ← Decode.once "ns" p.ns (Namespace.decode v) }
  | "nextBatch" | "firstBatch" =>
    return { p with batch := ← Decode.once "nextBatch" p.batch (readBatch v) }
  | _ => return p

/-- The body of some fields. -/
def ofFields (fields : Document) : Except DecodeError Body := do
  let p ← Decode.foldFields Partial.read ⟨none, none, none⟩ fields
  return ⟨← Decode.required "id" p.id, ← Decode.required "ns" p.ns,
    ← Decode.required "nextBatch" p.batch⟩

/-- An item of a list of fields, read if it is there. -/
def item {β : Type} (items : List Value) (place : Nat) (read : Value → Except DecodeError β) :
    Except DecodeError β :=
  match items[place]? with
  | some v => read v
  | none => .error (.tooFew place "CursorBody" 3)

/-- The body of a list of the three fields. -/
def ofItems (items : List Value) : Except DecodeError Body := do
  let id ← item items 0 Decode.int64
  let ns ← item items 1 Namespace.decode
  let batch ← item items 2 readBatch
  return ⟨id, ns, batch⟩

/-- Read a body. -/
def decode (v : Value) : Except DecodeError Body :=
  Decode.record "CursorBody" ofFields ofItems v

end Body

/-- Read the field `cursor` into its place. -/
def readCursorField (p : Option Body) (name : String) (v : Value) :
    Except DecodeError (Option Body) :=
  if name = "cursor" then Decode.once "cursor" p (Body.decode v) else .ok p

/-- The body in the field `cursor` of a reply. -/
def bodyOf (response : Document) : Except DecodeError Body := do
  Decode.required "cursor" (← Decode.foldFields readCursorField none response)

namespace Reply

/-- Read the reply to a command that opens or continues a cursor. -/
def ofResponse (response : Document) (address : Address) : Except Error Reply := do
  checkOk response
  match bodyOf response with
  | .ok body => return ⟨body.ns, body.batch, body.id, address⟩
  | .error cause => throw (.invalidReply (.unreadableBatch cause))

/-- Whether the server has no more results. -/
def isExhausted (r : Reply) : Bool :=
  r.id == 0

/-- The response that carries a batch under the given text of a namespace. -/
def responseWith (ns : String) (id : Int64) (batch : List Document) : Document :=
  [("cursor", .document
      [("id", .int64 id), ("ns", .string ns), ("nextBatch", .array (batch.map .document))]),
    ("ok", .int32 1)]

/-- The response that carries a reply. -/
def toResponse (r : Reply) : Document :=
  responseWith r.ns.display r.id r.documents

end Reply

end ServerCursor
