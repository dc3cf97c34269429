import ServerCursor.Decode.Formats
import ServerCursor.Namespace

/-!
# Errors

An error is one of six causes. Its text is fixed by `Error.message`, and its labels come from the
server: only a failed command has any, and each counts once. `Error.display` shows both. A set of
labels may be listed in any order; of its texts this is the one in which two or more are sorted.
-/

namespace ServerCursor

/-- A command that the server answered with a failure. -/
structure CommandError where
  code : Int32
  /-- The name of the number, or nothing. -/
  codeName : String
  message : String
  /-- The labels in the server's order. -/
  labels : List String
  deriving DecidableEq, Repr, Inhabited

/-- The kinds of failed transport that have a text of their own. -/
inductive TransportKind where
  | connectionReset
  | connectionRefused
  | brokenPipe
  | timedOut
  | unexpectedEof
  | other
  deriving DecidableEq, Repr, Inhabited

/-- A failure of the transport. -/
structure TransportError where
  kind : TransportKind
  /-- A text that stands in for that of the kind. -/
  text : Option String
  deriving DecidableEq, Repr, Inhabited

/-- Why a use was refused. -/
inductive IllegalState where
  | closed
  | fetching
  /-- The connection to which the cursor is bound has failed. -/
  | connectionFailed
  /-- The cursor was closed while this call was fetching. -/
  | closedWhileFetching
  /-- An owner cannot join a resource that has none left. -/
  | retainReleased
  /-- An owner cannot leave a resource that has none left. -/
  | releaseReleased
  deriving DecidableEq, Repr, Inhabited

/-- What is wrong with a reply. -/
inductive InvalidReply where
  /-- A text that names no collection. -/
  | namespaceText (text : String)
  /-- There is no field that says whether the command succeeded. -/
  | noOutcome
  /-- The command failed, but the failure cannot be read. -/
  | unreadableFailure (reply : Document)
  /-- The command succeeded, but the batch cannot be read. -/
  | unreadableBatch (cause : DecodeError)

/-- Any error of the library. -/
inductive Error where
  /-- A document cannot be read as the type that was asked for. -/
  | decode (cause : DecodeError)
  /-- The server answered a command with a failure. -/
  | command (cause : CommandError)
  | transport (cause : TransportError)
  /-- The server sent a reply that makes no sense. -/
  | invalidReply (cause : InvalidReply)
  /-- Something was used that can no longer be used. -/
  | illegalState (cause : IllegalState)
  /-- A cursor has neither a connection nor a source of them. -/
  | noRoute

/-- Code, name and description. -/
def CommandError.display (e : CommandError) : String :=
  "Error code " ++ toString e.code.toInt ++ " (" ++ e.codeName ++ "): " ++ e.message

/-- The text of a kind of failed transport. -/
def TransportKind.message : TransportKind → String
  | connectionReset => "connection reset"
  | connectionRefused => "connection refused"
  | brokenPipe => "broken pipe"
  | timedOut => "timed out"
  | unexpectedEof => "unexpected end of file"
  | other => "other error"

/-- The text of a failed transport. -/
def TransportError.message (e : TransportError) : String :=
  e.text.getD e.kind.message

/-- The text of a refused use. -/
def IllegalState.message : IllegalState → String
  | closed => "the cursor has been closed"
  | fetching => "a getMore is already in progress on this cursor"
  | connectionFailed => "the cursor's connection failed and it can no longer be iterated"
  | closedWhileFetching => "The cursor was closed before getMore completed"
  | retainReleased => "cannot retain a reference that has already been released"
  | releaseReleased => "cannot release a reference whose count is already zero"

/-- The text of an invalid reply. -/
def InvalidReply.message : InvalidReply → String
  | namespaceText text =>
    "invalid namespace " ++ Text.quoted text ++ ": missing one or more fields"
  | noOutcome => "command reply is missing a numeric \"ok\" field"
  | unreadableFailure reply => "command failed without an error code: " ++ reply.display
  | unreadableBatch cause => "invalid cursor reply: " ++ cause.message

namespace Error

/-- The text of an error without its labels. -/
def message : Error → String
  | decode cause => cause.message
  | command cause => "Command failed: " ++ cause.display
  | transport cause => "I/O error: " ++ cause.message
  | invalidReply cause =>
    "The server returned an invalid reply to a database operation: " ++ cause.message
  | illegalState cause => "Illegal state: " ++ cause.message
  | noRoute => "Internal error: cursor has neither a pinned connection nor a connection source"

/-- Put a text into a sorted list in which no text occurs twice. -/
def insertLabel (label : String) : List String → List String
  | [] => [label]
  | other :: rest =>
    if label = other then other :: rest
    else if label < other then label :: other :: rest
    else other :: insertLabel label rest

/-- The labels of an error, sorted, each once. -/
def labels : Error → List String
  | command cause => cause.labels.foldr insertLabel []
  | _ => []

/-- Whether an error has a label. -/
def hasLabel (e : Error) (label : String) : Bool :=
  e.labels.contains label

/-- The text of an error with its labels. -/
def display (e : Error) : String :=
  "Kind: " ++ e.message ++ ", labels: \x7b" ++ commaSeparated (e.labels.map Text.quoted) ++ "\x7d"

/-- Whether something was used that can no longer be used. -/
def isIllegalState : Error → Bool
  | illegalState _ => true
  | _ => false

/-- Whether the transport failed. -/
def isNetwork : Error → Bool
  | transport _ => true
  | _ => false

/-- Whether the server answered a command with a failure. -/
def isServer : Error → Bool
  | command _ => true
  | _ => false

/-- The numbers by which a server says that it does not know a cursor. -/
def cursorNotFoundCodes : List Int32 := [43, 237]

/-- Whether the server does not know the cursor. -/
def isCursorNotFound : Error → Bool
  | command cause => cursorNotFoundCodes.contains cause.code
  | _ => false

/-- The number of a failed command. -/
def code? : Error → Option Int32
  | command cause => some cause.code
  | _ => none

theorem mem_insertLabel {label other : String} {labels : List String} :
    label ∈ insertLabel other labels ↔ label = other ∨ label ∈ labels := by
  induction labels with
  | nil => simp [insertLabel]
  | cons l rest ih =>
    unfold insertLabel
    split
    · rename_i h; subst h; simp
    · split
      · simp
      · simp [ih]; grind

theorem mem_labels_command {label : String} {cause : CommandError} :
    label ∈ (command cause).labels ↔ label ∈ cause.labels := by
  simp only [labels]
  induction cause.labels with
  | nil => simp
  | cons l rest ih => simp [mem_insertLabel, ih]

end Error

/-- The namespace that a text names. -/
def Namespace.parse (s : String) : Except Error Namespace :=
  match Namespace.parse? s with
  | some ns => .ok ns
  | none => .error (.invalidReply (.namespaceText s))

section Reading

variable {α : Type} [Readable α]

/-- The fields of a failed command read so far. -/
structure CommandError.Partial where
  code : Option Int32
  codeName : Option String
  message : Option String
  labels : Option (List String)

/-- Read one field. -/
def CommandError.Partial.read (p : Partial) (name : String) (v : α) :
    Except DecodeError Partial :=
  match name with
  | "code" => return { p with code := ← Decode.once "code" p.code (Decode.int32 v) }
  | "codeName" => return { p with codeName := ← Decode.once "codeName" p.codeName (Decode.text v) }
  | "errmsg" => return { p with message := ← Decode.once "errmsg" p.message (Decode.text v) }
  | "errorLabels" =>
    return { p with labels := ← Decode.once "errorLabels" p.labels (Decode.listOf Decode.text v) }
  | _ => return p

/-- The failed command of some fields; only the number is required. -/
def CommandError.ofFields (fields : List (String × α)) : Except DecodeError CommandError := do
  let p ← Decode.foldFields CommandError.Partial.read ⟨none, none, none, none⟩ fields
  return ⟨← Decode.required "code" p.code, p.codeName.getD "", p.message.getD "", p.labels.getD []⟩

end Reading

end ServerCursor
