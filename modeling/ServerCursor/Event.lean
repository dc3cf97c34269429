import ServerCursor.Error
import ServerCursor.Request

/-!
# Events

What a cursor and its handles tell the log. Each event has a level, a topic, a message and named
fields, all fixed here; where an event is emitted says the step that emits it.
-/

namespace ServerCursor

/-- How urgent an event is. -/
inductive Level where
  /-- Of interest when a fault is sought. -/
  | debug
  /-- A sign of a fault. -/
  | warn
  deriving DecidableEq, Repr

/-- What an event is about. -/
inductive Topic where
  /-- A cursor. -/
  | cursor
  /-- The owners of a resource. -/
  | reference
  deriving DecidableEq, Repr

/-- Something worth telling. -/
inductive Event where
  /-- A cursor was created with a first batch of so many documents. -/
  | created (id : Int64) (ns : Namespace) (protocol : Protocol) (firstBatch : Nat)
  /-- The last batch that the limit allows was taken. -/
  | limitReached (id : Int64) (ns : Namespace) (limit : Nat)
  | exhausted (ns : Namespace)
  | fetching (id : Int64) (ns : Namespace) (protocol : Protocol) (number : Int32)
  | fetched (id : Int64) (ns : Namespace) (returned : Nat)
  | fetchFailed (id : Int64) (ns : Namespace) (cause : Error)
  | fetchCancelled (ns : Namespace)
  /-- A request for the next batch was given up and nobody can discard the server's cursor. -/
  | cancelledUnkilled (id : Int64) (ns : Namespace)
  /-- A cursor was closed while a batch was being fetched. -/
  | closeDeferred (id : Int64) (ns : Namespace)
  | closed (ns : Namespace)
  /-- A cursor was dropped and nobody can discard the server's cursor. -/
  | droppedUnkilled (id : Int64) (ns : Namespace)
  /-- The server's cursor is not discarded because its connection failed. -/
  | killSkipped (id : Int64)
  /-- The server's cursor is not discarded because no connection was to be had. -/
  | killUnrouted (id : Int64) (cause : Error)
  | killed (id : Int64) (ns : Namespace)
  | killFailed (id : Int64) (ns : Namespace) (cause : Error)
  /-- An owner tried to join a resource that has none left. -/
  | retainRefused
  /-- An owner tried to leave a resource that has none left. -/
  | releaseRefused
  /-- A release on a path that shows no errors failed. -/
  | releaseFailed (cause : Error)

namespace Event

/-- How urgent an event is. -/
def level : Event → Level
  | cancelledUnkilled .. | droppedUnkilled .. | retainRefused | releaseRefused
  | releaseFailed _ => .warn
  | _ => .debug

/-- What an event is about. -/
def topic : Event → Topic
  | retainRefused | releaseRefused | releaseFailed _ => .reference
  | _ => .cursor

/-- The message of an event. -/
def message : Event → String
  | created .. => "cursor created"
  | limitReached .. => "cursor limit reached"
  | exhausted _ => "cursor reached the end of its results"
  | fetching .. => "sending getMore"
  | fetched .. => "getMore succeeded"
  | fetchFailed .. => "getMore failed"
  | fetchCancelled _ => "getMore cancelled before it completed"
  | cancelledUnkilled .. =>
    "getMore cancelled outside of a tokio runtime; the server cursor was not killed"
  | closeDeferred .. => "cursor closed during getMore; cleanup deferred to its completion"
  | closed _ => "cursor closed"
  | droppedUnkilled .. =>
    "cursor dropped outside of a tokio runtime; the server cursor was not killed"
  | killSkipped _ => "skipping killCursors on a failed pinned connection"
  | killUnrouted .. => "could not check out a connection to kill the cursor"
  | killed .. => "killed server cursor"
  | killFailed .. => "killCursors failed"
  | retainRefused => "attempted to retain a resource that was already released"
  | releaseRefused => "attempted to release a resource past zero"
  | releaseFailed _ => "failed to release a reference"

/-- The field that names the server's cursor. -/
def idField (id : Int64) : String × String := ("cursor_id", toString id.toInt)

/-- The field that names the collection. -/
def nsField (ns : Namespace) : String × String := ("namespace", ns.display)

/-- The field that shows an error. -/
def errorField (cause : Error) : String × String := ("error", cause.display)

/-- The names and texts of the fields. -/
def fields : Event → List (String × String)
  | created id ns protocol firstBatch =>
    [idField id, nsField ns, ("protocol", protocol.name), ("first_batch", toString firstBatch)]
  | limitReached id ns limit => [idField id, nsField ns, ("limit", toString limit)]
  | exhausted ns => [nsField ns]
  | fetching id ns protocol number =>
    [idField id, nsField ns, ("protocol", protocol.name),
      ("number_to_return", toString number.toInt)]
  | fetched id ns returned => [idField id, nsField ns, ("returned", toString returned)]
  | fetchFailed id ns cause => [idField id, nsField ns, errorField cause]
  | fetchCancelled ns => [nsField ns]
  | cancelledUnkilled id ns => [idField id, nsField ns]
  | closeDeferred id ns => [idField id, nsField ns]
  | closed ns => [nsField ns]
  | droppedUnkilled id ns => [idField id, nsField ns]
  | killSkipped id => [idField id]
  | killUnrouted id cause => [idField id, errorField cause]
  | killed id ns => [idField id, nsField ns]
  | killFailed id ns cause => [idField id, nsField ns, errorField cause]
  | retainRefused => []
  | releaseRefused => []
  | releaseFailed cause => [errorField cause]

end Event

end ServerCursor
