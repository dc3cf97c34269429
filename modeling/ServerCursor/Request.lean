import ServerCursor.Namespace
import ServerCursor.Options

/-!
# Requests

What a cursor sends. A cursor asks for the next batch or tells the server to discard the server's
cursor, and it says so in one of two protocols: as a command with a body, or as a wire message of
its own to servers that know no such commands.

`numberToReturn` is the number of documents asked for. Its sign matters to the older protocol
only; the command carries its absolute value.
-/

namespace ServerCursor

/-- How a cursor talks to its server. -/
inductive Protocol where
  | command
  | legacy
  deriving DecidableEq, Repr, Inhabited

namespace Protocol

/-- The least version of the wire format whose servers know the commands. -/
def leastCommandVersion : Int32 := 4

/-- The protocol for a server; one of unknown version knows the commands. -/
def ofWireVersion : Option Int32 → Protocol
  | some version => if version < leastCommandVersion then legacy else command
  | none => command

/-- The name of a protocol. -/
def name : Protocol → String
  | command => "command"
  | legacy => "legacy"

end Protocol

/-- What goes over a connection. -/
inductive Message where
  /-- A command for a database. -/
  | command (db : String) (body : Document)
  /-- A wire message that asks for the next batch. -/
  | getMore (ns : Namespace) (id : Int64) (number : Int32)
  /-- A wire message that discards cursors. -/
  | killCursors (ns : Namespace) (ids : List Int64)

/-- The documents that a limit still allows; zero if it has been reached. -/
def allowance (limit : Nat) (received : Int) : Int :=
  max (limit - received) 0

/-- The greatest 32-bit integer, or a smaller one if that is given. -/
def clampInt32 (n : Int) : Int32 :=
  Int32.ofInt (min n (Int.pow 2 31 - 1))

/-- The number of documents to ask for. Under a limit it is what the limit still allows, or the
batch size with its sign if that is smaller in size; without a limit it is the batch size. -/
def numberToReturn (limit : Nat) (batchSize : Int32) (received : Int) : Int32 :=
  if limit = 0 then batchSize
  else if batchSize ≠ 0 ∧ (batchSize.toInt.natAbs : Int) < allowance limit received then batchSize
  else clampInt32 (allowance limit received)

/-- The size of a number of documents; the least 32-bit integer has none and takes the
greatest. -/
def sizeInt32 (n : Int32) : Int32 :=
  clampInt32 n.toInt.natAbs

/-- What every request of a cursor has in common. -/
structure Requester where
  ns : Namespace
  maxAwait : Option Duration
  comment : Option Value
  protocol : Protocol

namespace Requester

/-- The command that asks for the next batch. What is absent or zero is left out. -/
def getMoreBody (r : Requester) (id : Int64) (number : Int32) : Document :=
  [("getMore", .int64 id), ("collection", .string r.ns.coll)] ++
    (if number = 0 then [] else [("batchSize", .int32 (sizeInt32 number))]) ++
    (r.maxAwait.map fun d => ("maxTimeMS", Value.int32 d.millis32)).toList ++
    (r.comment.map fun v => ("comment", v)).toList

/-- The command that discards a cursor. -/
def killBody (r : Requester) (id : Int64) : Document :=
  [("killCursors", .string r.ns.coll), ("cursors", .array [.int64 id])]

/-- The message that asks for the next batch. -/
def getMore (r : Requester) (id : Int64) (number : Int32) : Message :=
  match r.protocol with
  | .command => .command r.ns.db (r.getMoreBody id number)
  | .legacy => .getMore r.ns id number

/-- The message that discards a cursor. -/
def kill (r : Requester) (id : Int64) : Message :=
  match r.protocol with
  | .command => .command r.ns.db (r.killBody id)
  | .legacy => .killCursors r.ns [id]

end Requester

end ServerCursor
