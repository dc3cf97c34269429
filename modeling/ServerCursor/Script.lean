import ServerCursor.Cursor.State

/-!
# A scripted server

A server that answers from a script: requests for the next batch and requests to discard a cursor
each have a list of answers, and a number of checkouts may be made to fail. Each of the three
places where a call can wait may be held, and then nothing is answered there.
-/

namespace ServerCursor

/-- One answer of the script. -/
inductive Scripted where
  | fault (cause : TransportError)
  /-- The server sends a document. -/
  | response (d : Document)

/-- A place where calls wait. -/
inductive Gate where
  | checkout
  /-- For the next batch. -/
  | fetch
  /-- For the server to discard its cursor. -/
  | kill
  deriving DecidableEq, Repr

/-- What the server will answer. -/
structure Script where
  /-- The address under which it answers. -/
  address : Address
  replies : List Scripted
  kills : List Scripted
  /-- How many of the next checkouts fail. -/
  failures : Nat
  /-- The gates that are held. -/
  held : List Gate

namespace Script

/-- Hold a gate. -/
def hold (s : Script) (g : Gate) : Script :=
  { s with held := if s.held.contains g then s.held else g :: s.held }

/-- Open a gate. -/
def openGate (s : Script) (g : Gate) : Script :=
  { s with held := s.held.filter (· != g) }

/-- The gate at which a call waits. -/
def gate : Point → Gate
  | .fetchCheckout _ => .checkout
  | .killCheckout .. => .checkout
  | .fetchReply .. => .fetch
  | .killReply .. => .kill

/-- A transport error without a text of its own. -/
def fault (kind : TransportKind) : Error :=
  .transport ⟨kind, none⟩

/-- A checkout. -/
def checkout (s : Script) : Except Error Unit × Script :=
  if 0 < s.failures then
    (.error (fault .connectionRefused), { s with failures := s.failures - 1 })
  else (.ok (), s)

/-- A request for the next batch; without an answer left the connection ends. -/
def fetch (s : Script) : Except Error Reply × Script :=
  match s.replies with
  | [] => (.error (fault .unexpectedEof), s)
  | .fault cause :: rest => (.error (.transport cause), { s with replies := rest })
  | .response d :: rest => (Reply.ofResponse d s.address, { s with replies := rest })

/-- A request to discard a cursor; without an answer left it succeeds. The older protocol does not
read a response. -/
def kill (s : Script) (protocol : Protocol) : Except Error Unit × Script :=
  match s.kills with
  | [] => (.ok (), s)
  | .fault cause :: rest => (.error (.transport cause), { s with kills := rest })
  | .response d :: rest =>
    (match protocol with
      | .command => checkOk d
      | .legacy => .ok (),
      { s with kills := rest })

/-- What a waiting call is told, if its gate is open. -/
def answer? (s : Script) (protocol : Protocol) (p : Point) : Option (Answer × Script) :=
  if s.held.contains (gate p) then none
  else
    match gate p with
    | .checkout => some (.checkout s.checkout.1, s.checkout.2)
    | .fetch => some (.reply s.fetch.1, s.fetch.2)
    | .kill => some (.kill (s.kill protocol).1, (s.kill protocol).2)

/-- A bound on the answers that one call can get: two for each reply and for the failure after the
last one, and two for discarding the server's cursor. -/
def bound (s : Script) : Nat :=
  2 * s.replies.length + 8

end Script

end ServerCursor
