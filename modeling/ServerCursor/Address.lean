import ServerCursor.Decode.Basic

/-!
# Server addresses

A host and perhaps a port. An address is written as the one variant `Tcp` with its two fields; an
absent port is written as null.
-/

namespace ServerCursor

/-- The address of a server. -/
structure Address where
  /-- The name or number of the host. -/
  host : String
  /-- The port, if it is given. -/
  port : Option UInt16
  deriving DecidableEq, Repr

namespace Address

/-- The port of an address that gives none. -/
def defaultPort : UInt16 := 27017

/-- The local host without a port. -/
def localhost : Address := ⟨"localhost", none⟩

instance : Inhabited Address := ⟨localhost⟩

/-- The port that is connected to. -/
def effectivePort (a : Address) : UInt16 :=
  a.port.getD defaultPort

/-- Host and port with a colon between them. -/
def display (a : Address) : String :=
  a.host ++ ":" ++ toString a.effectivePort.toNat

/-- The name of the only variant. -/
def variant : String := "Tcp"

/-- The BSON form. -/
def toValue (a : Address) : Value :=
  let port : Value := match a.port with
    | some p => .int32 (Int32.ofNat p.toNat)
    | none => .null
  .document [(variant, .document [("host", .string a.host), ("port", port)])]

/-- The JSON form. -/
def toJson (a : Address) : Json :=
  let port : Json := match a.port with
    | some p => .integer p.toNat
    | none => .null
  .object [(variant, .object [("host", .string a.host), ("port", port)])]

section Reading

variable {α : Type} [Readable α]

/-- The fields read so far. -/
structure Partial where
  host : Option String
  port : Option (Option UInt16)

/-- Read one field. -/
def Partial.read (p : Partial) (name : String) (v : α) : Except DecodeError Partial :=
  match name with
  | "host" => return { p with host := ← Decode.once "host" p.host (Decode.text v) }
  | "port" =>
    return { p with port := ← Decode.once "port" p.port (Decode.optional Decode.nat16 v) }
  | _ => return p

/-- The address of the fields of the variant. -/
def ofFields (fields : List (String × α)) : Except DecodeError Address := do
  let p ← Decode.foldFields Partial.read ⟨none, none⟩ fields
  return ⟨← Decode.required "host" p.host, p.port.getD none⟩

/-- The address of a variant that was recognised by its name. -/
def ofVariant (name : String) (content : Option α) : Except DecodeError Address :=
  if name ≠ variant then .error (.unknownVariant name variant)
  else match content with
    | none => .error (Readable.dialect α).bareVariant
    | some v => match Readable.shape v with
      | .fields fields => ofFields fields
      | _ => Decode.refuseVariant v (Readable.dialect α).variantFields

/-- Read an address. -/
def decode (v : α) : Except DecodeError Address :=
  match Readable.shape v with
  | .text name => ofVariant name (none : Option α)
  | .fields [] => .error (Readable.dialect α).noKey
  | .fields [(name, content)] => ofVariant name (some content)
  | .fields (_ :: (second, _) :: _) =>
    .error (.wrongValue .map (.phrase ((Readable.dialect α).singleKey second)))
  | _ => Decode.refuseVariant v (Readable.dialect α).choice

end Reading

end Address

end ServerCursor
