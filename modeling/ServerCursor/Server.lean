import ServerCursor.Address

/-!
# Servers and connections

What is known of a server and of a connection to it when a cursor is opened: the kind of server,
and the greatest version of the wire format that it understands.
-/

namespace ServerCursor

/-- The kind of a server. -/
inductive ServerKind where
  | standalone
  /-- A router. -/
  | mongos
  /-- The writable member of a replica set. -/
  | primary
  /-- A readable member of a replica set. -/
  | secondary
  /-- A load balancer, behind which every operation of a cursor needs the same connection. -/
  | loadBalancer
  /-- A server that has not answered yet. -/
  | unknown
  deriving DecidableEq, Repr, Inhabited

/-- What a source knows of its server. -/
structure ServerDescription where
  address : Address
  kind : ServerKind
  /-- The greatest version of the wire format. -/
  wireVersion : Option Int32
  deriving DecidableEq, Repr

/-- A server of which nothing is known. -/
def ServerDescription.blank : ServerDescription := ⟨Address.localhost, .unknown, none⟩

/-- What is known of a connection. -/
structure ConnectionDescription where
  /-- The number that the client gave it. -/
  number : UInt32
  address : Address
  kind : ServerKind
  wireVersion : Option Int32
  deriving DecidableEq, Repr

/-- A connection of which nothing is known. -/
def ConnectionDescription.blank : ConnectionDescription := ⟨0, Address.localhost, .unknown, none⟩

instance : Inhabited ServerDescription := ⟨.blank⟩

instance : Inhabited ConnectionDescription := ⟨.blank⟩

end ServerCursor
