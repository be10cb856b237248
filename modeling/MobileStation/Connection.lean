import MobileStation.Primitive

/-!
# Connections

The connections that share the radio link, one for each transaction of a connection management
protocol. The network names a connection by protocol and transaction identifier, the protocols of
the station by a reference.
-/

namespace MobileStation

/-! ## A single connection -/

/-- The state of a connection. -/
inductive ConnectionState where
  | idle
  /-- The network has not yet accepted the request for it. -/
  | pending
  | dedicated
  | suspended
  | reestablishmentPending
  deriving DecidableEq, Inhabited

namespace ConnectionState

/-- All states. -/
def all : List ConnectionState := [idle, pending, dedicated, suspended, reestablishmentPending]

/-- The state in words. -/
def text : ConnectionState → String
  | idle => "IDLE"
  | pending => "CONN_PEND"
  | dedicated => "DEDICATED"
  | suspended => "CONN_SUSP"
  | reestablishmentPending => "REESTPEND"

/-- The state with this text. -/
def ofText? (text : String) : Option ConnectionState := all.find? (·.text == text)

end ConnectionState

/-- A connection. -/
structure Connection where
  protocol : CmProtocol
  transaction : UInt8
  reference : UInt32
  state : ConnectionState := .idle
  deriving DecidableEq

namespace Connection

/-- The network has not yet accepted the request for the connection. -/
def isPending (c : Connection) : Bool := c.state = .pending

/-- The network names the connection so. -/
def hasKey (c : Connection) (protocol : CmProtocol) (transaction : UInt8) : Bool :=
  c.protocol = protocol && c.transaction = transaction

/-- A primitive about the connection. -/
def primitive (c : Connection) (type : CmPrimitiveType) : CmPrimitive :=
  { type := type, protocol := c.protocol, reference := c.reference, transaction := c.transaction }

end Connection

/-! ## The table -/

/-- Why a connection cannot be added. -/
inductive ConnectionError where
  /-- The table is full. -/
  | exhausted (capacity : Nat)
  /-- The reference names a connection already. -/
  | duplicateReference (reference : UInt32)
  /-- The protocol has the transaction already. -/
  | duplicateTransaction (protocol : CmProtocol) (transaction : UInt8)
  deriving DecidableEq

/-- Wording of the error. -/
def ConnectionError.message : ConnectionError → String
  | exhausted capacity => s!"Connection registry exhausted ({capacity} connections)"
  | duplicateReference reference =>
    s!"Connection reference {reference.toNat} already in use"
  | duplicateTransaction protocol transaction =>
    s!"{protocol.text} transaction {transaction.toNat} already in use"

/-- The connections of a station, oldest first. -/
structure ConnectionTable where
  connections : List Connection := []
  /-- The most connections there may be. -/
  capacity : Nat := 32
  deriving DecidableEq

namespace ConnectionTable

/-- The table has no connection. -/
def isEmpty (t : ConnectionTable) : Bool := t.connections.isEmpty

/-- The connection that the network names so. -/
def findByKey? (t : ConnectionTable) (protocol : CmProtocol) (transaction : UInt8) :
    Option Connection :=
  t.connections.find? (·.hasKey protocol transaction)

/-- The connection with this reference. -/
def findByReference? (t : ConnectionTable) (reference : UInt32) : Option Connection :=
  t.connections.find? (·.reference == reference)

/-- Some connection has this reference. -/
def hasReference (t : ConnectionTable) (reference : UInt32) : Bool :=
  (t.findByReference? reference).isSome

/-- The first connection whose request the network has not yet accepted. -/
def pending? (t : ConnectionTable) : Option Connection := t.connections.find? (·.isPending)

/-- Adds a connection, unless the table is full or the reference or the transaction is in use. The
reasons are tried in this order. -/
def add (t : ConnectionTable) (c : Connection) : Except ConnectionError ConnectionTable :=
  if t.capacity ≤ t.connections.length then .error (.exhausted t.capacity)
  else if t.hasReference c.reference then .error (.duplicateReference c.reference)
  else if (t.findByKey? c.protocol c.transaction).isSome then
    .error (.duplicateTransaction c.protocol c.transaction)
  else .ok { t with connections := t.connections ++ [c] }

/-- Changes the first connection that `p` holds of. -/
def modifyFirst (p : Connection → Bool) (f : Connection → Connection) :
    List Connection → List Connection
  | [] => []
  | c :: rest => if p c then f c :: rest else c :: modifyFirst p f rest

/-- Changes the connection with this reference. -/
def modifyByReference (t : ConnectionTable) (reference : UInt32) (f : Connection → Connection) :
    ConnectionTable :=
  { t with connections := modifyFirst (·.reference == reference) f t.connections }

/-- Changes the connection that the network names so. -/
def modifyByKey (t : ConnectionTable) (protocol : CmProtocol) (transaction : UInt8)
    (f : Connection → Connection) : ConnectionTable :=
  { t with connections := modifyFirst (·.hasKey protocol transaction) f t.connections }

/-- Changes the first pending connection. -/
def modifyPending (t : ConnectionTable) (f : Connection → Connection) : ConnectionTable :=
  { t with connections := modifyFirst (·.isPending) f t.connections }

/-- Drops the connection with this reference. -/
def remove (t : ConnectionTable) (reference : UInt32) : ConnectionTable :=
  { t with connections := t.connections.eraseP (·.reference == reference) }

/-- Drops every connection. -/
def clear (t : ConnectionTable) : ConnectionTable := { t with connections := [] }

/-! ## Release -/

/-- Which connections a release is for. -/
inductive ReleaseFilter where
  | all
  | pendingOnly
  deriving DecidableEq

/-- The release is for this connection. -/
def ReleaseFilter.selects : ReleaseFilter → Connection → Bool
  | all, _ => true
  | pendingOnly, c => c.isPending

/-- Drops the connections that a release is for. -/
def release (t : ConnectionTable) (filter : ReleaseFilter) : ConnectionTable :=
  { t with connections := t.connections.filter fun c => !filter.selects c }

/-- What the owners of the connections are told of a release: an error indication if `isError`, a
release indication otherwise. -/
def releasePrimitives (t : ConnectionTable) (filter : ReleaseFilter) (cause : UInt8)
    (isError : Bool) : List CmPrimitive :=
  let type := if isError then .errorIndication else .releaseIndication
  (t.connections.filter filter.selects).map fun c => { c.primitive type with cause := cause }

end ConnectionTable

end MobileStation
