import MobileStation.Octets
import MobileStation.Message.Error

/-!
# Message headers

Two octets stand in front of every layer 3 message: the protocol discriminator with a half octet of
its own, and the message type.
-/

namespace MobileStation

open Octets

/-- The two octets in front of a message, as received. -/
structure Header where
  protocolOctet : UInt8
  typeOctet : UInt8
  deriving DecidableEq

namespace Header

/-- Takes the header off the front of `data`. -/
def read : Octets → Except HeaderError (Header × Octets)
  | a :: b :: rest => .ok (⟨a, b⟩, rest)
  | data => .error (.tooShort 2 data.length)

/-- The protocol discriminator. -/
def discriminator (h : Header) : Nat := low h.protocolOctet

/-- The protocol, if it is a known one. -/
def protocol? (h : Header) : Option Protocol := Protocol.ofCode? h.discriminator

/-- The skip indicator of a mobility management message. -/
def skipIndicator (h : Header) : Nat := high h.protocolOctet

/-- The transaction identifier as the receiving side counts it: the flag in its top bit is that of
the sender and is turned round. -/
def transaction (h : Header) : UInt8 := UInt8.ofNat ((high h.protocolOctet + 8) % 16)

/-- The message type octet without the bit that carries the send sequence number. -/
def typeCode (h : Header) : Nat :=
  128 * (h.typeOctet.toNat / 128) + h.typeOctet.toNat % 64

/-- The mobility management message type. -/
def messageType (h : Header) : Except HeaderError MessageType :=
  match MessageType.ofCode? h.typeCode with
  | some type => .ok type
  | none => .error (.invalidMessageType h.typeCode)

/-- Takes the header of a mobility management message off the front of `data`. The skip indicator is
not looked at. -/
def readType (data : Octets) : Except HeaderError (MessageType × Octets) := do
  let (header, rest) ← read data
  if header.discriminator ≠ Protocol.mobilityManagement.code then
    throw (.protocolMismatch Protocol.mobilityManagement.code header.discriminator)
  let type ← header.messageType
  return (type, rest)

/-- The header of a mobility management message that the station sends. -/
def ofType (type : MessageType) : Octets :=
  [UInt8.ofNat Protocol.mobilityManagement.code, UInt8.ofNat type.code]

end Header

end MobileStation
