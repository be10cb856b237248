import MobileStation.Element.Error
import MobileStation.Message.Type

/-!
# Errors of headers and messages

Why the header of a message, or a whole message, cannot be read or written.
-/

namespace MobileStation

/-- Why the header of a message cannot be read. -/
inductive HeaderError where
  /-- Fewer octets than a header. -/
  | tooShort (expected actual : Nat)
  /-- The type, without its sequence number bit, is not known. -/
  | invalidMessageType (code : Nat)
  /-- The message belongs to another protocol. -/
  | protocolMismatch (expected actual : Nat)
  deriving DecidableEq

/-- Wording of the error. -/
def HeaderError.message : HeaderError → String
  | tooShort expected actual => ElementError.tooShortMessage expected actual
  | invalidMessageType code =>
    "Invalid message type: 0x" ++ Text.hexadecimalCapital 2 code
  | protocolMismatch expected actual =>
    "Protocol discriminator mismatch: expected 0x" ++ Text.hexadecimalCapital 1 expected ++
      ", got 0x" ++ Text.hexadecimalCapital 1 actual

/-- Why a message cannot be read or written. -/
inductive CodecError where
  /-- The body is shorter than its mandatory part. -/
  | tooShort (expected actual : Nat)
  /-- The header is wrong. -/
  | header (error : HeaderError)
  /-- An information element is wrong. -/
  | element (error : ElementError)
  /-- No service has this type. -/
  | unknownServiceType (code : Nat)
  /-- The header announces another message. -/
  | unexpectedType (expected actual : MessageType)
  /-- Messages of this type are neither sent nor read, so their body has no layout. -/
  | noLayout (type : MessageType)
  deriving DecidableEq

/-- Wording of the error. -/
def CodecError.message : CodecError → String
  | tooShort expected actual => ElementError.tooShortMessage expected actual
  | header error => "Header error: " ++ error.message
  | element error => "IE error: " ++ error.message
  | unknownServiceType code => s!"Invalid value: CM service type {code}"
  | unexpectedType expected actual =>
    "Unexpected message type: expected " ++ expected.name ++ ", got " ++ actual.name
  | noLayout type => "No layout for message type " ++ type.name

end MobileStation
