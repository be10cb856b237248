import MobileStation.Message.Body
import MobileStation.Message.Header

/-!
# Messages

The mobility management messages and their octet coding: `Message.encode` writes a message with its
header, `Message.decode` reads a message of an expected type.
-/

namespace MobileStation

open Octets

/-- A mobility management message. -/
inductive Message where
  | imsiDetachIndication (body : ImsiDetachIndication)
  | locationUpdatingAccept (body : LocationUpdatingAccept)
  | locationUpdatingReject (cause : RejectCause)
  | locationUpdatingRequest (body : LocationUpdatingRequest)
  | authenticationReject
  | authenticationRequest (body : AuthenticationRequest)
  | authenticationResponse (sres : Field 4)
  | identityRequest (body : IdentityRequest)
  | identityResponse (identity : MobileIdentity)
  | tmsiReallocationCommand (body : TmsiReallocationCommand)
  | tmsiReallocationComplete
  | cmServiceAccept
  | cmServiceReject (cause : RejectCause)
  | cmServiceAbort
  | cmServiceRequest (body : CmServiceRequest)
  | abort (cause : RejectCause)
  | mmStatus (cause : RejectCause)
  | mmInformation (body : MmInformation)
  deriving DecidableEq

namespace Message

/-- The type in the header of the message. -/
def type : Message → MessageType
  | imsiDetachIndication _ => .imsiDetachIndication
  | locationUpdatingAccept _ => .locationUpdatingAccept
  | locationUpdatingReject _ => .locationUpdatingReject
  | locationUpdatingRequest _ => .locationUpdatingRequest
  | authenticationReject => .authenticationReject
  | authenticationRequest _ => .authenticationRequest
  | authenticationResponse _ => .authenticationResponse
  | identityRequest _ => .identityRequest
  | identityResponse _ => .identityResponse
  | tmsiReallocationCommand _ => .tmsiReallocationCommand
  | tmsiReallocationComplete => .tmsiReallocationComplete
  | cmServiceAccept => .cmServiceAccept
  | cmServiceReject _ => .cmServiceReject
  | cmServiceAbort => .cmServiceAbort
  | cmServiceRequest _ => .cmServiceRequest
  | abort _ => .abort
  | mmStatus _ => .mmStatus
  | mmInformation _ => .mmInformation

/-! ## Writing -/

/-- The message without its header. -/
def encodeBody : Message → Except CodecError Octets
  | imsiDetachIndication body => body.encode
  | locationUpdatingAccept body => body.encode
  | locationUpdatingReject cause => .ok [cause.code]
  | locationUpdatingRequest body => body.encode
  | authenticationReject => .ok []
  | authenticationRequest body => .ok body.encode
  | authenticationResponse sres => .ok sres.octets
  | identityRequest body => .ok body.encode
  | identityResponse identity => Body.lift identity.encodeLengthValue
  | tmsiReallocationCommand body => body.encode
  | tmsiReallocationComplete => .ok []
  | cmServiceAccept => .ok []
  | cmServiceReject cause => .ok [cause.code]
  | cmServiceAbort => .ok []
  | cmServiceRequest body => body.encode
  | abort cause => .ok [cause.code]
  | mmStatus cause => .ok [cause.code]
  | mmInformation body => .ok body.encode

/-- The message behind its header. -/
def encode (m : Message) : Except CodecError Octets := do
  let body ← m.encodeBody
  return Header.ofType m.type ++ body

/-! ## Reading -/

/-- Reads a body that is a cause. -/
def decodeCause (data : Octets) : Except CodecError RejectCause := do
  let (o, _) ← Body.readOctet data
  return ⟨o⟩

/-- Reads a body that is an identity. -/
def decodeIdentity (data : Octets) : Except CodecError MobileIdentity := do
  let (identity, _) ← Body.lift (MobileIdentity.read data)
  return identity

/-- Reads the body of a message of the given type. -/
def decodeBody (data : Octets) : MessageType → Except CodecError Message
  | .imsiDetachIndication => (ImsiDetachIndication.decode data).map imsiDetachIndication
  | .locationUpdatingAccept => (LocationUpdatingAccept.decode data).map locationUpdatingAccept
  | .locationUpdatingReject => (decodeCause data).map locationUpdatingReject
  | .locationUpdatingRequest => (LocationUpdatingRequest.decode data).map locationUpdatingRequest
  | .authenticationReject => .ok authenticationReject
  | .authenticationRequest => (AuthenticationRequest.decode data).map authenticationRequest
  | .authenticationResponse => (Body.readField 4 data).map fun r => authenticationResponse r.1
  | .identityRequest => (IdentityRequest.decode data).map identityRequest
  | .identityResponse => (decodeIdentity data).map identityResponse
  | .tmsiReallocationCommand => (TmsiReallocationCommand.decode data).map tmsiReallocationCommand
  | .tmsiReallocationComplete => .ok tmsiReallocationComplete
  | .cmServiceAccept => .ok cmServiceAccept
  | .cmServiceReject => (decodeCause data).map cmServiceReject
  | .cmServiceAbort => .ok cmServiceAbort
  | .cmServiceRequest => (CmServiceRequest.decode data).map cmServiceRequest
  | .abort => (decodeCause data).map abort
  | .mmStatus => (decodeCause data).map mmStatus
  | .mmInformation => (MmInformation.decode data).map mmInformation
  | .cmServicePrompt => .error (.noLayout .cmServicePrompt)
  | .cmReestablishmentRequest => .error (.noLayout .cmReestablishmentRequest)
  | .mmNull => .error (.noLayout .mmNull)

/-- Reads a whole message of the expected type. -/
def decode (expected : MessageType) (data : Octets) : Except CodecError Message :=
  match Header.readType data with
  | .error e => .error (.header e)
  | .ok (actual, body) =>
    if actual = expected then decodeBody body expected
    else .error (.unexpectedType expected actual)

end Message

end MobileStation
