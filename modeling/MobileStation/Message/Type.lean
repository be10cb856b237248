import MobileStation.Text.Number

/-!
# Codes of the layer 3 protocols

Protocol discriminators, mobility management message types, and the coded values that messages
carry: reject causes, service types and kinds of location update.
-/

namespace MobileStation

/-! ## Protocol discriminators -/

/-- A layer 3 protocol. -/
inductive Protocol where
  | callControl
  | mobilityManagement
  | radioResource
  | shortMessages
  | supplementaryServices
  deriving DecidableEq, Inhabited

namespace Protocol

/-- Discriminator in the lower half of the first octet of a message. -/
def code : Protocol → Nat
  | callControl => 3
  | mobilityManagement => 5
  | radioResource => 6
  | shortMessages => 9
  | supplementaryServices => 11

/-- All protocols, in the order of their codes. -/
def all : List Protocol :=
  [callControl, mobilityManagement, radioResource, shortMessages, supplementaryServices]

/-- The protocol with this discriminator. -/
def ofCode? (n : Nat) : Option Protocol := all.find? (·.code == n)

end Protocol

/-! ## Message types -/

/-- A mobility management message type. -/
inductive MessageType where
  | imsiDetachIndication
  | locationUpdatingAccept
  | locationUpdatingReject
  | locationUpdatingRequest
  | authenticationReject
  | authenticationRequest
  | authenticationResponse
  | identityRequest
  | identityResponse
  | tmsiReallocationCommand
  | tmsiReallocationComplete
  | cmServiceAccept
  | cmServiceReject
  | cmServiceAbort
  | cmServiceRequest
  | cmServicePrompt
  | cmReestablishmentRequest
  | abort
  | mmNull
  | mmStatus
  | mmInformation
  deriving DecidableEq, Inhabited

namespace MessageType

/-- Code in the message type octet. -/
def code : MessageType → Nat
  | imsiDetachIndication => 0x01
  | locationUpdatingAccept => 0x02
  | locationUpdatingReject => 0x04
  | locationUpdatingRequest => 0x08
  | authenticationReject => 0x11
  | authenticationRequest => 0x12
  | authenticationResponse => 0x14
  | identityRequest => 0x18
  | identityResponse => 0x19
  | tmsiReallocationCommand => 0x1A
  | tmsiReallocationComplete => 0x1B
  | cmServiceAccept => 0x21
  | cmServiceReject => 0x22
  | cmServiceAbort => 0x23
  | cmServiceRequest => 0x24
  | cmServicePrompt => 0x25
  | cmReestablishmentRequest => 0x28
  | abort => 0x29
  | mmNull => 0x30
  | mmStatus => 0x31
  | mmInformation => 0x32

/-- Short name. -/
def name : MessageType → String
  | imsiDetachIndication => "IMSI_DETACH_IND"
  | locationUpdatingAccept => "LOC_UPD_ACCEPT"
  | locationUpdatingReject => "LOC_UPD_REJECT"
  | locationUpdatingRequest => "LOC_UPD_REQUEST"
  | authenticationReject => "AUTH_REJ"
  | authenticationRequest => "AUTH_REQ"
  | authenticationResponse => "AUTH_RESP"
  | identityRequest => "ID_REQ"
  | identityResponse => "ID_RESP"
  | tmsiReallocationCommand => "TMSI_REALL_CMD"
  | tmsiReallocationComplete => "TMSI_REALL_COMPL"
  | cmServiceAccept => "CM_SERV_ACC"
  | cmServiceReject => "CM_SERV_REJ"
  | cmServiceAbort => "CM_SERV_ABORT"
  | cmServiceRequest => "CM_SERV_REQ"
  | cmServicePrompt => "CM_SERV_PROMPT"
  | cmReestablishmentRequest => "CM_REEST_REQ"
  | abort => "ABORT"
  | mmNull => "MM_NULL"
  | mmStatus => "MM_STATUS"
  | mmInformation => "MM_INFO"

/-- All message types, in the order of their codes. -/
def all : List MessageType :=
  [imsiDetachIndication, locationUpdatingAccept, locationUpdatingReject, locationUpdatingRequest,
    authenticationReject, authenticationRequest, authenticationResponse, identityRequest,
    identityResponse, tmsiReallocationCommand, tmsiReallocationComplete, cmServiceAccept,
    cmServiceReject, cmServiceAbort, cmServiceRequest, cmServicePrompt, cmReestablishmentRequest,
    abort, mmNull, mmStatus, mmInformation]

/-- The message type with this code. -/
def ofCode? (n : Nat) : Option MessageType := all.find? (·.code == n)

/-- The message type with this short name. -/
def ofName? (text : String) : Option MessageType := all.find? (·.name == text)

end MessageType

/-! ## Reject causes -/

/-- Why the network rejects or reports something. Every octet is a cause. -/
structure RejectCause where
  code : UInt8
  deriving DecidableEq, Inhabited

namespace RejectCause

def imsiUnknownInHlr : RejectCause := ⟨2⟩
def illegalMs : RejectCause := ⟨3⟩
def imsiUnknownInVlr : RejectCause := ⟨4⟩
def illegalMe : RejectCause := ⟨6⟩
def plmnNotAllowed : RejectCause := ⟨11⟩
def locationAreaNotAllowed : RejectCause := ⟨12⟩
def roamingNotAllowed : RejectCause := ⟨13⟩
def semanticallyIncorrect : RejectCause := ⟨95⟩
def messageTypeNotImplemented : RejectCause := ⟨97⟩
def messageTypeNotCompatible : RejectCause := ⟨98⟩

/-- The cause declares the subscriber or the equipment unusable. -/
def isIdentityReject (c : RejectCause) : Bool :=
  c = imsiUnknownInHlr || c = illegalMs || c = illegalMe

/-- The number behind a hash sign. -/
def text (c : RejectCause) : String := s!"#{c.code.toNat}"

end RejectCause

/-! ## Service types -/

/-- What a connection is requested for. -/
inductive ServiceType where
  | mobileOriginatingCall
  | emergencyCall
  | shortMessage
  | supplementaryService
  | voiceGroupCall
  | voiceBroadcastCall
  | locationService
  deriving DecidableEq, Inhabited

namespace ServiceType

/-- Code on the air interface. -/
def code : ServiceType → Nat
  | mobileOriginatingCall => 1
  | emergencyCall => 2
  | shortMessage => 4
  | supplementaryService => 8
  | voiceGroupCall => 9
  | voiceBroadcastCall => 10
  | locationService => 11

/-- All service types, in the order of their codes. -/
def all : List ServiceType :=
  [mobileOriginatingCall, emergencyCall, shortMessage, supplementaryService, voiceGroupCall,
    voiceBroadcastCall, locationService]

/-- The service type with this code. -/
def ofCode? (n : Nat) : Option ServiceType := all.find? (·.code == n)

end ServiceType

/-! ## Kinds of location update -/

/-- What a location update is made for. -/
inductive UpdateKind where
  | normal
  | periodic
  | imsiAttach
  deriving DecidableEq, Inhabited

namespace UpdateKind

/-- Code on the air interface. -/
def code : UpdateKind → Nat
  | normal => 0
  | periodic => 1
  | imsiAttach => 2

/-- All kinds, in the order of their codes. -/
def all : List UpdateKind := [normal, periodic, imsiAttach]

/-- The kind with this code. -/
def ofCode? (n : Nat) : Option UpdateKind := all.find? (·.code == n)

/-- The kind in words. -/
def text : UpdateKind → String
  | normal => "normal"
  | periodic => "periodic"
  | imsiAttach => "IMSI attach"

end UpdateKind

end MobileStation
