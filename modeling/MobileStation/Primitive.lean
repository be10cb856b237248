import MobileStation.Message.Type
import MobileStation.Octets
import MobileStation.Timer

/-!
# Primitives

What the station exchanges with its neighbours: the connection management protocols above, radio
resource management below, the registration of the SIM, the processes that search for networks and
cells, and the events it raises itself.
-/

namespace MobileStation

/-! ## Connection management -/

/-- A connection management protocol: call control, supplementary services, short messages. -/
inductive CmProtocol where
  | cc
  | ss
  | sms
  deriving DecidableEq, Inhabited

namespace CmProtocol

/-- All protocols. -/
def all : List CmProtocol := [cc, ss, sms]

/-- The layer 3 protocol of the messages. -/
def protocol : CmProtocol → Protocol
  | cc => .callControl
  | ss => .supplementaryServices
  | sms => .shortMessages

/-- The connection management protocol of a layer 3 protocol. -/
def ofProtocol? (p : Protocol) : Option CmProtocol := all.find? (·.protocol == p)

/-- The bit of the protocol in a set of protocols. -/
def mask : CmProtocol → Nat
  | cc => 1
  | ss => 2
  | sms => 4

/-- The short name. -/
def text : CmProtocol → String
  | cc => "CC"
  | ss => "SS"
  | sms => "SMS"

/-- The protocol with this short name. -/
def ofText? (text : String) : Option CmProtocol := all.find? (·.text == text)

end CmProtocol

/-- The layer 3 protocol is one of connection management. -/
def Protocol.isCm (p : Protocol) : Bool := (CmProtocol.ofProtocol? p).isSome

/-- The type of a primitive exchanged with connection management. -/
inductive CmPrimitiveType where
  | establishRequest
  | establishIndication
  | establishConfirm
  | releaseRequest
  | releaseIndication
  | dataRequest
  | dataIndication
  | unitDataRequest
  | unitDataIndication
  | errorIndication
  | syncIndication
  deriving DecidableEq, Inhabited

namespace CmPrimitiveType

/-- All types. -/
def all : List CmPrimitiveType :=
  [establishRequest, establishIndication, establishConfirm, releaseRequest, releaseIndication,
    dataRequest, dataIndication, unitDataRequest, unitDataIndication, errorIndication,
    syncIndication]

/-- The short name. -/
def name : CmPrimitiveType → String
  | establishRequest => "EST_REQ"
  | establishIndication => "EST_IND"
  | establishConfirm => "EST_CNF"
  | releaseRequest => "REL_REQ"
  | releaseIndication => "REL_IND"
  | dataRequest => "DATA_REQ"
  | dataIndication => "DATA_IND"
  | unitDataRequest => "UNIT_DATA_REQ"
  | unitDataIndication => "UNIT_DATA_IND"
  | errorIndication => "ERR_IND"
  | syncIndication => "SYNC_IND"

/-- The type with this short name. -/
def ofName? (text : String) : Option CmPrimitiveType := all.find? (·.name == text)

end CmPrimitiveType

/-- A primitive exchanged with connection management. -/
structure CmPrimitive where
  type : CmPrimitiveType
  protocol : CmProtocol
  /-- The connection meant, by the number that both sides know it by. -/
  reference : UInt32
  transaction : UInt8
  cause : UInt8 := 0
  /-- The connection is for an emergency call. -/
  emergency : Bool := false
  /-- The message carried. -/
  payload : Octets := []
  deriving DecidableEq

namespace CmPrimitive

/-- Name of the primitive with the protocol it belongs to. -/
def name (p : CmPrimitive) : String := "MM" ++ p.protocol.text ++ "_" ++ p.type.name

/-- The primitive in words, without its payload. -/
def text (p : CmPrimitive) : String :=
  s!"{p.name} ref={p.reference.toNat} ti={p.transaction.toNat} cause={p.cause.toNat}"

end CmPrimitive

/-! Causes reported to connection management. -/

namespace CmCause

/-- Released by the station, the radio link or the network. -/
def normalRelease : UInt8 := 16
/-- Another connection is being established. -/
def busy : UInt8 := 17
/-- The station has no service for the request. -/
def noService : UInt8 := 21
/-- No connection has the reference. -/
def unknownReference : UInt8 := 31
/-- The service request was not answered in time. -/
def timerExpiry : UInt8 := 102

end CmCause

/-! ## Radio resource management -/

/-- The type of a primitive exchanged with radio resource management. -/
inductive RrPrimitiveType where
  | establishRequest
  | establishIndication
  | establishConfirm
  | releaseIndication
  | abortRequest
  | abortIndication
  | dataRequest
  | dataIndication
  | syncIndication
  deriving DecidableEq, Inhabited

namespace RrPrimitiveType

/-- All types. -/
def all : List RrPrimitiveType :=
  [establishRequest, establishIndication, establishConfirm, releaseIndication, abortRequest,
    abortIndication, dataRequest, dataIndication, syncIndication]

/-- Name of the primitive. -/
def name : RrPrimitiveType → String
  | establishRequest => "RR_EST_REQ"
  | establishIndication => "RR_EST_IND"
  | establishConfirm => "RR_EST_CNF"
  | releaseIndication => "RR_REL_IND"
  | abortRequest => "RR_ABORT_REQ"
  | abortIndication => "RR_ABORT_IND"
  | dataRequest => "RR_DATA_REQ"
  | dataIndication => "RR_DATA_IND"
  | syncIndication => "RR_SYNC_IND"

/-- The type with this name. -/
def ofName? (text : String) : Option RrPrimitiveType := all.find? (·.name == text)

end RrPrimitiveType

/-- A primitive exchanged with radio resource management. -/
structure RrPrimitive where
  type : RrPrimitiveType
  /-- Why a link is wanted, in an establishment request; otherwise why it was released. -/
  cause : UInt8 := 0
  /-- The message carried. -/
  payload : Octets := []
  deriving DecidableEq

/-- Why a radio link is wanted. -/
inductive EstablishmentCause where
  | emergency
  | originatingCall
  | locationUpdate
  | otherSignalling
  deriving DecidableEq, Inhabited

/-- Code of the cause. -/
def EstablishmentCause.code : EstablishmentCause → UInt8
  | emergency => 1
  | originatingCall => 9
  | locationUpdate => 12
  | otherSignalling => 13

/-! Causes of releases and aborts of the radio link. -/

namespace RrCause

/-- The release was caused by a failure of random access. -/
def randomAccessFailure : UInt8 := 3
/-- The station aborts the link without any fault. -/
def normalAbort : UInt8 := 0
/-- The station aborts the link because a timer ran out. -/
def timerAbort : UInt8 := 3

end RrCause

namespace RrPrimitive

/-- Request for a link that carries `payload` as its first message. -/
def establish (cause : EstablishmentCause) (payload : Octets) : RrPrimitive :=
  ⟨.establishRequest, cause.code, payload⟩

/-- Request to send `payload` over the link. -/
def send (payload : Octets) : RrPrimitive := ⟨.dataRequest, 0, payload⟩

/-- Indication of a message received over the link. -/
def received (payload : Octets) : RrPrimitive := ⟨.dataIndication, 0, payload⟩

/-- Request to abort the link. -/
def abort (cause : UInt8) : RrPrimitive := ⟨.abortRequest, cause, []⟩

/-- The primitive in words, with the length of a payload that is not empty. -/
def text (p : RrPrimitive) : String :=
  let base := s!"{p.type.name} cause={p.cause.toNat}"
  if p.payload.isEmpty then base else s!"{base} len={p.payload.length}"

end RrPrimitive

/-! ## Registration -/

/-- A primitive of SIM registration. -/
inductive RegistrationPrimitive where
  /-- A SIM was inserted. -/
  | registerRequest
  /-- The station is registered. -/
  | registerConfirm
  /-- The SIM was removed. -/
  | deregisterRequest
  /-- The station is no longer registered. -/
  | deregisterIndication
  deriving DecidableEq, Inhabited

namespace RegistrationPrimitive

/-- All primitives. -/
def all : List RegistrationPrimitive :=
  [registerRequest, registerConfirm, deregisterRequest, deregisterIndication]

/-- Name of the primitive. -/
def text : RegistrationPrimitive → String
  | registerRequest => "MMR_REG_REQ"
  | registerConfirm => "MMR_REG_CNF"
  | deregisterRequest => "MMR_NREG_REQ"
  | deregisterIndication => "MMR_NREG_IND"

/-- The primitive with this name. -/
def ofText? (text : String) : Option RegistrationPrimitive := all.find? (·.text == text)

end RegistrationPrimitive

/-! ## Events -/

/-- System information that the station acts on. -/
structure SystemInformation where
  /-- Interval of periodic location updates in seconds, zero for none. -/
  t3212 : UInt32 := 0
  /-- Type 3 of the system information has been received. -/
  si3 : Bool := false
  /-- Attach and detach are wanted by the network. -/
  attachAllowed : Bool := false
  /-- The cell is barred. -/
  cellBarred : Bool := false
  /-- The barred access classes, one bit a class. -/
  classBarred : UInt16 := 0
  deriving DecidableEq, Inhabited

/-- An event inside the station. -/
inductive Event where
  /-- A cell in a new location area was selected. -/
  | newLocationArea
  /-- A timer ran out. -/
  | timeout (timer : TimerName)
  /-- The subscriber is to be detached. -/
  | imsiDetach
  | powerOff
  | paging
  /-- The SIM has answered the last authentication request. -/
  | authenticationResponse (sres : Field 4)
  /-- System information was received. `chance` is an outcome of the source of randomness, for the
  choice of a start value of the periodic timer. -/
  | systemInformation (info : SystemInformation) (chance : Nat)
  deriving DecidableEq

/-- What kind of event an event is. -/
inductive EventTag where
  | newLocationArea
  | timeout (timer : TimerName)
  | imsiDetach
  | powerOff
  | paging
  | authenticationResponse
  | systemInformation
  deriving DecidableEq

/-- Name of the kind. -/
def EventTag.name : EventTag → String
  | newLocationArea => "NewLai"
  | timeout timer => "Timeout" ++ timer.text
  | imsiDetach => "ImsiDetach"
  | powerOff => "PowerOff"
  | paging => "Paging"
  | authenticationResponse => "AuthResponse"
  | systemInformation => "Sysinfo"

namespace Event

/-- The kind of the event. -/
def tag : Event → EventTag
  | newLocationArea => .newLocationArea
  | timeout timer => .timeout timer
  | imsiDetach => .imsiDetach
  | powerOff => .powerOff
  | paging => .paging
  | authenticationResponse _ => .authenticationResponse
  | systemInformation _ _ => .systemInformation

/-- Name of the event. -/
def text : Event → String
  | newLocationArea => "MM_EVENT_NEW_LAI"
  | timeout timer => "MM_EVENT_TIMEOUT_" ++ timer.text
  | imsiDetach => "MM_EVENT_IMSI_DETACH"
  | powerOff => "MM_EVENT_POWER_OFF"
  | paging => "MM_EVENT_PAGING"
  | authenticationResponse _ => "MM_EVENT_AUTH_RESPONSE"
  | systemInformation _ _ => "MM_EVENT_SYSINFO"

end Event

/-! ## Outputs -/

/-- An event for the process that searches for networks. -/
inductive PlmnSearchEvent where
  | registered
  | registrationFailed (cause : RejectCause)
  | roamingNotAllowed
  | invalidSim
  | simInserted
  | simRemoved
  deriving DecidableEq

/-- The event in words. -/
def PlmnSearchEvent.text : PlmnSearchEvent → String
  | registered => "RegSuccess"
  | registrationFailed cause => s!"RegFailed(RejectCause({cause.code.toNat}))"
  | roamingNotAllowed => "RoamingNotAllowed"
  | invalidSim => "InvalidSim"
  | simInserted => "SimInsert"
  | simRemoved => "SimRemove"

/-- An event for the process that selects cells. -/
inductive CellSelectionEvent where
  | simRemoved
  deriving DecidableEq

/-- The event in words. -/
def CellSelectionEvent.text : CellSelectionEvent → String
  | simRemoved => "SimRemove"

/-- A request to the SIM: to answer a random number with a key. -/
structure SimRequest where
  keySequence : UInt8
  rand : Field 16
  deriving DecidableEq

/-- The request in words. -/
def SimRequest.text (r : SimRequest) : String :=
  let numbers := ", ".intercalate (r.rand.octets.map fun o => toString o.toNat)
  "RunGsmAlgo \x7b key_seq: " ++ toString r.keySequence.toNat ++ ", rand: [" ++ numbers ++ "] \x7d"

/-- What the station sends to a neighbour. -/
inductive Output where
  | rr (primitive : RrPrimitive)
  | cm (primitive : CmPrimitive)
  | registration (primitive : RegistrationPrimitive)
  | plmnSearch (event : PlmnSearchEvent)
  | cellSelection (event : CellSelectionEvent)
  | sim (request : SimRequest)
  deriving DecidableEq

namespace Output

/-- The output in words, without a payload. -/
def text : Output → String
  | rr p => "to RR: " ++ p.text
  | cm p => "to CM: " ++ p.text
  | registration p => "to MMR: " ++ p.text
  | plmnSearch e => "to PLMN search: " ++ e.text
  | cellSelection e => "to cell selection: " ++ e.text
  | sim r => "to SIM: " ++ r.text

/-- The message carried, for primitives that carry one. -/
def payload? : Output → Option Octets
  | rr p => some p.payload
  | cm p => some p.payload
  | _ => none

end Output

end MobileStation
