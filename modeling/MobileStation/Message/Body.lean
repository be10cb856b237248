import MobileStation.Area
import MobileStation.Element.Classmark
import MobileStation.Element.Identity
import MobileStation.Element.NetworkName
import MobileStation.Element.Optional
import MobileStation.Message.Error

/-!
# Message bodies

The bodies that have more than one field or a coding rule of their own. Each has a structure, a
writer `encode` and a reader `decode`; octets after the part a reader knows are left alone.
-/

namespace MobileStation

open Octets

/-! ## Pieces -/

namespace Body

/-- Takes a location area off the front of `data`. -/
def readLai (data : Octets) : Except CodecError (Lai × Octets) :=
  match Lai.read? data with
  | some r => .ok r
  | none => .error (.tooShort Lai.length data.length)

/-- An element's result as that of a message. -/
def lift {α : Type} (r : Except ElementError α) : Except CodecError α :=
  match r with
  | .ok a => .ok a
  | .error e => .error (.element e)

/-- Takes a field of `n` octets off the front of `data`. -/
def readField (n : Nat) (data : Octets) : Except CodecError (Field n × Octets) :=
  match Field.read? n data with
  | some r => .ok r
  | none => .error (.tooShort n data.length)

/-- Takes one octet off the front of `data`. -/
def readOctet : Octets → Except CodecError (UInt8 × Octets)
  | [] => .error (.tooShort 1 0)
  | o :: rest => .ok (o, rest)

end Body

/-! ## Authentication -/

/-- AUTHENTICATION REQUEST: a key sequence number and the random number to answer. -/
structure AuthenticationRequest where
  keySequence : UInt8
  rand : Field 16
  deriving DecidableEq

namespace AuthenticationRequest

def encode (m : AuthenticationRequest) : Octets :=
  UInt8.ofNat (m.keySequence.toNat % 8) :: m.rand.octets

def decode (data : Octets) : Except CodecError AuthenticationRequest :=
  match data with
  | [] => .error (.tooShort 17 0)
  | o :: rest =>
    match Field.read? 16 rest with
    | some (rand, _) => .ok ⟨UInt8.ofNat (o.toNat % 8), rand⟩
    | none => .error (.tooShort 17 data.length)

end AuthenticationRequest

/-! ## Service request -/

/-- CM SERVICE REQUEST. -/
structure CmServiceRequest where
  service : ServiceType
  keySequence : UInt8
  classmark : Classmark2
  identity : MobileIdentity
  deriving DecidableEq

namespace CmServiceRequest

def encode (m : CmServiceRequest) : Except CodecError Octets := do
  let identity ← Body.lift m.identity.encodeLengthValue
  return pair (m.keySequence.toNat % 8) m.service.code :: (m.classmark.encode ++ identity)

def decode (data : Octets) : Except CodecError CmServiceRequest := do
  let (o, rest) ← Body.readOctet data
  match ServiceType.ofCode? (low o) with
  | none => .error (.unknownServiceType (low o))
  | some service =>
    let (classmark, rest) ← Body.lift (Classmark2.read rest)
    let (identity, _) ← Body.lift (MobileIdentity.read rest)
    return ⟨service, UInt8.ofNat (high o % 8), classmark, identity⟩

end CmServiceRequest

/-! ## Identity request -/

/-- IDENTITY REQUEST. The requested type is kept as received. -/
structure IdentityRequest where
  type : UInt8
  deriving DecidableEq

namespace IdentityRequest

/-- The requested type of identity, if it is one of the five. -/
def requested? (m : IdentityRequest) : Option IdentityType := IdentityType.ofCode? m.type.toNat

def encode (m : IdentityRequest) : Octets := [UInt8.ofNat (m.type.toNat % 8)]

def decode (data : Octets) : Except CodecError IdentityRequest := do
  let (o, _) ← Body.readOctet data
  return ⟨UInt8.ofNat (o.toNat % 8)⟩

end IdentityRequest

/-! ## Detach indication -/

/-- IMSI DETACH INDICATION. -/
structure ImsiDetachIndication where
  classmark : Classmark1
  identity : MobileIdentity
  deriving DecidableEq

namespace ImsiDetachIndication

def encode (m : ImsiDetachIndication) : Except CodecError Octets := do
  let identity ← Body.lift m.identity.encodeLengthValue
  return m.classmark.octet :: identity

def decode (data : Octets) : Except CodecError ImsiDetachIndication := do
  let (classmark, rest) ← Body.lift (Classmark1.read data)
  let (identity, _) ← Body.lift (MobileIdentity.read rest)
  return ⟨classmark, identity⟩

end ImsiDetachIndication

/-! ## Location updating -/

/-- LOCATION UPDATING REQUEST. -/
structure LocationUpdatingRequest where
  kind : UpdateKind
  followOn : Bool
  keySequence : UInt8
  lai : Lai
  classmark : Classmark1
  identity : MobileIdentity
  deriving DecidableEq

namespace LocationUpdatingRequest

def encode (m : LocationUpdatingRequest) : Except CodecError Octets := do
  let identity ← Body.lift m.identity.encodeLengthValue
  return pair (m.keySequence.toNat % 8) (8 * m.followOn.toNat + m.kind.code) ::
    (m.lai.encode ++ m.classmark.octet :: identity)

/-- Reads the body. The reserved kind of update counts as a normal one. -/
def decode (data : Octets) : Except CodecError LocationUpdatingRequest := do
  let (o, rest) ← Body.readOctet data
  let (lai, rest) ← Body.readLai rest
  let (classmark, rest) ← Body.lift (Classmark1.read rest)
  let (identity, _) ← Body.lift (MobileIdentity.read rest)
  let kind := (UpdateKind.ofCode? (o.toNat % 4)).getD .normal
  return ⟨kind, bit o 3, UInt8.ofNat (high o % 8), lai, classmark, identity⟩

end LocationUpdatingRequest

/-- LOCATION UPDATING ACCEPT. -/
structure LocationUpdatingAccept where
  lai : Lai
  identity : Option MobileIdentity
  followOnProceed : Bool
  deriving DecidableEq

namespace LocationUpdatingAccept

/-- Identifier of the identity. -/
def identityElement : UInt8 := 0x17

/-- Identifier of the permission to go on with a further request. -/
def followOnElement : UInt8 := 0xA1

/-- The optional elements of the message. -/
def optionalElements : List OptionalPart.Definition :=
  [⟨identityElement, .lengthed⟩, ⟨followOnElement, .bare⟩, ⟨0xA2, .bare⟩, ⟨0x4A, .lengthed⟩]

def encode (m : LocationUpdatingAccept) : Except CodecError Octets := do
  let identity ← match m.identity with
    | some identity => do
      let value ← Body.lift identity.encodeLengthValue
      pure (identityElement :: value)
    | none => pure []
  return m.lai.encode ++ (identity ++ if m.followOnProceed then [followOnElement] else [])

def decode (data : Octets) : Except CodecError LocationUpdatingAccept := do
  let (lai, rest) ← Body.readLai data
  let entries ← Body.lift (OptionalPart.scan optionalElements rest)
  let identity ← match OptionalPart.find? entries identityElement with
    | some value => do
      let identity ← Body.lift (MobileIdentity.decode value)
      pure (some identity)
    | none => pure none
  return ⟨lai, identity, OptionalPart.contains entries followOnElement⟩

end LocationUpdatingAccept

/-! ## TMSI reallocation -/

/-- TMSI REALLOCATION COMMAND. -/
structure TmsiReallocationCommand where
  lai : Lai
  identity : MobileIdentity
  deriving DecidableEq

namespace TmsiReallocationCommand

def encode (m : TmsiReallocationCommand) : Except CodecError Octets := do
  let identity ← Body.lift m.identity.encodeLengthValue
  return m.lai.encode ++ identity

def decode (data : Octets) : Except CodecError TmsiReallocationCommand := do
  let (lai, rest) ← Body.readLai data
  let (identity, _) ← Body.lift (MobileIdentity.read rest)
  return ⟨lai, identity⟩

end TmsiReallocationCommand

/-! ## Information -/

/-- MM INFORMATION: the names of the network. -/
structure MmInformation where
  fullName : Option NetworkName
  shortName : Option NetworkName
  deriving DecidableEq

namespace MmInformation

/-- Identifier of the full name. -/
def fullNameElement : UInt8 := 0x43

/-- Identifier of the short name. -/
def shortNameElement : UInt8 := 0x45

/-- The optional elements of the message: the names, the time zone, the time with zone, the
localised service area and the daylight saving time. -/
def optionalElements : List OptionalPart.Definition :=
  [⟨fullNameElement, .lengthed⟩, ⟨shortNameElement, .lengthed⟩, ⟨0x46, .fixed 1⟩,
    ⟨0x47, .fixed 7⟩, ⟨0x48, .lengthed⟩, ⟨0x49, .lengthed⟩]

/-- The element of a name, nothing for no name. -/
def encodeName (identifier : UInt8) : Option NetworkName → Octets
  | some name => identifier :: Element.lengthValue name.encode
  | none => []

def encode (m : MmInformation) : Octets :=
  encodeName fullNameElement m.fullName ++ encodeName shortNameElement m.shortName

/-- The name in the first element with this identifier. A name that cannot be read is dropped. -/
def nameIn (entries : List OptionalPart.Entry) (identifier : UInt8) : Option NetworkName :=
  (OptionalPart.find? entries identifier).bind fun value => (NetworkName.decode value).toOption

def decode (data : Octets) : Except CodecError MmInformation := do
  let entries ← Body.lift (OptionalPart.scan optionalElements data)
  return ⟨nameIn entries fullNameElement, nameIn entries shortNameElement⟩

end MmInformation

end MobileStation
