import MobileStation.Message.Codec
import MobileStation.Proofs.Codec.Bodies

/-!
# Messages read back

A message is written behind its header and read by its type. What comes back is `Message.readBack`,
which differs from what was written where a field has more bits, or a network code more digits, than
its octets have places for. The skip indicator and the bit of the send sequence number do not count.

Main statements: `Message.exists_encode_iff` (the messages that can be written),
`Message.decode_encode` and `Message.readBack_eq_iff` (what comes back of them),
`Message.read_where_written`, and `Message.read_again_iff` (which of the messages that were read are
read again when they are written).
-/

namespace MobileStation

open Octets

/-! ## Headers -/

theorem Header.readType_ofType (type : MessageType) (body : Octets) :
    readType (ofType type ++ body) = .ok (type, body) := by
  cases type <;> rfl

/-- The same octets but for the skip indicator, and for the bit of the type octet that carries the
send sequence number. -/
inductive Header.Resembles : Octets → Octets → Prop where
  | intro {a a' b b' : UInt8} (rest : Octets) (protocol : low a' = low a)
      (sequence : b' = b ∨ b' = b ^^^ 0x40) : Resembles (a :: b :: rest) (a' :: b' :: rest)

/-- The bit of the send sequence number is no part of the type. -/
theorem Header.typeCode_xor (a b : UInt8) :
    typeCode ⟨a, b ^^^ 0x40⟩ = typeCode ⟨a, b⟩ := by
  have hall : ∀ n < 256, 128 * ((n ^^^ 64) / 128) + (n ^^^ 64) % 64 = 128 * (n / 128) + n % 64 := by
    decide +kernel
  have hb := hall b.toNat b.toNat_lt
  simpa [typeCode, UInt8.toNat_xor] using hb

theorem Header.readType_eq_of_resembles {data data' : Octets} (h : Resembles data data') :
    readType data' = readType data := by
  obtain @⟨a, a', b, b', rest, hprotocol, hsequence⟩ := h
  have hdiscriminator : discriminator ⟨a', b'⟩ = discriminator ⟨a, b⟩ := hprotocol
  have hcode : typeCode ⟨a', b'⟩ = typeCode ⟨a, b⟩ := by
    obtain rfl | rfl := hsequence
    · rfl
    · exact typeCode_xor a b
  have htype : messageType ⟨a', b'⟩ = messageType ⟨a, b⟩ := by
    rw [messageType, hcode, messageType]
  simp only [readType, read, bind, Except.bind, hdiscriminator, htype]

namespace Message

/-! ## Fields that have a range -/

/-- The key sequence number in the message. -/
def keySequence? : Message → Option UInt8
  | authenticationRequest body => some body.keySequence
  | cmServiceRequest body => some body.keySequence
  | locationUpdatingRequest body => some body.keySequence
  | _ => none

/-- The type of identity that the message requests. -/
def requestedType? : Message → Option UInt8
  | identityRequest body => some body.type
  | _ => none

/-- The location area in the message. -/
def lai? : Message → Option Lai
  | locationUpdatingAccept body => some body.lai
  | locationUpdatingRequest body => some body.lai
  | tmsiReallocationCommand body => some body.lai
  | _ => none

/-- The identity in the message. -/
def identity? : Message → Option MobileIdentity
  | imsiDetachIndication body => some body.identity
  | locationUpdatingAccept body => body.identity
  | locationUpdatingRequest body => some body.identity
  | identityResponse identity => some identity
  | tmsiReallocationCommand body => some body.identity
  | cmServiceRequest body => some body.identity
  | _ => none

/-- The network names in the message. -/
def names : Message → List NetworkName
  | mmInformation body => body.names
  | _ => []

/-- Every field has a place for its value. -/
structure InRange (m : Message) : Prop where
  keySequence : ∀ k ∈ m.keySequence?, k.toNat ≤ 7
  requestedType : ∀ t ∈ m.requestedType?, t.toNat ≤ 7
  lai : ∀ l ∈ m.lai?, l.InRange

/-! ## Reading what was written -/

/-- A message that can be written has its header in front of its body. -/
theorem encode_eq_ok_iff {m : Message} {data : Octets} :
    m.encode = .ok data ↔
      ∃ body, m.encodeBody = .ok body ∧ data = Header.ofType m.type ++ body := by
  unfold encode
  cases h : m.encodeBody with
  | error e => simp [bind, Except.bind]
  | ok body => simp [bind, Except.bind, pure, Except.pure, eq_comm]

/-- The message as it is read where it was written. -/
def readBack : Message → Message
  | locationUpdatingAccept body => locationUpdatingAccept body.readBack
  | locationUpdatingRequest body => locationUpdatingRequest body.readBack
  | authenticationRequest body => authenticationRequest body.readBack
  | identityRequest body => identityRequest body.readBack
  | tmsiReallocationCommand body => tmsiReallocationCommand body.readBack
  | cmServiceRequest body => cmServiceRequest body.readBack
  | m => m

/-- Exactly the messages with every field in range are read back as they are. -/
theorem readBack_eq_iff {m : Message} : m.readBack = m ↔ m.InRange := by
  have hfields : m.InRange ↔ (∀ k ∈ m.keySequence?, threeBits k = k) ∧
      (∀ t ∈ m.requestedType?, threeBits t = t) ∧ ∀ l ∈ m.lai?, l.readBack = l := by
    simp only [threeBits_eq_iff, Lai.readBack_eq_iff]
    exact ⟨fun h => ⟨h.keySequence, h.requestedType, h.lai⟩, fun h => ⟨h.1, h.2.1, h.2.2⟩⟩
  rw [hfields]
  -- Six messages have such a field; the others are read back as they are anyway.
  cases m with
  | locationUpdatingAccept body =>
    obtain ⟨lai, identity, follow⟩ := body
    simp [readBack, keySequence?, requestedType?, lai?, LocationUpdatingAccept.readBack]
  | locationUpdatingRequest body =>
    obtain ⟨kind, follow, key, lai, classmark, identity⟩ := body
    simp [readBack, keySequence?, requestedType?, lai?, LocationUpdatingRequest.readBack]
  | authenticationRequest body =>
    obtain ⟨key, rand⟩ := body
    simp [readBack, keySequence?, requestedType?, lai?, AuthenticationRequest.readBack]
  | identityRequest body =>
    obtain ⟨type⟩ := body
    simp [readBack, keySequence?, requestedType?, lai?, IdentityRequest.readBack]
  | tmsiReallocationCommand body =>
    obtain ⟨lai, identity⟩ := body
    simp [readBack, keySequence?, requestedType?, lai?, TmsiReallocationCommand.readBack]
  | cmServiceRequest body =>
    obtain ⟨service, key, classmark, identity⟩ := body
    simp [readBack, keySequence?, requestedType?, lai?, CmServiceRequest.readBack]
  | _ => simp [readBack, keySequence?, requestedType?, lai?]

theorem decode_ofType (type : MessageType) (body : Octets) :
    decode type (Header.ofType type ++ body) = decodeBody body type := by
  simp only [decode, Header.readType_ofType, if_true]

/-- A message that was written is read by its type. -/
theorem decode_encode {m : Message} {data : Octets} (h : m.encode = .ok data)
    (hnames : ∀ name ∈ m.names, name.IsKept) : decode m.type data = .ok m.readBack := by
  obtain ⟨body, hbody, rfl⟩ := encode_eq_ok_iff.mp h
  rw [decode_ofType]
  -- A body with an identity was written because its identity was; the others always are.
  cases m with
  | imsiDetachIndication m =>
    exact congrArg (Except.map imsiDetachIndication) (ImsiDetachIndication.decode_encode hbody)
  | locationUpdatingAccept m =>
    exact congrArg (Except.map locationUpdatingAccept) (LocationUpdatingAccept.decode_encode hbody)
  | locationUpdatingRequest m =>
    exact congrArg (Except.map locationUpdatingRequest)
      (LocationUpdatingRequest.decode_encode hbody)
  | tmsiReallocationCommand m =>
    exact congrArg (Except.map tmsiReallocationCommand)
      (TmsiReallocationCommand.decode_encode hbody)
  | cmServiceRequest m =>
    exact congrArg (Except.map cmServiceRequest) (CmServiceRequest.decode_encode hbody)
  | authenticationRequest m =>
    cases hbody
    exact congrArg (Except.map authenticationRequest) m.decode_encode
  | identityRequest m =>
    cases hbody
    exact congrArg (Except.map identityRequest) m.decode_encode
  | mmInformation m =>
    cases hbody
    exact congrArg (Except.map mmInformation) (MmInformation.decode_encode hnames)
  | authenticationResponse sres =>
    cases hbody
    have hsres : Body.readField 4 sres.octets = .ok (sres, []) := by
      have hread := Field.read?_append sres []
      rw [List.append_nil] at hread
      rw [Body.readField, hread]
    exact congrArg (Except.map fun r => authenticationResponse r.1) hsres
  | identityResponse i =>
    obtain ⟨value, hvalue, rfl⟩ := MobileIdentity.lift_eq_ok_iff.mp hbody
    have hread : decodeIdentity (Element.lengthValue value) = .ok i := by
      rw [decodeIdentity, MobileIdentity.read_lengthValue_nil hvalue]
      rfl
    exact congrArg (Except.map identityResponse) hread
  | _ =>
    cases hbody
    rfl

theorem exists_encode_iff_body {m : Message} :
    (∃ data, m.encode = .ok data) ↔ ∃ body, m.encodeBody = .ok body := by
  constructor
  · rintro ⟨data, h⟩
    obtain ⟨body, hbody, _⟩ := encode_eq_ok_iff.mp h
    exact ⟨body, hbody⟩
  · rintro ⟨body, h⟩
    exact ⟨_, encode_eq_ok_iff.mpr ⟨body, h, rfl⟩⟩

/-- A body that is put together around a value can be written if there is a value. -/
theorem exists_around_iff {P : Octets → Prop} {f : Octets → Octets} :
    (∃ body value, P value ∧ body = f value) ↔ ∃ value, P value := by
  constructor
  · rintro ⟨_, value, h, _⟩
    exact ⟨value, h⟩
  · rintro ⟨value, h⟩
    exact ⟨_, value, h, rfl⟩

/-- Nothing but the digits of an identity can keep a message from being written. -/
theorem exists_encode_iff {m : Message} :
    (∃ data, m.encode = .ok data) ↔ ∀ i ∈ m.identity?, i.IsWritable := by
  rw [exists_encode_iff_body]
  -- The messages with an identity, one after the other; all others can always be written.
  cases m with
  | imsiDetachIndication m =>
    simp [encodeBody, ImsiDetachIndication.encode_eq_ok_iff, identity?,
      ← MobileIdentity.exists_encode_iff, exists_around_iff]
  | locationUpdatingRequest m =>
    simp [encodeBody, LocationUpdatingRequest.encode_eq_ok_iff, identity?,
      ← MobileIdentity.exists_encode_iff, exists_around_iff]
  | identityResponse i =>
    simp [encodeBody, MobileIdentity.lift_eq_ok_iff, identity?,
      ← MobileIdentity.exists_encode_iff, exists_around_iff]
  | tmsiReallocationCommand m =>
    simp [encodeBody, TmsiReallocationCommand.encode_eq_ok_iff, identity?,
      ← MobileIdentity.exists_encode_iff, exists_around_iff]
  | cmServiceRequest m =>
    simp [encodeBody, CmServiceRequest.encode_eq_ok_iff, identity?,
      ← MobileIdentity.exists_encode_iff, exists_around_iff]
  | locationUpdatingAccept m =>
    obtain ⟨lai, identity, follow⟩ := m
    cases identity with
    | none =>
      have hencode := LocationUpdatingAccept.encode_of_none lai follow
      simp [encodeBody, hencode, identity?]
    | some i =>
      simp [encodeBody, LocationUpdatingAccept.encode_some_eq_ok_iff, identity?,
        ← MobileIdentity.exists_encode_iff, exists_around_iff]
  | _ => simp [encodeBody, identity?]

/-- A message with one identity can be written if the identity can. -/
theorem exists_encode_of_identity {m : Message} {i : MobileIdentity} {value : Octets}
    (hi : m.identity? = some i) (h : i.encode = .ok value) : ∃ data, m.encode = .ok data := by
  have hwritable : i.IsWritable := MobileIdentity.exists_encode_iff.mp ⟨value, h⟩
  rw [exists_encode_iff, hi]
  simpa using hwritable

/-! ## Messages that were read -/

theorem map_eq_ok_iff {α β : Type} {f : α → β} {r : Except CodecError α} {b : β} :
    r.map f = .ok b ↔ ∃ a, r = .ok a ∧ f a = b := by
  cases r <;> simp [Except.map]

/-- What any reader gives: three bits in the fields that have three, and names that come back. The
location area need not be in range. -/
structure IsRead (type : MessageType) (m : Message) : Prop where
  type_eq : m.type = type
  keySequence : ∀ k ∈ m.keySequence?, k.toNat ≤ 7
  requestedType : ∀ t ∈ m.requestedType?, t.toNat ≤ 7
  names : ∀ name ∈ m.names, name.IsKept

/-- A message with none of these fields. -/
theorem IsRead.of_none {type : MessageType} {m : Message} (htype : m.type = type)
    (hkey : m.keySequence? = none) (hrequested : m.requestedType? = none)
    (hnames : m.names = []) : IsRead type m :=
  ⟨htype, by simp [hkey], by simp [hrequested], by simp [hnames]⟩

theorem isRead_of_decodeBody {type : MessageType} {body : Octets} {m : Message}
    (h : decodeBody body type = .ok m) : IsRead type m := by
  -- Three messages have a key sequence, one a type, one names. Nothing is asked of the others.
  cases type with
  | authenticationRequest =>
    obtain ⟨b, hb, rfl⟩ := map_eq_ok_iff.mp h
    have hkey := AuthenticationRequest.keySequence_le_of_decode hb
    exact ⟨rfl, by simpa [keySequence?] using hkey, by simp [requestedType?], by simp [names]⟩
  | cmServiceRequest =>
    obtain ⟨b, hb, rfl⟩ := map_eq_ok_iff.mp h
    have hkey := CmServiceRequest.keySequence_le_of_decode hb
    exact ⟨rfl, by simpa [keySequence?] using hkey, by simp [requestedType?], by simp [names]⟩
  | locationUpdatingRequest =>
    obtain ⟨b, hb, rfl⟩ := map_eq_ok_iff.mp h
    have hkey := LocationUpdatingRequest.keySequence_le_of_decode hb
    exact ⟨rfl, by simpa [keySequence?] using hkey, by simp [requestedType?], by simp [names]⟩
  | identityRequest =>
    obtain ⟨b, hb, rfl⟩ := map_eq_ok_iff.mp h
    have htype := IdentityRequest.type_le_of_decode hb
    exact ⟨rfl, by simp [keySequence?], by simpa [requestedType?] using htype, by simp [names]⟩
  | mmInformation =>
    obtain ⟨b, hb, rfl⟩ := map_eq_ok_iff.mp h
    exact ⟨rfl, by simp [keySequence?], by simp [requestedType?],
      MmInformation.isKept_of_decode hb⟩
  | imsiDetachIndication | locationUpdatingAccept | locationUpdatingReject | authenticationResponse
  | identityResponse | tmsiReallocationCommand | cmServiceReject | abort | mmStatus =>
    obtain ⟨b, -, rfl⟩ := map_eq_ok_iff.mp h
    exact IsRead.of_none rfl rfl rfl rfl
  | authenticationReject | tmsiReallocationComplete | cmServiceAccept | cmServiceAbort =>
    cases h
    exact IsRead.of_none rfl rfl rfl rfl
  | cmServicePrompt | cmReestablishmentRequest | mmNull => cases h

theorem isRead_of_decode {type : MessageType} {data : Octets} {m : Message}
    (h : decode type data = .ok m) : IsRead type m := by
  unfold decode at h
  split at h
  · cases h
  · split at h
    · exact isRead_of_decodeBody h
    · cases h

/-! ## Round trips -/

/-- A message with every field in range and digits that can be written is written, and read as it
is, whatever skip indicator and send sequence number it is received with. -/
theorem read_where_written {m : Message} (hnames : m.type ≠ .mmInformation) (hrange : m.InRange)
    (hidentity : ∀ i ∈ m.identity?, i.IsWritable) :
    ∃ data, m.encode = .ok data ∧ decode m.type data = .ok m ∧
      ∀ data', Header.Resembles data data' →
        ∀ expected, decode expected data' = decode expected data := by
  obtain ⟨data, hdata⟩ := exists_encode_iff.mpr hidentity
  have hnone : m.names = [] := by
    cases m <;> first | rfl | contradiction
  refine ⟨data, hdata, ?_, ?_⟩
  · rw [decode_encode hdata (by simp [hnone]), readBack_eq_iff.mpr hrange]
  · intro data' hresembles expected
    simp only [decode, Header.readType_eq_of_resembles hresembles]

/-- A request for a location update with follow-on, in the last location area of network 262/42. -/
theorem update_read_where_written :
    let m := Message.locationUpdatingRequest
      ⟨.normal, true, 7, ⟨⟨262, 42, false⟩, 65535⟩, ⟨0x33⟩, .imsi "262420000000001"⟩
    ∃ data, m.encode = .ok data ∧ decode .locationUpdatingRequest data = .ok m ∧
      ∀ data', Header.Resembles data data' →
        ∀ expected, decode expected data' = decode expected data :=
  read_where_written (by decide)
    ⟨by simp [keySequence?], by simp [requestedType?], by simp [lai?, Lai.InRange, Plmn.InRange]⟩
    (by simp [identity?, MobileIdentity.IsWritable, MobileIdentity.digits?,
      MobileIdentity.IsDigits])

/-- A message that was read and can be written is read again as it is exactly if the codes of the
network in it have no more digits than are written. -/
theorem read_again_iff {type : MessageType} {data data' : Octets} {m : Message}
    (hread : decode type data = .ok m) (hwrite : m.encode = .ok data') :
    decode type data' = .ok m ↔ ∀ l ∈ m.lai?, l.InRange := by
  obtain ⟨rfl, hkey, hrequested, hnames⟩ := isRead_of_decode hread
  rw [decode_encode hwrite hnames, Except.ok.injEq, readBack_eq_iff]
  exact ⟨fun h => h.lai, fun h => ⟨hkey, hrequested, h⟩⟩

/-- A command with skip indicator, send sequence number and octets behind it, none of which come
back. -/
theorem command_read_again :
    decode .tmsiReallocationCommand
        [0x15, 0x5A, 0x62, 0xF2, 0x24, 0, 7, 5, 0xF4, 0, 0, 0, 1, 0xFF] =
        .ok (.tmsiReallocationCommand ⟨⟨⟨262, 42, false⟩, 7⟩, .tmsi 1⟩) ∧
      decode .tmsiReallocationCommand [0x05, 0x1A, 0x62, 0xF2, 0x24, 0, 7, 5, 0xF4, 0, 0, 0, 1] =
        .ok (.tmsiReallocationCommand ⟨⟨⟨262, 42, false⟩, 7⟩, .tmsi 1⟩) :=
  have hread : decode .tmsiReallocationCommand
      [0x15, 0x5A, 0x62, 0xF2, 0x24, 0, 7, 5, 0xF4, 0, 0, 0, 1, 0xFF] =
      .ok (.tmsiReallocationCommand ⟨⟨⟨262, 42, false⟩, 7⟩, .tmsi 1⟩) := by rfl
  ⟨hread, (read_again_iff hread (by rfl)).mpr (by simp [lai?, Lai.InRange, Plmn.InRange])⟩

/-- Six digits of 15 make codes that are too large for six digits of 9: the location area that was
received is sent back as another one. -/
theorem area_changed_by_writing :
    decode .tmsiReallocationCommand [0x05, 0x1A, 0xFF, 0xFF, 0xFF, 0xFF, 0xFE, 1, 0xF0] =
        .ok (.tmsiReallocationCommand ⟨⟨⟨1665, 165, false⟩, 65534⟩, .none⟩) ∧
      (Message.tmsiReallocationCommand ⟨⟨⟨1665, 165, false⟩, 65534⟩, .none⟩).encode =
        .ok [0x05, 0x1A, 0x66, 0xF5, 0x56, 0xFF, 0xFE, 1, 0xF0] ∧
      decode .tmsiReallocationCommand [0x05, 0x1A, 0x66, 0xF5, 0x56, 0xFF, 0xFE, 1, 0xF0] =
        .ok (.tmsiReallocationCommand ⟨⟨⟨665, 65, false⟩, 65534⟩, .none⟩) := by
  exact ⟨rfl, rfl, rfl⟩

end Message

end MobileStation
