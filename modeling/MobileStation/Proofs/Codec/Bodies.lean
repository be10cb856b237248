import MobileStation.Proofs.Codec.Identity
import MobileStation.Proofs.Codec.Name

/-!
# Bodies read back

For every structure that is the body of a message: what its writer gives, if the identity in it can
be written, and what the reader takes from that. Three things do not come back as they were put in:
of a key sequence number and of a requested type the lowest three bits do, and of a location area
`Lai.readBack`.

Main statements: the `decode_encode` of every body, and `MmInformation.isKept_of_decode` (names that
were read come back).
-/

namespace MobileStation

open Octets

/-! ## Three bits -/

/-- The lowest three bits of an octet. -/
def Octets.threeBits (o : UInt8) : UInt8 := UInt8.ofNat (o.toNat % 8)

theorem Octets.threeBits_eq_iff {o : UInt8} : threeBits o = o ↔ o.toNat ≤ 7 :=
  ofNat_toNat_mod_eight_eq_iff

theorem Octets.toNat_ofNat_mod_eight_le (n : Nat) : (UInt8.ofNat (n % 8)).toNat ≤ 7 := by
  rw [UInt8.toNat_ofNat']
  omega

theorem Octets.threeBits_threeBits (o : UInt8) : threeBits (threeBits o) = threeBits o :=
  threeBits_eq_iff.mpr (toNat_ofNat_mod_eight_le o.toNat)

/-! ## Identities at the end of a body -/

/-- A body with an identity is written if the identity is. -/
theorem MobileIdentity.bind_eq_ok_iff {α : Type} {i : MobileIdentity}
    {f : Octets → Except CodecError α} {a : α} :
    (Body.lift i.encodeLengthValue >>= f) = .ok a ↔
      ∃ value, i.encode = .ok value ∧ f (Element.lengthValue value) = .ok a := by
  rw [encodeLengthValue]
  cases h : i.encode with
  | error e => simp [Except.map, Body.lift, bind, Except.bind]
  | ok value => simp [Except.map, Body.lift, bind, Except.bind]

theorem MobileIdentity.lift_eq_ok_iff {i : MobileIdentity} {data : Octets} :
    Body.lift i.encodeLengthValue = .ok data ↔
      ∃ value, i.encode = .ok value ∧ data = Element.lengthValue value := by
  rw [← bind_pure (Body.lift i.encodeLengthValue), bind_eq_ok_iff]
  simp [pure, Except.pure, eq_comm]

theorem MobileIdentity.read_lengthValue_nil {i : MobileIdentity} {value : Octets}
    (h : i.encode = .ok value) : read (Element.lengthValue value) = .ok (i, []) := by
  simpa using read_lengthValue h []

/-! ## Bodies -/

/-- The request as it is read where it was written. -/
def AuthenticationRequest.readBack (m : AuthenticationRequest) : AuthenticationRequest :=
  { m with keySequence := threeBits m.keySequence }

theorem AuthenticationRequest.decode_encode (m : AuthenticationRequest) :
    decode m.encode = .ok m.readBack := by
  have hrand : Field.read? 16 m.rand.octets = some (m.rand, []) := by
    simpa using Field.read?_append m.rand []
  have hkey := threeBits_threeBits m.keySequence
  simp only [threeBits] at hkey
  simp only [encode, decode, hrand, readBack, threeBits, hkey]

theorem AuthenticationRequest.keySequence_le_of_decode {data : Octets} {m : AuthenticationRequest}
    (h : decode data = .ok m) : m.keySequence.toNat ≤ 7 := by
  unfold decode at h
  split at h
  · cases h
  · split at h
    · cases h
      exact toNat_ofNat_mod_eight_le _
    · cases h

/-- The request as it is read where it was written. -/
def IdentityRequest.readBack (m : IdentityRequest) : IdentityRequest := ⟨threeBits m.type⟩

theorem IdentityRequest.decode_encode (m : IdentityRequest) :
    decode m.encode = .ok m.readBack := by
  have htype := threeBits_threeBits m.type
  simp only [threeBits] at htype
  simp only [encode, decode, Body.readOctet, bind, Except.bind, pure, Except.pure, readBack,
    threeBits, htype]

theorem IdentityRequest.type_le_of_decode {data : Octets} {m : IdentityRequest}
    (h : decode data = .ok m) : m.type.toNat ≤ 7 := by
  cases data with
  | nil => cases h
  | cons o rest =>
    cases h
    exact toNat_ofNat_mod_eight_le _

/-- The request as it is read where it was written. -/
def CmServiceRequest.readBack (m : CmServiceRequest) : CmServiceRequest :=
  { m with keySequence := threeBits m.keySequence }

theorem CmServiceRequest.encode_eq_ok_iff {m : CmServiceRequest} {data : Octets} :
    m.encode = .ok data ↔ ∃ value, m.identity.encode = .ok value ∧
      data = pair (m.keySequence.toNat % 8) m.service.code ::
        (m.classmark.encode ++ Element.lengthValue value) := by
  rw [encode, MobileIdentity.bind_eq_ok_iff]
  simp [pure, Except.pure, eq_comm]

theorem ServiceType.code_lt (s : ServiceType) : s.code < 16 := by
  cases s <;> decide

theorem ServiceType.ofCode?_code (s : ServiceType) : ofCode? s.code = some s := by
  cases s <;> rfl

theorem CmServiceRequest.decode_encode {m : CmServiceRequest} {data : Octets}
    (h : m.encode = .ok data) : decode data = .ok m.readBack := by
  obtain ⟨value, hvalue, rfl⟩ := encode_eq_ok_iff.mp h
  have hservice : low (pair (m.keySequence.toNat % 8) m.service.code) = m.service.code :=
    low_pair m.service.code_lt
  have hkey : UInt8.ofNat (high (pair (m.keySequence.toNat % 8) m.service.code) % 8) =
      threeBits m.keySequence := by
    rw [high_pair (by omega) m.service.code_lt, Nat.mod_mod]
    rfl
  simp only [decode, Body.readOctet, bind, Except.bind, hservice, ServiceType.ofCode?_code,
    Classmark2.read_encode, Body.lift, MobileIdentity.read_lengthValue_nil hvalue, pure,
    Except.pure, hkey, readBack]

theorem CmServiceRequest.keySequence_le_of_decode {data : Octets} {m : CmServiceRequest}
    (h : decode data = .ok m) : m.keySequence.toNat ≤ 7 := by
  cases data with
  | nil => cases h
  | cons o rest =>
    simp only [decode, Body.readOctet, bind, Except.bind] at h
    -- The service, the classmark and the identity, each of which may not be readable.
    split at h
    · cases h
    · split at h
      · cases h
      · split at h
        · cases h
        · cases h
          exact toNat_ofNat_mod_eight_le _

theorem ImsiDetachIndication.encode_eq_ok_iff {m : ImsiDetachIndication} {data : Octets} :
    m.encode = .ok data ↔ ∃ value, m.identity.encode = .ok value ∧
      data = m.classmark.octet :: Element.lengthValue value := by
  rw [encode, MobileIdentity.bind_eq_ok_iff]
  simp [pure, Except.pure, eq_comm]

theorem ImsiDetachIndication.decode_encode {m : ImsiDetachIndication} {data : Octets}
    (h : m.encode = .ok data) : decode data = .ok m := by
  obtain ⟨value, hvalue, rfl⟩ := encode_eq_ok_iff.mp h
  simp only [decode, Classmark1.read, Body.lift, bind, Except.bind,
    MobileIdentity.read_lengthValue_nil hvalue, pure, Except.pure]

/-- The request as it is read where it was written. -/
def LocationUpdatingRequest.readBack (m : LocationUpdatingRequest) : LocationUpdatingRequest :=
  { m with keySequence := threeBits m.keySequence, lai := m.lai.readBack }

theorem LocationUpdatingRequest.encode_eq_ok_iff {m : LocationUpdatingRequest} {data : Octets} :
    m.encode = .ok data ↔ ∃ value, m.identity.encode = .ok value ∧
      data = pair (m.keySequence.toNat % 8) (8 * m.followOn.toNat + m.kind.code) ::
        (m.lai.encode ++ m.classmark.octet :: Element.lengthValue value) := by
  rw [encode, MobileIdentity.bind_eq_ok_iff]
  simp [pure, Except.pure, eq_comm]

/-- The kind and the flag share the lower half of the first octet. -/
theorem LocationUpdatingRequest.first_octet {k : Nat} (hk : k < 8) (follow : Bool)
    (kind : UpdateKind) :
    high (pair k (8 * follow.toNat + kind.code)) = k ∧
      bit (pair k (8 * follow.toNat + kind.code)) 3 = follow ∧
      UpdateKind.ofCode? ((pair k (8 * follow.toNat + kind.code)).toNat % 4) = some kind := by
  -- Two bits for the kind, one for the flag, and the key above them: nothing overlaps.
  have hcode : kind.code < 4 := by cases kind <;> decide
  have hflag : follow.toNat ≤ 1 := by cases follow <;> decide
  refine ⟨high_pair (by omega) (by omega), ?_, ?_⟩
  · rw [bit, toNat_pair (by omega) (by omega), Nat.testBit_eq_decide_div_mod_eq]
    have hbit : (16 * k + (8 * follow.toNat + kind.code)) / 2 ^ 3 % 2 = follow.toNat := by omega
    rw [hbit]
    cases follow <;> rfl
  · rw [toNat_pair (by omega) (by omega)]
    have hlowest : (16 * k + (8 * follow.toNat + kind.code)) % 4 = kind.code := by omega
    rw [hlowest]
    cases kind <;> rfl

theorem LocationUpdatingRequest.decode_encode {m : LocationUpdatingRequest} {data : Octets}
    (h : m.encode = .ok data) : decode data = .ok m.readBack := by
  obtain ⟨value, hvalue, rfl⟩ := encode_eq_ok_iff.mp h
  obtain ⟨hhigh, hfollow, hkind⟩ :=
    first_octet (show m.keySequence.toNat % 8 < 8 by omega) m.followOn m.kind
  simp only [decode, Body.readOctet, bind, Except.bind, Body.readLai_encode, Classmark1.read,
    Body.lift, MobileIdentity.read_lengthValue_nil hvalue, pure, Except.pure, hhigh, hfollow,
    hkind, Option.getD_some, Nat.mod_mod, readBack, threeBits]

theorem LocationUpdatingRequest.keySequence_le_of_decode {data : Octets}
    {m : LocationUpdatingRequest} (h : decode data = .ok m) : m.keySequence.toNat ≤ 7 := by
  cases data with
  | nil => cases h
  | cons o rest =>
    simp only [decode, Body.readOctet, bind, Except.bind] at h
    -- The location area, the classmark and the identity, each of which may not be readable.
    split at h
    · cases h
    · split at h
      · cases h
      · split at h
        · cases h
        · cases h
          exact toNat_ofNat_mod_eight_le _

/-- The command as it is read where it was written. -/
def TmsiReallocationCommand.readBack (m : TmsiReallocationCommand) : TmsiReallocationCommand :=
  { m with lai := m.lai.readBack }

theorem TmsiReallocationCommand.encode_eq_ok_iff {m : TmsiReallocationCommand} {data : Octets} :
    m.encode = .ok data ↔ ∃ value, m.identity.encode = .ok value ∧
      data = m.lai.encode ++ Element.lengthValue value := by
  rw [encode, MobileIdentity.bind_eq_ok_iff]
  simp [pure, Except.pure, eq_comm]

theorem TmsiReallocationCommand.decode_encode {m : TmsiReallocationCommand} {data : Octets}
    (h : m.encode = .ok data) : decode data = .ok m.readBack := by
  obtain ⟨value, hvalue, rfl⟩ := encode_eq_ok_iff.mp h
  simp only [decode, bind, Except.bind, Body.readLai_encode, Body.lift,
    MobileIdentity.read_lengthValue_nil hvalue, pure, Except.pure, readBack]

/-! ## Bodies with optional elements -/

namespace LocationUpdatingAccept

/-- The message as it is read where it was written. -/
def readBack (m : LocationUpdatingAccept) : LocationUpdatingAccept :=
  { m with lai := m.lai.readBack }

/-- The entry that the permission to go on leaves in a scan. -/
def followOnEntries (follow : Bool) : List OptionalPart.Entry :=
  if follow then [(followOnElement, [])] else []

theorem scan_followOn (follow : Bool) :
    OptionalPart.scan optionalElements (if follow then [followOnElement] else []) =
      .ok (followOnEntries follow) := by
  have hnil : OptionalPart.scan optionalElements [] = .ok [] := by rw [OptionalPart.scan]
  cases follow with
  | false => exact hnil
  | true =>
    rw [if_pos rfl, OptionalPart.scan_bare (by decide), hnil]
    rfl

theorem encode_some_eq_ok_iff {lai : Lai} {i : MobileIdentity} {follow : Bool} {data : Octets} :
    encode ⟨lai, some i, follow⟩ = .ok data ↔ ∃ value, i.encode = .ok value ∧
      data = lai.encode ++ (identityElement :: (Element.lengthValue value ++
        if follow then [followOnElement] else [])) := by
  rw [encode, MobileIdentity.bind_eq_ok_iff]
  refine exists_congr fun value => and_congr_right fun _ => ⟨?_, ?_⟩
  · rintro ⟨rfl⟩
    rfl
  · rintro rfl
    rfl

theorem encode_of_none (lai : Lai) (follow : Bool) :
    encode ⟨lai, none, follow⟩ =
      .ok (lai.encode ++ if follow then [followOnElement] else []) := rfl

theorem decode_encode {m : LocationUpdatingAccept} {data : Octets} (h : m.encode = .ok data) :
    decode data = .ok m.readBack := by
  obtain ⟨lai, identity, follow⟩ := m
  cases identity with
  | none =>
    rw [encode_of_none] at h
    cases h
    simp only [decode, bind, Except.bind, Body.readLai_encode, scan_followOn, Body.lift]
    cases follow <;> rfl
  | some i =>
    obtain ⟨value, hvalue, rfl⟩ := encode_some_eq_ok_iff.mp h
    have hscan : OptionalPart.scan optionalElements (identityElement ::
        (Element.lengthValue value ++ if follow then [followOnElement] else [])) =
        .ok ((identityElement, value) :: followOnEntries follow) := by
      have hlength := MobileIdentity.length_encode_le hvalue
      rw [OptionalPart.scan_lengthed (by decide) (by omega), scan_followOn]
      rfl
    have hidentity : OptionalPart.find? ((identityElement, value) :: followOnEntries follow)
        identityElement = some value := rfl
    simp only [decode, bind, Except.bind, Body.readLai_encode, hscan, Body.lift, hidentity,
      MobileIdentity.decode_encode hvalue]
    cases follow <;> rfl

end LocationUpdatingAccept

/-- The name is read where it was written: its characters are in the alphabet, and there are no more
than its length octet can tell. -/
def NetworkName.IsKept (name : NetworkName) : Prop :=
  name.InAlphabet ∧ name.encode.length < 256

namespace MmInformation

/-- The names of the message. -/
def names (m : MmInformation) : List NetworkName := m.fullName.toList ++ m.shortName.toList

/-- The entry that a name leaves in a scan. -/
def nameEntries (identifier : UInt8) (name : Option NetworkName) : List OptionalPart.Entry :=
  name.toList.map fun n => (identifier, n.encode)

theorem scan_encodeName {identifier : UInt8} {name : Option NetworkName}
    (hdefined : OptionalPart.definition? optionalElements identifier =
      some ⟨identifier, .lengthed⟩)
    (hname : ∀ n ∈ name, n.IsKept) (rest : Octets) :
    OptionalPart.scan optionalElements (encodeName identifier name ++ rest) =
      (OptionalPart.scan optionalElements rest).map (nameEntries identifier name ++ ·) := by
  -- A name that is left out leaves no element.
  cases name with
  | none =>
    simp only [encodeName, List.nil_append]
    cases OptionalPart.scan optionalElements rest <;> rfl
  | some n =>
    have hlayout : OptionalPart.layoutOf optionalElements identifier = .lengthed := by
      rw [OptionalPart.layoutOf, hdefined]
    have hentry : OptionalPart.entryOf optionalElements identifier n.encode =
        nameEntries identifier (some n) := by
      rw [OptionalPart.entryOf, hdefined]
      rfl
    rw [← hentry]
    exact OptionalPart.scan_lengthed hlayout (hname n rfl).2

theorem scan_encode {m : MmInformation} (h : ∀ name ∈ m.names, name.IsKept) :
    OptionalPart.scan optionalElements m.encode =
      .ok (nameEntries fullNameElement m.fullName ++ nameEntries shortNameElement m.shortName) := by
  have hfull : ∀ n ∈ m.fullName, n.IsKept := fun n hn => h n (by simp_all [names])
  have hshort : ∀ n ∈ m.shortName, n.IsKept := fun n hn => h n (by simp_all [names])
  have hnil : OptionalPart.scan optionalElements [] = .ok [] := by rw [OptionalPart.scan]
  have hlast : OptionalPart.scan optionalElements (encodeName shortNameElement m.shortName) =
      .ok (nameEntries shortNameElement m.shortName) := by
    rw [← List.append_nil (encodeName _ _), scan_encodeName rfl hshort, hnil]
    simp [Except.map]
  rw [encode, scan_encodeName rfl hfull, hlast]
  rfl

/-- A name is found behind its own identifier. -/
theorem nameIn_nameEntries {m : MmInformation} (h : ∀ name ∈ m.names, name.IsKept) :
    let entries := nameEntries fullNameElement m.fullName ++
      nameEntries shortNameElement m.shortName
    nameIn entries fullNameElement = m.fullName ∧
      nameIn entries shortNameElement = m.shortName := by
  obtain ⟨full, short⟩ := m
  -- The two identifiers differ, so a short name without a full one is not taken for it.
  have hread : ∀ n ∈ names ⟨full, short⟩, (NetworkName.decode n.encode).toOption = some n :=
    fun n hn => by rw [NetworkName.decode_encode (h n hn).1]; rfl
  cases full <;> cases short <;>
    simp_all [names, nameIn, nameEntries, OptionalPart.find?, fullNameElement, shortNameElement]

theorem decode_encode {m : MmInformation} (h : ∀ name ∈ m.names, name.IsKept) :
    decode m.encode = .ok m := by
  obtain ⟨hfull, hshort⟩ := nameIn_nameEntries h
  simp only [decode, bind, Except.bind, Body.lift, scan_encode h, pure, Except.pure, hfull, hshort]

/-- A name that was read from an element comes back. -/
theorem isKept_of_nameIn {data : Octets} {entries : List OptionalPart.Entry}
    (h : OptionalPart.scan optionalElements data = .ok entries) {identifier : UInt8}
    {name : NetworkName} (hname : nameIn entries identifier = some name) : name.IsKept := by
  obtain ⟨value, hfind, hvalue⟩ := Option.bind_eq_some_iff.mp hname
  have hdecode : NetworkName.decode value = .ok name := by
    cases hread : NetworkName.decode value with
    | error e => simp [hread, Except.toOption] at hvalue
    | ok n => simpa [hread, Except.toOption] using hvalue
  have hshort : ∀ d ∈ optionalElements, d.layout.IsShort := by
    simp [optionalElements, OptionalPart.Layout.IsShort]
  have hlength := OptionalPart.length_value_of_find? hshort h hfind
  have hbound := NetworkName.length_encode_le hdecode
  exact ⟨NetworkName.inAlphabet_of_decode hdecode, by omega⟩

theorem isKept_of_decode {data : Octets} {m : MmInformation} (h : decode data = .ok m) :
    ∀ name ∈ m.names, name.IsKept := by
  unfold decode at h
  cases hscan : OptionalPart.scan optionalElements data with
  | error e => simp [hscan, Body.lift, bind, Except.bind] at h
  | ok entries =>
    simp only [hscan, Body.lift, bind, Except.bind, pure, Except.pure, Except.ok.injEq] at h
    subst h
    intro name hname
    simp only [names, List.mem_append, Option.mem_toList] at hname
    obtain hfull | hshort := hname
    · exact isKept_of_nameIn hscan hfull
    · exact isKept_of_nameIn hscan hshort

end MmInformation

end MobileStation
