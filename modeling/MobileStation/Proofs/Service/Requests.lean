import MobileStation.Proofs.Codec.RoundTrip
import MobileStation.Proofs.Steps.Course

/-!
# What a message asks for

A message that the station sends is read as the network reads it: it asks for a location update, or
for a service, or for neither. A station whose configuration passed its checks has identities of
decimal digits, and can write every request.

Main statements: `Asked.read?_of_update` and `Asked.read?_of_service` (a request that was written is
read as what it asks for), `Asked.read?_of_matches` (signals that ask for nothing) and
`Config.writable_of_validate` (the identities of a checked configuration can be written).
-/

namespace MobileStation

/-! ## Reading a request -/

/-- What a message of the station asks the network for. -/
inductive Asked where
  /-- A location update. -/
  | update
  /-- A service; `none` if the type of the service is not known. -/
  | service (type : Option ServiceType)
  deriving DecidableEq

namespace Asked

/-- An emergency call is asked for. -/
def isEmergency : Asked → Bool
  | service (some .emergencyCall) => true
  | _ => false

/-- The service that the body of a service request names. -/
def serviceIn (body : Octets) : Option ServiceType :=
  body.head?.bind fun o => ServiceType.ofCode? (Octets.low o)

/-- What a message with this header and body asks for. -/
def ofBody? (body : Octets) : MessageType → Option Asked
  | .locationUpdatingRequest => some .update
  | .cmServiceRequest => some (.service (serviceIn body))
  | _ => none

/-- Reads what a message asks for. -/
def read? (data : Octets) : Option Asked :=
  match Header.readType data with
  | .ok (type, body) => ofBody? body type
  | .error _ => none

end Asked

/-- The signal carries no request for a location update or a service. -/
def Signal.asksNothing : Signal → Bool
  | establish type => type ≠ .locationUpdatingRequest && type ≠ .cmServiceRequest
  | send type => type ≠ .locationUpdatingRequest && type ≠ .cmServiceRequest
  | forward => false
  | abort => true
  | reject => true

/-! ## Messages that were written -/

namespace Asked

/-- A message that was written is read back by its type. -/
theorem read?_of_encode {m : Message} {data : Octets} (h : m.encode = .ok data) :
    ∃ body, m.encodeBody = .ok body ∧ read? data = ofBody? body m.type := by
  obtain ⟨body, hbody, rfl⟩ := Message.encode_eq_ok_iff.mp h
  refine ⟨body, hbody, ?_⟩
  rw [read?, Header.readType_ofType]

theorem read?_of_update {request : LocationUpdatingRequest} {data : Octets}
    (h : (Message.locationUpdatingRequest request).encode = .ok data) :
    read? data = some .update := by
  obtain ⟨body, _, hread⟩ := read?_of_encode h
  exact hread

theorem read?_of_service {request : CmServiceRequest} {data : Octets}
    (h : (Message.cmServiceRequest request).encode = .ok data) :
    read? data = some (.service (some request.service)) := by
  obtain ⟨body, hbody, hread⟩ := read?_of_encode h
  -- The type of service is the lower half of the first octet, whatever identity follows.
  have hservice : serviceIn body = some request.service := by
    change request.encode = .ok body at hbody
    unfold CmServiceRequest.encode at hbody
    cases hidentity : Body.lift request.identity.encodeLengthValue with
    | error e => simp [hidentity, bind, Except.bind] at hbody
    | ok identity =>
      simp only [hidentity, bind, Except.bind, pure, Except.pure, Except.ok.injEq] at hbody
      rw [← hbody]
      exact congrArg ServiceType.ofCode? (Octets.low_pair request.service.code_lt) |>.trans
        request.service.ofCode?_code
  rw [hread, ← hservice]
  rfl

/-- A message of any other type asks for nothing. -/
theorem ofBody?_eq_none {type : MessageType} (hupdate : type ≠ .locationUpdatingRequest)
    (hservice : type ≠ .cmServiceRequest) (body : Octets) : ofBody? body type = none := by
  cases type <;> first | rfl | contradiction

/-- What leaves the station as a signal that asks for nothing. -/
theorem read?_of_matches {signal : Signal} {p : RrPrimitive} (h : signal.Matches (.rr p))
    (hnothing : signal.asksNothing = true) : read? p.payload = none := by
  -- What establishes or uses the link carries a message of the given type; an abort carries
  -- nothing.
  cases signal with
  | establish type =>
    obtain ⟨_, m, rfl, hencode⟩ := h
    obtain ⟨body, _, hread⟩ := read?_of_encode hencode
    rw [hread]
    exact ofBody?_eq_none (by simp_all [Signal.asksNothing]) (by simp_all [Signal.asksNothing]) _
  | send type =>
    obtain ⟨_, m, rfl, hencode⟩ := h
    obtain ⟨body, _, hread⟩ := read?_of_encode hencode
    rw [hread]
    exact ofBody?_eq_none (by simp_all [Signal.asksNothing]) (by simp_all [Signal.asksNothing]) _
  | abort =>
    rw [h.2]
    rfl
  | forward => cases hnothing
  | reject => cases h

end Asked

/-! ## Identities that can be written -/

/-- Every character of a text takes an octet at least. -/
theorem length_le_utf8ByteSize (cs : List Char) : cs.length ≤ (String.ofList cs).utf8ByteSize := by
  induction cs with
  | nil => exact Nat.zero_le _
  | cons c rest ih =>
    have hsize := c.utf8Size_pos
    have hcons : String.ofList (c :: rest) = String.singleton c ++ String.ofList rest := by
      rw [String.singleton_eq_ofList, ← String.ofList_append]
      rfl
    rw [hcons, String.utf8ByteSize_append, String.utf8ByteSize_singleton, List.length_cons]
    omega

/-- What passes the check of an identity is made of as many decimal digits as can be written. -/
theorem Config.isDigits_of_checkDigits {name value : String} {least most : Nat}
    (h : checkDigits name value least most = .ok ()) (hleast : 0 < least) (hmost : most ≤ 16) :
    MobileIdentity.IsDigits value := by
  unfold checkDigits at h
  split at h
  · cases h
  · next hsize =>
    split at h
    · next hdigits =>
      refine ⟨?_, ?_, ?_⟩
      · intro hnil
        have hempty : value.utf8ByteSize = 0 := by
          rw [String.utf8ByteSize_eq_zero_iff]
          simpa using hnil
        omega
      · -- The check counts octets, and there are no more characters than octets.
        have hlength := length_le_utf8ByteSize value.toList
        rw [String.ofList_toList] at hlength
        omega
      · simpa [List.all_eq_true, Text.isSome_digit?_iff] using hdigits
    · cases h

namespace Config

/-- The identities of a configuration that passed its checks. -/
structure Writable (c : Config) : Prop where
  imei : ∃ value, (MobileIdentity.imei c.imei).encode = .ok value
  imsi : ∀ sim, c.sim = some sim → ∃ value, (MobileIdentity.imsi sim.imsi).encode = .ok value

/-- The checks that a configuration passed. -/
theorem checks_of_validate {c : Config} (h : c.validate = .ok ()) :
    checkDigits "IMEI" c.imei 15 15 = .ok () ∧ checkDigits "IMEISV" c.imeisv 16 16 = .ok () ∧
      ∀ sim, c.sim = some sim →
        checkDigits "IMSI" sim.imsi 6 15 = .ok () ∧ sim.keySequence ≤ 7 := by
  -- The checks are made one after the other, and the first that fails decides.
  unfold validate at h
  cases himei : checkDigits "IMEI" c.imei 15 15 with
  | error e => simp [himei, bind, Except.bind] at h
  | ok _ =>
    cases himeisv : checkDigits "IMEISV" c.imeisv 16 16 with
    | error e => simp [himei, himeisv, bind, Except.bind] at h
    | ok _ =>
      refine ⟨rfl, rfl, ?_⟩
      intro sim hsim
      cases himsi : checkDigits "IMSI" sim.imsi 6 15 with
      | error e => simp [himei, himeisv, hsim, checkSim, himsi, bind, Except.bind] at h
      | ok _ =>
        refine ⟨rfl, ?_⟩
        by_contra hlarge
        simp [himei, himeisv, hsim, checkSim, himsi, bind, Except.bind, UInt8.not_le.mp hlarge,
          throw, throwThe, MonadExceptOf.throw] at h

theorem writable_of_validate {c : Config} (h : c.validate = .ok ()) : c.Writable := by
  obtain ⟨himei, _, hsim⟩ := checks_of_validate h
  have himeiDigits := isDigits_of_checkDigits himei (by decide) (by decide)
  refine ⟨MobileIdentity.exists_encodeDigits_iff.mpr himeiDigits, ?_⟩
  intro sim hinserted
  have himsiDigits := isDigits_of_checkDigits (hsim sim hinserted).1 (by decide) (by decide)
  exact MobileIdentity.exists_encodeDigits_iff.mpr himsiDigits

theorem exists_encode_imeisv {c : Config} (h : c.validate = .ok ()) :
    ∃ value, (MobileIdentity.imeisv c.imeisv).encode = .ok value :=
  MobileIdentity.exists_encodeDigits_iff.mpr
    (isDigits_of_checkDigits (checks_of_validate h).2.1 (by decide) (by decide))

end Config

end MobileStation
