import MobileStation.Proofs.Codec.RoundTrip

/-!
# Errors of writing and errors of reading

A message that cannot be written has an identity whose digits cannot be written, and that is the
error it ends with. No reader ends with this error, so an error tells whether it was a message of
the network that was at fault or one of the station.

Main statements: `Message.isWriting_of_encode` (how a message fails to be written) and, for each
body that the station reads, `reads_decode` (how it fails to be read).
-/

namespace MobileStation

/-! ## Errors -/

/-- The error of digits that cannot be written. -/
def ElementError.isWriting : ElementError → Bool
  | invalidDigits _ => true
  | _ => false

/-- The error of a message whose identity cannot be written. -/
def CodecError.isWriting : CodecError → Bool
  | element e => e.isWriting
  | _ => false

/-- If there is an error, it has `P`. -/
def FailsOnlyWith {ε α : Type} (P : ε → Prop) (r : Except ε α) : Prop := ∀ e, r = .error e → P e

namespace FailsOnlyWith

variable {ε α β : Type} {P : ε → Prop}

theorem ok (a : α) : FailsOnlyWith P (.ok a : Except ε α) := nofun

theorem error {e : ε} (h : P e) : FailsOnlyWith P (.error e : Except ε α) := by
  rintro _ ⟨⟩
  exact h

/-- One step after the other fails as one of them does. -/
theorem bind {r : Except ε α} {next : α → Except ε β} (h : FailsOnlyWith P r)
    (hnext : ∀ a, FailsOnlyWith P (next a)) : FailsOnlyWith P (r >>= next) := by
  cases r with
  | error e => exact .error (h e rfl)
  | ok a => exact hnext a

theorem pure (a : α) : FailsOnlyWith P (Pure.pure a : Except ε α) := .ok a

end FailsOnlyWith

/-- The element is read, or the error is none of writing. -/
abbrev ReadsElement {α : Type} (r : Except ElementError α) : Prop :=
  FailsOnlyWith (fun e => e.isWriting = false) r

/-- The body is read, or the error is none of writing. -/
abbrev ReadsBody {α : Type} (r : Except CodecError α) : Prop :=
  FailsOnlyWith (fun e => e.isWriting = false) r

/-! ## Writing -/

theorem MobileIdentity.isWriting_of_encode {i : MobileIdentity} :
    FailsOnlyWith (fun e => e.isWriting = true) i.encode := by
  have hdigits (type : IdentityType) (digits : String) :
      FailsOnlyWith (fun e => e.isWriting = true) (encodeDigits type digits) := by
    unfold encodeDigits
    split
    · exact .ok _
    · exact .error rfl
  cases i with
  | none => exact .ok _
  | imsi digits => exact hdigits .imsi digits
  | imei digits => exact hdigits .imei digits
  | imeisv digits => exact hdigits .imeisv digits
  | tmsi value => exact .ok _

/-- A message fails to be written because of the digits of its identity alone. -/
theorem Message.isWriting_of_encode (m : Message) :
    FailsOnlyWith (fun e => e.isWriting = true) m.encode := by
  -- An identity is the only part of a message that may not be writable.
  have hidentity (i : MobileIdentity) :
      FailsOnlyWith (fun e => e.isWriting = true) (Body.lift i.encodeLengthValue) := by
    unfold MobileIdentity.encodeLengthValue
    cases h : i.encode with
    | error e => exact .error (i.isWriting_of_encode e h)
    | ok value => exact .ok _
  have hbody : FailsOnlyWith (fun e => e.isWriting = true) m.encodeBody := by
    cases m with
    | imsiDetachIndication body => exact (hidentity _).bind fun _ => .pure _
    | locationUpdatingAccept body =>
      obtain ⟨lai, identity, follow⟩ := body
      cases identity with
      | none => exact .pure _
      | some identity => exact (hidentity identity).bind fun _ => .pure _
    | locationUpdatingRequest body => exact (hidentity _).bind fun _ => .pure _
    | identityResponse identity => exact hidentity identity
    | tmsiReallocationCommand body => exact (hidentity _).bind fun _ => .pure _
    | cmServiceRequest body => exact (hidentity _).bind fun _ => .pure _
    | _ => exact .ok _
  exact hbody.bind fun _ => .pure _

/-! ## Reading elements -/

theorem Element.reads_split (n : Nat) (data : Octets) : ReadsElement (split n data) := by
  unfold split
  split
  · exact .ok _
  · exact .error rfl

theorem Element.reads_readLengthValue (data : Octets) : ReadsElement (readLengthValue data) := by
  cases data with
  | nil => exact .error rfl
  | cons length rest => exact reads_split _ _

theorem MobileIdentity.reads_decode (data : Octets) : ReadsElement (decode data) := by
  unfold decode
  split
  · exact .error rfl
  · split
    · exact .error rfl
    · exact .ok _
    · exact .ok _
    · exact .ok _
    · exact .ok _
    · split
      · exact .ok _
      · exact .error rfl

theorem MobileIdentity.reads_read (data : Octets) : ReadsElement (read data) :=
  (Element.reads_readLengthValue data).bind fun r =>
    (reads_decode r.1).bind fun _ => .pure _

namespace OptionalPart

theorem reads_readValue (layout : Layout) (octet : UInt8) (rest : Octets) :
    ReadsElement (readValue layout octet rest) := by
  unfold readValue
  split
  · exact .ok _
  · exact .ok _
  · exact Element.reads_split _ _
  · split
    · exact .error rfl
    · exact Element.reads_split _ _

/-- The scan fails as the element does at which it stops. -/
theorem reads_scan (table : List Definition) (data : Octets) : ReadsElement (scan table data) := by
  fun_induction scan table data with
  | case1 => exact .ok _
  | case2 octet data e hvalue => exact .error (reads_readValue _ _ _ e hvalue)
  | case3 octet data value rest hvalue e hrest ih => exact .error (ih e hrest)
  | case4 octet data value rest hvalue entries hrest ih => exact .ok _

end OptionalPart

/-! ## Reading bodies -/

namespace Body

theorem reads_lift {α : Type} {r : Except ElementError α} (h : ReadsElement r) :
    ReadsBody (lift r) := by
  cases r with
  | error e => exact .error (h e rfl)
  | ok a => exact .ok a

theorem reads_readLai (data : Octets) : ReadsBody (readLai data) := by
  unfold readLai
  split
  · exact .ok _
  · exact .error rfl

theorem reads_readOctet (data : Octets) : ReadsBody (readOctet data) := by
  cases data with
  | nil => exact .error rfl
  | cons o rest => exact .ok _

end Body

theorem AuthenticationRequest.reads_decode (data : Octets) : ReadsBody (decode data) := by
  unfold decode
  split
  · exact .error rfl
  · split
    · exact .ok _
    · exact .error rfl

theorem IdentityRequest.reads_decode (data : Octets) : ReadsBody (decode data) :=
  (Body.reads_readOctet data).bind fun _ => .pure _

theorem LocationUpdatingAccept.reads_decode (data : Octets) : ReadsBody (decode data) := by
  refine (Body.reads_readLai data).bind fun r => ?_
  refine (Body.reads_lift (OptionalPart.reads_scan _ _)).bind fun entries => ?_
  dsimp only
  split
  · exact (Body.reads_lift (MobileIdentity.reads_decode _)).bind fun _ => .pure _
  · exact .pure _

theorem TmsiReallocationCommand.reads_decode (data : Octets) : ReadsBody (decode data) :=
  (Body.reads_readLai data).bind fun _ =>
    (Body.reads_lift (MobileIdentity.reads_read _)).bind fun _ => .pure _

theorem MmInformation.reads_decode (data : Octets) : ReadsBody (decode data) :=
  (Body.reads_lift (OptionalPart.reads_scan _ data)).bind fun _ => .pure _

theorem Message.reads_decodeCause (data : Octets) : ReadsBody (decodeCause data) :=
  (Body.reads_readOctet data).bind fun _ => .pure _

end MobileStation
