import MobileStation.Proofs.Codec.Elements

/-!
# Identities read back

An identity that can be written is read back as it is: the odd flag and the filler give back the
count of digits that packing them in pairs has lost. It can be written exactly if its digits, where
it has any, are one to sixteen decimal ones.

Main statements: `MobileIdentity.decode_encode` and `MobileIdentity.exists_encode_iff`.
-/

namespace MobileStation

open Octets

/-! ## Decimal digits -/

/-- A digit and its value determine each other. -/
theorem Text.ofNat_of_digit? {c : Char} {d : Nat} (h : digit? c = some d) :
    d ≤ 9 ∧ Char.ofNat (48 + d) = c := by
  unfold digit? at h
  split at h
  · next hc =>
    have hlow : 48 ≤ c.toNat := hc.1
    have hhigh : c.toNat ≤ 57 := hc.2
    cases h
    refine ⟨by omega, ?_⟩
    rw [Nat.add_sub_cancel' hlow]
    exact Char.ofNat_toNat c
  · cases h

theorem Text.isSome_digit?_iff {c : Char} : (digit? c).isSome ↔ c.isDigit := by
  have hle : ('0' ≤ c ∧ c ≤ '9') ↔ c.isDigit = true := by
    simp [Char.isDigit, Char.le_def]
  rw [digit?, ← hle]
  split <;> simp_all

theorem Text.isDigit_ofNat {d : Nat} (h : d ≤ 9) : (Char.ofNat (48 + d)).isDigit = true := by
  have hall : ∀ d ≤ 9, (Char.ofNat (48 + d)).isDigit = true := by decide
  exact hall d h

theorem IdentityType.ofCode?_code (t : IdentityType) : ofCode? t.code = some t := by
  cases t <;> rfl

namespace MobileIdentity

/-- The values of digits tell the digits. -/
theorem text_of_mapM {cs : List Char} {ds : List Nat} (h : cs.mapM Text.digit? = some ds) :
    (∀ d ∈ ds, d ≤ 9) ∧ ds.map (fun d => Char.ofNat (48 + d)) = cs := by
  induction cs generalizing ds with
  | nil =>
    cases h
    simp
  | cons c rest ih =>
    rw [List.mapM_cons] at h
    -- One character that is no digit spoils the whole text.
    cases hd : Text.digit? c with
    | none => simp [hd] at h
    | some d =>
      cases hds : rest.mapM Text.digit? with
      | none => simp [hd, hds] at h
      | some tail =>
        obtain ⟨hsmall, hchar⟩ := Text.ofNat_of_digit? hd
        obtain ⟨hsmalls, hchars⟩ := ih hds
        simp only [hd, hds, Option.bind_eq_bind, Option.bind_some, Option.pure_def,
          Option.some.injEq] at h
        subst h
        exact ⟨by simpa [hsmall] using hsmalls, by simp [hchar, hchars]⟩

theorem digitText_eq {digits : String} {ds : List Nat} (h : digitValues? digits = some ds) :
    (∀ d ∈ ds, d ≤ 9) ∧ ds.length ≤ 16 ∧ digitText ds = digits := by
  obtain ⟨hds, hbound⟩ := Option.filter_eq_some_iff.mp h
  obtain ⟨hsmall, hchars⟩ := text_of_mapM hds
  refine ⟨hsmall, by simp_all, ?_⟩
  have hfilter : ds.filter (· ≤ 9) = ds := List.filter_eq_self.mpr (by simpa using hsmall)
  rw [digitText, hfilter, hchars, String.ofList_toList]

/-! ## Pairs of digits -/

/-- The halves of packed digits are the digits, and the filler after an odd count of them. -/
theorem halves_packDigits {ds : List Nat} (h : ∀ d ∈ ds, d ≤ 9) :
    halves (packDigits ds) = ds ++ List.replicate (ds.length % 2) 15 := by
  -- Two digits at a time, as they are packed.
  induction ds using packDigits.induct with
  | case1 => rfl
  | case2 d =>
    have hd : d ≤ 9 := h d (by simp)
    simp [packDigits, halves, low_pair (show d < 16 by omega),
      high_pair (show 15 < 16 by omega) (show d < 16 by omega)]
  | case3 d e rest ih =>
    have hd : d ≤ 9 := h d (by simp)
    have he : e ≤ 9 := h e (by simp)
    have hrest := ih fun x hx => h x (by simp [hx])
    have hcount : (rest.length + 1 + 1) % 2 = rest.length % 2 := by omega
    simp only [halves] at hrest
    simp [packDigits, halves, low_pair (show d < 16 by omega),
      high_pair (show e < 16 by omega) (show d < 16 by omega), hrest, hcount]

theorem length_packDigits (ds : List Nat) : (packDigits ds).length = (ds.length + 1) / 2 := by
  induction ds using packDigits.induct with
  | case1 => rfl
  | case2 d => simp [packDigits]
  | case3 d e rest ih =>
    simp only [packDigits, List.length_cons, ih]
    omega

/-- The odd flag tells whether the last half is filler. -/
theorem decodeDigits_packDigits {type : IdentityType} {d : Nat} {rest : List Nat}
    (h : ∀ x ∈ d :: rest, x ≤ 9) :
    decodeDigits (pair d (8 * ((rest.length + 1) % 2) + type.code)) (packDigits rest) =
      digitText (d :: rest) := by
  have hd : d ≤ 9 := h d (by simp)
  have hcode : type.code < 8 := by cases type <;> decide
  have hlower : 8 * ((rest.length + 1) % 2) + type.code < 16 := by omega
  rw [decodeDigits, halves_packDigits fun x hx => h x (by simp [hx]),
    high_pair (by omega) hlower, bit, toNat_pair (by omega) hlower,
    Nat.testBit_eq_decide_div_mod_eq]
  -- The first digit stands beside the flag, so the flag is set where the rest has no filler.
  obtain heven | hodd := Nat.mod_two_eq_zero_or_one rest.length
  · have hflag : (16 * d + (8 * ((rest.length + 1) % 2) + type.code)) / 2 ^ 3 % 2 = 1 := by omega
    rw [hflag]
    simp [heven]
  · have hflag : (16 * d + (8 * ((rest.length + 1) % 2) + type.code)) / 2 ^ 3 % 2 = 0 := by omega
    rw [hflag]
    simp [hodd]

/-! ## Identities -/

/-- The digits that were written are read, and the type that stands beside the first of them. -/
theorem decode_encodeDigits {type : IdentityType} {digits : String} {value : Octets}
    (h : encodeDigits type digits = .ok value) :
    ∃ first rest, value = first :: rest ∧ first.toNat % 8 = type.code ∧
      decodeDigits first rest = digits ∧ rest.length ≤ 8 := by
  unfold encodeDigits at h
  split at h
  · next d rest hds =>
    obtain ⟨hsmall, hlength, htext⟩ := digitText_eq hds
    cases h
    refine ⟨_, _, rfl, ?_, ?_, ?_⟩
    · have hd : d ≤ 9 := hsmall d (by simp)
      have hcode : type.code < 8 := by cases type <;> decide
      rw [toNat_pair (by omega) (by omega)]
      omega
    · rw [decodeDigits_packDigits hsmall, htext]
    · rw [length_packDigits]
      simp only [List.length_cons] at hlength
      omega
  · cases h

/-- An identity that was written is read as it is. -/
theorem decode_encode {i : MobileIdentity} {value : Octets} (h : i.encode = .ok value) :
    decode value = .ok i := by
  cases i with
  | none =>
    cases h
    rfl
  | imsi digits =>
    obtain ⟨first, rest, rfl, htype, hdigits, -⟩ := decode_encodeDigits h
    simp only [decode, htype, IdentityType.ofCode?_code, hdigits]
  | imei digits =>
    obtain ⟨first, rest, rfl, htype, hdigits, -⟩ := decode_encodeDigits h
    simp only [decode, htype, IdentityType.ofCode?_code, hdigits]
  | imeisv digits =>
    obtain ⟨first, rest, rfl, htype, hdigits, -⟩ := decode_encodeDigits h
    simp only [decode, htype, IdentityType.ofCode?_code, hdigits]
  | tmsi number =>
    cases h
    exact congrArg (fun n => Except.ok (tmsi n)) (toUInt32_ofUInt32 number)

theorem length_encode_le {i : MobileIdentity} {value : Octets} (h : i.encode = .ok value) :
    value.length ≤ 9 := by
  cases i with
  | none =>
    cases h
    decide
  | imsi digits | imei digits | imeisv digits =>
    obtain ⟨first, rest, rfl, -, -, hlength⟩ := decode_encodeDigits h
    simp only [List.length_cons]
    omega
  | tmsi number =>
    cases h
    simp [ofUInt32]

/-- An identity in front of other octets is read as it is. -/
theorem read_lengthValue {i : MobileIdentity} {value : Octets} (h : i.encode = .ok value)
    (rest : Octets) : read (Element.lengthValue value ++ rest) = .ok (i, rest) := by
  have hlength := length_encode_le h
  rw [read, Element.readLengthValue_lengthValue (by omega)]
  simp only [bind, Except.bind, decode_encode h]
  rfl

/-! ## What can be written -/

/-- The digits of an identity that is made of them. -/
def digits? : MobileIdentity → Option String
  | imsi digits => some digits
  | imei digits => some digits
  | imeisv digits => some digits
  | _ => .none

/-- One to sixteen decimal digits. -/
def IsDigits (digits : String) : Prop :=
  digits.toList ≠ [] ∧ digits.toList.length ≤ 16 ∧ ∀ c ∈ digits.toList, c.isDigit = true

/-- The digits of the identity, where it has any, are one to sixteen decimal ones. -/
def IsWritable (i : MobileIdentity) : Prop := ∀ digits ∈ i.digits?, IsDigits digits

theorem exists_mapM_digit? {cs : List Char} (h : ∀ c ∈ cs, c.isDigit = true) :
    ∃ ds, cs.mapM Text.digit? = some ds ∧ ds.length = cs.length := by
  induction cs with
  | nil => exact ⟨[], rfl, rfl⟩
  | cons c rest ih =>
    obtain ⟨d, hd⟩ := Option.isSome_iff_exists.mp (Text.isSome_digit?_iff.mpr (h c (by simp)))
    obtain ⟨ds, hds, hlength⟩ := ih fun x hx => h x (by simp [hx])
    exact ⟨d :: ds, by simp [List.mapM_cons, hd, hds], by simp [hlength]⟩

theorem exists_encodeDigits_iff {type : IdentityType} {digits : String} :
    (∃ value, encodeDigits type digits = .ok value) ↔ IsDigits digits := by
  constructor
  · rintro ⟨value, h⟩
    unfold encodeDigits at h
    split at h
    · next d rest hds =>
      obtain ⟨hmap, -⟩ := Option.filter_eq_some_iff.mp hds
      obtain ⟨hsmall, hlength, -⟩ := digitText_eq hds
      obtain ⟨-, hchars⟩ := text_of_mapM hmap
      rw [IsDigits, ← hchars]
      refine ⟨by simp, by simpa using hlength, ?_⟩
      intro c hc
      obtain ⟨x, hx, rfl⟩ := List.mem_map.mp hc
      exact Text.isDigit_ofNat (hsmall x hx)
    · cases h
  · rintro ⟨hsome, hlength, hdigits⟩
    obtain ⟨ds, hds, hcount⟩ := exists_mapM_digit? hdigits
    -- There is at least one digit, which goes into the first octet.
    cases ds with
    | nil => exact absurd (List.length_eq_zero_iff.mp hcount.symm) hsome
    | cons d rest =>
      have hvalues : digitValues? digits = some (d :: rest) := by
        have hbound : (d :: rest).length ≤ 16 := by omega
        rw [digitValues?, hds]
        simpa using hbound
      rw [encodeDigits, hvalues]
      exact ⟨_, rfl⟩

/-- Exactly the writable identities are written. -/
theorem exists_encode_iff {i : MobileIdentity} :
    (∃ value, i.encode = .ok value) ↔ i.IsWritable := by
  cases i with
  | none => simp [encode, IsWritable, digits?]
  | imsi digits => simp [encode, IsWritable, digits?, exists_encodeDigits_iff]
  | imei digits => simp [encode, IsWritable, digits?, exists_encodeDigits_iff]
  | imeisv digits => simp [encode, IsWritable, digits?, exists_encodeDigits_iff]
  | tmsi number => simp [encode, IsWritable, digits?]

end MobileIdentity

end MobileStation
