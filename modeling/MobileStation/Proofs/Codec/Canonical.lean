import MobileStation.Proofs.Codec.Identity

/-!
# Canonical codes of identities

A code of an identity is canonical if nothing in it is left open: the digits stand in the halves of
the octets in their order, the odd flag tells whether their count is odd, and an even count is
filled up with 15. The identities that can be written and the canonical codes determine each other;
the reader also takes codes that no identity is written as.

Main statements: `exists_encode_of_isCanonical` and `isCanonical_of_encode` (the canonical codes are
those that are written), and `canonical_one_to_one`.
-/

namespace MobileStation

open Octets

/-! ## Octets -/

/-- The halves of octets tell the octets. -/
theorem MobileIdentity.halves_injective {a b : Octets} (h : halves a = halves b) : a = b := by
  induction a generalizing b with
  | nil =>
    cases b with
    | nil => rfl
    | cons p b => simp [halves] at h
  | cons o a ih =>
    cases b with
    | nil => simp [halves] at h
    | cons p b =>
      simp only [halves, List.flatMap_cons, List.cons_append, List.nil_append,
        List.cons.injEq] at h
      -- An octet is made of its halves.
      obtain ⟨hlow, hhigh, hrest⟩ := h
      have hfirst : o = p := by rw [← pair_high_low o, ← pair_high_low p, hlow, hhigh]
      rw [hfirst, ih hrest]

theorem Octets.ofUInt32_toUInt32 (a b c d : UInt8) :
    ofUInt32 (toUInt32 a b c d) = [a, b, c, d] := by
  have ha := a.toNat_lt
  have hb := b.toNat_lt
  have hc := c.toNat_lt
  have hd := d.toNat_lt
  simp only [ofUInt32, toUInt32, UInt32.toNat_ofNat', List.cons.injEq, and_true,
    ← UInt8.toNat_inj, UInt8.toNat_ofNat']
  omega

namespace MobileIdentity

/-! ## Canonical codes -/

/-- The code of an identity without anything left open. The first digit stands beside the odd flag
and the type, the others follow two to an octet, the earlier one in the lower half. -/
inductive IsCanonical : Octets → Prop
  | none : IsCanonical [0xF0]
  | tmsi (a b c d : UInt8) : IsCanonical [0xF4, a, b, c, d]
  | digits (type : IdentityType) (ds : List Nat) (first : UInt8) (rest : Octets)
      (htype : type = .imsi ∨ type = .imei ∨ type = .imeisv)
      (hcount : 1 ≤ ds.length ∧ ds.length ≤ 16) (hdecimal : ∀ d ∈ ds, d ≤ 9)
      (hfirst : low first = (if ds.length % 2 = 1 then 8 else 0) + type.code)
      (horder : high first :: halves rest = ds ++ if ds.length % 2 = 1 then [] else [15]) :
      IsCanonical (first :: rest)

/-! ## Digits -/

theorem mapM_digit?_map {ds : List Nat} (h : ∀ d ∈ ds, d ≤ 9) :
    (ds.map fun d => Char.ofNat (48 + d)).mapM Text.digit? = some ds := by
  have hdigit : ∀ d ≤ 9, Text.digit? (Char.ofNat (48 + d)) = some d := by decide
  induction ds with
  | nil => rfl
  | cons d rest ih =>
    have hd : d ≤ 9 := h d (by simp)
    have hrest := ih fun x hx => h x (by simp [hx])
    simp [List.mapM_cons, hdigit d hd, hrest]

/-- The digits that a text was made of are read from it. -/
theorem digitValues?_digitText {ds : List Nat} (hdecimal : ∀ d ∈ ds, d ≤ 9)
    (hcount : 1 ≤ ds.length ∧ ds.length ≤ 16) : digitValues? (digitText ds) = some ds := by
  have hfilter : ds.filter (· ≤ 9) = ds := List.filter_eq_self.mpr (by simpa using hdecimal)
  have hsome : ds ≠ [] := by
    rintro rfl
    simp at hcount
  rw [digitValues?, digitText, hfilter, String.toList_ofList, mapM_digit?_map hdecimal]
  simpa [Option.filter] using ⟨hsome, hcount.2⟩

/-- Behind the first digit, an even count of all digits leaves one half over. -/
theorem halves_packDigits_behind {ds : List Nat} (h : ∀ d ∈ ds, d ≤ 9) :
    halves (packDigits ds) = ds ++ if (ds.length + 1) % 2 = 1 then [] else [15] := by
  rw [halves_packDigits h]
  obtain heven | hodd := Nat.mod_two_eq_zero_or_one ds.length
  · rw [heven, if_pos (by omega)]
    rfl
  · rw [hodd, if_neg (by omega)]
    rfl

/-- The odd flag is the fourth bit of the first octet. -/
theorem flag_eq (n : Nat) : 8 * (n % 2) = if n % 2 = 1 then 8 else 0 := by
  split <;> omega

/-- Digits in canonical order are written as they stand. -/
theorem encodeDigits_of_order {type : IdentityType} {ds : List Nat} {first : UInt8} {rest : Octets}
    (hcount : 1 ≤ ds.length ∧ ds.length ≤ 16) (hdecimal : ∀ d ∈ ds, d ≤ 9)
    (hfirst : low first = (if ds.length % 2 = 1 then 8 else 0) + type.code)
    (horder : high first :: halves rest = ds ++ if ds.length % 2 = 1 then [] else [15]) :
    encodeDigits type (digitText ds) = .ok (first :: rest) := by
  have hvalues := digitValues?_digitText hdecimal hcount
  cases ds with
  | nil => simp at hcount
  | cons d ds =>
    obtain ⟨hhigh, hhalves⟩ := List.cons.inj horder
    -- Both ways the half octets are the digits and the filler, and half octets tell the octets.
    have hpacked := halves_packDigits_behind fun x hx => hdecimal x (List.mem_cons_of_mem d hx)
    have hrest : packDigits ds = rest := halves_injective (hpacked.trans hhalves.symm)
    have hoctet : pair d (8 * ((ds.length + 1) % 2) + type.code) = first := by
      rw [flag_eq, ← hhigh, ← List.length_cons (a := d), ← hfirst, pair_high_low]
    rw [encodeDigits, hvalues]
    show Except.ok (pair d (8 * ((ds.length + 1) % 2) + type.code) :: packDigits ds) = _
    rw [hoctet, hrest]

/-- Digits are written in canonical order. -/
theorem isCanonical_of_encodeDigits {type : IdentityType} {digits : String} {value : Octets}
    (htype : type = .imsi ∨ type = .imei ∨ type = .imeisv)
    (h : encodeDigits type digits = .ok value) : IsCanonical value := by
  unfold encodeDigits at h
  split at h
  · next d ds hds =>
    obtain ⟨hdecimal, hbound, -⟩ := digitText_eq hds
    cases h
    have hd : d ≤ 9 := hdecimal d (by simp)
    have hcode : type.code < 8 := by cases type <;> decide
    have hpacked := halves_packDigits_behind fun x hx => hdecimal x (List.mem_cons_of_mem d hx)
    refine .digits type (d :: ds) _ _ htype ⟨by simp, hbound⟩ hdecimal ?_ ?_
    · rw [low_pair (by omega), flag_eq]
      rfl
    · rw [high_pair (by omega) (by omega), hpacked]
      rfl
  · cases h

/-! ## Identities -/

/-- A canonical code is that of an identity. -/
theorem exists_encode_of_isCanonical {value : Octets} (h : IsCanonical value) :
    ∃ i : MobileIdentity, i.encode = .ok value := by
  cases h with
  | none => exact ⟨none, rfl⟩
  | tmsi a b c d =>
    refine ⟨tmsi (toUInt32 a b c d), ?_⟩
    rw [encode, ofUInt32_toUInt32]
  | digits type ds first rest htype hcount hdecimal hfirst horder =>
    have hencode := encodeDigits_of_order hcount hdecimal hfirst horder
    rcases htype with rfl | rfl | rfl
    · exact ⟨imsi (digitText ds), hencode⟩
    · exact ⟨imei (digitText ds), hencode⟩
    · exact ⟨imeisv (digitText ds), hencode⟩

/-- Identities are written in canonical codes. -/
theorem isCanonical_of_encode {i : MobileIdentity} {value : Octets} (h : i.encode = .ok value) :
    IsCanonical value := by
  cases i with
  | none =>
    cases h
    exact .none
  | imsi digits => exact isCanonical_of_encodeDigits (.inl rfl) h
  | imei digits => exact isCanonical_of_encodeDigits (.inr (.inl rfl)) h
  | imeisv digits => exact isCanonical_of_encodeDigits (.inr (.inr rfl)) h
  | tmsi number =>
    cases h
    exact .tmsi _ _ _ _

/-- An identity can be written exactly if its digits, where it has any, are one to sixteen decimal
ones, and is then read back behind its length, with what follows it left over. The codes that are
read as the identity they are the code of are the canonical ones. -/
theorem canonical_one_to_one :
    (∀ i : MobileIdentity, (∃ value, i.encode = .ok value) ↔ i.IsWritable) ∧
    (∀ i : MobileIdentity, i.IsWritable → ∃ octets, i.encodeLengthValue = .ok octets ∧
      ∀ rest, read (octets ++ rest) = .ok (i, rest)) ∧
    ∀ value, IsCanonical value ↔ ∃ i, decode value = .ok i ∧ i.encode = .ok value := by
  refine ⟨fun i => exists_encode_iff, ?_, fun value => ⟨?_, ?_⟩⟩
  · intro i hwritable
    obtain ⟨value, hvalue⟩ := exists_encode_iff.mpr hwritable
    refine ⟨Element.lengthValue value, ?_, read_lengthValue hvalue⟩
    rw [encodeLengthValue, hvalue]
    rfl
  · intro hcanonical
    obtain ⟨i, hencode⟩ := exists_encode_of_isCanonical hcanonical
    exact ⟨i, decode_encode hencode, hencode⟩
  · rintro ⟨i, -, hencode⟩
    exact isCanonical_of_encode hencode

/-- An equipment identity of sixteen digits, whose code has a half left over, in front of more. -/
theorem canonical_one_to_one_of_imeisv :
    let i := imeisv "3569380356438091"
    let value : Octets := [0x33, 0x65, 0x39, 0x08, 0x53, 0x46, 0x83, 0x90, 0xF1]
    i.encode = .ok value ∧ i.IsWritable ∧ IsCanonical value ∧ decode value = .ok i ∧
      read (9 :: value ++ [0x21, 0x43]) = .ok (i, [0x21, 0x43]) := by
  intro i value
  have hencode : i.encode = .ok value := rfl
  have hwritable : i.IsWritable := (canonical_one_to_one.1 i).mp ⟨value, hencode⟩
  have hdecode : decode value = .ok i := decode_encode hencode
  obtain ⟨octets, hoctets, hread⟩ := canonical_one_to_one.2.1 i hwritable
  have hlengthed : 9 :: value = octets := by
    rw [encodeLengthValue, hencode] at hoctets
    exact Except.ok.inj hoctets
  refine ⟨hencode, hwritable, (canonical_one_to_one.2.2 value).mpr ⟨i, hdecode, hencode⟩,
    hdecode, ?_⟩
  rw [hlengthed]
  exact hread _

end MobileIdentity

end MobileStation
