import Mathlib.Data.List.Basic
import Mathlib.Data.List.GetD
import MobileStation.Proofs.Codec.Packing

/-!
# Packing octet by octet

The characters of a name can be packed and unpacked without the number that they make: each goes
into the octet in which it begins, shifted to its place there, and what does not fit goes into the
next octet. Every bit ends up where the change of base puts it.

Main statements: `bitAt_putAll` (the bits of the octets while they are filled), `putAll_eq_pack` and
`filterMap_septet?` (octet by octet the same comes out as by the change of base), and with them
`encode_eq_putAll` and `decode_cons_eq`.
-/

namespace MobileStation

/-! ## Bits of octets -/

namespace Octets

theorem bit_or_ofNat (o : UInt8) (n : Nat) {k : Nat} (hk : k < 8) :
    bit (o ||| UInt8.ofNat n) k = (bit o k || n.testBit k) := by
  rw [bit, UInt8.toNat_or, UInt8.toNat_ofNat', Nat.testBit_or, Nat.testBit_mod_two_pow, bit]
  simp [hk]

/-- Further bits are set in one octet, if it is there. -/
theorem bitAt_modify (data : Octets) (place n k : Nat) :
    bitAt (data.modify place (· ||| UInt8.ofNat n)) k =
      (data.bitAt k || (decide (k / 8 = place ∧ place < data.length) && n.testBit (k % 8))) := by
  have hk : k % 8 < 8 := Nat.mod_lt _ (by decide)
  rw [bitAt, bitAt, List.getD_eq_getElem?_getD, List.getD_eq_getElem?_getD, List.getElem?_modify]
  by_cases hplace : place = k / 8
  · subst hplace
    by_cases hthere : k / 8 < data.length
    · rw [List.getElem?_eq_getElem hthere]
      simp [bit_or_ofNat _ _ hk, hthere]
    · simp [hthere]
  · simp [hplace, Ne.symm hplace]

/-- An octet has eight bits. -/
theorem testBit_toNat (o : UInt8) {j : Nat} (hj : 8 ≤ j) : o.toNat.testBit j = false := by
  apply Nat.testBit_lt_two_pow
  calc o.toNat < 2 ^ 8 := o.toNat_lt
    _ ≤ 2 ^ j := Nat.pow_le_pow_right (by decide) hj

/-- Octets are told by their number and their bits. -/
theorem eq_of_bitAt {a b : Octets} (hlength : a.length = b.length)
    (h : ∀ k, a.bitAt k = b.bitAt k) : a = b := by
  refine List.ext_getElem hlength ?_
  intro i hi hi'
  rw [← UInt8.toNat_inj]
  apply Nat.eq_of_testBit_eq
  intro j
  by_cases hj : j < 8
  · have hbit := h (8 * i + j)
    have hdiv : (8 * i + j) / 8 = i := by omega
    have hmod : (8 * i + j) % 8 = j := by omega
    simp only [bitAt, hdiv, hmod, List.getD_eq_getElem?_getD, List.getElem?_eq_getElem hi,
      List.getElem?_eq_getElem hi', Option.getD_some] at hbit
    exact hbit
  · rw [testBit_toNat _ (Nat.not_lt.mp hj), testBit_toNat _ (Nat.not_lt.mp hj)]

end Octets

namespace NetworkName

/-! ## Packing -/

/-- Puts the code number `i` into the octets: the lower bits of it into the octet in which it
begins, and the others into the next one, if it is there. -/
def put (data : Octets) (i code : Nat) : Octets :=
  let place := 7 * i / 8
  let shift := 7 * i % 8
  let begun := data.modify place (· ||| UInt8.ofNat (code <<< shift))
  if 1 < shift then begun.modify (place + 1) (· ||| UInt8.ofNat (code >>> (8 - shift))) else begun

/-- Puts the codes into the octets, beginning with the number `i`. -/
def putAll (data : Octets) (i : Nat) : List Nat → Octets
  | [] => data
  | code :: rest => putAll (put data i code) (i + 1) rest

theorem length_put (data : Octets) (i code : Nat) : (put data i code).length = data.length := by
  simp only [put]
  split
  · simp
  · simp

theorem length_putAll (data : Octets) (i : Nat) (codes : List Nat) :
    (putAll data i codes).length = data.length := by
  induction codes generalizing data i with
  | nil => rfl
  | cons code rest ih => rw [putAll, ih, length_put]

/-- A code has seven bits. -/
theorem testBit_code {code : Nat} (h : code < 128) {j : Nat} (hj : 7 ≤ j) :
    code.testBit j = false := by
  apply Nat.testBit_lt_two_pow
  calc code < 2 ^ 7 := h
    _ ≤ 2 ^ j := Nat.pow_le_pow_right (by decide) hj

/-- Where there is room for a code, its bits are set from its place on. -/
theorem bitAt_put {data : Octets} {i code : Nat} (hcode : code < 128)
    (hroom : 7 * i + 7 ≤ 8 * data.length) (k : Nat) :
    (put data i code).bitAt k =
      (data.bitAt k || (decide (7 * i ≤ k) && code.testBit (k - 7 * i))) := by
  have hthere : 7 * i / 8 < data.length := by omega
  have hfirst :
      Octets.bitAt (data.modify (7 * i / 8) (· ||| UInt8.ofNat (code <<< (7 * i % 8)))) k =
        (data.bitAt k || (decide (k / 8 = 7 * i / 8 ∧ 7 * i ≤ k) && code.testBit (k - 7 * i))) := by
    rw [Octets.bitAt_modify, Nat.testBit_shiftLeft]
    by_cases hplace : k / 8 = 7 * i / 8
    · have hshift : 7 * i % 8 ≤ k % 8 ↔ 7 * i ≤ k := by omega
      have hbit : k % 8 - 7 * i % 8 = k - 7 * i := by omega
      simp [hplace, hthere, hshift, hbit]
    · simp [hplace]
  -- Where the octet in which the code begins is the only one that it reaches, that is all.
  have hwithin (h : k / 8 = 7 * i / 8 ∨ k < 7 * i ∨ 7 * i + 7 ≤ k) :
      (data.bitAt k || (decide (k / 8 = 7 * i / 8 ∧ 7 * i ≤ k) && code.testBit (k - 7 * i))) =
        (data.bitAt k || (decide (7 * i ≤ k) && code.testBit (k - 7 * i))) := by
    rcases h with hplace | hbefore | hbehind
    · simp [hplace]
    · simp [Nat.not_le.mpr hbefore]
    · simp [testBit_code hcode (show 7 ≤ k - 7 * i by omega)]
  simp only [put]
  split
  · -- A code that does not fit goes on in the next octet. As there is room, it is there.
    rw [Octets.bitAt_modify, hfirst, List.length_modify, Nat.testBit_shiftRight]
    by_cases hnext : k / 8 = 7 * i / 8 + 1
    · have hbehind : 7 * i ≤ k := by omega
      have hbit : 8 - 7 * i % 8 + k % 8 = k - 7 * i := by omega
      rw [hbit]
      by_cases hinside : k < 7 * i + 7
      · have hother : ¬ k / 8 = 7 * i / 8 := by omega
        have hlast : 7 * i / 8 + 1 < data.length := by omega
        simp [hnext, hlast, hbehind]
      · simp [testBit_code hcode (show 7 ≤ k - 7 * i by omega)]
    · have helsewhere : decide (k / 8 = 7 * i / 8 + 1 ∧ 7 * i / 8 + 1 < data.length) = false :=
        decide_eq_false fun hboth => hnext hboth.1
      rw [helsewhere, Bool.false_and, Bool.or_false]
      exact hwithin (by omega)
  · rw [hfirst]
    exact hwithin (by omega)

/-- Where there is room for the codes, their bits are set one behind the other. -/
theorem bitAt_putAll {data : Octets} {i : Nat} {codes : List Nat}
    (hcodes : ∀ code ∈ codes, code < 128)
    (hroom : 7 * (i + codes.length) ≤ 8 * data.length) (k : Nat) :
    (putAll data i codes).bitAt k =
      (data.bitAt k ||
        (decide (7 * i ≤ k) && (codes.getD ((k - 7 * i) / 7) 0).testBit ((k - 7 * i) % 7))) := by
  -- The octets carry the induction: what was put in before stays in them.
  induction codes generalizing data i with
  | nil => simp [putAll]
  | cons code rest ih =>
    have hcode : code < 128 := hcodes code (by simp)
    have hrest : ∀ later ∈ rest, later < 128 := fun later h => hcodes later (by simp [h])
    rw [List.length_cons] at hroom
    have hleft : 7 * (i + 1 + rest.length) ≤ 8 * (put data i code).length := by
      rw [length_put]
      omega
    rw [putAll, ih hrest hleft, bitAt_put hcode (by omega), Bool.or_assoc]
    congr 1
    -- A bit stands in front of the codes, in the first of them or in the rest.
    rcases Nat.lt_or_ge k (7 * i) with hbefore | hfrom
    · have hlater : ¬ 7 * (i + 1) ≤ k := by omega
      simp [Nat.not_le.mpr hbefore, hlater]
    rcases Nat.lt_or_ge k (7 * i + 7) with hinside | hbehind
    · have hlater : ¬ 7 * (i + 1) ≤ k := by omega
      have hdiv : (k - 7 * i) / 7 = 0 := by omega
      have hmod : (k - 7 * i) % 7 = k - 7 * i := by omega
      rw [hdiv, hmod, List.getD_cons_zero]
      simp [hlater]
    · have hlater : 7 * (i + 1) ≤ k := by omega
      have hdiv : (k - 7 * i) / 7 = (k - 7 * (i + 1)) / 7 + 1 := by omega
      have hmod : (k - 7 * i) % 7 = (k - 7 * (i + 1)) % 7 := by omega
      rw [hdiv, hmod, List.getD_cons_succ, testBit_code hcode (show 7 ≤ k - 7 * i by omega)]
      simp [hlater, hfrom]

/-- Filling octets that are all zero packs the codes. -/
theorem putAll_eq_pack {codes : List Nat} (h : ∀ code ∈ codes, code < 128) :
    putAll (List.replicate (packedLength codes.length) 0) 0 codes = pack codes := by
  have hroom : 7 * (0 + codes.length) ≤
      8 * (List.replicate (packedLength codes.length) (0 : UInt8)).length := by
    rw [List.length_replicate, packedLength]
    omega
  apply Octets.eq_of_bitAt
  · rw [length_putAll, List.length_replicate, length_pack]
  · intro k
    -- Nothing but the codes sets a bit.
    have hzero : Octets.bitAt (List.replicate (packedLength codes.length) 0) k = false := by
      rw [Octets.bitAt, List.getD_eq_getElem?_getD, List.getElem?_replicate]
      split <;> exact Nat.zero_testBit _
    have hbits := Digits.testBit_value (w := 7) (by decide) h k
    rw [bitAt_putAll h hroom, hzero, Octets.bitAt_eq, value_pack h]
    simpa using hbits.symm

/-! ## Unpacking -/

/-- The seven bits with the number `i`, taken from the octet in which they begin and the next one;
nothing where the octets have ended. -/
def septet? (data : Octets) (i : Nat) : Option Nat :=
  data[7 * i / 8]?.map fun low =>
    let high := data.getD (7 * i / 8 + 1) 0
    ((high.toNat <<< 8 ||| low.toNat) >>> (7 * i % 8)) &&& 127

/-- The bits that are taken are those that stand there. -/
theorem testBit_of_septet? {data : Octets} {i code : Nat} (h : septet? data i = some code)
    (j : Nat) : code.testBit j = (decide (j < 7) && data.bitAt (7 * i + j)) := by
  obtain ⟨low, hlow, rfl⟩ := Option.map_eq_some_iff.mp h
  have hmask : Nat.testBit 127 j = decide (j < 7) := Nat.testBit_two_pow_sub_one 7 j
  rw [Nat.testBit_and, Nat.testBit_shiftRight, Nat.testBit_or, Nat.testBit_shiftLeft, hmask,
    Bool.and_comm]
  by_cases hj : j < 7
  · congr 1
    rw [Octets.bitAt]
    -- The bit is in the octet in which the code begins, or it was carried into the next one.
    by_cases hplace : 7 * i % 8 + j < 8
    · have hdiv : (7 * i + j) / 8 = 7 * i / 8 := by omega
      have hmod : (7 * i + j) % 8 = 7 * i % 8 + j := by omega
      have hfirst : data.getD (7 * i / 8) 0 = low := by
        rw [List.getD_eq_getElem?_getD, hlow, Option.getD_some]
      rw [hdiv, hmod, hfirst, decide_eq_false (Nat.not_le.mpr hplace), Bool.false_and,
        Bool.false_or, Octets.bit]
    · have hdiv : (7 * i + j) / 8 = 7 * i / 8 + 1 := by omega
      have hmod : (7 * i + j) % 8 = 7 * i % 8 + j - 8 := by omega
      have hhigh : low.toNat.testBit (7 * i % 8 + j) = false :=
        Octets.testBit_toNat low (Nat.not_lt.mp hplace)
      rw [hdiv, hmod, hhigh, Bool.or_false, decide_eq_true (Nat.not_lt.mp hplace), Bool.true_and,
        Octets.bit]
  · simp [hj]

/-- One code is taken from octets that hold `count` of them. -/
theorem septet?_eq {data : Octets} {count i : Nat} (h : 7 * count ≤ 8 * data.length)
    (hi : i < count) : septet? data i = some ((unpack count data).getD i 0) := by
  have hthere : 7 * i / 8 < data.length := by omega
  obtain ⟨code, hcode⟩ : ∃ code, septet? data i = some code := by
    rw [septet?, List.getElem?_eq_getElem hthere]
    exact ⟨_, rfl⟩
  rw [hcode]
  congr 1
  apply Nat.eq_of_testBit_eq
  intro j
  rw [testBit_of_septet? hcode, unpack]
  -- The lower seven bits are those of the code; neither side has any above them.
  by_cases hj : j < 7
  · have hbits := Digits.testBit_take (w := 7) hi hj (Digits.value 256 (data.map UInt8.toNat))
    rw [Octets.bitAt_eq]
    simpa [hj] using hbits.symm
  · have hsmall :
        (Digits.take 128 count (Digits.value 256 (data.map UInt8.toNat))).getD i 0 < 128 := by
      have hlength := Digits.length_take 128 count (Digits.value 256 (data.map UInt8.toNat))
      rw [List.getD_eq_getElem _ _ (by omega)]
      exact Digits.lt_of_mem_take (by decide) (List.getElem_mem _)
    rw [testBit_code hsmall (Nat.not_lt.mp hj), decide_eq_false hj, Bool.false_and]

/-- Taking the codes one by one unpacks the octets. -/
theorem filterMap_septet? {data : Octets} {count : Nat} (h : 7 * count ≤ 8 * data.length) :
    (List.range count).filterMap (septet? data) = unpack count data := by
  have hlength : (unpack count data).length = count := Digits.length_take _ _ _
  calc (List.range count).filterMap (septet? data)
      = (List.range count).filterMap (some ∘ fun i => (unpack count data).getD i 0) :=
        List.filterMap_congr fun i hi => septet?_eq h (List.mem_range.mp hi)
    _ = (List.range count).map fun i => (unpack count data).getD i 0 := by
        rw [List.filterMap_eq_map]
    _ = unpack count data := by
        refine List.ext_getElem (by simp [hlength]) ?_
        intro i hi hi'
        rw [List.getElem_map, List.getElem_range, List.getD_eq_getElem _ _ hi']

/-! ## Values -/

/-- The value of a name, filled in octet by octet. -/
theorem encode_eq_putAll (name : NetworkName) :
    let length := packedLength name.codes.length
    name.encode = UInt8.ofNat (128 + (8 * length - 7 * name.codes.length)) ::
      putAll (List.replicate length 0) 0 name.codes := by
  intro length
  have hlength : (pack name.codes).length = length := length_pack _
  rw [putAll_eq_pack name.code_lt_of_mem_codes, ← hlength]
  rfl

/-- A value is read character by character. There are never more characters than octets for them,
so none is left out. -/
theorem decode_cons_eq (first : UInt8) (data : Octets) :
    decode (first :: data) =
      if first.toNat / 16 % 8 ≠ 0 then .error (.unsupportedCoding (first.toNat / 16 % 8))
      else .ok ⟨String.ofList ((List.range ((8 * data.length - first.toNat % 8) / 7)).filterMap
        fun i => (septet? data i).map DefaultAlphabet.character)⟩ := by
  have hroom : 7 * ((8 * data.length - first.toNat % 8) / 7) ≤ 8 * data.length := by omega
  rw [← List.map_filterMap, filterMap_septet? hroom]
  rfl

end NetworkName

end MobileStation
