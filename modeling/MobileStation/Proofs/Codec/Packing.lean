import MobileStation.Proofs.Codec.Name

/-!
# The bits of packed characters

A character takes seven bits, the lowest one first, and the next character goes on where it ends, so
most characters begin in one octet and end in the next. The digits that the characters are and the
digits that the octets are make the same number; its bits are those of the characters and those of
the octets.

Main statements: `Digits.testBit_value` (the bits of a number are those of its digits), `packs_pack`
and `packs_unpack` (where the characters of a name stand), and `packing_round_trip`.
-/

namespace MobileStation

/-! ## Bits of digits -/

namespace Digits

/-- In a base of `w` bits, the bits of a number are those of its digits. -/
theorem testBit_value {w : Nat} (hw : 0 < w) {ds : List Nat} (h : ∀ d ∈ ds, d < 2 ^ w) (k : Nat) :
    (value (2 ^ w) ds).testBit k = (ds.getD (k / w) 0).testBit (k % w) := by
  induction ds generalizing k with
  | nil => simp [value]
  | cons d rest ih =>
    have hd : d < 2 ^ w := h d (by simp)
    have hrest := ih (fun x hx => h x (by simp [hx])) (k - w)
    rw [value, Nat.add_comm, Nat.testBit_two_pow_mul_add _ hd]
    by_cases hk : k < w
    · rw [if_pos hk, Nat.div_eq_of_lt hk, Nat.mod_eq_of_lt hk, List.getD_cons_zero]
    · have hdiv : k / w = (k - w) / w + 1 := Nat.div_eq_sub_div hw (by omega)
      have hmod : k % w = (k - w) % w := Nat.mod_eq_sub_mod (by omega)
      rw [if_neg hk, hrest, hdiv, hmod, List.getD_cons_succ]

/-- The bits of a digit that was taken off are those of the number. -/
theorem testBit_take {w count i j : Nat} (hi : i < count) (hj : j < w) (n : Nat) :
    ((take (2 ^ w) count n).getD i 0).testBit j = n.testBit (w * i + j) := by
  induction count generalizing i n with
  | zero => omega
  | succ count ih =>
    cases i with
    | zero =>
      rw [take, List.getD_cons_zero, Nat.testBit_mod_two_pow]
      simp [hj]
    | succ i =>
      have hplace : w * i + j + w = w * (i + 1) + j := by
        rw [Nat.mul_succ]
        omega
      rw [take, List.getD_cons_succ, ih (by omega), Nat.testBit_div_two_pow, hplace]

end Digits

/-! ## Bits of octets -/

namespace Octets

/-- Bit `k` of the octets, counted from the lowest bit of the first one. Only zeros stand behind the
last octet. -/
def bitAt (data : Octets) (k : Nat) : Bool := bit (data.getD (k / 8) 0) (k % 8)

/-- The codes stand in the octets one behind the other, in seven bits each, the lowest first. -/
def Packs (data : Octets) (codes : List Nat) : Prop :=
  ∀ i code, codes[i]? = some code → ∀ j < 7, data.bitAt (7 * i + j) = code.testBit j

theorem bitAt_eq (data : Octets) (k : Nat) :
    data.bitAt k = (Digits.value 256 (data.map UInt8.toNat)).testBit k := by
  have hsmall : ∀ d ∈ data.map UInt8.toNat, d < 2 ^ 8 := by
    intro d hd
    obtain ⟨o, -, rfl⟩ := List.mem_map.mp hd
    exact o.toNat_lt
  have hoctet : (data.map UInt8.toNat).getD (k / 8) 0 = (data.getD (k / 8) 0).toNat := by
    rw [List.getD_eq_getElem?_getD, List.getD_eq_getElem?_getD, List.getElem?_map]
    cases data[k / 8]? <;> rfl
  have hbits := Digits.testBit_value (by decide) hsmall k
  rw [hoctet] at hbits
  exact hbits.symm

end Octets

/-! ## Names -/

namespace NetworkName

/-- Characters stand where they were packed. -/
theorem packs_pack {codes : List Nat} (h : ∀ code ∈ codes, code < 128) :
    Octets.Packs (pack codes) codes := by
  intro i code hcode j hj
  have hbits := Digits.testBit_value (w := 7) (by decide) h (7 * i + j)
  have hdiv : (7 * i + j) / 7 = i := by omega
  have hmod : (7 * i + j) % 7 = j := by omega
  rw [hdiv, hmod, List.getD_eq_getElem?_getD, hcode, Option.getD_some] at hbits
  rw [Octets.bitAt_eq, value_pack h]
  exact hbits

/-- Characters are unpacked from where they stand. -/
theorem packs_unpack (count : Nat) (data : Octets) : data.Packs (unpack count data) := by
  intro i code hcode j hj
  have hi : i < count := by
    obtain ⟨hi, -⟩ := List.getElem?_eq_some_iff.mp hcode
    rwa [unpack, Digits.length_take] at hi
  have hbits := Digits.testBit_take (w := 7) hi hj (Digits.value 256 (data.map UInt8.toNat))
  rw [List.getD_eq_getElem?_getD] at hbits
  change ((unpack count data)[i]?.getD 0).testBit j = _ at hbits
  rw [hcode, Option.getD_some] at hbits
  rw [Octets.bitAt_eq, hbits]

/-- Names of any length survive packing. What is written tells how many bits are spare at the end,
and has the characters in front of them; it is read as the name with a question mark for each
character outside the alphabet. What is read, from whatever octets, is read again as it is. -/
theorem packing_round_trip :
    (∀ name : NetworkName,
      (∃ (first : UInt8) (packed : Octets), name.encode = first :: packed ∧
        7 * name.text.length + first.toNat % 8 = 8 * packed.length ∧ packed.Packs name.codes) ∧
      decode name.encode = .ok name.shown ∧ (name.InAlphabet → name.shown = name)) ∧
    ∀ value name, decode value = .ok name →
      (∃ (first : UInt8) (packed : Octets) (codes : List Nat), value = first :: packed ∧
        codes.length = (8 * packed.length - first.toNat % 8) / 7 ∧ packed.Packs codes ∧
        name.text = String.ofList (codes.map DefaultAlphabet.character)) ∧
      decode name.encode = .ok name := by
  constructor
  · intro name
    refine ⟨?_, decode_encode_shown name, shown_of_inAlphabet⟩
    obtain ⟨spare, hspare, hbits, hencode⟩ := name.encode_eq
    have hlength : name.codes.length = name.text.length := by
      rw [codes, List.length_map, String.length_toList]
    -- The spare bits share their octet with the flag for the alphabet and do not reach it.
    have hfirst : (UInt8.ofNat (128 + spare)).toNat % 8 = spare := by
      rw [UInt8.toNat_ofNat']
      omega
    refine ⟨_, _, hencode, ?_, packs_pack name.code_lt_of_mem_codes⟩
    rw [hfirst, ← hlength, hbits]
  · intro value name hread
    refine ⟨?_, decode_encode (inAlphabet_of_decode hread)⟩
    obtain ⟨first, packed, rfl, htext⟩ := of_decode hread
    exact ⟨first, packed, _, rfl, Digits.length_take _ _ _, packs_unpack _ _, htext⟩

/-- Eight characters that leave no bit to spare, one of them outside the alphabet; and seven
characters that were received with ones in all the seven spare bits. -/
theorem packing_round_trip_of_eight_and_seven :
    let eight : NetworkName := ⟨"Über €5!"⟩
    let seven : NetworkName := ⟨"Betreib"⟩
    let value : Octets := [0x0F, 0xC2, 0x32, 0x5D, 0x5E, 0x4E, 0x8B, 0xFF]
    decode eight.encode = .ok ⟨"Über ?5!"⟩ ∧ decode value = .ok seven ∧
      decode seven.encode = .ok seven ∧ seven.InAlphabet ∧ seven.shown = seven := by
  intro eight seven value
  have height : eight.shown = ⟨"Über ?5!"⟩ := by cbv
  have hseven : seven.InAlphabet := by simp [seven, InAlphabet, DefaultAlphabet.characters]
  have hread : decode value = .ok seven := by cbv
  refine ⟨?_, hread, (packing_round_trip.2 value seven hread).2, hseven, ?_⟩
  · rw [(packing_round_trip.1 eight).2.1, height]
  · exact (packing_round_trip.1 seven).2.2 hseven

end NetworkName

end MobileStation
