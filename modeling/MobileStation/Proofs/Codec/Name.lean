import Mathlib.Algebra.Group.Nat.Defs
import MobileStation.Element.NetworkName
import MobileStation.Proofs.Codec.Elements

/-!
# Names read back

Packing characters is a change of base, so unpacking gives them back as long as the number fits the
digits it is written with. A name is read back as the alphabet shows it, so as it is if its
characters are in the alphabet; one that was read is such a name, and is written in no more octets
than it was read from.

Main statements: `NetworkName.decode_encode_shown`, `NetworkName.inAlphabet_of_decode` and
`NetworkName.length_encode_le`.
-/

namespace MobileStation

/-! ## Change of base -/

namespace Digits

theorem length_take (b count n : Nat) : (take b count n).length = count := by
  induction count generalizing n with
  | zero => rfl
  | succ count ih => simp [take, ih]

theorem lt_of_mem_take {b count n d : Nat} (hb : 0 < b) (h : d ∈ take b count n) : d < b := by
  induction count generalizing n with
  | zero => cases h
  | succ count ih =>
    obtain rfl | hrest := List.mem_cons.mp h
    · exact Nat.mod_lt _ hb
    · exact ih hrest

/-- The lowest digits of a number are its remainder. -/
theorem value_take (b count n : Nat) : value b (take b count n) = n % b ^ count := by
  induction count generalizing n with
  | zero => simp [take, value, Nat.mod_one]
  | succ count ih => rw [take, value, ih, Nat.pow_succ', Nat.mod_mul]

theorem value_lt {b : Nat} {ds : List Nat} (h : ∀ d ∈ ds, d < b) :
    value b ds < b ^ ds.length := by
  induction ds with
  | nil => simp [value]
  | cons d rest ih =>
    have hd : d < b := h d (by simp)
    have hrest := ih fun x hx => h x (by simp [hx])
    calc value b (d :: rest) < b + b * value b rest := by simp only [value]; omega
      _ = b * (value b rest + 1) := by rw [Nat.mul_add, Nat.mul_one, Nat.add_comm]
      _ ≤ b * b ^ rest.length := Nat.mul_le_mul_left b hrest
      _ = b ^ (d :: rest).length := by rw [List.length_cons, Nat.pow_succ']

/-- The digits of a number are those it was made of. -/
theorem take_value {b : Nat} {ds : List Nat} (h : ∀ d ∈ ds, d < b) :
    take b ds.length (value b ds) = ds := by
  induction ds with
  | nil => rfl
  | cons d rest ih =>
    have hd : d < b := h d (by simp)
    have hrest := ih fun x hx => h x (by simp [hx])
    rw [List.length_cons, take, value, Nat.add_mul_mod_self_left, Nat.mod_eq_of_lt hd,
      Nat.add_mul_div_left _ _ (by omega), Nat.div_eq_of_lt hd, Nat.zero_add, hrest]

end Digits

/-! ## The default alphabet -/

namespace DefaultAlphabet

theorem code_lt (c : Char) : code c < 128 := by
  simp only [code]
  split
  · assumption
  · decide

theorem character_mem (code : Nat) : character code ∈ characters := by
  rw [character, List.getD_eq_getElem?_getD]
  cases h : characters[code]? with
  | none => decide
  | some c => exact List.mem_of_getElem? h

/-- The character as the alphabet shows it: a question mark stands for one outside the alphabet. -/
def shown (c : Char) : Char := if c ∈ characters then c else '?'

theorem shown_of_mem {c : Char} (h : c ∈ characters) : shown c = c := if_pos h

/-- The code of a character stands for the character as the alphabet shows it. -/
theorem character_code (c : Char) : character (code c) = shown c := by
  by_cases h : c ∈ characters
  · have hidx : characters.idxOf c < characters.length := List.idxOf_lt_length_iff.mpr h
    rw [shown_of_mem h]
    simp only [code, hidx, if_true, character, List.getD_eq_getElem?_getD]
    simp [hidx]
  · have hidx : ¬ characters.idxOf c < characters.length := mt List.idxOf_lt_length_iff.mp h
    rw [code, if_neg hidx, shown, if_neg h]
    rfl

end DefaultAlphabet

/-! ## Names -/

namespace NetworkName

/-- All characters of the name are in the default alphabet. -/
def InAlphabet (name : NetworkName) : Prop :=
  ∀ c ∈ name.text.toList, c ∈ DefaultAlphabet.characters

/-- The name as the alphabet shows it. -/
def shown (name : NetworkName) : NetworkName := ⟨name.text.map DefaultAlphabet.shown⟩

/-- The alphabet shows a name in it as it is. -/
theorem shown_of_inAlphabet {name : NetworkName} (h : name.InAlphabet) : name.shown = name := by
  obtain ⟨text⟩ := name
  have htext : text.toList.map DefaultAlphabet.shown = text.toList := by
    rw [List.map_congr_left fun c hc => DefaultAlphabet.shown_of_mem (h c hc), List.map_id']
  rw [shown, mk.injEq, ← String.toList_inj, String.toList_map, htext]

/-- The codes of the characters. -/
def codes (name : NetworkName) : List Nat := name.text.toList.map DefaultAlphabet.code

theorem code_lt_of_mem_codes (name : NetworkName) : ∀ code ∈ name.codes, code < 128 := by
  simp [codes, DefaultAlphabet.code_lt]

theorem length_pack (codes : List Nat) : (pack codes).length = packedLength codes.length := by
  simp [pack, Digits.length_take]

/-- As many octets as the characters take hold the number that they make. -/
theorem value_pack {codes : List Nat} (h : ∀ code ∈ codes, code < 128) :
    Digits.value 256 ((pack codes).map UInt8.toNat) = Digits.value 128 codes := by
  have hoctets : (pack codes).map UInt8.toNat =
      Digits.take 256 (packedLength codes.length) (Digits.value 128 codes) := by
    rw [pack, List.map_map]
    refine (List.map_congr_left fun d hd => ?_).trans (List.map_id _)
    have hd256 := Digits.lt_of_mem_take (by decide) hd
    simp only [Function.comp_apply, UInt8.toNat_ofNat', id]
    omega
  have hfits : Digits.value 128 codes < 256 ^ packedLength codes.length := by
    calc Digits.value 128 codes < 128 ^ codes.length := Digits.value_lt h
      _ = 2 ^ (7 * codes.length) := by rw [Nat.pow_mul]
      _ ≤ 2 ^ (8 * packedLength codes.length) :=
          Nat.pow_le_pow_right (by decide) (by simp only [packedLength]; omega)
      _ = 256 ^ packedLength codes.length := by rw [Nat.pow_mul]
  -- Nothing of the number is cut off.
  rw [hoctets, Digits.value_take, Nat.mod_eq_of_lt hfits]

theorem unpack_pack {codes : List Nat} (h : ∀ code ∈ codes, code < 128) :
    unpack codes.length (pack codes) = codes := by
  rw [unpack, value_pack h, Digits.take_value h]

theorem length_encode (name : NetworkName) :
    name.encode.length = packedLength name.text.toList.length + 1 := by
  simp [encode, length_pack]

/-- A name is written as the number of its spare bits, of which there are at most seven, and its
packed characters. -/
theorem encode_eq (name : NetworkName) :
    ∃ spare ≤ 7, 7 * name.codes.length + spare = 8 * (pack name.codes).length ∧
      name.encode = UInt8.ofNat (128 + spare) :: pack name.codes := by
  have hlength : (pack name.codes).length = (7 * name.codes.length + 7) / 8 := length_pack _
  refine ⟨8 * (pack name.codes).length - 7 * name.codes.length, by omega, by omega, rfl⟩

/-- A name is read as the alphabet shows it. -/
theorem decode_encode_shown (name : NetworkName) : decode name.encode = .ok name.shown := by
  obtain ⟨spare, hspare, hbits, hencode⟩ := name.encode_eq
  have hfirst : (UInt8.ofNat (128 + spare)).toNat = 128 + spare := by
    rw [UInt8.toNat_ofNat']
    omega
  have hcoding : ∀ n ≤ 7, (128 + n) / 16 % 8 = 0 := by omega
  -- The spare bits tell a last character from none.
  have hcount : (8 * (pack name.codes).length - (128 + spare) % 8) / 7 = name.codes.length := by
    omega
  have hunpack : unpack name.codes.length (pack name.codes) = name.codes :=
    unpack_pack name.code_lt_of_mem_codes
  have htext : String.ofList (name.codes.map DefaultAlphabet.character) = name.shown.text := by
    rw [codes, List.map_map, shown, ← String.toList_inj, String.toList_ofList, String.toList_map]
    apply List.map_congr_left
    intro c _
    rw [Function.comp_apply, DefaultAlphabet.character_code]
  rw [hencode, decode, hfirst]
  simp only [hcoding spare hspare, hcount, hunpack, htext, ne_eq, not_true_eq_false, if_false]

/-- A name in the alphabet is read as it is. -/
theorem decode_encode {name : NetworkName} (h : name.InAlphabet) :
    decode name.encode = .ok name := by
  rw [decode_encode_shown, shown_of_inAlphabet h]

/-- What is read: characters, as many as there are places for seven bits. -/
theorem of_decode {data : Octets} {name : NetworkName} (h : decode data = .ok name) :
    ∃ first rest, data = first :: rest ∧ name.text = String.ofList
      ((unpack ((8 * rest.length - first.toNat % 8) / 7) rest).map DefaultAlphabet.character) := by
  cases data with
  | nil => cases h
  | cons first rest =>
    simp only [decode] at h
    split at h
    · cases h
    · cases h
      exact ⟨first, rest, rfl, rfl⟩

theorem inAlphabet_of_decode {data : Octets} {name : NetworkName} (h : decode data = .ok name) :
    name.InAlphabet := by
  obtain ⟨first, rest, -, htext⟩ := of_decode h
  intro c hc
  rw [htext, String.toList_ofList] at hc
  obtain ⟨code, -, rfl⟩ := List.mem_map.mp hc
  exact DefaultAlphabet.character_mem code

theorem length_encode_le {data : Octets} {name : NetworkName} (h : decode data = .ok name) :
    name.encode.length ≤ data.length := by
  obtain ⟨first, rest, rfl, htext⟩ := of_decode h
  rw [length_encode, htext, String.toList_ofList, List.length_map, unpack, Digits.length_take,
    packedLength, List.length_cons]
  omega

end NetworkName

end MobileStation
