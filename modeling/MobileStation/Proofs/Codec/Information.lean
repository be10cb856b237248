import Mathlib.Data.List.Permutation
import MobileStation.Proofs.Codec.RoundTrip

/-!
# Names that fit their length octet

The value of a name stands behind a single length octet, so there is room for 290 characters. The
message can be written whatever its names are: of a longer value the length octet tells what is left
over 256, and the reader takes that many octets for the name. No octets at all are read as a name
that is longer.

Main statements: `NetworkName.isKept_iff` (the names that are read where they were written) and
`Message.information_read_iff`.
-/

namespace MobileStation

/-- A name is read where it was written if its characters are in the alphabet and there are at most
290 of them. -/
theorem NetworkName.isKept_iff {name : NetworkName} :
    name.IsKept ↔ name.InAlphabet ∧ name.text.length ≤ 290 := by
  have hlength : name.encode.length = (7 * name.text.length + 7) / 8 + 1 := by
    rw [length_encode, packedLength, String.length_toList]
  rw [IsKept, hlength]
  constructor
  · rintro ⟨halphabet, hfits⟩
    exact ⟨halphabet, by omega⟩
  · rintro ⟨halphabet, hfits⟩
    exact ⟨halphabet, by omega⟩

namespace Message

/-- The message with the network names is always written, and is read as it is exactly if each of
its names has its characters in the alphabet and no more than 290 of them. -/
theorem information_read_iff (m : MmInformation) :
    ∃ data, (mmInformation m).encode = .ok data ∧
      (decode .mmInformation data = .ok (mmInformation m) ↔
        ∀ name ∈ m.names, name.InAlphabet ∧ name.text.length ≤ 290) := by
  have hwrite : (mmInformation m).encode = .ok (Header.ofType .mmInformation ++ m.encode) := rfl
  refine ⟨_, hwrite, ?_⟩
  constructor
  · intro hread name hname
    -- A name that was read came out of as many octets as a length octet can tell.
    have hkept := (isRead_of_decode hread).names name hname
    exact NetworkName.isKept_iff.mp hkept
  · intro hfits
    have hkept : ∀ name ∈ m.names, name.IsKept :=
      fun name hname => NetworkName.isKept_iff.mpr (hfits name hname)
    exact decode_encode hwrite hkept

set_option maxRecDepth 8000 in
/-- A name of 296 characters takes 260 octets, of which the length octet tells four: the message is
read with the first three characters for the name. -/
theorem long_name_cut_short :
    let long : NetworkName := ⟨String.ofList (List.replicate 296 'x')⟩
    long.InAlphabet ∧
      ∃ data, (mmInformation ⟨some long, none⟩).encode = .ok data ∧
        decode .mmInformation data = .ok (mmInformation ⟨some ⟨"xxx"⟩, none⟩) := by
  intro long
  have halphabet : long.InAlphabet := by
    intro c hc
    rw [String.toList_ofList] at hc
    obtain ⟨-, rfl⟩ := List.mem_replicate.mp hc
    decide
  -- The value has 260 octets, and 260 is written as 4.
  have hvalue : long.encode = 128 :: NetworkName.pack (List.replicate 296 120) := by
    have hcode : DefaultAlphabet.code 'x' = 120 := by decide +kernel
    simp only [NetworkName.encode, long, String.toList_ofList, List.map_replicate, hcode,
      NetworkName.length_pack, List.length_replicate]
    rfl
  let body : Octets :=
    0x43 :: Element.lengthValue (128 :: NetworkName.pack (List.replicate 296 120))
  have hwrite : (mmInformation ⟨some long, none⟩).encode =
      .ok (Header.ofType .mmInformation ++ body) := by
    show Except.ok (Header.ofType .mmInformation ++
      (0x43 :: Element.lengthValue long.encode ++ [])) = _
    rw [hvalue, List.append_nil]
  have hread : decode .mmInformation (Header.ofType .mmInformation ++ body) =
      .ok (mmInformation ⟨some ⟨"xxx"⟩, none⟩) := by
    cbv
  exact ⟨halphabet, _, hwrite, hread⟩

end Message

end MobileStation
