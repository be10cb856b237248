import MobileStation.Message.Body

/-!
# Pieces of messages read back

What a reader takes off the front of octets that a writer put there, whatever follows them: fields,
values behind a length octet, classmarks and location areas. A location area is the only piece that
can be too large for its octets; what is left of it is `Lai.readBack`.

Main statements: `Element.readLengthValue_lengthValue`, `Classmark2.read_encode`,
`Body.readLai_encode`, and `Lai.readBack_eq_iff` (the areas that are read back as they are).
-/

namespace MobileStation

open Octets

/-! ## Numbers and fields -/

namespace Octets

theorem toUInt16_ofUInt16 (w : UInt16) :
    toUInt16 (UInt8.ofNat (w.toNat / 256)) (UInt8.ofNat (w.toNat % 256)) = w := by
  have hw := w.toNat_lt
  apply UInt16.toNat_inj.mp
  simp only [toUInt16, UInt16.toNat_ofNat', UInt8.toNat_ofNat']
  omega

theorem toUInt32_ofUInt32 (w : UInt32) :
    toUInt32 (UInt8.ofNat (w.toNat / 16777216)) (UInt8.ofNat (w.toNat / 65536 % 256))
      (UInt8.ofNat (w.toNat / 256 % 256)) (UInt8.ofNat (w.toNat % 256)) = w := by
  have hw := w.toNat_lt
  apply UInt32.toNat_inj.mp
  simp only [toUInt32, UInt32.toNat_ofNat', UInt8.toNat_ofNat']
  omega

theorem toNat_pair {upper lower : Nat} (hu : upper < 16) (hl : lower < 16) :
    (pair upper lower).toNat = 16 * upper + lower := by
  simp only [pair, UInt8.toNat_ofNat']
  omega

/-- Three bits in the lowest places are written and read alike. -/
theorem ofNat_toNat_mod_eight_eq_iff {o : UInt8} :
    UInt8.ofNat (o.toNat % 8) = o ↔ o.toNat ≤ 7 := by
  have ho := o.toNat_lt
  rw [← UInt8.toNat_inj, UInt8.toNat_ofNat']
  omega

end Octets

theorem Field.read?_append {n : Nat} (f : Field n) (rest : Octets) :
    Field.read? n (f.octets ++ rest) = some (f, rest) := by
  obtain ⟨octets, rfl⟩ := f
  simp [read?]

/-! ## Values behind a length octet -/

namespace Element

theorem split_append {n : Nat} {value : Octets} (h : value.length = n) (rest : Octets) :
    split n (value ++ rest) = .ok (value, rest) := by
  subst h
  simp [split]

/-- A value that fits its length octet is read back, with what follows it left over. -/
theorem readLengthValue_lengthValue {value : Octets} (h : value.length < 256) (rest : Octets) :
    readLengthValue (lengthValue value ++ rest) = .ok (value, rest) := by
  have hlength : (UInt8.ofNat value.length).toNat = value.length := by
    rw [UInt8.toNat_ofNat']
    omega
  simp only [lengthValue, List.cons_append, readLengthValue, hlength]
  exact split_append rfl rest

end Element

theorem Classmark2.read_encode (c : Classmark2) (rest : Octets) :
    read (c.encode ++ rest) = .ok (c, rest) := by
  have hvalue : Element.readLengthValue (c.encode ++ rest) = .ok (c.octets, rest) :=
    Element.readLengthValue_lengthValue (by simp [octets]) rest
  simp only [read, hvalue, octets]

/-! ## Location areas -/

namespace Plmn

/-- As many network codes as the digits can tell apart. -/
def codeLimit (p : Plmn) : Nat := if p.longMnc then 1000 else 100

/-- The network that is read where `p` was written: what the digits have no place for is lost. -/
def readBack (p : Plmn) : Plmn :=
  ⟨UInt16.ofNat (p.mcc.toNat % 1000), UInt16.ofNat (p.mnc.toNat % p.codeLimit), p.longMnc⟩

/-- The codes have no more digits than are written. -/
def InRange (p : Plmn) : Prop :=
  p.mcc.toNat ≤ 999 ∧ p.mnc.toNat ≤ if p.longMnc then 999 else 99

theorem readBack_eq_iff {p : Plmn} : p.readBack = p ↔ p.InRange := by
  obtain ⟨mcc, mnc, long⟩ := p
  have hmcc := mcc.toNat_lt
  have hmnc := mnc.toNat_lt
  -- A remainder is the number itself exactly below the divisor.
  simp only [readBack, InRange, codeLimit, mk.injEq, and_true, ← UInt16.toNat_inj,
    UInt16.toNat_ofNat']
  cases long <;> simp <;> omega

theorem decode_encode (p : Plmn) :
    ∃ a b c, p.encode = [a, b, c] ∧ decode a b c = p.readBack := by
  obtain ⟨mcc, mnc, long⟩ := p
  cases long with
  | false =>
    refine ⟨_, _, _, rfl, ?_⟩
    -- The place of the third digit tells that there are two.
    change decode (pair (digitAt mcc.toNat 1) (digitAt mcc.toNat 2))
      (pair 15 (digitAt mcc.toNat 0)) (pair (digitAt mnc.toNat 0) (digitAt mnc.toNat 1)) = _
    simp only [digitAt, readBack, codeLimit, Bool.false_eq_true, if_false]
    rw [decode, if_pos (high_pair (by omega) (by omega)), low_pair (by omega),
      high_pair (by omega) (by omega), low_pair (by omega), low_pair (by omega),
      high_pair (by omega) (by omega)]
    congr 2 <;> omega
  | true =>
    refine ⟨_, _, _, rfl, ?_⟩
    -- Here a digit stands in that place, which is no 15.
    change decode (pair (digitAt mcc.toNat 1) (digitAt mcc.toNat 2))
      (pair (digitAt mnc.toNat 0) (digitAt mcc.toNat 0))
      (pair (digitAt mnc.toNat 1) (digitAt mnc.toNat 2)) = _
    simp only [digitAt, readBack, codeLimit, if_true]
    rw [decode, if_neg (by rw [high_pair (by omega) (by omega)]; omega), low_pair (by omega),
      high_pair (by omega) (by omega), low_pair (by omega), low_pair (by omega),
      high_pair (by omega) (by omega), high_pair (by omega) (by omega)]
    congr 2 <;> omega

end Plmn

namespace Lai

/-- The location area that is read where `l` was written. -/
def readBack (l : Lai) : Lai := { l with plmn := l.plmn.readBack }

/-- The network has no more digits than are written. -/
def InRange (l : Lai) : Prop := l.plmn.InRange

/-- Exactly the areas in range are read back as they are. -/
theorem readBack_eq_iff {l : Lai} : l.readBack = l ↔ l.InRange := by
  rw [InRange, ← Plmn.readBack_eq_iff]
  obtain ⟨plmn, lac⟩ := l
  simp [readBack]

theorem read?_encode (l : Lai) (rest : Octets) :
    read? (l.encode ++ rest) = some (l.readBack, rest) := by
  obtain ⟨a, b, c, hplmn, hread⟩ := l.plmn.decode_encode
  simp only [encode, hplmn, ofUInt16, List.cons_append, List.nil_append, read?, hread,
    toUInt16_ofUInt16]
  rfl

end Lai

theorem Body.readLai_encode (l : Lai) (rest : Octets) :
    readLai (l.encode ++ rest) = .ok (l.readBack, rest) := by
  simp only [readLai, Lai.read?_encode]

/-! ## Optional elements -/

namespace OptionalPart

variable {table : List Definition}

/-- Scanning goes on behind an element that was read. -/
theorem scan_cons {octet : UInt8} {data value rest : Octets}
    (h : readValue (layoutOf table octet) octet data = .ok (value, rest)) :
    scan table (octet :: data) = (scan table rest).map (entryOf table octet value ++ ·) := by
  rw [scan]
  split
  · next h' => simp [h] at h'
  · next h' =>
    rw [h] at h'
    cases h'
    cases scan table rest <;> rfl

/-- An element of a single octet that has a definition. -/
theorem scan_bare {octet : UInt8} {rest : Octets} (h : layoutOf table octet = .bare) :
    scan table (octet :: rest) = (scan table rest).map (entryOf table octet [] ++ ·) :=
  scan_cons (by rw [h]; rfl)

/-- An element with a length that its length octet can hold. -/
theorem scan_lengthed {octet : UInt8} {value rest : Octets}
    (h : layoutOf table octet = .lengthed) (hlength : value.length < 256) :
    scan table (octet :: (Element.lengthValue value ++ rest)) =
      (scan table rest).map (entryOf table octet value ++ ·) := by
  refine scan_cons ?_
  rw [h]
  exact Element.readLengthValue_lengthValue hlength rest

/-- The value has a length that a length octet can hold. -/
def Layout.IsShort : Layout → Prop
  | .fixed length => length < 256
  | _ => True

theorem length_value_of_split {n : Nat} {data value rest : Octets}
    (h : Element.split n data = .ok (value, rest)) : value.length = n := by
  unfold Element.split at h
  split at h
  · next hlength =>
    cases h
    exact List.length_take_of_le hlength
  · cases h

theorem length_value_of_readValue {layout : Layout} {octet : UInt8} {data value rest : Octets}
    (hshort : layout.IsShort) (h : readValue layout octet data = .ok (value, rest)) :
    value.length < 256 := by
  unfold readValue at h
  split at h
  · cases h
    simp
  · cases h
    simp
  · rw [length_value_of_split h]
    exact hshort
  · split at h
    · cases h
    · rw [length_value_of_split h]
      exact UInt8.toNat_lt _

theorem isShort_layoutOf (htable : ∀ d ∈ table, d.layout.IsShort) (octet : UInt8) :
    (layoutOf table octet).IsShort := by
  unfold layoutOf
  split
  · next d hd => exact htable d (List.mem_of_find?_eq_some hd)
  · unfold undefinedLayout
    split <;> trivial

/-- No value that the scan of an optional part finds is longer than a length octet can hold. -/
theorem length_value_of_scan (htable : ∀ d ∈ table, d.layout.IsShort) {data : Octets}
    {entries : List Entry} (h : scan table data = .ok entries) :
    ∀ entry ∈ entries, entry.2.length < 256 := by
  -- Along the scan: no octets, an element that breaks off, one before a rest that does, and one
  -- before a rest that is read.
  induction data using scan.induct table generalizing entries with
  | case1 =>
    rw [scan] at h
    cases h
    simp
  | case2 octet data e he =>
    rw [scan] at h
    split at h <;> simp_all
  | case3 octet data value rest hvalue e he ih =>
    rw [scan_cons hvalue, he] at h
    cases h
  | case4 octet data value rest hvalue more hmore ih =>
    rw [scan_cons hvalue, hmore] at h
    cases h
    intro entry hentry
    obtain hfirst | hrest := List.mem_append.mp hentry
    · have hlength := length_value_of_readValue (isShort_layoutOf htable octet) hvalue
      unfold entryOf at hfirst
      split at hfirst <;> simp_all
    · exact ih hmore entry hrest

theorem length_value_of_find? (htable : ∀ d ∈ table, d.layout.IsShort) {data : Octets}
    {entries : List Entry} (h : scan table data = .ok entries) {identifier : UInt8}
    {value : Octets} (hfind : find? entries identifier = some value) : value.length < 256 := by
  obtain ⟨entry, hentry, rfl⟩ := Option.map_eq_some_iff.mp hfind
  exact length_value_of_scan htable h entry (List.mem_of_find?_eq_some hentry)

end OptionalPart

end MobileStation
