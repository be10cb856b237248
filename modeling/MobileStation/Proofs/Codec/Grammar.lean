import MobileStation.Proofs.Codec.Elements

/-!
# The grammar of the optional part

The optional part of a message is a row of elements. The first octet of an element tells how it is
laid out: as the first definition that is for this octet has it, and without such a definition by
its highest bit. A string of octets that is no row begins with one, and is cut off within the
element behind it, which claims more octets than are left.

Main statements: `exists_row` (every string of octets is a row, whole or cut off),
`IsRow.scan_append` (the scan of a row in front of other octets) and `scan_grammar`.
-/

namespace MobileStation.OptionalPart

/-! ## Elements -/

/-- The definition is for elements that start with this octet. Of the octet only the upper half is
compared for a half octet element, whose value is the lower half. -/
def Definition.Describes (d : Definition) (octet : UInt8) : Prop :=
  match d.layout with
  | .halfOctet => d.identifier = octet &&& 0xF0
  | _ => d.identifier = octet

/-- What an octet selects: the first definition that is for it, with its layout, or no definition
and a layout by the highest bit. -/
inductive Selects (table : List Definition) (octet : UInt8) : Option Definition → Layout → Prop
  | defined (before after : List Definition) (d : Definition)
      (htable : table = before ++ d :: after) (hd : d.Describes octet)
      (hfirst : ∀ e ∈ before, ¬ e.Describes octet) :
      Selects table octet (some d) d.layout
  | single (hnone : ∀ d ∈ table, ¬ d.Describes octet) (hbit : 128 ≤ octet.toNat) :
      Selects table octet none .bare
  | announced (hnone : ∀ d ∈ table, ¬ d.Describes octet) (hbit : octet.toNat < 128) :
      Selects table octet none .lengthed

/-- An element of this layout that starts with the octet goes on with `body`, and has this value. -/
inductive LaidOut (octet : UInt8) : Layout → (body value : Octets) → Prop
  | halfOctet : LaidOut octet .halfOctet [] [octet &&& 0x0F]
  | bare : LaidOut octet .bare [] []
  | fixed (value : Octets) : LaidOut octet (.fixed value.length) value value
  | lengthed (length : UInt8) (value : Octets) (h : value.length = length.toNat) :
      LaidOut octet .lengthed (length :: value) value

/-- An element as it stands in a message. -/
structure Item where
  octet : UInt8
  /-- The octets behind the first one. -/
  body : Octets
  value : Octets
  /-- The definition of the element, if it has one. -/
  definition? : Option Definition

namespace Item

/-- The octets of the element. -/
def octets (i : Item) : Octets := i.octet :: i.body

/-- The value under the identifier of the definition. An element without a definition has none. -/
def entry? (i : Item) : Option Entry := i.definition?.map fun d => (d.identifier, i.value)

/-- The element is laid out as its first octet selects. -/
def Fits (table : List Definition) (i : Item) : Prop :=
  ∃ layout, Selects table i.octet i.definition? layout ∧ LaidOut i.octet layout i.body i.value

end Item

/-- The octets are those of the elements one after the other. -/
structure IsRow (table : List Definition) (items : List Item) (data : Octets) : Prop where
  fits : ∀ i ∈ items, i.Fits table
  octets : data = items.flatMap Item.octets

/-- The octets are the beginning of an element that claims `length` octets where only `remaining`
are left. -/
inductive CutOff (table : List Definition) : Octets → (length remaining : Nat) → Prop
  | fixed (octet : UInt8) (rest : Octets) (length : Nat) (d? : Option Definition)
      (hselects : Selects table octet d? (.fixed length)) (hshort : rest.length < length) :
      CutOff table (octet :: rest) length rest.length
  /-- The length octet itself is missing. -/
  | unannounced (octet : UInt8) (d? : Option Definition)
      (hselects : Selects table octet d? .lengthed) : CutOff table [octet] 1 0
  | lengthed (octet length : UInt8) (rest : Octets) (d? : Option Definition)
      (hselects : Selects table octet d? .lengthed) (hshort : rest.length < length.toNat) :
      CutOff table (octet :: length :: rest) length.toNat rest.length

variable {table : List Definition}

/-! ## What an octet selects -/

theorem Definition.accepts_iff {d : Definition} {octet : UInt8} :
    d.accepts octet = true ↔ d.Describes octet := by
  have hmask : ∀ n < 256, n &&& 0xF0 = 16 * (n / 16) := by decide +kernel
  obtain ⟨identifier, layout⟩ := d
  cases layout with
  | halfOctet =>
    simp only [accepts, Describes, beq_iff_eq, Octets.high, ← UInt8.toNat_inj, UInt8.toNat_and]
    rw [← hmask _ octet.toNat_lt]
    rfl
  | bare | fixed | lengthed => simp [accepts, Describes]

theorem definition?_eq_none_iff {octet : UInt8} :
    definition? table octet = none ↔ ∀ d ∈ table, ¬ d.Describes octet := by
  simp only [definition?, List.find?_eq_none, Definition.accepts_iff]

/-- The definition that is found is the first one for the octet. -/
theorem definition?_eq_some_iff {octet : UInt8} {d : Definition} :
    definition? table octet = some d ↔ ∃ before after, table = before ++ d :: after ∧
      d.Describes octet ∧ ∀ e ∈ before, ¬ e.Describes octet := by
  have hother (e : Definition) : (!e.accepts octet) = true ↔ ¬ e.Describes octet := by
    rw [Bool.not_eq_true', ← Bool.not_eq_true, Definition.accepts_iff]
  simp only [definition?, List.find?_eq_some_iff_append, Definition.accepts_iff, hother]
  constructor
  · rintro ⟨hd, before, after, htable, hfirst⟩
    exact ⟨before, after, htable, hd, hfirst⟩
  · rintro ⟨before, after, htable, hd, hfirst⟩
    exact ⟨hd, before, after, htable, hfirst⟩

theorem undefinedLayout_eq (octet : UInt8) :
    undefinedLayout octet = if 128 ≤ octet.toNat then .bare else .lengthed := by
  have hoctet := octet.toNat_lt
  have hbit : Octets.bit octet 7 = true ↔ 128 ≤ octet.toNat := by
    rw [Octets.bit, Nat.testBit_eq_decide_div_mod_eq, decide_eq_true_eq]
    omega
  simp only [undefinedLayout, hbit]

/-- An octet selects the definition and the layout that the scan goes by. -/
theorem selects_self (table : List Definition) (octet : UInt8) :
    Selects table octet (definition? table octet) (layoutOf table octet) := by
  cases hfind : definition? table octet with
  | some d =>
    obtain ⟨before, after, htable, hd, hfirst⟩ := definition?_eq_some_iff.mp hfind
    rw [layoutOf, hfind]
    exact .defined before after d htable hd hfirst
  | none =>
    have hnone := definition?_eq_none_iff.mp hfind
    rw [layoutOf, hfind]
    show Selects table octet none (undefinedLayout octet)
    rw [undefinedLayout_eq]
    split
    · next hhigh => exact .single hnone hhigh
    · next hlow => exact .announced hnone (by omega)

/-- An octet selects nothing else. -/
theorem Selects.eq {octet : UInt8} {d? : Option Definition} {layout : Layout}
    (h : Selects table octet d? layout) :
    d? = definition? table octet ∧ layout = layoutOf table octet := by
  cases h with
  | defined before after d htable hd hfirst =>
    have hfind := definition?_eq_some_iff.mpr ⟨before, after, htable, hd, hfirst⟩
    exact ⟨hfind.symm, by rw [layoutOf, hfind]⟩
  | single hnone hhigh =>
    have hfind := definition?_eq_none_iff.mpr hnone
    refine ⟨hfind.symm, ?_⟩
    rw [layoutOf, hfind]
    show _ = undefinedLayout octet
    rw [undefinedLayout_eq, if_pos hhigh]
  | announced hnone hlow =>
    have hfind := definition?_eq_none_iff.mpr hnone
    refine ⟨hfind.symm, ?_⟩
    rw [layoutOf, hfind]
    show _ = undefinedLayout octet
    rw [undefinedLayout_eq, if_neg (by omega)]

/-! ## Reading an element -/

/-- An element in front of other octets is read with its value. -/
theorem LaidOut.readValue_append {octet : UInt8} {layout : Layout} {body value : Octets}
    (h : LaidOut octet layout body value) (rest : Octets) :
    readValue layout octet (body ++ rest) = .ok (value, rest) := by
  cases h with
  | halfOctet =>
    -- The lower half, once as a remainder and once as a mask.
    have hlow : UInt8.ofNat (Octets.low octet) = octet &&& 0x0F := by
      have hmask : octet.toNat &&& 0x0F = octet.toNat % 16 := Nat.and_two_pow_sub_one_eq_mod _ 4
      apply UInt8.toNat_inj.mp
      rw [UInt8.toNat_and, UInt8.toNat_ofNat', Octets.low]
      show octet.toNat % 16 % 256 = octet.toNat &&& 0x0F
      omega
    simp only [readValue, hlow]
    rfl
  | bare => rfl
  | fixed value => exact Element.split_append rfl rest
  | lengthed length value hlength => exact Element.split_append hlength rest

theorem split_of_short {n : Nat} {data : Octets} (h : data.length < n) :
    Element.split n data = .error (.lengthExceeds n data.length) :=
  if_neg (by omega)

/-- Behind its first octet, a string of octets goes on with what the layout asks for, or is cut off
there. -/
theorem laidOut_or_cutOff (table : List Definition) (octet : UInt8) (data : Octets) :
    (∃ body value rest, LaidOut octet (layoutOf table octet) body value ∧ data = body ++ rest) ∨
      ∃ length remaining, CutOff table (octet :: data) length remaining := by
  have hselects := selects_self table octet
  -- Elements without a length cannot be cut off. The others are if fewer octets are left than they
  -- announce or need.
  cases hlayout : layoutOf table octet with
  | halfOctet => exact .inl ⟨[], _, data, .halfOctet, rfl⟩
  | bare => exact .inl ⟨[], _, data, .bare, rfl⟩
  | fixed length =>
    rw [hlayout] at hselects
    by_cases hshort : data.length < length
    · exact .inr ⟨_, _, .fixed octet data length _ hselects hshort⟩
    · have hlength : (data.take length).length = length := List.length_take_of_le (by omega)
      have hlaid : LaidOut octet (.fixed (data.take length).length) _ _ := .fixed _
      rw [hlength] at hlaid
      exact .inl ⟨_, _, data.drop length, hlaid, (List.take_append_drop _ _).symm⟩
  | lengthed =>
    rw [hlayout] at hselects
    cases data with
    | nil => exact .inr ⟨_, _, .unannounced octet _ hselects⟩
    | cons length rest =>
      by_cases hshort : rest.length < length.toNat
      · exact .inr ⟨_, _, .lengthed octet length rest _ hselects hshort⟩
      · have hlength : (rest.take length.toNat).length = length.toNat :=
          List.length_take_of_le (by omega)
        refine .inl ⟨_, _, rest.drop length.toNat, .lengthed length _ hlength, ?_⟩
        rw [List.cons_append, List.take_append_drop]

/-! ## Rows -/

theorem entryOf_eq (i : Item) (h : i.definition? = definition? table i.octet) :
    entryOf table i.octet i.value = i.entry?.toList := by
  rw [entryOf, Item.entry?, h]
  cases definition? table i.octet <;> rfl

/-- The scan of an element in front of other octets. -/
theorem Item.Fits.scan_append {i : Item} (h : i.Fits table) (rest : Octets) :
    scan table (i.octets ++ rest) = (scan table rest).map (i.entry?.toList ++ ·) := by
  obtain ⟨layout, hselects, hlaid⟩ := h
  obtain ⟨hdefinition, rfl⟩ := hselects.eq
  rw [← entryOf_eq i hdefinition]
  exact scan_cons (hlaid.readValue_append rest)

theorem IsRow.nil : IsRow table [] [] := ⟨by simp, rfl⟩

theorem IsRow.cons {i : Item} {items : List Item} {data : Octets} (hi : i.Fits table)
    (h : IsRow table items data) : IsRow table (i :: items) (i.octets ++ data) where
  fits := by simpa using ⟨hi, h.fits⟩
  octets := by rw [List.flatMap_cons, h.octets]

/-- The scan of a row in front of other octets: the entries of the row come first, and an error
behind it stays what it is. -/
theorem IsRow.scan_append {items : List Item} {data : Octets} (h : IsRow table items data)
    (rest : Octets) :
    scan table (data ++ rest) = (scan table rest).map (items.filterMap Item.entry? ++ ·) := by
  obtain ⟨hfits, rfl⟩ := h
  -- The items carry the induction, for one scan reads one item at a time.
  induction items with
  | nil =>
    show scan table rest = (scan table rest).map fun entries => entries
    cases scan table rest <;> rfl
  | cons i items ih =>
    have hi : i.Fits table := hfits i (by simp)
    have hrest := ih fun j hj => hfits j (by simp [hj])
    rw [List.flatMap_cons, List.append_assoc, hi.scan_append, hrest]
    cases scan table rest with
    | error e => rfl
    | ok entries => cases hentry : i.entry? <;> simp [Except.map, hentry]

theorem IsRow.scan_eq {items : List Item} {data : Octets} (h : IsRow table items data) :
    scan table data = .ok (items.filterMap Item.entry?) := by
  have happend := h.scan_append []
  rw [List.append_nil, scan] at happend
  simpa [Except.map] using happend

/-- The scan ends where an element is cut off. -/
theorem CutOff.scan_eq {data : Octets} {length remaining : Nat}
    (h : CutOff table data length remaining) :
    scan table data = .error (.lengthExceeds length remaining) := by
  have hread {octet : UInt8} {rest : Octets} {e : ElementError}
      (hvalue : readValue (layoutOf table octet) octet rest = .error e) :
      scan table (octet :: rest) = .error e := by
    rw [scan]
    split <;> simp_all
  -- In each case the value cannot be read, and that ends the scan.
  cases h with
  | fixed octet rest length d? hselects hshort =>
    refine hread ?_
    rw [← hselects.eq.2]
    exact split_of_short hshort
  | unannounced octet d? hselects =>
    refine hread ?_
    rw [← hselects.eq.2]
    rfl
  | lengthed octet length rest d? hselects hshort =>
    refine hread ?_
    rw [← hselects.eq.2]
    exact split_of_short hshort

/-- Every string of octets is a row, or a row and an element behind it that is cut off. -/
theorem exists_row (table : List Definition) (data : Octets) :
    ∃ items before rest, data = before ++ rest ∧ IsRow table items before ∧
      (rest = [] ∨ ∃ length remaining, CutOff table rest length remaining) := by
  -- By the length of the octets, since an element takes off as many as its length octet says.
  induction hlength : data.length using Nat.strongRecOn generalizing data with
  | ind n ih =>
    cases data with
    | nil => exact ⟨[], [], [], rfl, .nil, .inl rfl⟩
    | cons octet data =>
      obtain ⟨body, value, rest, hlaid, rfl⟩ | hcut := laidOut_or_cutOff table octet data
      · have hshorter : rest.length < n := by
          rw [← hlength, List.length_cons, List.length_append]
          omega
        obtain ⟨items, before, behind, rfl, hrow, hend⟩ := ih _ hshorter rest rfl
        let i : Item := ⟨octet, body, value, OptionalPart.definition? table octet⟩
        have hi : i.Fits table := ⟨_, selects_self table octet, hlaid⟩
        refine ⟨i :: items, i.octets ++ before, behind, ?_, hrow.cons hi, hend⟩
        rw [List.append_assoc]
        rfl
      · exact ⟨[], [], octet :: data, rfl, .nil, .inr hcut⟩

/-! ## The scan -/

/-- The scan of a row and an element behind it that is cut off. -/
theorem scan_of_cutOff {items : List Item} {before rest : Octets} {length remaining : Nat}
    (hrow : IsRow table items before) (hcut : CutOff table rest length remaining) :
    scan table (before ++ rest) = .error (.lengthExceeds length remaining) := by
  rw [hrow.scan_append, hcut.scan_eq]
  rfl

theorem exists_row_of_scan {data : Octets} {entries : List Entry}
    (h : scan table data = .ok entries) :
    ∃ items, IsRow table items data ∧ entries = items.filterMap Item.entry? := by
  obtain ⟨items, before, rest, rfl, hrow, hend⟩ := exists_row table data
  rcases hend with rfl | ⟨length, remaining, hcut⟩
  · rw [List.append_nil] at h ⊢
    exact ⟨items, hrow, Except.ok.inj (h.symm.trans hrow.scan_eq)⟩
  · cases h.symm.trans (scan_of_cutOff hrow hcut)

theorem exists_cutOff_of_scan {data : Octets} {e : ElementError} (h : scan table data = .error e) :
    ∃ items before rest length remaining, data = before ++ rest ∧ IsRow table items before ∧
      CutOff table rest length remaining ∧ e = .lengthExceeds length remaining := by
  obtain ⟨items, before, rest, rfl, hrow, hend⟩ := exists_row table data
  rcases hend with rfl | ⟨length, remaining, hcut⟩
  · rw [List.append_nil] at h
    cases h.symm.trans hrow.scan_eq
  · have herror := Except.error.inj (h.symm.trans (scan_of_cutOff hrow hcut))
    exact ⟨items, before, rest, length, remaining, rfl, hrow, hcut, herror⟩

/-- The scan accepts exactly the rows, with the values of their defined elements in order. Any other
string of octets is cut off within an element behind a row, and the error tells how many octets that
element claims and how many are left. So what follows a row is scanned as if it stood alone. -/
theorem scan_grammar (table : List Definition) (data : Octets) :
    (∀ entries, scan table data = .ok entries ↔
      ∃ items, IsRow table items data ∧ entries = items.filterMap Item.entry?) ∧
    (∀ e, scan table data = .error e ↔
      ∃ items before rest length remaining, data = before ++ rest ∧ IsRow table items before ∧
        CutOff table rest length remaining ∧ e = .lengthExceeds length remaining) ∧
    ∀ entries, scan table data = .ok entries →
      ∀ more, scan table (data ++ more) = (scan table more).map (entries ++ ·) := by
  refine ⟨fun entries => ⟨exists_row_of_scan, ?_⟩, fun e => ⟨exists_cutOff_of_scan, ?_⟩, ?_⟩
  · rintro ⟨items, hrow, rfl⟩
    exact hrow.scan_eq
  · rintro ⟨items, before, rest, length, remaining, rfl, hrow, hcut, rfl⟩
    exact scan_of_cutOff hrow hcut
  · intro entries hscan more
    obtain ⟨items, hrow, rfl⟩ := exists_row_of_scan hscan
    exact hrow.scan_append more

/-- Elements of all layouts, with and without a definition, in front of a name that is cut off. -/
theorem scan_grammar_in_front_of_cutOff :
    let table : List Definition :=
      [⟨0x17, .lengthed⟩, ⟨0xA1, .bare⟩, ⟨0x46, .fixed 1⟩, ⟨0xD0, .halfOctet⟩]
    let data : Octets := [0x30, 0x01, 0xFF, 0x95, 0xA1, 0x46, 0x40, 0xD3]
    scan table data = .ok [(0xA1, []), (0x46, [0x40]), (0xD0, [0x03])] ∧
      scan table (data ++ [0x17, 0x05, 0xAA]) = .error (.lengthExceeds 5 1) := by
  intro table data
  have hdata : scan table data = .ok [(0xA1, []), (0x46, [0x40]), (0xD0, [0x03])] := by cbv
  have hname : scan table [0x17, 0x05, 0xAA] = .error (.lengthExceeds 5 1) := by cbv
  refine ⟨hdata, ?_⟩
  rw [(scan_grammar table data).2.2 _ hdata, hname]
  rfl

end MobileStation.OptionalPart
