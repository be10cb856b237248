import MobileStation.Element.Error

/-!
# The optional part of a message

Information elements that may follow the mandatory part. Each starts with an identifier octet that
selects its layout by a table of definitions; the scan collects the values of the defined elements
and skips the others.
-/

namespace MobileStation.OptionalPart

/-! ## Layouts -/

/-- How an optional element is laid out. -/
inductive Layout where
  /-- Type 1: the identifier in the upper half of the octet, the value in the lower half. -/
  | halfOctet
  /-- Type 2: the identifier alone. -/
  | bare
  /-- Type 3: the identifier, then a value of fixed length. -/
  | fixed (length : Nat)
  /-- Type 4: the identifier, a length octet, the value. -/
  | lengthed
  deriving DecidableEq

/-- The identifier of an element and its layout. -/
structure Definition where
  identifier : UInt8
  layout : Layout
  deriving DecidableEq

/-- The octet starts an element of this definition. Only the upper half of the identifier counts for
a half octet element. -/
def Definition.accepts (d : Definition) (octet : UInt8) : Bool :=
  match d.layout with
  | .halfOctet => d.identifier.toNat == 16 * Octets.high octet
  | _ => d.identifier == octet

/-- The first definition that an octet starts an element of. -/
def definition? (table : List Definition) (octet : UInt8) : Option Definition :=
  table.find? (·.accepts octet)

/-- The layout of an element that no definition describes: a single octet if bit 8 is set, otherwise
one with a length. -/
def undefinedLayout (octet : UInt8) : Layout :=
  if Octets.bit octet 7 then .bare else .lengthed

/-- The layout that an octet selects. -/
def layoutOf (table : List Definition) (octet : UInt8) : Layout :=
  match definition? table octet with
  | some d => d.layout
  | none => undefinedLayout octet

/-! ## Scanning -/

/-- The value of the element that `octet` starts, and what follows it. -/
def readValue (layout : Layout) (octet : UInt8) (rest : Octets) :
    Except ElementError (Octets × Octets) :=
  match layout with
  | .halfOctet => .ok ([UInt8.ofNat (Octets.low octet)], rest)
  | .bare => .ok ([], rest)
  | .fixed length => Element.split length rest
  | .lengthed =>
    match rest with
    | [] => .error (.lengthExceeds 1 0)
    | length :: rest => Element.split length.toNat rest

theorem length_le_of_split {n : Nat} {data value rest : Octets}
    (h : Element.split n data = .ok (value, rest)) : rest.length ≤ data.length := by
  unfold Element.split at h
  split at h
  · cases h
    simp
  · cases h

/-- What is left after an element is no longer than what was there before its value. -/
theorem length_le_of_readValue {layout : Layout} {octet : UInt8} {data value rest : Octets}
    (h : readValue layout octet data = .ok (value, rest)) : rest.length ≤ data.length := by
  unfold readValue at h
  split at h
  · cases h
    exact Nat.le_refl _
  · cases h
    exact Nat.le_refl _
  · exact length_le_of_split h
  · split at h
    · cases h
    · have := length_le_of_split h
      simp only [List.length_cons]
      omega

/-- A defined element found in a message, under the identifier of its definition. -/
abbrev Entry := UInt8 × Octets

/-- The entry an element leaves: none if it is not defined. -/
def entryOf (table : List Definition) (octet : UInt8) (value : Octets) : List Entry :=
  match definition? table octet with
  | some d => [(d.identifier, value)]
  | none => []

/-- The defined elements of `data`, in order of appearance. -/
def scan (table : List Definition) : Octets → Except ElementError (List Entry)
  | [] => .ok []
  | octet :: data =>
    match _ : readValue (layoutOf table octet) octet data with
    | .error e => .error e
    | .ok (value, rest) =>
      match scan table rest with
      | .error e => .error e
      | .ok entries => .ok (entryOf table octet value ++ entries)
termination_by data => data.length
decreasing_by
  have := length_le_of_readValue ‹_›
  simp only [List.length_cons]
  omega

/-- The value of the first entry with this identifier. -/
def find? (entries : List Entry) (identifier : UInt8) : Option Octets :=
  (entries.find? (·.1 == identifier)).map (·.2)

/-- Some entry has this identifier. -/
def contains (entries : List Entry) (identifier : UInt8) : Bool :=
  (find? entries identifier).isSome

end MobileStation.OptionalPart
