/-!
# Octets

Octet strings as they cross the air interface, and the pieces every coding rule shares: the two
halves of an octet, big-endian numbers, and fields of a fixed length.

Main statements: `high_pair` and `low_pair` (an octet built from two halves has those halves),
`pair_high_low` (an octet is the pair of its halves).
-/

namespace MobileStation

/-- A string of octets. -/
abbrev Octets := List UInt8

namespace Octets

/-! ## Halves of an octet -/

/-- The upper four bits of an octet. -/
def high (o : UInt8) : Nat := o.toNat / 16

/-- The lower four bits of an octet. -/
def low (o : UInt8) : Nat := o.toNat % 16

/-- The octet with the given upper and lower half. -/
def pair (upper lower : Nat) : UInt8 := UInt8.ofNat (16 * upper + lower)

/-- Bit `k` of an octet, counted from zero at the least significant end. -/
def bit (o : UInt8) (k : Nat) : Bool := o.toNat.testBit k

theorem high_pair {upper lower : Nat} (hu : upper < 16) (hl : lower < 16) :
    high (pair upper lower) = upper := by
  simp only [high, pair, UInt8.toNat_ofNat']
  omega

theorem low_pair {upper lower : Nat} (hl : lower < 16) :
    low (pair upper lower) = lower := by
  simp only [low, pair, UInt8.toNat_ofNat']
  omega

theorem pair_high_low (o : UInt8) : pair (high o) (low o) = o := by
  have h : 16 * (o.toNat / 16) + o.toNat % 16 = o.toNat := by omega
  simp [pair, high, low, h]

/-! ## Big-endian numbers -/

/-- A sixteen-bit number, most significant octet first. -/
def ofUInt16 (w : UInt16) : Octets :=
  [UInt8.ofNat (w.toNat / 256), UInt8.ofNat (w.toNat % 256)]

/-- The sixteen-bit number written in two octets. -/
def toUInt16 (a b : UInt8) : UInt16 := UInt16.ofNat (256 * a.toNat + b.toNat)

/-- A thirty-two-bit number, most significant octet first. -/
def ofUInt32 (w : UInt32) : Octets :=
  [UInt8.ofNat (w.toNat / 16777216), UInt8.ofNat (w.toNat / 65536 % 256),
    UInt8.ofNat (w.toNat / 256 % 256), UInt8.ofNat (w.toNat % 256)]

/-- The thirty-two-bit number written in four octets. -/
def toUInt32 (a b c d : UInt8) : UInt32 :=
  UInt32.ofNat (16777216 * a.toNat + 65536 * b.toNat + 256 * c.toNat + d.toNat)

end Octets

/-! ## Fields of a fixed length -/

/-- A field of exactly `n` octets. -/
structure Field (n : Nat) where
  octets : Octets
  length_eq : octets.length = n
  deriving DecidableEq

namespace Field

/-- Takes a field off the front of `data`, if `data` is long enough. -/
def read? (n : Nat) (data : Octets) : Option (Field n × Octets) :=
  if h : n ≤ data.length then
    some (⟨data.take n, by simp [h]⟩, data.drop n)
  else
    none

/-- The field with exactly these octets. -/
def ofOctets? (n : Nat) (data : Octets) : Option (Field n) :=
  if h : data.length = n then some ⟨data, h⟩ else none

end Field

end MobileStation
