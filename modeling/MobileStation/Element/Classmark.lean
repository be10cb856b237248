import MobileStation.Element.Error

/-!
# Mobile station classmarks

Classmark 1 is one octet of capabilities, classmark 2 is three, written behind a length octet.
-/

namespace MobileStation

open Octets

/-! ## Classmark 1 -/

/-- Mobile station classmark 1. -/
structure Classmark1 where
  octet : UInt8
  deriving DecidableEq, Inhabited

namespace Classmark1

/-- Puts the octet together: two bits of revision level, the early sending and A5/1 flags, three
bits of power class. -/
def ofFields (revision : UInt8) (earlySending a51Unavailable : Bool) (power : UInt8) : Classmark1 :=
  ⟨UInt8.ofNat (32 * (revision.toNat % 4) + 16 * earlySending.toNat + 8 * a51Unavailable.toNat +
    power.toNat % 8)⟩

/-- The revision level. -/
def revision (c : Classmark1) : Nat := c.octet.toNat / 32 % 4

/-- The power class. -/
def power (c : Classmark1) : Nat := c.octet.toNat % 8

/-- Takes the octet off the front of `data`. -/
def read : Octets → Except ElementError (Classmark1 × Octets)
  | [] => .error (.tooShort 1 0)
  | octet :: rest => .ok (⟨octet⟩, rest)

end Classmark1

/-! ## Classmark 2 -/

/-- Mobile station classmark 2. -/
structure Classmark2 where
  first : UInt8
  second : UInt8
  third : UInt8
  deriving DecidableEq, Inhabited

namespace Classmark2

/-- The three octets. -/
def octets (c : Classmark2) : Octets := [c.first, c.second, c.third]

/-- The classmark with exactly these octets. -/
def ofOctets? : Octets → Option Classmark2
  | [a, b, c] => some ⟨a, b, c⟩
  | _ => none

/-- The three octets behind their length. -/
def encode (c : Classmark2) : Octets := Element.lengthValue c.octets

/-- Takes a length octet and a classmark off the front of `data`. Octets after the third are
skipped. -/
def read (data : Octets) : Except ElementError (Classmark2 × Octets) :=
  match Element.readLengthValue data with
  | .error e => .error e
  | .ok (a :: b :: c :: _, rest) => .ok (⟨a, b, c⟩, rest)
  | .ok (value, _) => .error (.tooShort 3 value.length)

end Classmark2

end MobileStation
