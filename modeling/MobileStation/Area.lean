import MobileStation.Octets
import MobileStation.Text.Number

/-!
# Networks and location areas

A public land mobile network is a country code of three digits with a network code of two or three
digits; a location area is a network with a sixteen-bit area code. Both have an octet coding, digit
by digit, and a text form.
-/

namespace MobileStation

open Octets

/-! ## Networks -/

/-- A public land mobile network. `longMnc` tells whether the network code is coded with three
digits. -/
structure Plmn where
  mcc : UInt16
  mnc : UInt16
  longMnc : Bool
  deriving DecidableEq, Inhabited

namespace Plmn

/-- The decimal digit of a number at a place, counted from the units. -/
def digitAt : Nat → Nat → Nat
  | n, 0 => n % 10
  | n, k + 1 => digitAt (n / 10) k

/-- Either code differs from zero. -/
def hasValue (p : Plmn) : Bool := p.mcc > 0 || p.mnc > 0

/-- Three octets, the digits swapped in pairs. A two-digit network code has 15 in the place of its
third digit. -/
def encode (p : Plmn) : Octets :=
  let mcc := digitAt p.mcc.toNat
  let mnc := digitAt p.mnc.toNat
  let (mnc1, mnc2, mnc3) := if p.longMnc then (mnc 2, mnc 1, mnc 0) else (mnc 1, mnc 0, 15)
  [pair (mcc 1) (mcc 2), pair mnc3 (mcc 0), pair mnc2 mnc1]

/-- Reads three octets. A half octet above nine counts with its value. -/
def decode (a b c : UInt8) : Plmn :=
  let mcc := 100 * low a + 10 * high a + low b
  let mnc := 10 * low c + high c
  if high b = 15 then ⟨UInt16.ofNat mcc, UInt16.ofNat mnc, false⟩
  else ⟨UInt16.ofNat mcc, UInt16.ofNat (10 * mnc + high b), true⟩

/-- The country code, at least three digits long. -/
def mccText (p : Plmn) : String := Text.decimal 3 p.mcc.toNat

/-- The network code, at least as long as it is coded. -/
def mncText (p : Plmn) : String := Text.decimal (if p.longMnc then 3 else 2) p.mnc.toNat

/-- The two codes, run together. -/
def text (p : Plmn) : String := p.mccText ++ p.mncText

/-- The two codes, told apart. -/
def detailedText (p : Plmn) : String := "Plmn(" ++ p.mccText ++ "-" ++ p.mncText ++ ")"

end Plmn

/-! ## Location areas -/

/-- A location area identity. -/
structure Lai where
  plmn : Plmn
  lac : UInt16
  deriving DecidableEq, Inhabited

namespace Lai

/-- The octets a location area takes. -/
def length : Nat := 5

/-- The network, then the area code. -/
def encode (l : Lai) : Octets := l.plmn.encode ++ ofUInt16 l.lac

/-- Takes a location area off the front of `data`, if `data` is long enough. -/
def read? : Octets → Option (Lai × Octets)
  | a :: b :: c :: d :: e :: rest => some (⟨Plmn.decode a b c, toUInt16 d e⟩, rest)
  | _ => none

/-- The network and the area code in hexadecimal. -/
def text (l : Lai) : String := l.plmn.text ++ "/0x" ++ Text.hexadecimal 4 l.lac.toNat

end Lai

end MobileStation
