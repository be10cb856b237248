import MobileStation.Element.Error

/-!
# Mobile identities

The subscriber, equipment and temporary identities, and their octet coding. The three identities
made of digits are coded in halves of octets; a flag in the first octet tells an odd count of digits
from an even one, and an even count is filled up with 15.
-/

namespace MobileStation

open Octets

/-! ## Types of identity -/

/-- The type of an identity. -/
inductive IdentityType where
  | none
  | imsi
  | imei
  | imeisv
  | tmsi
  deriving DecidableEq, Inhabited

namespace IdentityType

/-- Code on the air interface. -/
def code : IdentityType → Nat
  | none => 0
  | imsi => 1
  | imei => 2
  | imeisv => 3
  | tmsi => 4

/-- All types, in the order of their codes. -/
def all : List IdentityType := [none, imsi, imei, imeisv, tmsi]

/-- The type with this code. -/
def ofCode? (n : Nat) : Option IdentityType := all.find? (·.code == n)

end IdentityType

/-! ## Identities -/

/-- An identity of the mobile station. -/
inductive MobileIdentity where
  | none
  | imsi (digits : String)
  | imei (digits : String)
  | imeisv (digits : String)
  | tmsi (value : UInt32)
  deriving DecidableEq, Inhabited

namespace MobileIdentity

/-- The type of the identity. -/
def type : MobileIdentity → IdentityType
  | none => .none
  | imsi _ => .imsi
  | imei _ => .imei
  | imeisv _ => .imeisv
  | tmsi _ => .tmsi

/-- The identity in words. -/
def text : MobileIdentity → String
  | none => "none"
  | imsi digits => "IMSI:" ++ digits
  | imei digits => "IMEI:" ++ digits
  | imeisv digits => "IMEISV:" ++ digits
  | tmsi value => "TMSI:0x" ++ Text.hexadecimal 8 value.toNat

/-! ## Digits -/

/-- The value of every character of `digits`, if they are one to sixteen decimal digits. -/
def digitValues? (digits : String) : Option (List Nat) :=
  (digits.toList.mapM Text.digit?).filter fun ds => ds ≠ [] ∧ ds.length ≤ 16

/-- Digits two to an octet, the earlier one in the lower half; a missing last one is 15. -/
def packDigits : List Nat → Octets
  | [] => []
  | [d] => [pair 15 d]
  | d :: e :: rest => pair e d :: packDigits rest

/-- The halves of octets, lower half first. -/
def halves (data : Octets) : List Nat := data.flatMap fun o => [low o, high o]

/-- The characters of the halves that are decimal digits. -/
def digitText (ds : List Nat) : String :=
  String.ofList ((ds.filter (· ≤ 9)).map fun d => Char.ofNat (48 + d))

/-- Digits behind a first octet that holds the first digit, the odd flag and the type. -/
def encodeDigits (type : IdentityType) (digits : String) : Except ElementError Octets :=
  match digitValues? digits with
  | some (d :: rest) =>
    .ok (pair d (8 * ((rest.length + 1) % 2) + type.code) :: packDigits rest)
  | _ => .error (.invalidDigits digits)

/-- The digits behind the first octet. The upper half of the last octet is filler when the odd flag
is not set. Halves above nine are left out. -/
def decodeDigits (first : UInt8) (rest : Octets) : String :=
  let ds := if bit first 3 then halves rest else (halves rest).dropLast
  digitText (high first :: ds)

/-! ## Coding -/

/-- The value of the identity, without a length. -/
def encode : MobileIdentity → Except ElementError Octets
  | none => .ok [0xF0]
  | imsi digits => encodeDigits .imsi digits
  | imei digits => encodeDigits .imei digits
  | imeisv digits => encodeDigits .imeisv digits
  | tmsi value => .ok (0xF4 :: ofUInt32 value)

/-- The value of the identity behind its length. -/
def encodeLengthValue (i : MobileIdentity) : Except ElementError Octets :=
  i.encode.map Element.lengthValue

/-- Reads the value of an identity. -/
def decode : Octets → Except ElementError MobileIdentity
  | [] => .error (.tooShort 1 0)
  | first :: rest =>
    match IdentityType.ofCode? (first.toNat % 8) with
    | .none => .error (.invalidIdentityType (first.toNat % 8))
    | some .none => .ok none
    | some .imsi => .ok (imsi (decodeDigits first rest))
    | some .imei => .ok (imei (decodeDigits first rest))
    | some .imeisv => .ok (imeisv (decodeDigits first rest))
    | some .tmsi =>
      match rest with
      | a :: b :: c :: d :: _ => .ok (tmsi (toUInt32 a b c d))
      | _ => .error (.tooShort 5 (rest.length + 1))

/-- Takes a length octet and an identity off the front of `data`. -/
def read (data : Octets) : Except ElementError (MobileIdentity × Octets) := do
  let (value, rest) ← Element.readLengthValue data
  let identity ← decode value
  return (identity, rest)

end MobileIdentity

end MobileStation
