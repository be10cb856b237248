import MobileStation.Element.Error

/-!
# Network names

A network name is written in the default alphabet of seven-bit characters. The characters are the
digits of a number in base 128, least significant first, and the octets are the digits of the same
number in base 256; packing is the change of base.
-/

namespace MobileStation

/-! ## Change of base -/

namespace Digits

/-- The number with these digits in base `b`, least significant first. -/
def value (b : Nat) : List Nat → Nat
  | [] => 0
  | d :: rest => d + b * value b rest

/-- The lowest `count` digits of `n` in base `b`, least significant first. -/
def take (b : Nat) : (count : Nat) → (n : Nat) → List Nat
  | 0, _ => []
  | count + 1, n => n % b :: take b count (n / b)

end Digits

/-! ## The default alphabet -/

namespace DefaultAlphabet

/-- The characters of the default alphabet, in the order of their codes. -/
def characters : List Char :=
  ['@', '£', '$', '¥', 'è', 'é', 'ù', 'ì', 'ò', 'Ç', '\n', 'Ø', 'ø', '\r', 'Å', 'å',
    'Δ', '_', 'Φ', 'Γ', 'Λ', 'Ω', 'Π', 'Ψ', 'Σ', 'Θ', 'Ξ', '\x1b', 'Æ', 'æ', 'ß', 'É',
    ' ', '!', '\x22', '#', '¤', '%', '&', '\x27', '(', ')', '*', '+', ',', '-', '.', '/',
    '0', '1', '2', '3', '4', '5', '6', '7', '8', '9', ':', ';', '<', '=', '>', '?',
    '¡', 'A', 'B', 'C', 'D', 'E', 'F', 'G', 'H', 'I', 'J', 'K', 'L', 'M', 'N', 'O',
    'P', 'Q', 'R', 'S', 'T', 'U', 'V', 'W', 'X', 'Y', 'Z', 'Ä', 'Ö', 'Ñ', 'Ü', '§',
    '¿', 'a', 'b', 'c', 'd', 'e', 'f', 'g', 'h', 'i', 'j', 'k', 'l', 'm', 'n', 'o',
    'p', 'q', 'r', 's', 't', 'u', 'v', 'w', 'x', 'y', 'z', 'ä', 'ö', 'ñ', 'ü', 'à']

/-- The code of a character; that of the question mark for one outside the alphabet. -/
def code (c : Char) : Nat :=
  let i := characters.idxOf c
  if i < characters.length then i else 63

/-- The character with the given code. -/
def character (code : Nat) : Char := characters.getD code '?'

end DefaultAlphabet

/-! ## Names -/

/-- A network name. -/
structure NetworkName where
  text : String
  deriving DecidableEq

namespace NetworkName

/-- Octets that `count` characters of seven bits take. -/
def packedLength (count : Nat) : Nat := (7 * count + 7) / 8

/-- Characters packed into octets. -/
def pack (codes : List Nat) : Octets :=
  (Digits.take 256 (packedLength codes.length) (Digits.value 128 codes)).map UInt8.ofNat

/-- The first `count` characters packed into `data`. -/
def unpack (count : Nat) (data : Octets) : List Nat :=
  Digits.take 128 count (Digits.value 256 (data.map UInt8.toNat))

/-- The value of the element: an octet with the number of spare bits at the end, then the packed
characters. -/
def encode (name : NetworkName) : Octets :=
  let codes := name.text.toList.map DefaultAlphabet.code
  let packed := pack codes
  UInt8.ofNat (128 + (8 * packed.length - 7 * codes.length)) :: packed

/-- Reads the value of the element. Bits 5 to 7 of the first octet select the alphabet, and only the
default one, coded 0, is known. -/
def decode : Octets → Except ElementError NetworkName
  | [] => .error (.tooShort 1 0)
  | first :: data =>
    let coding := first.toNat / 16 % 8
    if coding ≠ 0 then .error (.unsupportedCoding coding)
    else
      let count := (8 * data.length - first.toNat % 8) / 7
      .ok ⟨String.ofList ((unpack count data).map DefaultAlphabet.character)⟩

end NetworkName

end MobileStation
