import MobileStation.Octets
import MobileStation.Text.Number

/-!
# Errors of information elements

Why an information element cannot be read or written, and the reading of the length octet that most
elements begin with.
-/

namespace MobileStation

/-- Why an information element cannot be read or written. -/
inductive ElementError where
  /-- Fewer octets than the element needs. -/
  | tooShort (expected actual : Nat)
  /-- The type of an identity is none of the five. -/
  | invalidIdentityType (code : Nat)
  /-- The text is not one to sixteen decimal digits. -/
  | invalidDigits (text : String)
  /-- The element claims more octets than remain. -/
  | lengthExceeds (length remaining : Nat)
  /-- A name is not in the default alphabet. -/
  | unsupportedCoding (scheme : Nat)
  deriving DecidableEq

namespace ElementError

/-- Wording of a buffer with too few octets, shared with the errors of headers and messages. -/
def tooShortMessage (expected actual : Nat) : String :=
  s!"Buffer too short: expected at least {expected} bytes, got {actual}"

/-- Wording of the error. -/
def message : ElementError → String
  | tooShort expected actual => tooShortMessage expected actual
  | invalidIdentityType code => s!"Invalid identity type: {code}"
  | invalidDigits text => "Invalid digit string '" ++ text ++ "'"
  | lengthExceeds length remaining =>
    s!"Length exceeds buffer: length field is {length}, but only {remaining} bytes remain"
  | unsupportedCoding scheme =>
    "Unsupported coding scheme: 0x" ++ Text.hexadecimalCapital 2 scheme

end ElementError

namespace Element

/-- Takes `n` octets off the front of `data`. -/
def split (n : Nat) (data : Octets) : Except ElementError (Octets × Octets) :=
  if n ≤ data.length then .ok (data.take n, data.drop n)
  else .error (.lengthExceeds n data.length)

/-- A value behind its length octet. A value of 256 octets or more does not fit its length octet,
which then holds the length modulo 256. -/
def lengthValue (value : Octets) : Octets := UInt8.ofNat value.length :: value

/-- Takes a length octet and the value it announces off the front of `data`. -/
def readLengthValue : Octets → Except ElementError (Octets × Octets)
  | [] => .error (.tooShort 1 0)
  | length :: rest => split length.toNat rest

end Element

end MobileStation
