import MobileStation.Octets
import MobileStation.Text.Number

/-!
# Octets in hexadecimal

Two digits an octet. Writing uses small letters; reading takes both cases and says where it
failed.
-/

namespace MobileStation.Text.Hex

/-! ## Writing -/

/-- One octet as two hexadecimal digits. -/
def octet (o : UInt8) : String := hexadecimal 2 o.toNat

/-- All octets, without a gap. -/
def write (data : Octets) : String := String.join (data.map octet)

/-- All octets, with a blank between two of them. -/
def writeSpaced (data : Octets) : String := " ".intercalate (data.map octet)

/-! ## Reading -/

/-- Why a text is no sequence of octets. -/
inductive ReadError where
  /-- The text has an odd number of octets. -/
  | oddLength
  /-- The octet at this position of the text is no hexadecimal digit. -/
  | invalidDigit (octet : UInt8) (position : Nat)
  deriving DecidableEq

/-- The value of a hexadecimal digit, given by its character code. -/
def digit? (o : UInt8) : Option Nat :=
  let n := o.toNat
  if 48 ≤ n ∧ n ≤ 57 then some (n - 48)
  else if 65 ≤ n ∧ n ≤ 70 then some (n - 55)
  else if 97 ≤ n ∧ n ≤ 102 then some (n - 87)
  else none

/-- The digit at `position`, or the error that names it. -/
def digitAt (position : Nat) (o : UInt8) : Except ReadError Nat :=
  match digit? o with
  | some d => .ok d
  | none => .error (.invalidDigit o position)

/-- Reads digits in pairs; `position` is the place of the first one in the whole text. -/
def readPairs (position : Nat) : Octets → Except ReadError Octets
  | [] => .ok []
  | [_] => .error .oddLength
  | a :: b :: rest => do
    let upper ← digitAt position a
    let lower ← digitAt (position + 1) b
    let octets ← readPairs (position + 2) rest
    return Octets.pair upper lower :: octets

/-- Reads the octets written in `text`. An odd length is reported before any wrong digit. -/
def read (text : String) : Except ReadError Octets :=
  let codes := text.toUTF8.toList
  if codes.length % 2 = 1 then .error .oddLength else readPairs 0 codes

end MobileStation.Text.Hex
