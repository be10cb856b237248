/-!
# Numbers in text

Decimal and hexadecimal numerals of a least width, and the reading of an unsigned decimal numeral
below a bound.
-/

namespace MobileStation.Text

/-! ## Writing -/

/-- `digits`, filled up with zeros on the left to at least `width` characters. -/
def zeroFilled (width : Nat) (digits : List Char) : String :=
  String.ofList (List.replicate (width - digits.length) '0' ++ digits)

/-- The decimal numeral of `n`, at least `width` digits long. -/
def decimal (width n : Nat) : String := zeroFilled width (Nat.toDigits 10 n)

/-- The hexadecimal numeral of `n` in small letters, at least `width` digits long. -/
def hexadecimal (width n : Nat) : String := zeroFilled width (Nat.toDigits 16 n)

/-- The hexadecimal numeral of `n` in capital letters, at least `width` digits long. -/
def hexadecimalCapital (width n : Nat) : String :=
  zeroFilled width ((Nat.toDigits 16 n).map Char.toUpper)

/-! ## Reading -/

/-- The value of a decimal digit. -/
def digit? (c : Char) : Option Nat :=
  if '0' ≤ c ∧ c ≤ '9' then some (c.toNat - 48) else none

/-- The value of a hexadecimal digit. -/
def hexDigit? (c : Char) : Option Nat :=
  if '0' ≤ c ∧ c ≤ '9' then some (c.toNat - 48)
  else if 'A' ≤ c ∧ c ≤ 'F' then some (c.toNat - 55)
  else if 'a' ≤ c ∧ c ≤ 'f' then some (c.toNat - 87)
  else none

/-- The number written by decimal digits alone, most significant first. -/
def digitsValue? (cs : List Char) : Option Nat :=
  cs.foldl (fun acc c => acc.bind fun n => (digit? c).map fun d => 10 * n + d) (some 0)

/-- Reads an unsigned number below `bound`: one or more decimal digits after an optional plus
sign. -/
def readBelow? (bound : Nat) (text : String) : Option Nat :=
  let digits := match text.toList with
    | '+' :: rest => rest
    | cs => cs
  match digits with
  | [] => none
  | _ => (digitsValue? digits).filter (· < bound)

end MobileStation.Text
