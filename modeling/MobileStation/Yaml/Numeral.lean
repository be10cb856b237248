import MobileStation.Text.Double
import MobileStation.Yaml.Scalar

/-!
# Numerals

The plain texts that stand for a number: integers in four bases, and decimal fractions. A fraction
is as precise as a double.
-/

namespace MobileStation.Yaml

/-! ## Integers -/

namespace Plain

/-- The value of a digit in bases up to sixteen. -/
def digit? (base : Nat) (c : Char) : Option Nat := (Text.hexDigit? c).filter (· < base)

/-- The number written by one or more digits. -/
def digits? (base : Nat) (cs : List Char) : Option Nat :=
  if cs.isEmpty then none
  else cs.foldl (fun acc c => acc.bind fun n => (digit? base c).map fun d => base * n + d) (some 0)

/-- Digits that begin with a superfluous zero. -/
def hasLeadingZero (cs : List Char) : Bool :=
  match cs with
  | '0' :: rest => !rest.isEmpty && rest.all fun c => (digit? 10 c).isSome
  | _ => false

/-- Digits with or without a sign that begin with a superfluous zero. They are a text, although
other readers take them for a number. -/
def isZeroFilled (text : String) : Bool :=
  match text.toList with
  | '+' :: rest => hasLeadingZero rest
  | '-' :: rest => hasLeadingZero rest
  | cs => hasLeadingZero cs

/-- The number that an unsigned numeral stands for: decimal, or in the base that its beginning
names. -/
def magnitude? (cs : List Char) : Option Nat :=
  match cs with
  | '0' :: 'x' :: rest => digits? 16 rest
  | '0' :: 'o' :: rest => digits? 8 rest
  | '0' :: 'b' :: rest => digits? 2 rest
  | _ => if hasLeadingZero cs then none else digits? 10 cs

/-- The number that a text stands for, with or without a plus sign. -/
def unsigned? (text : String) : Option Nat :=
  match text.toList with
  | '+' :: rest => magnitude? rest
  | cs => magnitude? cs

/-- The magnitude of the negative number that a text stands for. -/
def negative? (text : String) : Option Nat :=
  match text.toList with
  | '-' :: rest => magnitude? rest
  | _ => none

end Plain

/-! ## Decimal fractions -/

/-- A decimal fraction: the digits before and after the point, and the exponent. -/
structure Fraction where
  whole : List Char
  part : List Char
  exponent : Int

namespace Fraction

/-- Reads an exponent. -/
def exponent? (cs : List Char) : Option Int :=
  match cs with
  | [] => some 0
  | e :: rest =>
    if e = 'e' ∨ e = 'E' then
      match rest with
      | '-' :: digits => (Plain.digits? 10 digits).map fun n => -(n : Int)
      | '+' :: digits => (Plain.digits? 10 digits).map fun n => (n : Int)
      | digits => (Plain.digits? 10 digits).map fun n => (n : Int)
    else none

/-- Reads a fraction without a sign: digits with at most one point, then an exponent. -/
def ofChars? (cs : List Char) : Option Fraction :=
  let isDigit := fun c => (Plain.digit? 10 c).isSome
  let whole := cs.takeWhile isDigit
  let rest := cs.dropWhile isDigit
  let (part, rest) := match rest with
    | '.' :: rest => (rest.takeWhile isDigit, rest.dropWhile isDigit)
    | _ => ([], rest)
  if whole.isEmpty && part.isEmpty then none
  else (exponent? rest).map fun e => ⟨whole, part, e⟩

/-- The digits without zeros at either end, and the place of the point behind the first of them. -/
def normalize (f : Fraction) : List Char × Int :=
  let digits := (f.whole ++ f.part).dropWhile (· = '0')
  let leading := (f.whole ++ f.part).length - digits.length
  let digits := (digits.reverse.dropWhile (· = '0')).reverse
  (digits, if digits.isEmpty then 0 else f.exponent + f.whole.length - leading)

/-- The double nearest to the fraction, if that is a finite one. The place of the point alone
settles the fractions that are out of reach. -/
def toDouble? (f : Fraction) : Option Text.Double :=
  let (digits, point) := f.normalize
  if point > 310 then none
  else if point < -330 then some .zero
  else
    let (n, d) := Text.scaled 10 (point - digits.length) ((Plain.digits? 10 digits).getD 0) 1
    some (Text.Double.nearest n d) |>.filter Text.Double.isFinite

/-- The fraction with the fewest digits that a double is nearest to. -/
def ofDouble (x : Text.Double) : Fraction :=
  let (n, place) := x.shortest
  ⟨Nat.toDigits 10 n, [], place⟩

/-- The fraction in decimal notation, with at least one digit on both sides of the point. -/
def text (f : Fraction) : String :=
  let (digits, point) := f.normalize
  let count := point.toNat
  let whole := digits.take count ++ List.replicate (count - digits.length) '0'
  let part := List.replicate (-point).toNat '0' ++ digits.drop count
  let shown := fun cs => if List.isEmpty cs then ['0'] else cs
  String.ofList (shown whole ++ '.' :: shown part)

end Fraction

/-! ## Fractions in words -/

namespace Plain

/-- A fraction behind its sign, in words. -/
def magnitudeText? (cs : List Char) : Option String :=
  if [".inf", ".Inf", ".INF"].contains (String.ofList cs) then some "inf"
  else ((Fraction.ofChars? cs).bind Fraction.toDouble?).map fun x => (Fraction.ofDouble x).text

/-- The fraction that a text stands for, in words. -/
def fraction? (s : String) : Option String :=
  if [".nan", ".NaN", ".NAN"].contains s then some "NaN"
  else
    match s.toList with
    | '-' :: rest => (magnitudeText? rest).map ("-" ++ ·)
    | '+' :: rest => magnitudeText? rest
    | cs => magnitudeText? cs

end Plain

end MobileStation.Yaml
