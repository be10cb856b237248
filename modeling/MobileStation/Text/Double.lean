/-!
# Double precision

A number as a double: a significand of at most 53 bits times a power of two. `nearest` rounds a
ratio to a double, and `shortest` finds the decimal number with the fewest digits that rounds to a
double.
-/

namespace MobileStation.Text

/-! ## Ratios -/

/-- The quotient, rounded to the nearest integer. A half goes to the even neighbour. -/
def roundQuotient (n d : Nat) : Nat :=
  let twice := 2 * (n % d)
  if twice > d ∨ (twice = d ∧ n / d % 2 = 1) then n / d + 1 else n / d

/-- A ratio times a power of `base`, as numerator and denominator. -/
def scaled (base : Nat) (power : Int) (n d : Nat) : Nat × Nat :=
  match power with
  | .ofNat k => (n * Nat.pow base k, d)
  | .negSucc k => (n, d * Nat.pow base (k + 1))

/-! ## Doubles -/

/-- The number `significand * 2 ^ exponent`. -/
structure Double where
  significand : Nat
  exponent : Int
  deriving DecidableEq

namespace Double

/-- The least exponent. Below it a significand loses bits. -/
def leastExponent : Int := -1074

/-- Zero, as the least double. -/
def zero : Double := ⟨0, leastExponent⟩

/-- The exponent of the greatest finite double. -/
def greatestExponent : Int := 971

/-- A double that is not finite is too large. -/
def isFinite (x : Double) : Bool := x.exponent ≤ greatestExponent

/-- The double nearest to a ratio. A ratio half way between two goes to the even significand. -/
def nearest (n d : Nat) : Double :=
  let low := max leastExponent ((n.log2 : Int) - d.log2 - 53)
  -- At the lower exponent the quotient has at most one bit too many.
  let (a, b) := scaled 2 (-low) n d
  let exponent := if a / b < 1 <<< 53 then low else low + 1
  let (a, b) := scaled 2 (-exponent) n d
  let significand := roundQuotient a b
  -- Rounding up may reach the next power of two.
  if significand = 1 <<< 53 then ⟨1 <<< 52, exponent + 1⟩ else ⟨significand, exponent⟩

/-- How far the numbers below that round to the double reach, in quarters of its last place. Above
it they always reach two quarters far. -/
def reachBelow (x : Double) : Nat :=
  if x.significand = 1 <<< 52 ∧ x.exponent > leastExponent then 1 else 2

/-- The multiple of `10 ^ place` that is nearest to the double among those that round to it. Of two
that are equally near it is the greater one. -/
def multiple? (x : Double) (place : Int) : Option Nat :=
  let quarters := 4 * x.significand
  let (n, d) := scaled 2 (x.exponent - 2) 1 1
  let (n, d) := scaled 10 (-place) n d
  let least := (quarters - x.reachBelow) * n
  let greatest := (quarters + 2) * n
  -- Only an even significand takes the numbers half way to its neighbours.
  let rounds : Nat → Bool := fun k =>
    if x.significand % 2 = 0 then least ≤ k * d ∧ k * d ≤ greatest
    else least < k * d ∧ k * d < greatest
  let below := quarters * n / d
  let nearer := if 2 * (quarters * n % d) < d then [below, below + 1] else [below + 1, below]
  nearer.find? rounds

/-- The number with the fewest decimal digits that rounds to the double: `(k, place)` stands for
`k * 10 ^ place`. The coarsest power of ten with a suitable multiple has it. -/
def shortest (x : Double) : Nat × Int :=
  let places := (List.range 633).map fun i : Nat => (308 : Int) - i
  (places.findSome? fun place => (x.multiple? place).map fun k => (k, place)).getD (0, 0)

end Double

end MobileStation.Text
