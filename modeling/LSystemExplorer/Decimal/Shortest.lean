import LSystemExplorer.Number.Binary64

/-!
# The shortest decimal that reads back

The reals that round to a given double form an interval around it.  The decimal
written for the double is the one with the fewest digits inside that interval,
and of two such the one nearer to the double; an exact tie goes away from zero.

For one digit, two digits and so on the two neighbours of the double on the
grid of that many digits are tried.  If any point of a grid lies in the
interval then one of the two does, and seventeen digits always suffice.
-/

set_option autoImplicit false

namespace LSystemExplorer.Decimal

/-! ## Digits and a power of ten

A `Scaled` number is a whole number, its digits, times a power of ten.  Both
ways of rounding a double to decimal digits produce one, and all texts are made
from one.  The magnitude of a double is an exact quotient of two whole numbers
(`Ratio`), so every rounding below is decided by whole-number arithmetic.
-/

/-- The number `digits · 10 ^ exponent`. -/
structure Scaled where
  digits : Nat
  /-- The power of ten that scales them. -/
  exponent : Int
  deriving Repr, DecidableEq

namespace Scaled

/-- Drop zeros at the end of the digits, at most `fuel` of them. -/
def dropZeros : Nat → Scaled → Scaled
  | 0, number => number
  | fuel + 1, number =>
    if number.digits ≠ 0 ∧ number.digits % 10 = 0 then
      dropZeros fuel ⟨number.digits / 10, number.exponent + 1⟩
    else number

/-- The characters of the digits, most significant first. -/
def characters (number : Scaled) : List Char :=
  (Nat.repr number.digits).toList

/-- The place of the decimal point, counted from before the first digit. -/
def point (number : Scaled) : Int :=
  number.characters.length + number.exponent

/-- The whole part and the fraction, written out in full without an exponent.
The fraction is empty when the number is written as a whole one. -/
def positional (number : Scaled) : List Char × List Char :=
  let characters := number.characters
  let point := number.point
  if point ≤ 0 then (['0'], List.replicate (-point).toNat '0' ++ characters)
  else
    let whole := point.toNat
    let zeros := List.replicate (whole - characters.length) '0'
    (characters.take whole ++ zeros, characters.drop whole)

/-- One digit, a point and the other digits, and the exponent of the first
digit. -/
def scientific (number : Scaled) : String :=
  let characters := number.characters
  let mantissa := characters.take 1 ++
    (if characters.length ≤ 1 then [] else '.' :: characters.drop 1)
  String.ofList mantissa ++ "e" ++ toString (number.point - 1)

end Scaled

/-- The number `10 ^ exponent`. -/
def powerOfTen (exponent : Nat) : Nat :=
  Nat.pow 10 exponent

/-- The exact quotient of two whole numbers. -/
structure Ratio where
  numerator : Nat
  denominator : Nat
  deriving Repr, DecidableEq

namespace Ratio

/-- The quotient `significand · 2 ^ exponent`. -/
def ofBinary (significand : Nat) (exponent : Int) : Ratio :=
  ⟨significand <<< exponent.toNat, 1 <<< (-exponent).toNat⟩

/-- The quotient times `10 ^ exponent`. -/
def scale (ratio : Ratio) (exponent : Int) : Ratio :=
  ⟨ratio.numerator * powerOfTen exponent.toNat,
    ratio.denominator * powerOfTen (-exponent).toNat⟩

/-- The largest whole number that is not above the quotient. -/
def floor (ratio : Ratio) : Nat :=
  ratio.numerator / ratio.denominator

/-- The left quotient is less than the right one. -/
def below (left right : Ratio) : Bool :=
  left.numerator * right.denominator < right.numerator * left.denominator

/-- The nearest whole number; a half goes to the even neighbour. -/
def round (ratio : Ratio) : Nat :=
  let quotient := ratio.floor
  let twice := 2 * (ratio.numerator % ratio.denominator)
  if twice < ratio.denominator then quotient
  else if ratio.denominator < twice then quotient + 1
  else quotient + quotient % 2

/-- The least exponent `k` with the quotient below `10 ^ k`, for a quotient that
is not zero.  The binary lengths give it up to one or two, and the candidates
are then tried in order. -/
def decimalPoint (ratio : Ratio) : Int :=
  let binary : Int := (Nat.log2 ratio.numerator : Int) - (Nat.log2 ratio.denominator : Int)
  let guess := Int.fdiv (binary * 30103) 100000
  let fits (exponent : Int) : Bool := ratio.below (Ratio.scale ⟨1, 1⟩ exponent)
  if fits (guess - 1) then guess - 1
  else if fits guess then guess
  else if fits (guess + 1) then guess + 1
  else guess + 2

end Ratio

/-! ## The digits that read back -/

/-- The reals that round to one double, and the double itself. -/
structure RoundingInterval where
  lower : Ratio
  middle : Ratio
  upper : Ratio
  /-- The ends round to the double too. -/
  closed : Bool

namespace RoundingInterval

/-- The interval of the positive double `significand · 2 ^ exponent`.  Below a
power of two the gap to the next double is half as wide, except at the least
exponent.  The ends round to the double when its significand is even. -/
def ofBinary (significand : Nat) (exponent : Int) : RoundingInterval :=
  let narrow := significand = Binary64.leadingBit ∧ Binary64.leastExponent < exponent
  let down := if narrow then 1 else 2
  { lower := Ratio.ofBinary (4 * significand - down) (exponent - 2)
    middle := Ratio.ofBinary (4 * significand) (exponent - 2)
    upper := Ratio.ofBinary (4 * significand + 2) (exponent - 2)
    closed := significand % 2 = 0 }

/-- The number rounds to the double. -/
def contains (interval : RoundingInterval) (number : Ratio) : Bool :=
  if interval.closed then !number.below interval.lower && !interval.upper.below number
  else interval.lower.below number && number.below interval.upper

end RoundingInterval

/-- The better neighbour of the double on the grid of multiples of
`10 ^ exponent`, if one of its two neighbours rounds to it. -/
def onGrid? (interval : RoundingInterval) (exponent : Int) : Option Scaled :=
  let steps := interval.middle.scale (-exponent)
  let below := steps.floor
  let above := below + 1
  let inside (count : Nat) : Bool := interval.contains (Ratio.scale ⟨count, 1⟩ exponent)
  let nearerBelow := 2 * (steps.numerator % steps.denominator) < steps.denominator
  match inside below, inside above with
  | true, true => some ⟨if nearerBelow then below else above, exponent⟩
  | true, false => some ⟨below, exponent⟩
  | false, true => some ⟨above, exponent⟩
  | false, false => none

/-- Try grids of one more digit each, beginning with the multiples of
`10 ^ exponent`. -/
def firstGrid (interval : RoundingInterval) : Nat → Int → Scaled
  | 0, exponent => ⟨(interval.middle.scale (-exponent)).round, exponent⟩
  | fuel + 1, exponent =>
    (onGrid? interval exponent).getD (firstGrid interval fuel (exponent - 1))

/-- The shortest decimal that reads back as the positive double
`significand · 2 ^ exponent`. -/
def shortest (significand : Nat) (exponent : Int) : Scaled :=
  if significand = 0 then ⟨0, 0⟩
  else
    let interval := RoundingInterval.ofBinary significand exponent
    let scaled := firstGrid interval 17 (interval.middle.decimalPoint - 1)
    scaled.dropZeros 20

end LSystemExplorer.Decimal
