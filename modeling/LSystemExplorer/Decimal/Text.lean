import LSystemExplorer.Decimal.Shortest
import LSystemExplorer.Number.Binary64

/-!
# Numbers as text

Four ways of writing a double are in use.  `plain` writes the shortest digits
that read back, never with an exponent; `tagged` writes the same digits so that
the text shows that it is no whole number, and uses an exponent for very large
and very small numbers; `fixed` writes a given number of places, and
`scientific` a given number of digits after the first, both rounded from the
exact value with a half going to the even neighbour.  All four agree on the
numbers that have no digits.

A decimal number can be read as well, in any of these forms and a few others.
-/

set_option autoImplicit false

namespace LSystemExplorer.Decimal

/-! ## Writing -/

/-- The text of a number that has no digits; otherwise a minus for negative
numbers, zero included, before the text of the magnitude. -/
def withSign (number : Float) (magnitude : Binary64.Parts → String) : String :=
  if number.isNaN then "NaN"
  else
    let parts := Binary64.parts number
    let digits := if number.isInf then "inf" else magnitude parts
    if parts.negative then "-" ++ digits else digits

/-- The whole part, and the fraction behind a point if there is one. -/
def joinPoint (pieces : List Char × List Char) : String :=
  if pieces.2.isEmpty then String.ofList pieces.1
  else String.ofList (pieces.1 ++ '.' :: pieces.2)

/-- The shortest digits that read back, written out in full. -/
def plain (number : Float) : String :=
  withSign number fun parts =>
    joinPoint (shortest parts.significand parts.exponent).positional

/-- The shortest digits that read back, with at least one place after the point;
with an exponent from `10 ^ 16` on and below `10 ^ (-4)`. -/
def tagged (number : Float) : String :=
  withSign number fun parts =>
    let scaled := shortest parts.significand parts.exponent
    if parts.significand ≠ 0 ∧ (scaled.point ≤ -4 ∨ 17 ≤ scaled.point) then scaled.scientific
    else
      let pieces := scaled.positional
      joinPoint (pieces.1, if pieces.2.isEmpty then ['0'] else pieces.2)

/-- The number with exactly `places` places after the point. -/
def fixed (places : Nat) (number : Float) : String :=
  withSign number fun parts =>
    let count := ((Ratio.ofBinary parts.significand parts.exponent).scale places).round
    let characters := (Nat.repr count).toList
    let padded := List.replicate (places + 1 - characters.length) '0' ++ characters
    let whole := padded.length - places
    joinPoint (padded.take whole, padded.drop whole)

/-- The positive number rounded to `count + 1` digits.  Rounding up past the last
power of ten leaves one digit too many, which is a zero. -/
def rounded (count : Nat) (ratio : Ratio) : Scaled :=
  let exponent := ratio.decimalPoint - 1 - count
  let digits := (ratio.scale (-exponent)).round
  if powerOfTen (count + 1) ≤ digits then ⟨digits / 10, exponent + 1⟩ else ⟨digits, exponent⟩

/-- The number with one digit before the point, `places` after it, and the
exponent. -/
def scientific (places : Nat) (number : Float) : String :=
  withSign number fun parts =>
    if parts.significand = 0 then
      joinPoint (['0'], List.replicate places '0') ++ "e0"
    else (rounded places (Ratio.ofBinary parts.significand parts.exponent)).scientific

/-! ## Reading

A number is a sign, digits with an optional point among them, and an optional
exponent, or one of the words for infinity and for an undefined number in any
mixture of cases.  At least one digit has to stand before the exponent.  The
result is the double nearest to the number that is written.
-/

/-- The number that some digits write, most significant first. -/
def digitsValue (digits : List Char) : Nat :=
  digits.foldl (fun value digit => 10 * value + (digit.toNat - '0'.toNat)) 0

/-- The double nearest to `digits · 10 ^ exponent`.  Exponents so far out that
the result is zero or infinite are not worked out. -/
def nearestDouble (digits : Nat) (exponent : Int) : Float :=
  let magnitude : Int := (Nat.repr digits).length + exponent
  if digits = 0 ∨ magnitude < -330 then 0
  else if 330 < magnitude then 1 / 0
  else Float.ofScientific digits (exponent < 0) exponent.natAbs

/-- The sign in front of a number, if there is one, and what follows it. -/
def takeSign : List Char → Bool × List Char
  | '-' :: rest => (true, rest)
  | '+' :: rest => (false, rest)
  | text => (false, text)

/-- The exponent at the end of a number; an absent one is zero. -/
def readExponent? : List Char → Option Int
  | [] => some 0
  | mark :: rest =>
    let (negative, digits) := takeSign rest
    if (mark = 'e' ∨ mark = 'E') ∧ digits ≠ [] ∧ digits.all Char.isDigit then
      some (if negative then -(digitsValue digits : Int) else digitsValue digits)
    else none

/-- A number in digits, with a point and an exponent if it has them. -/
def readDigits? (text : List Char) : Option Float :=
  let whole := text.takeWhile Char.isDigit
  let afterWhole := text.dropWhile Char.isDigit
  let (fraction, afterFraction) :=
    match afterWhole with
    | '.' :: rest => (rest.takeWhile Char.isDigit, rest.dropWhile Char.isDigit)
    | rest => ([], rest)
  if whole.isEmpty && fraction.isEmpty then none
  else
    (readExponent? afterFraction).map fun exponent =>
      nearestDouble (digitsValue (whole ++ fraction)) (exponent - fraction.length)

/-- A number without a sign: a word for a number that has no digits, or
digits. -/
def readMagnitude? (text : List Char) : Option Float :=
  let word := String.ofList (text.map Char.toLower)
  if word = "inf" ∨ word = "infinity" then some (1 / 0)
  else if word = "nan" then some (0 / 0)
  else readDigits? text

/-- Read a decimal number that makes up the whole text. -/
def read? (text : List Char) : Option Float :=
  let (negative, magnitude) := takeSign text
  (readMagnitude? magnitude).map fun number => if negative then -number else number

end LSystemExplorer.Decimal
