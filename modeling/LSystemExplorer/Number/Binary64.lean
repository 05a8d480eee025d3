import LSystemExplorer.Number.Scalar

/-!
# Double precision numbers taken apart

A finite double is a sign, a significand below `2 ^ 53` and a power of two.
This module takes a double apart into these three (`parts`), puts one together
again (`ofParts`), and builds on the two the exact remainder of a division that
is cut off toward zero.  The remainder of two doubles is always a double, so no
rounding takes place in it.

The power of a double is rounded once: it is the double nearest to the exact
power.  What the exact power is nearest to is mostly seen from its first digits
(`powerOf`), and it is computed in full only if they do not tell.
-/

set_option autoImplicit false

namespace LSystemExplorer

/-! ## Numbers between two bounds

The power of a double may have millions of binary digits, of which the first few decide to which
double it is rounded.  An estimate keeps only these: it is a pair of bounds over a common power of
two.  When bounds get too long they are cut off, the lower one downward and the upper one upward,
so the number in question stays between them.  As long as they are short nothing is cut off, and
a number that is known exactly stays so.
-/

/-- The bounds `lower · 2 ^ exponent` and `upper · 2 ^ exponent` of a number. -/
structure Estimate where
  lower : Nat
  upper : Nat
  exponent : Int
  deriving Repr, DecidableEq

namespace Estimate

/-- How many binary digits of a bound are kept: enough for many thousand millions of products, at
each of which an error in the last digit is made. -/
def digits : Nat := 128

/-- The bounds of `significand · 2 ^ exponent`, which is both of them. -/
def exactly (significand : Nat) (exponent : Int) : Estimate :=
  ⟨significand, significand, exponent⟩

/-- The bounds cut off behind their first digits. -/
def shortened (estimate : Estimate) : Estimate :=
  let cut := estimate.upper.log2 + 1 - digits
  ⟨estimate.lower >>> cut, (estimate.upper + (1 <<< cut - 1)) >>> cut, estimate.exponent + cut⟩

/-- The bounds of a product, from those of its factors. -/
def product (left right : Estimate) : Estimate :=
  shortened
    ⟨left.lower * right.lower, left.upper * right.upper, left.exponent + right.exponent⟩

/-- The bounds of a power, from those of its root, by squaring. -/
def power (base : Estimate) (times : Nat) : Estimate :=
  if times = 0 then exactly 1 0
  else
    let half := base.power (times / 2)
    let square := half.product half
    if times % 2 = 0 then square else square.product base

end Estimate

/-! ## Doubles -/

namespace Binary64

/-- The number `± significand · 2 ^ exponent`. -/
structure Parts where
  negative : Bool
  significand : Nat
  /-- The power of two that scales them. -/
  exponent : Int
  deriving Repr, DecidableEq

/-- The least exponent of a double's significand. -/
def leastExponent : Int := -1074

/-- The significand of a normal number has this bit set, and none above it: it is
`2 ^ 52`. -/
def leadingBit : Nat := 0x10000000000000

/-- The bit of the sign among the sixty-four bits of a double: it is `2 ^ 63`. -/
def signBit : Nat := 0x8000000000000000

/-- The sign, the significand and the exponent of a finite double, read off its bits. -/
def parts (number : Float) : Parts :=
  let bits := number.toBits.toNat
  let fraction := bits % leadingBit
  let biased := bits / leadingBit % 2048
  let negative := decide (signBit ≤ bits)
  if biased = 0 then ⟨negative, fraction, leastExponent⟩
  else ⟨negative, leadingBit + fraction, leastExponent + (biased - 1 : Nat)⟩

/-- The double with the given parts, if its significand is below `2 ^ 53` and
its exponent in range: the significand is shifted up until it is normal or the
least exponent is reached. -/
def ofParts (number : Parts) : Float :=
  let shift := min (52 - Nat.log2 number.significand) (number.exponent - leastExponent).toNat
  let significand := number.significand <<< shift
  let exponent := number.exponent - shift
  let magnitude :=
    if significand < leadingBit then significand
    else ((exponent - leastExponent).toNat + 1) * leadingBit + (significand - leadingBit)
  let bits := if number.negative then signBit + magnitude else magnitude
  Float.ofBits (UInt64.ofNat bits)

/-- The remainder of a division cut off toward zero.  It has the sign of the
dividend, leaves the dividend as it is when the divisor is infinite, and is
undefined for an infinite dividend or a zero divisor. -/
def remainder (dividend divisor : Float) : Float :=
  if dividend.isNaN || divisor.isNaN || dividend.isInf || divisor == 0 then 0 / 0
  else if divisor.isInf then dividend
  else
    let upper := parts dividend
    let lower := parts divisor
    let exponent := min upper.exponent lower.exponent
    let rest :=
      (upper.significand <<< (upper.exponent - exponent).toNat) %
        (lower.significand <<< (lower.exponent - exponent).toNat)
    ofParts ⟨upper.negative, rest, exponent⟩

/-- The double nearest to `significand · 2 ^ exponent`, and of two that are equally
near the one with an even significand.  What is not even half of the least positive
double is zero, however small it is, and what is too large is infinite. -/
def nearest (significand : Nat) (exponent : Int) : Float :=
  if significand = 0 ∨ significand.log2 + 1 + exponent < leastExponent then 0
  else .ofModel (.pack (.round .binary64 .positive significand exponent))

/-- The double nearest to a power of `significand · 2 ^ exponent`. -/
def powerOf (significand : Nat) (exponent : Int) (times : Nat) : Float :=
  let estimate := (Estimate.exactly significand exponent).power times
  let lower := nearest estimate.lower estimate.exponent
  if lower = nearest estimate.upper estimate.exponent then lower
  else nearest (significand.pow times) (exponent * times)

/-- The power of a double.  An infinite or undefined one is multiplied by itself. -/
def power (base : Float) (times : Nat) : Float :=
  if base.isFinite then
    let size := powerOf (parts base).significand (parts base).exponent times
    if (parts base).negative && times % 2 = 1 then -size else size
  else if times = 0 then 1
  else if times % 2 = 0 then base * base
  else base

/-- Half the circumference of a circle of radius one, as a double. -/
def pi : Float := 3.14159265358979323846264338327950288

/-- An angle in radians, from degrees. -/
def radians (degrees : Float) : Float :=
  degrees * (pi / 180)

end Binary64

instance : Scalar Float where
  decidableLT := inferInstance
  decidableLE := inferInstance
  remainder := Binary64.remainder
  power := Binary64.power
  isFinite := Float.isFinite

instance : Compass Float where
  cosine degrees := Float.cos (Binary64.radians degrees)
  sine degrees := Float.sin (Binary64.radians degrees)

end LSystemExplorer
