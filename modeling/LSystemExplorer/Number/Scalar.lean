/-!
# The numbers of a drawing

Lengths, angles and coordinates are machine numbers when the program runs, and
exact numbers when a law about them is stated.  Everything between the catalog
and the screen is therefore written once, over the operations collected here.

`Confinable` has what a value needs to be held inside a range: an order, sums
and differences, and the remainder of a division that is cut off toward zero.
`Scalar` adds what a drawing needs, and `Compass` the two components of the
direction in which a heading points.  None of the classes promises a law, so a
theorem about an arbitrary scalar also holds for machine numbers with their
rounding, signed zeros and values that are not numbers.
-/

set_option autoImplicit false

namespace LSystemExplorer

/-- Numbers that can be held inside a range. -/
class Confinable (α : Type) extends Zero α, Add α, Sub α, LT α, LE α where
  decidableLT : DecidableLT α
  decidableLE : DecidableLE α
  /-- What is left of the first number after taking the second away as often as
  fits, counted toward zero: it has the sign of the first number. -/
  remainder : α → α → α

instance Confinable.instDecidableLT {α : Type} [Confinable α] : DecidableLT α :=
  Confinable.decidableLT

instance Confinable.instDecidableLE {α : Type} [Confinable α] : DecidableLE α :=
  Confinable.decidableLE

instance : Confinable Int where
  toZero := ⟨0⟩
  toAdd := Int.instAdd
  toSub := Int.instSub
  toLT := Int.instLTInt
  toLE := Int.instLEInt
  decidableLT := inferInstance
  decidableLE := inferInstance
  remainder := Int.tmod

/-- Numbers in which a drawing can be computed. -/
class Scalar (α : Type) extends Confinable α, Neg α, Mul α, Div α, OfScientific α, BEq α where
  power : α → Nat → α
  isFinite : α → Bool

/-- The components of the unit step taken along a heading given in degrees. -/
class Compass (α : Type) where
  /-- How far the step goes to the right. -/
  cosine : α → α
  /-- How far the step goes up. -/
  sine : α → α

namespace Scalar

variable {α : Type} [Scalar α]

/-- The number itself if it is above zero, and zero otherwise. -/
def positivePart (number : α) : α :=
  if (0 : α) < number then number else 0

end Scalar

end LSystemExplorer
