import LSystemExplorer.Number.Scalar

/-!
# Numbers held inside a range

A bounded number is brought back into its range each time it is written.  In
the `wrap` mode the range is a circle: a value beyond one end comes in again at
the other.  Where nothing is rounded the stored number lies in the half-open
range `[lower, upper)`, if that is not empty; a sum that is rounded may come to
lie on `upper`.  In the `clamp` mode the ends are walls: a value beyond one of
them becomes that end.  The mode and the range travel with the number, so
whoever changes it cannot leave the range by mistake.
-/

set_option autoImplicit false

namespace LSystemExplorer

/-- What happens to a value beyond the ends of a range. -/
inductive BoundMode
  /-- It comes in again at the other end. -/
  | wrap
  /-- It becomes the end it went past. -/
  | clamp
  deriving Repr, DecidableEq

/-- A number together with the range it is held in. -/
structure Bounded (α : Type) where
  /-- The lower end, which belongs to the range. -/
  lower : α
  /-- The upper end, which belongs to the range only when clamping. -/
  upper : α
  mode : BoundMode
  /-- The number, already brought back. -/
  value : α
  deriving Repr, DecidableEq

namespace Bounded

variable {α : Type} [Confinable α]

/-- The place of `number` on the circle from `lower` round to `upper`; the lower
end itself when the range is empty.  Rounding can push a tiny negative offset
up to the whole range, and such an offset counts as none. -/
@[specialize] def wrapInto (lower upper number : α) : α :=
  let range := upper - lower
  if (0 : α) < range then
    let offset := Confinable.remainder (number - lower) range
    let offset := if offset < 0 then offset + range else offset
    let offset := if range ≤ offset then 0 else offset
    offset + lower
  else lower

/-- The end that `number` went past, or `number` itself. -/
@[specialize] def clampInto (lower upper number : α) : α :=
  if number < lower then lower
  else if upper < number then upper
  else number

/-- Bring `number` back into the range from `lower` to `upper`. -/
@[specialize] def fit (mode : BoundMode) (lower upper number : α) : α :=
  match mode with
  | .wrap => wrapInto lower upper number
  | .clamp => clampInto lower upper number

/-- The bounded number that a value becomes in a range. -/
@[specialize] def make (mode : BoundMode) (lower upper initial : α) : Bounded α :=
  ⟨lower, upper, mode, fit mode lower upper initial⟩

/-- Write a number. -/
@[specialize] def set (bounded : Bounded α) (number : α) : Bounded α :=
  { bounded with value := fit bounded.mode bounded.lower bounded.upper number }

/-- Write a number that is `delta` away from the old one. -/
@[specialize] def shift (bounded : Bounded α) (delta : α) : Bounded α :=
  bounded.set (bounded.value + delta)

/-- Change the range and write the old value into the new one. -/
@[specialize] def setBounds (bounded : Bounded α) (lower upper : α) : Bounded α :=
  { bounded with lower, upper }.set bounded.value

end Bounded

end LSystemExplorer
