import LSystemExplorer.Proofs.Number.Alike
import LSystemExplorer.Proofs.Number.Exact

/-!
# Doubles in order

Comparing doubles is comparing their unpacked forms, and the comparison has a result
unless one of the two is undefined.  So defined doubles are in a total order
(`le_of_not_lt`), and what lies between two finite doubles is finite
(`isFinite_of_between`).

A sum is undefined only if a summand is, or if both are infinite: rounding leads to a
zero, to a finite form or to an infinity.  So a finite double plus a defined one is defined
(`not_isNaN_add`).
-/

set_option autoImplicit false

namespace LSystemExplorer

open Float.Model (UnpackedFloat)
open Float.Model.UnpackedFloat (Sign)

/-! ## Comparisons -/

namespace Binary64

theorem compare_swap (left right : UnpackedFloat) :
    UnpackedFloat.compare right left = (UnpackedFloat.compare left right).map Ordering.swap := by
  cases left with
  | notANumber =>
      cases right with
      | infinity sign => cases sign <;> rfl
      | finite sign => cases sign <;> rfl
      | _ => rfl
  | infinity sign =>
      cases right with
      | infinity sign' => cases sign <;> cases sign' <;> rfl
      | finite sign' => cases sign <;> cases sign' <;> rfl
      | _ => cases sign <;> rfl
  | zero sign =>
      cases right with
      | infinity sign' => cases sign' <;> rfl
      | finite sign' => cases sign' <;> rfl
      | _ => rfl
  | finite sign mantissa exponent positive =>
      cases right with
      | finite sign' mantissa' exponent' positive' =>
          cases sign <;> cases sign' <;> simp [UnpackedFloat.compare, Ordering.swap_then,
            Int.compare_swap, Nat.compare_swap]
      | infinity sign' => cases sign <;> cases sign' <;> rfl
      | _ => cases sign <;> rfl

/-- Values that are numbers can be compared. -/
theorem compare_isSome {left right : UnpackedFloat} (leftNumber : left ≠ .notANumber)
    (rightNumber : right ≠ .notANumber) : (UnpackedFloat.compare left right).isSome := by
  cases left with
  | notANumber => exact absurd rfl leftNumber
  | infinity sign =>
      cases right with
      | notANumber => exact absurd rfl rightNumber
      | infinity sign' => rfl
      | _ => cases sign <;> rfl
  | zero sign =>
      cases right with
      | notANumber => exact absurd rfl rightNumber
      | zero sign' => rfl
      | _ sign' => cases sign' <;> rfl
  | finite sign mantissa exponent positive =>
      cases right with
      | notANumber => exact absurd rfl rightNumber
      | zero sign' => cases sign <;> rfl
      | _ sign' => cases sign <;> cases sign' <;> rfl

end Binary64

section Order

variable {left right : Float}

theorem le_iff_compare :
    left ≤ right ↔
      ∃ order, UnpackedFloat.compare left.toModel.unpack right.toModel.unpack = some order ∧
        order.isLE := by
  show decide (left.toModel ≤ right.toModel) = true ↔ _
  rw [decide_eq_true_iff]
  exact Option.any_eq_true _ _

/-- Of two defined doubles one is at most the other. -/
theorem le_of_not_lt (leftNumber : ¬ left.isNaN) (rightNumber : ¬ right.isNaN)
    (notBelow : ¬ left < right) : right ≤ left := by
  rw [isNaN_iff] at leftNumber rightNumber
  obtain ⟨order, compared⟩ :=
    Option.isSome_iff_exists.mp (Binary64.compare_isSome leftNumber rightNumber)
  refine le_iff_compare.mpr ⟨order.swap, ?_, ?_⟩
  · rw [Binary64.compare_swap, compared]
    rfl
  · rw [lt_iff_compare, compared] at notBelow
    cases order with
    | lt => exact absurd rfl notBelow
    | eq => rfl
    | gt => rfl

theorem not_lt_of_le (atMost : left ≤ right) : ¬ right < left := by
  intro below
  obtain ⟨order, compared, isLE⟩ := le_iff_compare.mp atMost
  rw [lt_iff_compare, Binary64.compare_swap, compared, Option.map_some, Option.some.injEq]
    at below
  cases order with
  | lt => cases below
  | eq => cases below
  | gt => cases isLE

theorem not_isNaN_left (atMost : left ≤ right) : ¬ left.isNaN := by
  intro undefined
  obtain ⟨order, compared, -⟩ := le_iff_compare.mp atMost
  rw [isNaN_iff.mp undefined] at compared
  cases compared

theorem not_isNaN_right (atMost : left ≤ right) : ¬ right.isNaN := by
  intro undefined
  obtain ⟨order, compared, -⟩ := le_iff_compare.mp atMost
  rw [Binary64.compare_swap, isNaN_iff.mp undefined] at compared
  cases compared

theorem not_lt_self (number : Float) : ¬ number < number := by
  intro below
  rw [lt_iff_compare] at below
  have swapped := Binary64.compare_swap number.toModel.unpack number.toModel.unpack
  rw [below] at swapped
  cases swapped

end Order

/-! ## Finite doubles -/

theorem isFinite_iff {number : Float} :
    number.isFinite ↔ number.toModel.unpack ≠ .notANumber ∧
      ∀ sign, number.toModel.unpack ≠ .infinity sign := by
  change number.toModel.unpack.isFinite = true ↔ _
  cases number.toModel.unpack <;> simp [UnpackedFloat.isFinite]

theorem not_isNaN_of_isFinite {number : Float} (finite : number.isFinite) : ¬ number.isNaN :=
  fun undefined => (isFinite_iff.mp finite).1 (isNaN_iff.mp undefined)

/-- No finite double is at most a negative infinity. -/
theorem unpack_ne_negative_infinity {lower number : Float} (lowerFinite : lower.isFinite)
    (above : lower ≤ number) : number.toModel.unpack ≠ .infinity .negative := by
  intro infinite
  obtain ⟨order, compared, isLE⟩ := le_iff_compare.mp above
  obtain ⟨defined, bounded⟩ := isFinite_iff.mp lowerFinite
  rw [infinite] at compared
  cases form : lower.toModel.unpack with
  | notANumber => exact defined form
  | infinity sign => exact bounded sign form
  | zero sign =>
      rw [form] at compared
      cases compared
      cases isLE
  | finite sign =>
      rw [form] at compared
      cases sign <;> cases compared <;> cases isLE

/-- No positive infinity is at most a finite double. -/
theorem unpack_ne_positive_infinity {number upper : Float} (upperFinite : upper.isFinite)
    (below : number ≤ upper) : number.toModel.unpack ≠ .infinity .positive := by
  intro infinite
  obtain ⟨order, compared, isLE⟩ := le_iff_compare.mp below
  obtain ⟨defined, bounded⟩ := isFinite_iff.mp upperFinite
  rw [infinite] at compared
  cases form : upper.toModel.unpack with
  | notANumber => exact defined form
  | infinity sign => exact bounded sign form
  | _ =>
      rw [form] at compared
      cases compared
      cases isLE

/-- **What lies between finite doubles is finite.** -/
theorem isFinite_of_between {lower number upper : Float} (lowerFinite : lower.isFinite)
    (upperFinite : upper.isFinite) (above : lower ≤ number) (below : number ≤ upper) :
    number.isFinite := by
  refine isFinite_iff.mpr ⟨?_, ?_⟩
  · intro undefined
    exact not_isNaN_left below (isNaN_iff.mpr undefined)
  · intro sign
    cases sign with
    | negative => exact unpack_ne_negative_infinity lowerFinite above
    | positive => exact unpack_ne_positive_infinity upperFinite below

/-! ## Sums -/

theorem Binary64.round_ne_notANumber (sign : Sign) (mantissa : Nat) (exponent : Int) :
    UnpackedFloat.round .binary64 sign mantissa exponent ≠ .notANumber := by
  unfold UnpackedFloat.round UnpackedFloat.roundWithAccuracy
  dsimp only
  split
  · exact nofun
  · exact nofun

theorem Binary64.add_ne_notANumber {left right : UnpackedFloat} (finite : left.isFinite)
    (number : right ≠ .notANumber) : UnpackedFloat.add .binary64 left right ≠ .notANumber := by
  cases left with
  | notANumber => cases finite
  | infinity sign => cases finite
  | zero sign =>
      cases right with
      | notANumber => exact absurd rfl number
      | infinity sign' => exact nofun
      | zero sign' => cases sign <;> cases sign' <;> exact nofun
      | finite => exact nofun
  | finite sign mantissa exponent positive =>
      cases right with
      | notANumber => exact absurd rfl number
      | infinity sign' => exact nofun
      | zero sign' => exact nofun
      | finite sign' mantissa' exponent' positive' =>
          change UnpackedFloat.normalize .binary64 _ _ _ ≠ _
          unfold UnpackedFloat.normalize
          split
          · exact round_ne_notANumber _ _ _
          · exact nofun
          · exact round_ne_notANumber _ _ _

/-- **A finite double plus a defined one is defined.** -/
theorem not_isNaN_add {left right : Float} (finite : left.isFinite) (number : ¬ right.isNaN) :
    ¬ (left + right).isNaN := by
  intro undefined
  have sum : UnpackedFloat.add .binary64 left.toModel.unpack right.toModel.unpack ≠
      .notANumber :=
    Binary64.add_ne_notANumber finite fun form => number (isNaN_iff.mpr form)
  exact Binary64.unpack_pack_ne_notANumber sum (isNaN_iff.mp undefined)

end LSystemExplorer

namespace LSystemExplorer.Bounded

/-! ## Doubles brought into their range

An undefined double compares with neither end of a range and is kept when it is clamped, and
any other ends up in the range (`clampInto_between`).  Clamping again changes nothing
(`clampInto_clampInto`).
-/

variable {lower upper : Float}

/-- **A defined double ends up in the range.** -/
theorem clampInto_between (ordered : lower ≤ upper) {number : Float}
    (defined : ¬ number.isNaN) :
    lower ≤ clampInto lower upper number ∧ clampInto lower upper number ≤ upper := by
  have lowerDefined := not_isNaN_left ordered
  have upperDefined := not_isNaN_right ordered
  rw [clampInto_eq_ite]
  split
  · exact ⟨le_of_not_lt lowerDefined lowerDefined (not_lt_self lower), ordered⟩
  · rename_i notBelow
    split
    · exact ⟨ordered, le_of_not_lt upperDefined upperDefined (not_lt_self upper)⟩
    · rename_i notAbove
      exact ⟨le_of_not_lt defined lowerDefined notBelow,
        le_of_not_lt upperDefined defined notAbove⟩

/-- Whatever was clamped stays as it is, also when it is undefined. -/
theorem clampInto_clampInto (ordered : lower ≤ upper) (number : Float) :
    clampInto lower upper (clampInto lower upper number) = clampInto lower upper number := by
  have notCrossed : ¬ upper < lower := not_lt_of_le ordered
  rw [clampInto_eq_ite lower upper number]
  split
  · rw [clampInto_eq_ite, if_neg (not_lt_self lower), if_neg notCrossed]
  · rename_i notBelow
    split
    · rw [clampInto_eq_ite, if_neg notCrossed, if_neg (not_lt_self upper)]
    · rename_i notAbove
      rw [clampInto_eq_ite, if_neg notBelow, if_neg notAbove]

end LSystemExplorer.Bounded
