import Mathlib
import LSystemExplorer.Number.Bounded

/-!
# Ranges of exact numbers

Whole numbers and fractions are added without rounding, and the remainder of a division,
which is cut off toward zero, differs from the dividend by a whole multiple of the divisor.
`ExactNumber` collects this much, and it decides what either way of bringing a number into
a range leads to.

On a circle a number is replaced by the number of the range that is congruent to it modulo
the length of the range (`wrapInto_mem`, `wrapInto_modEq`), and there is only one
(`eq_of_modEq`).  A remainder may be negative, and then the length of the range is added
once; the offset so found is below the length, which is why the last correction, made for
numbers that are rounded, is never needed here.

Between walls a number is replaced by the number of the range that is nearest to it
(`clampInto_mem`, `clampInto_nearest`).
-/

set_option autoImplicit false

namespace LSystemExplorer

/-! ## Numbers without rounding -/

/-- Numbers that are added without rounding, with a remainder that is exact. -/
class ExactNumber (α : Type) extends AddCommGroup α, LinearOrder α, IsOrderedAddMonoid α where
  remainder : α → α → α
  /-- The divisor was taken away a whole number of times. -/
  remainder_modEq (dividend : α) {divisor : α} (positive : 0 < divisor) :
    remainder dividend divisor ≡ dividend [PMOD divisor]
  /-- It was taken away as often as fits. -/
  abs_remainder_lt (dividend : α) {divisor : α} (positive : 0 < divisor) :
    |remainder dividend divisor| < divisor

instance (priority := 100) ExactNumber.toConfinable {α : Type} [ExactNumber α] : Confinable α where
  toZero := inferInstance
  toAdd := inferInstance
  toSub := inferInstance
  toLT := inferInstance
  toLE := inferInstance
  decidableLT := inferInstance
  decidableLE := inferInstance
  remainder := ExactNumber.remainder

instance : ExactNumber Int where
  __ := (inferInstance : AddCommGroup Int)
  __ := (inferInstance : LinearOrder Int)
  __ := (inferInstance : IsOrderedAddMonoid Int)
  remainder := Int.tmod
  remainder_modEq dividend divisor _ := by
    refine AddCommGroup.modEq_iff_zsmul.mpr ⟨dividend.tdiv divisor, ?_⟩
    have division := Int.tmod_add_mul_tdiv dividend divisor
    rw [smul_eq_mul, mul_comm]
    omega
  abs_remainder_lt dividend divisor positive := by
    have size := Int.natAbs_tmod dividend divisor
    have below : dividend.natAbs % divisor.natAbs < divisor.natAbs := Nat.mod_lt _ (by omega)
    rw [Int.abs_eq_natAbs]
    omega

/-- These are the operations that places are computed with. -/
example : (ExactNumber.toConfinable : Confinable Int) = instConfinableInt := rfl

namespace Fraction

/-- The fraction without what stands behind the point. -/
def truncation (number : ℚ) : Int :=
  if 0 ≤ number then ⌊number⌋ else ⌈number⌉

theorem abs_sub_truncation_lt (number : ℚ) : |number - truncation number| < 1 := by
  unfold truncation
  split
  · have below := Int.floor_le number
    have above := Int.lt_floor_add_one number
    rw [abs_lt]
    constructor <;> linarith
  · have above := Int.le_ceil number
    have below := Int.ceil_lt_add_one number
    rw [abs_lt]
    constructor <;> linarith

/-- What is left of a fraction after a division cut off toward zero. -/
def remainder (dividend divisor : ℚ) : ℚ :=
  dividend - truncation (dividend / divisor) • divisor

theorem abs_remainder_lt (dividend : ℚ) {divisor : ℚ} (positive : 0 < divisor) :
    |remainder dividend divisor| < divisor := by
  have scaled : remainder dividend divisor =
      (dividend / divisor - truncation (dividend / divisor)) * divisor := by
    rw [remainder, zsmul_eq_mul, sub_mul, div_mul_cancel₀ _ positive.ne']
  calc |remainder dividend divisor|
      = |dividend / divisor - truncation (dividend / divisor)| * divisor := by
        rw [scaled, abs_mul, abs_of_pos positive]
    _ < 1 * divisor := mul_lt_mul_of_pos_right (abs_sub_truncation_lt _) positive
    _ = divisor := one_mul divisor

end Fraction

instance : ExactNumber ℚ where
  __ := (inferInstance : AddCommGroup ℚ)
  __ := (inferInstance : LinearOrder ℚ)
  __ := (inferInstance : IsOrderedAddMonoid ℚ)
  remainder := Fraction.remainder
  remainder_modEq dividend divisor _ := by
    refine AddCommGroup.modEq_iff_zsmul.mpr ⟨Fraction.truncation (dividend / divisor), ?_⟩
    rw [Fraction.remainder, sub_sub_cancel]
  abs_remainder_lt dividend _ positive := Fraction.abs_remainder_lt dividend positive

namespace Bounded

theorem clampInto_eq_ite {α : Type} [Confinable α] (lower upper number : α) :
    clampInto lower upper number =
      if number < lower then lower else if upper < number then upper else number :=
  rfl

variable {α : Type} [ExactNumber α] {lower upper : α}

/-! ## Round a circle -/

/-- The remainder, with the divisor added once if it is negative. -/
def foldedRemainder (dividend divisor : α) : α :=
  if Confinable.remainder dividend divisor < 0 then
    Confinable.remainder dividend divisor + divisor
  else Confinable.remainder dividend divisor

theorem foldedRemainder_mem (dividend : α) {divisor : α} (positive : 0 < divisor) :
    foldedRemainder dividend divisor ∈ Set.Ico 0 divisor := by
  obtain ⟨above, below⟩ := abs_lt.mp (ExactNumber.abs_remainder_lt dividend positive)
  unfold foldedRemainder
  split
  · rename_i negative
    exact ⟨(neg_lt_iff_pos_add.mp above).le, add_lt_of_neg_left divisor negative⟩
  · rename_i notNegative
    exact ⟨not_lt.mp notNegative, below⟩

theorem foldedRemainder_modEq (dividend : α) {divisor : α} (positive : 0 < divisor) :
    foldedRemainder dividend divisor ≡ dividend [PMOD divisor] := by
  have congruent := ExactNumber.remainder_modEq dividend positive
  unfold foldedRemainder
  split
  · have once : Confinable.remainder dividend divisor + divisor ≡
        Confinable.remainder dividend divisor [PMOD divisor] :=
      AddCommGroup.add_modEq_left.mpr AddCommGroup.self_modEq_zero
    exact once.trans congruent
  · exact congruent

/-- The offset is already below the length of the range when it is compared with it. -/
theorem wrapInto_eq_foldedRemainder (nonempty : lower < upper) (number : α) :
    wrapInto lower upper number = foldedRemainder (number - lower) (upper - lower) + lower := by
  have positive : 0 < upper - lower := sub_pos.mpr nonempty
  have below := (foldedRemainder_mem (number - lower) positive).2
  have unfolded : wrapInto lower upper number =
      if 0 < upper - lower then
        (if upper - lower ≤ foldedRemainder (number - lower) (upper - lower) then 0
          else foldedRemainder (number - lower) (upper - lower)) + lower
      else lower := rfl
  rw [unfolded, if_pos positive, if_neg (not_le.mpr below)]

theorem wrapInto_mem (nonempty : lower < upper) (number : α) :
    wrapInto lower upper number ∈ Set.Ico lower upper := by
  obtain ⟨least, most⟩ := foldedRemainder_mem (number - lower) (sub_pos.mpr nonempty)
  rw [wrapInto_eq_foldedRemainder nonempty]
  exact ⟨le_add_of_nonneg_left least, lt_sub_iff_add_lt.mp most⟩

theorem wrapInto_modEq (nonempty : lower < upper) (number : α) :
    wrapInto lower upper number ≡ number [PMOD upper - lower] := by
  have congruent := foldedRemainder_modEq (number - lower) (sub_pos.mpr nonempty)
  rw [wrapInto_eq_foldedRemainder nonempty]
  exact AddCommGroup.modEq_sub_iff_add_modEq.mp congruent

/-- A range without numbers has nothing but its lower end to offer. -/
theorem wrapInto_of_le (empty : upper ≤ lower) (number : α) :
    wrapInto lower upper number = lower := by
  have none : ¬ 0 < upper - lower := not_lt.mpr (sub_nonpos.mpr empty)
  exact if_neg none

/-- **No two numbers of a range are congruent modulo its length.** -/
theorem eq_of_modEq {number other : α} (first : number ∈ Set.Ico lower upper)
    (second : other ∈ Set.Ico lower upper) (congruent : number ≡ other [PMOD upper - lower]) :
    number = other := by
  obtain ⟨times, difference⟩ := AddCommGroup.modEq_iff_zsmul.mp congruent
  have positive : 0 < upper - lower := sub_pos.mpr (first.1.trans_lt first.2)
  have above : times • (upper - lower) < (1 : ℤ) • (upper - lower) := by
    rw [one_zsmul, difference]
    exact (sub_lt_sub_right second.2 number).trans_le (sub_le_sub_left first.1 upper)
  have below : (-1 : ℤ) • (upper - lower) < times • (upper - lower) := by
    rw [neg_one_zsmul, difference, neg_sub]
    exact (sub_lt_sub_left first.2 lower).trans_le (sub_le_sub_right second.1 number)
  have none : times = 0 := by
    have := (zsmul_lt_zsmul_iff_left positive).mp above
    have := (zsmul_lt_zsmul_iff_left positive).mp below
    omega
  rw [none, zero_zsmul] at difference
  exact (sub_eq_zero.mp difference.symm).symm

/-- A number of the range stays as it is. -/
theorem wrapInto_of_mem {number : α} (member : number ∈ Set.Ico lower upper) :
    wrapInto lower upper number = number := by
  have nonempty : lower < upper := member.1.trans_lt member.2
  exact eq_of_modEq (wrapInto_mem nonempty number) member (wrapInto_modEq nonempty number)

/-- Congruent numbers come to the same place. -/
theorem wrapInto_congr {number other : α} (congruent : number ≡ other [PMOD upper - lower]) :
    wrapInto lower upper number = wrapInto lower upper other := by
  rcases lt_or_ge lower upper with nonempty | empty
  · refine eq_of_modEq (wrapInto_mem nonempty number) (wrapInto_mem nonempty other) ?_
    exact ((wrapInto_modEq nonempty number).trans congruent).trans
      (wrapInto_modEq nonempty other).symm
  · rw [wrapInto_of_le empty, wrapInto_of_le empty]

/-- Over the whole numbers the offset from the lower end is reduced modulo the length. -/
theorem wrapInto_eq {lower upper : Int} (nonempty : lower < upper) (number : Int) :
    wrapInto lower upper number = lower + (number - lower) % (upper - lower) := by
  have positive : 0 < upper - lower := Int.sub_pos.mpr nonempty
  have least := Int.emod_nonneg (number - lower) positive.ne'
  have most := Int.emod_lt_of_pos (number - lower) positive
  have reduced : lower + (number - lower) % (upper - lower) ≡ number [PMOD upper - lower] := by
    refine AddCommGroup.modEq_iff_zsmul.mpr ⟨(number - lower) / (upper - lower), ?_⟩
    have division := Int.emod_add_mul_ediv (number - lower) (upper - lower)
    rw [smul_eq_mul, mul_comm]
    omega
  refine eq_of_modEq (wrapInto_mem nonempty number) ⟨by omega, by omega⟩ ?_
  exact (wrapInto_modEq nonempty number).trans reduced.symm

/-! ## Between walls -/

theorem clampInto_eq_max (ordered : lower ≤ upper) (number : α) :
    clampInto lower upper number = max lower (min upper number) := by
  rw [clampInto_eq_ite]
  split
  · rename_i below
    rw [min_eq_right (below.le.trans ordered), max_eq_left below.le]
  · rename_i notBelow
    split
    · rename_i above
      rw [min_eq_left above.le, max_eq_right ordered]
    · rename_i notAbove
      rw [min_eq_right (not_lt.mp notAbove), max_eq_right (not_lt.mp notBelow)]

theorem clampInto_mem (ordered : lower ≤ upper) (number : α) :
    clampInto lower upper number ∈ Set.Icc lower upper := by
  rw [clampInto_eq_max ordered]
  exact ⟨le_max_left _ _, max_le ordered (min_le_left _ _)⟩

/-- A number of the range stays as it is. -/
theorem clampInto_of_mem {number : α} (member : number ∈ Set.Icc lower upper) :
    clampInto lower upper number = number := by
  rw [clampInto_eq_max (member.1.trans member.2), min_eq_right member.2, max_eq_right member.1]

/-- **Every other number of the range is farther away.** -/
theorem clampInto_nearest (number : α) {other : α}
    (member : other ∈ Set.Icc lower upper) (different : other ≠ clampInto lower upper number) :
    |number - clampInto lower upper number| < |number - other| := by
  obtain ⟨least, most⟩ := member
  rw [clampInto_eq_ite] at different ⊢
  split at different
  · rename_i below
    have farther : lower < other := lt_of_le_of_ne least different.symm
    rw [if_pos below, abs_of_neg (sub_neg.mpr below), neg_sub,
      abs_of_neg (sub_neg.mpr (below.trans farther)), neg_sub]
    exact sub_lt_sub_right farther number
  · rename_i notBelow
    split at different
    · rename_i above
      have farther : other < upper := lt_of_le_of_ne most different
      rw [if_neg notBelow, if_pos above, abs_of_pos (sub_pos.mpr above),
        abs_of_pos (sub_pos.mpr (farther.trans above))]
      exact sub_lt_sub_left farther number
    · rename_i notAbove
      rw [if_neg notBelow, if_neg notAbove, sub_self, abs_zero]
      exact abs_pos.mpr (sub_ne_zero.mpr different.symm)

end Bounded

end LSystemExplorer

namespace LSystemExplorer.Fraction

/-! ## Drawings in fractions

A law about headings or lengths that holds without rounding is stated for fractions, and here
they are made a kind of number that drawings can be computed in.  The numerals of a drawing
then stand for what they say.  Sines and cosines are no fractions, so a compass is left open:
the laws hold whatever lengths a heading is read off as.

The operations are those of fractions everywhere else.  They are only looked up here where
`Fraction` is opened, so that other modules are not led to them by a detour.
-/

scoped instance : Scalar ℚ where
  toConfinable := ExactNumber.toConfinable
  toNeg := inferInstance
  toMul := inferInstance
  toDiv := inferInstance
  toOfScientific := inferInstance
  toBEq := inferInstance
  power base exponent := base ^ exponent
  isFinite _ := true

/-- Half a turn, as the turtle has it. -/
theorem halfTurn : (180.0 : ℚ) = 180 := by norm_num

/-- Round a circle of degrees the turtle's own numerals are these. -/
theorem wrapInto_degrees (degrees : ℚ) :
    Bounded.fit .wrap (-180.0 : ℚ) 180.0 degrees = Bounded.wrapInto (-180) 180 degrees := by
  rw [halfTurn]
  rfl

end LSystemExplorer.Fraction
