import LSystemExplorer.Number.Binary64
import Mathlib

/-!
# Rounding fractions to doubles

A positive number is rounded to fifty-three binary digits, but to no digit behind the last one of
the least double.  The place of the last digit is the unit (`unitExponent`), and the number is
taken to the nearest multiple of its unit, the even one of two (`nearestEven`).

No whole number is nearer to a number than the one it is rounded to (`abs_sub_roundEven_le`), and
rounding keeps the order (`nearestEven_mono`), since a larger unit takes over only at a number that
is a multiple of it, and rounding leads across no such number.

What is not more than half of the least double is rounded to zero (`nearestEven_eq_zero_iff`), and
from the middle between the greatest double and `2 ^ 1024` on a number is rounded to `2 ^ 1024` or
more (`le_nearestEven_iff`).  The middle goes up, since the last digit of the greatest double is
odd.
-/

set_option autoImplicit false

namespace LSystemExplorer.Binary64

/-! ## Whole numbers -/

/-- The nearest whole number, and the even one of two that are equally near. -/
def roundEven (number : ℚ) : Int :=
  if Int.fract number < 1 / 2 then ⌊number⌋
  else if 1 / 2 < Int.fract number then ⌊number⌋ + 1
  else ⌊number⌋ + ⌊number⌋ % 2

section Whole

variable {number larger : ℚ} {whole : Int}

theorem floor_le_roundEven (number : ℚ) : ⌊number⌋ ≤ roundEven number := by
  unfold roundEven
  split_ifs <;> omega

theorem roundEven_le_floor_add_one (number : ℚ) : roundEven number ≤ ⌊number⌋ + 1 := by
  unfold roundEven
  split_ifs <;> omega

@[simp] theorem roundEven_intCast (whole : Int) : roundEven whole = whole := by
  have below : Int.fract (whole : ℚ) < 1 / 2 := by
    rw [Int.fract_intCast]
    norm_num
  rw [roundEven, if_pos below, Int.floor_intCast]

/-- A number is rounded above a whole number if it is beyond the middle between this and the next,
or in the middle behind an odd one. -/
theorem lt_roundEven_iff :
    whole < roundEven number ↔
      whole + 1 / 2 < number ∨ number = whole + 1 / 2 ∧ whole % 2 = 1 := by
  have split := Int.floor_add_fract number
  have least := Int.fract_nonneg number
  have most := Int.fract_lt_one number
  have down := floor_le_roundEven number
  have up := roundEven_le_floor_add_one number
  rcases lt_trichotomy ⌊number⌋ whole with below | same | above
  · have cast : (⌊number⌋ : ℚ) + 1 ≤ whole := by exact_mod_cast below
    refine ⟨fun _ => by omega, ?_⟩
    rintro (_ | ⟨_, -⟩) <;> linarith
  · have cast : (⌊number⌋ : ℚ) = whole := by exact_mod_cast same
    unfold roundEven
    split_ifs with short long
    · refine ⟨fun _ => by omega, ?_⟩
      rintro (_ | ⟨_, -⟩) <;> linarith
    · exact ⟨fun _ => .inl (by linarith), fun _ => by omega⟩
    · have middle : number = whole + 1 / 2 := by linarith
      refine ⟨fun _ => .inr ⟨middle, by omega⟩, ?_⟩
      rintro (_ | ⟨-, _⟩)
      · linarith
      · omega
  · have cast : (whole : ℚ) + 1 ≤ ⌊number⌋ := by exact_mod_cast above
    exact ⟨fun _ => .inl (by linarith), fun _ => by omega⟩

/-- **No whole number is nearer.** -/
theorem abs_sub_roundEven_le (number : ℚ) (whole : Int) :
    |number - roundEven number| ≤ |number - whole| := by
  have distance : |number - roundEven number| =
      min (Int.fract number) (1 - Int.fract number) := by
    have split := Int.floor_add_fract number
    have least := Int.fract_nonneg number
    have most := Int.fract_lt_one number
    unfold roundEven
    split_ifs with short long
    · rw [min_eq_left (by linarith), abs_of_nonneg (by linarith)]
      linarith
    · push_cast
      rw [min_eq_right (by linarith), abs_of_nonpos (by linarith)]
      linarith
    · have middle : Int.fract number = 1 / 2 := by linarith
      push_cast
      rw [middle]
      rcases Int.emod_two_eq_zero_or_one ⌊number⌋ with even | odd
      · rw [even, Int.cast_zero, abs_of_nonneg (by linarith)]
        norm_num
        linarith
      · rw [odd, Int.cast_one, abs_of_nonpos (by linarith)]
        norm_num
        linarith
  rw [distance, ← abs_sub_round_eq_min]
  exact round_le number whole

theorem roundEven_mono (ordered : number ≤ larger) : roundEven number ≤ roundEven larger := by
  by_contra! crossed
  refine lt_irrefl (roundEven larger) (lt_roundEven_iff.mpr ?_)
  rcases lt_roundEven_iff.mp crossed with beyond | ⟨middle, odd⟩
  · exact .inl (beyond.trans_le ordered)
  · rcases (middle.ge.trans ordered).lt_or_eq with beyond | same
    · exact .inl beyond
    · exact .inr ⟨same.symm, odd⟩

theorem le_roundEven (whole : Int) (below : (whole : ℚ) ≤ number) :
    whole ≤ roundEven number := by
  simpa using roundEven_mono below

theorem roundEven_le (whole : Int) (above : number ≤ (whole : ℚ)) :
    roundEven number ≤ whole := by
  simpa using roundEven_mono above

end Whole

/-! ## Units -/

/-- The power of two that the last digit of a rounded number stands for. -/
def unitExponent (number : ℚ) : Int :=
  max (Int.log 2 number - 52) leastExponent

/-- The nearest number that has no digit behind the unit, and the even one of two that are equally
near. -/
def nearestEven (number : ℚ) : ℚ :=
  roundEven (number / 2 ^ unitExponent number) * 2 ^ unitExponent number

section Units

variable {number larger : ℚ} {exponent : Int}

theorem unit_pos (exponent : Int) : (0 : ℚ) < 2 ^ exponent :=
  zpow_pos two_pos exponent

theorem leastExponent_le_unitExponent (number : ℚ) : leastExponent ≤ unitExponent number :=
  le_max_right _ _

/-- There are fifty-three digits before the unit at most. -/
theorem div_unit_lt (number : ℚ) : number / 2 ^ unitExponent number < 2 ^ 53 := by
  rw [div_lt_iff₀ (unit_pos _)]
  calc number
      < 2 ^ (Int.log 2 number + 1) := Int.lt_zpow_succ_log_self (by decide) number
    _ ≤ 2 ^ (53 + unitExponent number) := by
        refine zpow_le_zpow_right₀ one_le_two ?_
        unfold unitExponent
        omega
    _ = 2 ^ 53 * 2 ^ unitExponent number := by
        rw [zpow_add₀ two_ne_zero]
        rfl

/-- There are fifty-three digits, unless the unit is the last digit of the least double. -/
theorem le_div_unit (positive : 0 < number) (above : leastExponent < unitExponent number) :
    2 ^ 52 ≤ number / 2 ^ unitExponent number := by
  have unit : unitExponent number = Int.log 2 number - 52 := by
    unfold unitExponent at above ⊢
    omega
  rw [le_div_iff₀ (unit_pos _)]
  calc (2 : ℚ) ^ 52 * 2 ^ unitExponent number
      = 2 ^ (52 + unitExponent number) := by
        rw [zpow_add₀ two_ne_zero]
        rfl
    _ = 2 ^ Int.log 2 number := by rw [unit]; congr 1; omega
    _ ≤ number := Int.zpow_log_le_self (by decide) positive

theorem unitExponent_mono (positive : 0 < number) (ordered : number ≤ larger) :
    unitExponent number ≤ unitExponent larger :=
  max_le_max (Int.sub_le_sub_right (Int.log_mono_right positive ordered) _) le_rfl

/-- There are fifty-three digits at most after rounding, or a one and zeros. -/
theorem roundEven_div_unit_le (number : ℚ) :
    roundEven (number / 2 ^ unitExponent number) ≤ 2 ^ 53 :=
  roundEven_le _ (by exact_mod_cast (div_unit_lt number).le)

theorem le_roundEven_div_unit (positive : 0 < number)
    (above : leastExponent < unitExponent number) :
    2 ^ 52 ≤ roundEven (number / 2 ^ unitExponent number) :=
  le_roundEven _ (by exact_mod_cast le_div_unit positive above)

theorem nearestEven_le (number : ℚ) : nearestEven number ≤ 2 ^ 53 * 2 ^ unitExponent number :=
  mul_le_mul_of_nonneg_right (by exact_mod_cast roundEven_div_unit_le number) (unit_pos _).le

theorem le_nearestEven (positive : 0 < number) (above : leastExponent < unitExponent number) :
    2 ^ 52 * 2 ^ unitExponent number ≤ nearestEven number :=
  mul_le_mul_of_nonneg_right (by exact_mod_cast le_roundEven_div_unit positive above)
    (unit_pos _).le

/-- The rounded number in steps of the least power of two. -/
theorem nearestEven_eq_steps (number : ℚ) :
    nearestEven number = roundEven (number / 2 ^ unitExponent number) *
      2 ^ (unitExponent number - leastExponent).toNat * 2 ^ leastExponent := by
  have least := leastExponent_le_unitExponent number
  rw [nearestEven, mul_assoc, ← zpow_natCast, ← zpow_add₀ two_ne_zero,
    show ((unitExponent number - leastExponent).toNat : Int) + leastExponent =
      unitExponent number by omega]

@[simp] theorem nearestEven_zero : nearestEven 0 = 0 := by
  have zero : roundEven 0 = 0 := by exact_mod_cast roundEven_intCast 0
  rw [nearestEven, zero_div, zero, Int.cast_zero, zero_mul]

theorem nearestEven_nonneg (nonneg : 0 ≤ number) : 0 ≤ nearestEven number := by
  have rounded : 0 ≤ roundEven (number / 2 ^ unitExponent number) :=
    le_roundEven _ (by exact_mod_cast div_nonneg nonneg (unit_pos _).le)
  exact mul_nonneg (by exact_mod_cast rounded) (unit_pos _).le

/-- **Rounding keeps the order.** -/
theorem nearestEven_mono (nonneg : 0 ≤ number) (ordered : number ≤ larger) :
    nearestEven number ≤ nearestEven larger := by
  rcases nonneg.eq_or_lt with rfl | positive
  · rw [nearestEven_zero]
    exact nearestEven_nonneg ordered
  rcases (unitExponent_mono positive ordered).lt_or_eq with finer | same
  · calc nearestEven number
        ≤ 2 ^ 53 * 2 ^ unitExponent number := nearestEven_le number
      _ = 2 ^ 52 * 2 ^ (unitExponent number + 1) := by
          rw [zpow_add_one₀ two_ne_zero]
          ring
      _ ≤ 2 ^ 52 * 2 ^ unitExponent larger :=
          mul_le_mul_of_nonneg_left (zpow_le_zpow_right₀ one_le_two finer) (by positivity)
      _ ≤ nearestEven larger :=
          le_nearestEven (positive.trans_le ordered)
            ((leastExponent_le_unitExponent number).trans_lt finer)
  · unfold nearestEven
    rw [← same]
    refine mul_le_mul_of_nonneg_right ?_ (unit_pos _).le
    exact_mod_cast roundEven_mono (div_le_div_of_nonneg_right ordered (unit_pos _).le)

end Units

/-! ## The ends of the range -/

/-- Half of the least positive double. -/
def halfOfLeast : ℚ := 2 ^ (-1075 : Int)

/-- The middle between the greatest double and `2 ^ 1024`. -/
def pastGreatest : ℚ := 2 ^ (1024 : Int) - 2 ^ (970 : Int)

/-- A positive number is in reach of the doubles, being neither too small nor too large. -/
def InReach (number : ℚ) : Prop :=
  halfOfLeast < number ∧ number < pastGreatest

instance (number : ℚ) : Decidable (InReach number) :=
  inferInstanceAs (Decidable (_ ∧ _))

section Ends

variable {number : ℚ}

/-- **What is not more than half of the least double is rounded to zero.** -/
theorem nearestEven_eq_zero_iff (positive : 0 < number) :
    nearestEven number = 0 ↔ number ≤ halfOfLeast := by
  have unit := unit_pos (unitExponent number)
  have nonneg : 0 ≤ roundEven (number / 2 ^ unitExponent number) :=
    le_roundEven _ (by exact_mod_cast (div_pos positive unit).le)
  have zero : nearestEven number = 0 ↔ number ≤ 1 / 2 * 2 ^ unitExponent number := by
    have above : 0 < roundEven (number / 2 ^ unitExponent number) ↔ _ := lt_roundEven_iff
    rw [nearestEven, mul_eq_zero_iff_right unit.ne', Int.cast_eq_zero, ← div_le_iff₀ unit,
      ← not_lt]
    norm_num at above
    rw [← above]
    omega
  have half : halfOfLeast = 1 / 2 * 2 ^ leastExponent := by
    rw [halfOfLeast, show (-1075 : Int) = leastExponent - 1 from rfl, zpow_sub_one₀ two_ne_zero]
    ring
  rw [zero, half]
  rcases (leastExponent_le_unitExponent number).eq_or_lt with same | above
  · rw [same]
  · have long := le_div_unit positive above
    rw [le_div_iff₀ unit] at long
    have finer : (2 : ℚ) ^ leastExponent < 2 ^ unitExponent number :=
      zpow_lt_zpow_right₀ one_lt_two above
    exact ⟨fun _ => by linarith, fun _ => by linarith⟩

/-- **From the middle behind the greatest double on a number is rounded to `2 ^ 1024` or more.** -/
theorem le_nearestEven_iff (positive : 0 < number) :
    2 ^ (1024 : Int) ≤ nearestEven number ↔ pastGreatest ≤ number := by
  have unit := unit_pos 971
  have end_eq : (2 : ℚ) ^ (1024 : Int) = 2 ^ 53 * 2 ^ (971 : Int) := by
    rw [show (1024 : Int) = 53 + 971 from rfl, zpow_add₀ two_ne_zero]
    rfl
  have middle_eq : pastGreatest = (2 ^ 53 - 1 / 2) * 2 ^ (971 : Int) := by
    rw [pastGreatest, end_eq, show (970 : Int) = 971 - 1 from rfl, zpow_sub_one₀ two_ne_zero]
    ring
  rw [end_eq, middle_eq]
  rcases lt_trichotomy (unitExponent number) 971 with finer | same | coarser
  · -- the number has its last digit before this, and is too small
    have half : (2 : ℚ) ^ unitExponent number ≤ 2 ^ (971 : Int) / 2 := by
      rw [div_eq_mul_inv, ← zpow_sub_one₀ two_ne_zero]
      exact zpow_le_zpow_right₀ one_le_two (by omega)
    have short := div_unit_lt number
    rw [div_lt_iff₀ (unit_pos _)] at short
    have rounded := nearestEven_le number
    generalize (2 : ℚ) ^ (971 : Int) = last at unit half ⊢
    exact ⟨fun _ => by linarith, fun _ => by linarith⟩
  · have last : (2 ^ 53 : Int) - 1 < roundEven (number / 2 ^ (971 : Int)) ↔
        (2 ^ 53 : Int) ≤ roundEven (number / 2 ^ (971 : Int)) := Int.sub_one_lt_iff
    rw [nearestEven, same, mul_le_mul_iff_of_pos_right unit, ← le_div_iff₀ unit,
      show (2 : ℚ) ^ 53 = (2 ^ 53 : Int) by norm_num, Int.cast_le, ← last, lt_roundEven_iff,
      and_iff_left (by decide), ← le_iff_lt_or_eq']
    norm_num
  · have twice : 2 * 2 ^ (971 : Int) ≤ (2 : ℚ) ^ unitExponent number := by
      rw [mul_comm, ← zpow_add_one₀ two_ne_zero]
      exact zpow_le_zpow_right₀ one_le_two (by omega)
    have above : leastExponent < unitExponent number := by unfold leastExponent; omega
    have long := le_div_unit positive above
    rw [le_div_iff₀ (unit_pos _)] at long
    have rounded := le_nearestEven positive above
    generalize (2 : ℚ) ^ (971 : Int) = last at unit twice ⊢
    exact ⟨fun _ => by linarith, fun _ => by linarith⟩

end Ends

end LSystemExplorer.Binary64
