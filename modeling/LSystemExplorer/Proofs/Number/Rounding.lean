import LSystemExplorer.Proofs.Number.Truncation

/-!
# Rounding to the nearest double

A whole number of steps fits a double if it has at most fifty-three binary digits before the
zeros at its end (`Fits`).  Rounding takes a number to one that fits and is nearest (`Nearest`), and
so never across a number that fits (`Nearest.le_of_le`, `Nearest.le_of_ge`).

From `2 ^ 52` units on only multiples of the unit fit (`Fits.dvd`), so nothing that fits is nearer
to a fraction than the multiple of its unit that it is rounded to (`abs_sub_nearestEven_le`).  The
whole numbers are among the fractions, and so they are rounded to the nearest number that fits
(`nearest_round`).
-/

set_option autoImplicit false

namespace LSystemExplorer.Binary64

open Float.Model (UnpackedFloat)
open Float.Model.UnpackedFloat (Sign)

/-! ## Numbers that fit -/

/-- A number of steps with at most fifty-three binary digits before its zeros. -/
def Fits (count : Int) : Prop :=
  ∃ significand shift : Nat, significand < 2 ^ 53 ∧ count.natAbs = significand * 2 ^ shift

section Fits

variable {count : Int}

theorem Fits.of_natAbs_lt (short : count.natAbs < 2 ^ 53) : Fits count :=
  ⟨_, 0, short, (Nat.mul_one _).symm⟩

theorem fits_zero : Fits 0 :=
  .of_natAbs_lt (by decide)

theorem Fits.neg (fits : Fits count) : Fits (-count) := by
  obtain ⟨significand, shift, short, size⟩ := fits
  exact ⟨significand, shift, short, (Int.natAbs_neg count).trans size⟩

theorem Fits.abs (fits : Fits count) : Fits |count| := by
  rcases abs_choice count with same | opposite
  · rwa [same]
  · rw [opposite]
    exact fits.neg

theorem Parts.Canonical.fits {parts : Parts} (canonical : parts.Canonical) : Fits parts.steps :=
  ⟨_, _, canonical.short, parts.natAbs_steps⟩

theorem fits_steps (number : Float) : Fits (steps number) :=
  (canonical_parts number).fits

theorem fits_mul_two_pow {significand : Nat} (short : significand ≤ 2 ^ 53) (shift : Nat) :
    Fits (significand * 2 ^ shift) := by
  rcases Nat.lt_or_eq_of_le short with less | full
  · exact ⟨significand, shift, less, by simp [Int.natAbs_mul, Int.natAbs_pow]⟩
  · refine ⟨1, 53 + shift, by decide, ?_⟩
    rw [full]
    simp [Int.natAbs_mul, Int.natAbs_pow, Nat.pow_add]

/-- From `2 ^ 52` units on only multiples of the unit fit. -/
theorem Fits.dvd (fits : Fits count) {shift : Nat} (far : 2 ^ 52 * 2 ^ shift ≤ count.natAbs) :
    (2 ^ shift : Int) ∣ count := by
  obtain ⟨significand, shift', short, size⟩ := fits
  have more : shift ≤ shift' := by
    by_contra less
    have halved : 2 ^ 53 * 2 ^ shift' ≤ 2 ^ 52 * 2 ^ shift := by
      rw [← Nat.pow_add, ← Nat.pow_add]
      exact Nat.pow_le_pow_right (by decide) (by omega)
    have near := Nat.mul_lt_mul_of_pos_right short (Nat.two_pow_pos shift')
    omega
  rw [← Int.natAbs_dvd_natAbs, size, Int.natAbs_pow]
  exact Nat.dvd_mul_left_of_dvd (Nat.pow_dvd_pow 2 more) _

theorem Fits.dvd_of_le (fits : Fits count) {shift : Nat} (far : 2 ^ 52 * 2 ^ shift ≤ count) :
    (2 ^ shift : Int) ∣ count := by
  refine fits.dvd ?_
  zify
  exact far.trans (le_abs_self count)

end Fits

/-! ## The nearest number that fits -/

/-- The number is rounded to one that fits, and no other that fits is nearer. -/
structure Nearest (exact rounded : Int) : Prop where
  fits : Fits rounded
  least : ∀ other, Fits other → |exact - rounded| ≤ |exact - other|

namespace Nearest

variable {exact rounded bound : Int}

/-- Rounding does not lead above a number that fits. -/
theorem le_of_le (nearest : Nearest exact rounded) (fits : Fits bound) (below : exact ≤ bound) :
    rounded ≤ bound := by
  by_contra above
  have least := nearest.least bound fits
  rw [abs_of_nonpos (by omega), abs_of_nonpos (by omega)] at least
  omega

/-- Rounding does not lead below a number that fits. -/
theorem le_of_ge (nearest : Nearest exact rounded) (fits : Fits bound) (above : bound ≤ exact) :
    bound ≤ rounded := by
  by_contra below
  have least := nearest.least bound fits
  rw [abs_of_nonneg (by omega), abs_of_nonneg (by omega)] at least
  omega

/-- Rounding does not lead farther from zero than a number that fits. -/
theorem abs_le_abs (nearest : Nearest exact rounded) (fits : Fits bound)
    (within : |exact| ≤ |bound|) : |rounded| ≤ |bound| := by
  obtain ⟨least, most⟩ := abs_le.mp within
  exact abs_le.mpr ⟨nearest.le_of_ge fits.abs.neg least, nearest.le_of_le fits.abs most⟩

theorem self (fits : Fits exact) : Nearest exact exact := by
  refine ⟨fits, fun other _ => ?_⟩
  rw [sub_self, abs_zero]
  exact abs_nonneg _

theorem neg (nearest : Nearest exact rounded) : Nearest (-exact) (-rounded) := by
  refine ⟨nearest.fits.neg, fun other fits => ?_⟩
  have least := nearest.least (-other) fits.neg
  rwa [← abs_neg (exact - rounded), ← abs_neg (exact - -other), neg_sub, neg_sub,
    show rounded - exact = -exact - -rounded by ring,
    show -other - exact = -exact - other by ring] at least

end Nearest

/-! ## Rounding -/

section Fractions

variable {exact : ℚ} {count : Int}

/-- Some multiple of the unit is as near as what fits: this number itself, or the first multiple
with digits enough. -/
theorem exists_multiple_nearer (positive : 0 < exact) (fits : Fits count) :
    ∃ times : Int,
      |exact - times * 2 ^ unitExponent exact| ≤ |exact - count * 2 ^ leastExponent| := by
  obtain ⟨shift, above⟩ :=
    Int.eq_ofNat_of_zero_le (sub_nonneg.mpr (leastExponent_le_unitExponent exact))
  have unit : (2 : ℚ) ^ unitExponent exact = 2 ^ shift * 2 ^ leastExponent := by
    rw [← zpow_natCast, ← zpow_add₀ two_ne_zero]
    congr 1
    omega
  by_cases multiple : (2 ^ shift : Int) ∣ count
  · obtain ⟨times, same⟩ := multiple
    refine ⟨times, ?_⟩
    have size : (count : ℚ) * 2 ^ leastExponent = times * 2 ^ unitExponent exact := by
      rw [same, unit]
      push_cast
      ring
    rw [size]
  · have near : count < 2 ^ 52 * 2 ^ shift := not_le.mp (mt fits.dvd_of_le multiple)
    have finer : leastExponent < unitExponent exact := by
      rcases Nat.eq_zero_or_pos shift with zero | some
      · rw [zero] at multiple
        exact absurd (one_dvd _) multiple
      · omega
    have long := le_div_unit positive finer
    rw [le_div_iff₀ (unit_pos _)] at long
    have below : (count : ℚ) * 2 ^ leastExponent ≤ 2 ^ 52 * 2 ^ unitExponent exact := by
      rw [unit, ← mul_assoc]
      refine mul_le_mul_of_nonneg_right ?_ (unit_pos _).le
      exact_mod_cast near.le
    refine ⟨2 ^ 52, ?_⟩
    push_cast
    rw [abs_of_nonneg (by linarith), abs_of_nonneg (by linarith)]
    linarith

/-- **Nothing that fits is nearer to a number than what the number is rounded to.** -/
theorem abs_sub_nearestEven_le (positive : 0 < exact) (fits : Fits count) :
    |exact - nearestEven exact| ≤ |exact - count * 2 ^ leastExponent| := by
  obtain ⟨times, near⟩ := exists_multiple_nearer positive fits
  have unit := unit_pos (unitExponent exact)
  have scaled (whole : Int) : |exact - whole * 2 ^ unitExponent exact| =
      |exact / 2 ^ unitExponent exact - whole| * 2 ^ unitExponent exact := by
    rw [← abs_of_pos unit, ← abs_mul, abs_of_pos unit, sub_mul, div_mul_cancel₀ _ unit.ne']
  calc |exact - nearestEven exact|
      = _ := scaled _
    _ ≤ |exact / 2 ^ unitExponent exact - times| * 2 ^ unitExponent exact :=
        mul_le_mul_of_nonneg_right (abs_sub_roundEven_le _ _) unit.le
    _ = |exact - times * 2 ^ unitExponent exact| := (scaled times).symm
    _ ≤ |exact - count * 2 ^ leastExponent| := near

end Fractions

namespace Parts

variable {parts : Parts}

theorem nearest_steps {exact rounded : Parts} (sign : rounded.sign = exact.sign)
    (nearest : Nearest exact.magnitude rounded.magnitude) : Nearest exact.steps rounded.steps := by
  cases given : exact.sign with
  | negative =>
      rw [steps_of_negative given, steps_of_negative (sign.trans given)]
      exact nearest.neg
  | positive =>
      rw [steps_of_positive given, steps_of_positive (sign.trans given)]
      exact nearest

/-- **Parts are rounded to the nearest number of steps that fits.** -/
theorem nearest_round (parts : Parts) (positive : 0 < parts.significand)
    (least : leastExponent ≤ parts.exponent) :
    ∃ rounded : Parts, rounded.Canonical ∧
      UnpackedFloat.round .binary64 parts.sign parts.significand parts.exponent =
        rounded.unpacked ∧
      Nearest parts.steps rounded.steps := by
  obtain ⟨rounded, canonical, sign, size, result⟩ :=
    round_eq parts.sign parts.exponent positive
  have unit := unit_pos leastExponent
  have distant : (0 : ℚ) < parts.magnitude * 2 ^ leastExponent :=
    mul_pos (Nat.cast_pos.mpr (magnitude_pos positive)) unit
  refine ⟨rounded, canonical, result, nearest_steps sign ⟨?_, fun other fits => ?_⟩⟩
  · exact ⟨_, _, canonical.short, Int.natAbs_natCast _⟩
  · have near := abs_sub_nearestEven_le distant fits
    rw [magnitude_mul least, ← size, ← magnitude_mul least, ← sub_mul, ← sub_mul, abs_mul,
      abs_mul, mul_le_mul_iff_of_pos_right (abs_pos.mpr unit.ne')] at near
    exact_mod_cast near

/-- One of the two zeros. -/
def zeroOf (sign : Sign) : Parts where
  negative :=
    match sign with
    | .negative => true
    | .positive => false
  significand := 0
  exponent := leastExponent

theorem canonical_zeroOf (sign : Sign) : (zeroOf sign).Canonical :=
  ⟨Nat.two_pow_pos 53, le_rfl, .inr rfl⟩

theorem unpacked_zeroOf (sign : Sign) : (zeroOf sign).unpacked = .zero sign := by
  cases sign <;> rfl

theorem steps_zeroOf (sign : Sign) : (zeroOf sign).steps = 0 :=
  steps_of_eq_zero rfl

/-- **A whole number of units is rounded to the nearest number of steps that fits.** -/
theorem nearest_normalize (mantissa : Int) {exponent : Int} (least : leastExponent ≤ exponent)
    (zeroSign : Sign) :
    ∃ rounded : Parts, rounded.Canonical ∧
      UnpackedFloat.normalize .binary64 mantissa exponent zeroSign = rounded.unpacked ∧
      Nearest (mantissa * 2 ^ (exponent - leastExponent).toNat) rounded.steps := by
  unfold UnpackedFloat.normalize
  rcases lt_trichotomy mantissa 0 with negative | zero | positive
  · rw [compare_lt_iff_lt.mpr negative]
    have exact : (⟨true, (-mantissa).toNat, exponent⟩ : Parts).steps =
        mantissa * 2 ^ (exponent - leastExponent).toNat := by
      rw [steps_of_negative rfl, magnitude]
      push_cast
      rw [Int.toNat_of_nonneg (by omega)]
      ring
    rw [← exact]
    exact nearest_round ⟨true, (-mantissa).toNat, exponent⟩ (by dsimp only; omega) least
  · rw [compare_eq_iff_eq.mpr zero, zero, zero_mul]
    refine ⟨zeroOf zeroSign, canonical_zeroOf _, (unpacked_zeroOf _).symm, ?_⟩
    rw [steps_zeroOf]
    exact .self fits_zero
  · rw [compare_gt_iff_gt.mpr positive]
    have exact : (⟨false, mantissa.toNat, exponent⟩ : Parts).steps =
        mantissa * 2 ^ (exponent - leastExponent).toNat := by
      rw [steps_of_positive rfl, magnitude]
      push_cast
      rw [Int.toNat_of_nonneg (by omega)]
    rw [← exact]
    exact nearest_round ⟨false, mantissa.toNat, exponent⟩ (by dsimp only; omega) least

end Parts

end LSystemExplorer.Binary64
