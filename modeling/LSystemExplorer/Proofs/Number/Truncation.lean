import LSystemExplorer.Proofs.Number.HalfEven
import LSystemExplorer.Proofs.Number.Steps

/-!
# Rounding what is not a whole number of steps

A result that need not be a whole number of steps is computed to so many binary digits that
rounding can go on from there.  What is behind these digits is told by two bits: whether it is half
of the last digit or more, and whether it is anything but nothing and exactly half (`Truncates`).
The bits say the same of every digit at which the number is cut off (`Truncates.shiftRight`), and
that is enough to round half to even (`Truncates.roundedMantissa`).  So the result is the fraction
rounded at its unit (`roundWithAccuracy_eq`).  A number that is known exactly is first shifted up
to its unit, if it is short (`round_eq`).
-/

set_option autoImplicit false

namespace LSystemExplorer.Binary64

open Float.Model (UnpackedFloat Format totalExponent)
open Float.Model.UnpackedFloat (Sign ExtendedMantissa Accuracy shiftToTargetExponent)

/-! ## Digits that are cut off -/

/-- The mantissa is the number without its fraction, and the bits tell about the fraction. -/
structure Truncates (left : ExtendedMantissa) (number fraction : ℚ) : Prop where
  whole : number = left.mantissa + fraction
  nonneg : 0 ≤ fraction
  lt_one : fraction < 1
  round : left.roundBit = true ↔ 1 / 2 ≤ fraction
  sticky : left.stickyBit = false ↔ fraction = 0 ∨ fraction = 1 / 2

namespace Truncates

variable {left : ExtendedMantissa} {number fraction : ℚ}

/-- Nothing is behind a mantissa that is exact. -/
theorem exact (mantissa : Nat) :
    Truncates (.ofMantissaAndAccuracy mantissa .exact) mantissa 0 := by
  refine ⟨(add_zero _).symm, le_rfl, one_pos, ?_, ?_⟩ <;>
    norm_num [ExtendedMantissa.ofMantissaAndAccuracy]

/-- One digit more is cut off. -/
theorem shiftRightOne (truncates : Truncates left number fraction) :
    Truncates left.shiftRightOne (number / 2) (((left.mantissa % 2 : Nat) + fraction) / 2) := by
  obtain ⟨whole, nonneg, less, round, sticky⟩ := truncates
  have halves : (left.mantissa : ℚ) =
      2 * (left.mantissa / 2 : Nat) + (left.mantissa % 2 : Nat) := by
    exact_mod_cast (Nat.div_add_mod left.mantissa 2).symm
  have none : (left.roundBit || left.stickyBit) = false ↔ fraction = 0 := by
    rw [Bool.or_eq_false_iff, sticky, ← Bool.not_eq_true, round, not_le]
    constructor
    · rintro ⟨below, zero | half⟩
      · exact zero
      · linarith
    · intro zero
      exact ⟨by rw [zero]; norm_num, .inl zero⟩
  unfold ExtendedMantissa.shiftRightOne
  rcases Nat.mod_two_eq_zero_or_one left.mantissa with even | odd
  · rw [even, Nat.cast_zero, add_zero] at halves
    rw [even, Nat.cast_zero, zero_add]
    refine ⟨by dsimp only; linarith, by linarith, by linarith, ?_, ?_⟩
    · exact ⟨nofun, fun _ => by linarith⟩
    · rw [none]
      exact ⟨fun zero => .inl (by linarith), by rintro (_ | _) <;> linarith⟩
  · rw [odd, Nat.cast_one] at halves ⊢
    refine ⟨by dsimp only; linarith, by linarith, by linarith, ?_, ?_⟩
    · exact ⟨fun _ => by linarith, fun _ => rfl⟩
    · rw [none]
      exact ⟨fun zero => .inr (by linarith), by rintro (_ | _) <;> linarith⟩

theorem shiftRight (truncates : Truncates left number fraction) (cut : Nat) :
    ∃ rest, Truncates (left >>> cut) (number / 2 ^ cut) rest := by
  induction cut with
  | zero =>
      refine ⟨fraction, ?_⟩
      rw [pow_zero, div_one]
      exact truncates
  | succ cut ih =>
      obtain ⟨rest, shifted⟩ := ih
      rw [pow_succ, ← div_div]
      exact ⟨_, shifted.shiftRightOne⟩

/-- **The bits are enough to round half to even.** -/
theorem roundedMantissa (truncates : Truncates left number fraction) :
    (left.roundedMantissa : Int) = roundEven number := by
  obtain ⟨whole, nonneg, less, round, sticky⟩ := truncates
  have floor : ⌊number⌋ = left.mantissa := by
    rw [Int.floor_eq_iff]
    push_cast
    constructor <;> linarith
  have fract : Int.fract number = fraction := by
    rw [Int.fract, floor]
    push_cast
    linarith
  obtain ⟨kept, half, more⟩ := left
  unfold roundEven
  rw [floor, fract]
  dsimp only at round sticky ⊢
  cases half with
  | false =>
      have short : fraction < 1 / 2 := not_le.mp (mt round.mpr Bool.false_ne_true)
      rw [if_pos short]
      cases more <;> rfl
  | true =>
      have long : 1 / 2 ≤ fraction := round.mp rfl
      rw [if_neg long.not_gt]
      cases more with
      | false =>
          have middle : fraction = 1 / 2 := (sticky.mp rfl).resolve_left (by linarith)
          rw [if_neg middle.not_gt]
          exact Nat.cast_add _ _
      | true =>
          have beyond : 1 / 2 < fraction :=
            long.lt_of_ne fun middle => Bool.noConfusion (sticky.mpr (.inr middle.symm))
          rw [if_pos beyond]
          rfl

end Truncates

/-! ## Rounding at the unit -/

theorem targetExponent_eq (mantissa : Nat) (exponent : Int) :
    Format.binary64.targetExponent (totalExponent mantissa exponent) =
      max (mantissa.log2 + exponent - 52) leastExponent := by
  have digits : (Format.binary64.mantissaBits : Int) = 53 := rfl
  have least : Format.binary64.minExponent = leastExponent := rfl
  rw [Format.targetExponent, digits, least, totalExponent]
  congr 1
  ring

theorem shiftToTargetExponent_eq {mantissa times : Nat} {exponent : Int}
    (target : Format.binary64.targetExponent (totalExponent mantissa exponent) =
      exponent + times) :
    shiftToTargetExponent .binary64 mantissa exponent .exact =
      ((⟨mantissa, false, false⟩ : ExtendedMantissa) >>> times, exponent + times) := by
  unfold shiftToTargetExponent UnpackedFloat.shiftToExponent
  dsimp only
  rw [target, add_sub_cancel_left, Int.toNat_natCast]
  rfl

namespace Parts

variable {parts : Parts}

/-- Steps are as large as the least power of two. -/
theorem magnitude_mul (least : leastExponent ≤ parts.exponent) :
    (parts.magnitude : ℚ) * 2 ^ leastExponent = parts.significand * 2 ^ parts.exponent := by
  obtain ⟨shift, above⟩ := Int.eq_ofNat_of_zero_le (sub_nonneg.mpr least)
  rw [magnitude, above, Int.toNat_natCast, Nat.cast_mul, Nat.cast_pow, Nat.cast_ofNat, mul_assoc,
    ← zpow_natCast, ← zpow_add₀ two_ne_zero, ← above, sub_add_cancel]

/-- Canonical parts have the exponent at which a double is rounded. -/
theorem Canonical.targetExponent (canonical : parts.Canonical) :
    Format.binary64.targetExponent (totalExponent parts.significand parts.exponent) =
      parts.exponent := by
  have least := canonical.least
  have digits : parts.significand.log2 ≤ 52 := by
    rcases Nat.eq_zero_or_pos parts.significand with zero | positive
    · simp [zero]
    · exact Nat.le_of_lt_succ ((Nat.log2_lt positive.ne').mpr canonical.short)
  rw [targetExponent_eq]
  rcases canonical.full with full | small
  · have : 52 ≤ parts.significand.log2 := (Nat.le_log2 (by omega)).mpr full
    omega
  · omega

theorem Canonical.shift (canonical : parts.Canonical) :
    shiftToTargetExponent .binary64 parts.significand parts.exponent .exact =
      (⟨parts.significand, false, false⟩, parts.exponent) := by
  have target : Format.binary64.targetExponent (totalExponent parts.significand parts.exponent) =
      parts.exponent + (0 : Nat) := canonical.targetExponent.trans (add_zero _).symm
  rw [shiftToTargetExponent_eq target, Nat.cast_zero, add_zero]
  rfl

end Parts

section Rounding

variable {mantissa : Nat} {exponent : Int} {accuracy : Accuracy} {number fraction : ℚ}

theorem mantissa_ofMantissaAndAccuracy (mantissa : Nat) (accuracy : Accuracy) :
    (ExtendedMantissa.ofMantissaAndAccuracy mantissa accuracy).mantissa = mantissa := by
  cases accuracy with
  | exact => rfl
  | inexact order => cases order <;> rfl

/-- The first digit of a number is that of its mantissa. -/
theorem log_eq {scaled : ℚ} (exponent : Int) (positive : 0 < mantissa) (least : mantissa ≤ scaled)
    (most : scaled < mantissa + 1) :
    Int.log 2 (scaled * 2 ^ exponent) = mantissa.log2 + exponent := by
  have unit := unit_pos exponent
  have nonzero : (0 : ℚ) < scaled := (Nat.cast_pos.mpr positive).trans_le least
  have digits : (2 : ℚ) ^ (mantissa.log2 : Int) ≤ mantissa := by
    rw [zpow_natCast]
    exact_mod_cast Nat.log2_self_le positive.ne'
  have digits' : (mantissa : ℚ) + 1 ≤ 2 ^ (mantissa.log2 + 1 : Int) := by
    exact_mod_cast Nat.lt_log2_self
  have above : mantissa.log2 + exponent ≤ Int.log 2 (scaled * 2 ^ exponent) := by
    refine (Int.zpow_le_iff_le_log (by decide) (by positivity)).mp ?_
    rw [Nat.cast_ofNat, zpow_add₀ two_ne_zero]
    exact mul_le_mul_of_nonneg_right (digits.trans least) unit.le
  have below : Int.log 2 (scaled * 2 ^ exponent) < mantissa.log2 + 1 + exponent := by
    refine (Int.lt_zpow_iff_log_lt (by decide) (by positivity)).mp ?_
    rw [Nat.cast_ofNat, zpow_add₀ two_ne_zero]
    exact mul_lt_mul_of_pos_right (most.trans_le digits') unit
  omega

/-- The digits are cut off at the unit, if there are enough of them. -/
theorem targetExponent_eq_unitExponent
    (truncates : Truncates (.ofMantissaAndAccuracy mantissa accuracy) (number / 2 ^ exponent)
      fraction)
    (positive : 0 < number) (fine : exponent ≤ unitExponent number) :
    Format.binary64.targetExponent (totalExponent mantissa exponent) = unitExponent number := by
  have whole := truncates.whole
  have nonneg := truncates.nonneg
  have less := truncates.lt_one
  have unit := unit_pos exponent
  rw [mantissa_ofMantissaAndAccuracy, div_eq_iff unit.ne'] at whole
  rw [targetExponent_eq]
  rcases Nat.eq_zero_or_pos mantissa with none | some
  · have below : number < 2 ^ exponent := by
      rw [whole, none, Nat.cast_zero, zero_add]
      exact mul_lt_of_lt_one_left unit less
    have digits : Int.log 2 number < exponent :=
      (Int.lt_zpow_iff_log_lt (by decide) positive).mp below
    unfold unitExponent at fine ⊢
    rw [none, Nat.log2_zero]
    omega
  · rw [unitExponent, whole, log_eq exponent some (by linarith) (by linarith)]

/-- A mantissa that is short enough is that of canonical parts.  One of `2 ^ 53` is halved once
more, and others stay. -/
theorem settle {mantissa : Nat} {exponent : Int} (negative : Bool) (short : mantissa ≤ 2 ^ 53)
    (least : leastExponent ≤ exponent) (full : 2 ^ 52 ≤ mantissa ∨ exponent = leastExponent) :
    ∃ rounded : Parts, rounded.Canonical ∧ rounded.negative = negative ∧
      rounded.magnitude = mantissa * 2 ^ (exponent - leastExponent).toNat ∧
      shiftToTargetExponent .binary64 mantissa exponent .exact =
        (⟨rounded.significand, false, false⟩, rounded.exponent) := by
  rcases Nat.lt_or_eq_of_le short with less | long
  · have canonical : (⟨negative, mantissa, exponent⟩ : Parts).Canonical := ⟨less, least, full⟩
    exact ⟨_, canonical, rfl, rfl, canonical.shift⟩
  · have target : Format.binary64.targetExponent (totalExponent (2 ^ 53) exponent) =
        exponent + (1 : Nat) := by
      rw [targetExponent_eq, Nat.log2_two_pow]
      omega
    have places : (exponent + 1 - leastExponent).toNat = (exponent - leastExponent).toNat + 1 := by
      omega
    refine ⟨⟨negative, 2 ^ 52, exponent + 1⟩,
      ⟨by dsimp only; decide, by dsimp only; omega, .inl le_rfl⟩, rfl, ?_, ?_⟩
    · rw [long, Parts.magnitude]
      dsimp only
      rw [places, Nat.pow_succ']
      ring
    · rw [long]
      exact shiftToTargetExponent_eq target

/-- **A positive number is rounded at its unit, half to even.** -/
theorem roundWithAccuracy_eq (sign : Sign)
    (truncates : Truncates (.ofMantissaAndAccuracy mantissa accuracy) (number / 2 ^ exponent)
      fraction)
    (positive : 0 < number) (fine : exponent ≤ unitExponent number) :
    ∃ rounded : Parts, rounded.Canonical ∧ rounded.sign = sign ∧
      rounded.magnitude * 2 ^ leastExponent = nearestEven number ∧
      UnpackedFloat.roundWithAccuracy .binary64 sign mantissa exponent accuracy =
        rounded.unpacked := by
  obtain ⟨cut, places⟩ := Int.eq_ofNat_of_zero_le (sub_nonneg.mpr fine)
  have target := targetExponent_eq_unitExponent truncates positive fine
  obtain ⟨rest, kept⟩ := truncates.shiftRight cut
  have unit : (2 : ℚ) ^ exponent * 2 ^ cut = 2 ^ unitExponent number := by
    rw [← zpow_natCast, ← zpow_add₀ two_ne_zero]
    congr 1
    omega
  rw [div_div, unit] at kept
  have first : shiftToTargetExponent .binary64 mantissa exponent accuracy =
      (ExtendedMantissa.ofMantissaAndAccuracy mantissa accuracy >>> cut, unitExponent number) := by
    unfold shiftToTargetExponent UnpackedFloat.shiftToExponent
    dsimp only
    rw [target, places, Int.toNat_natCast, ← places, add_sub_cancel]
  have even := kept.roundedMantissa
  generalize ExtendedMantissa.ofMantissaAndAccuracy mantissa accuracy >>> cut = left
    at first even
  have short : left.roundedMantissa ≤ 2 ^ 53 := by
    have := roundEven_div_unit_le number
    omega
  have full : 2 ^ 52 ≤ left.roundedMantissa ∨ unitExponent number = leastExponent := by
    rcases (leastExponent_le_unitExponent number).eq_or_lt with same | above
    · exact .inr same.symm
    · have := le_roundEven_div_unit positive above
      exact .inl (by omega)
  obtain ⟨rounded, canonical, negative, magnitude, second⟩ :=
    settle (sign matches .negative) short (leastExponent_le_unitExponent number) full
  have same : rounded.sign = sign := by
    unfold Parts.sign
    rw [negative]
    cases sign <;> rfl
  refine ⟨rounded, canonical, same, ?_, ?_⟩
  · rw [magnitude, nearestEven_eq_steps, ← even]
    push_cast
    rfl
  · unfold UnpackedFloat.roundWithAccuracy
    rw [first]
    dsimp only
    rw [second, ← same]
    rfl

/-- A number of powers of two is rounded at its unit, after it was shifted up if it is short. -/
theorem round_eq {significand : Nat} (sign : Sign) (exponent : Int) (positive : 0 < significand) :
    ∃ rounded : Parts, rounded.Canonical ∧ rounded.sign = sign ∧
      rounded.magnitude * 2 ^ leastExponent = nearestEven (significand * 2 ^ exponent) ∧
      UnpackedFloat.round .binary64 sign significand exponent = rounded.unpacked := by
  have size : (0 : ℚ) < significand := Nat.cast_pos.mpr positive
  have unit := unit_pos exponent
  have target : Format.binary64.targetExponent (totalExponent significand exponent) =
      unitExponent (significand * 2 ^ exponent) := by
    rw [targetExponent_eq, unitExponent, log_eq exponent positive le_rfl (lt_add_one _)]
  obtain ⟨shift, places⟩ : ∃ shift : Nat,
    shift = (exponent - unitExponent (significand * 2 ^ exponent)).toNat := ⟨_, rfl⟩
  have exact := Truncates.exact (significand <<< shift)
  have shifted : ((significand <<< shift : Nat) : ℚ) =
      significand * 2 ^ exponent / 2 ^ (exponent - shift) := by
    rw [Nat.shiftLeft_eq, Nat.cast_mul, Nat.cast_pow, Nat.cast_ofNat, mul_div_assoc,
      ← zpow_sub₀ two_ne_zero, sub_sub_cancel, zpow_natCast]
  rw [shifted] at exact
  obtain ⟨rounded, canonical, same, magnitude, form⟩ :=
    roundWithAccuracy_eq sign exact (by positivity) (by omega)
  refine ⟨rounded, canonical, same, magnitude, ?_⟩
  rw [← form]
  unfold UnpackedFloat.round UnpackedFloat.decreaseExponent
  dsimp only
  rw [target, ← places]

end Rounding

end LSystemExplorer.Binary64
