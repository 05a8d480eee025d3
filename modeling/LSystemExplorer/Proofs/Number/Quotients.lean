import LSystemExplorer.Proofs.Number.Values

/-!
# Quotients of doubles

The significand of the dividend is shifted until the quotient of the significands has digits
enough, and the remainder tells what is behind them (`truncates_quotient`).  So the quotient of two
positive doubles is the exact quotient, rounded half to even (`roundsEven_div`).  A positive double
divided by zero is infinite, and divided by infinity it is zero.
-/

set_option autoImplicit false

namespace LSystemExplorer.Binary64

open Float.Model (UnpackedFloat Format totalExponent)
open Float.Model.UnpackedFloat (ExtendedMantissa accuracyOfFraction divCore)

/-! ## Quotients of significands -/

/-- The bits that a remainder leads to. -/
theorem bits_accuracyOfFraction (mantissa rest : Nat) {divisor : Nat} (positive : 0 < divisor) :
    let left := ExtendedMantissa.ofMantissaAndAccuracy mantissa (accuracyOfFraction rest divisor)
    (left.roundBit = true ↔ divisor ≤ 2 * rest) ∧
      (left.stickyBit = false ↔ rest = 0 ∨ 2 * rest = divisor) := by
  unfold accuracyOfFraction
  split_ifs with none
  · exact ⟨⟨nofun, fun _ => by omega⟩, ⟨fun _ => .inl none, fun _ => rfl⟩⟩
  · rcases lt_trichotomy (2 * rest) divisor with less | half | more
    · rw [compare_lt_iff_lt.mpr less]
      exact ⟨⟨nofun, fun _ => by omega⟩, ⟨nofun, fun _ => by omega⟩⟩
    · rw [compare_eq_iff_eq.mpr half]
      exact ⟨⟨fun _ => half.ge, fun _ => rfl⟩, ⟨fun _ => .inr half, fun _ => rfl⟩⟩
    · rw [compare_gt_iff_gt.mpr more]
      exact ⟨⟨fun _ => more.le, fun _ => rfl⟩, ⟨nofun, fun _ => by omega⟩⟩

/-- The remainder tells what is behind a quotient. -/
theorem truncates_quotient (dividend : Nat) {divisor : Nat} (positive : 0 < divisor) :
    Truncates
      (.ofMantissaAndAccuracy (dividend / divisor)
        (accuracyOfFraction (dividend % divisor) divisor))
      (dividend / divisor) ((dividend % divisor : Nat) / divisor) := by
  have size : (0 : ℚ) < divisor := Nat.cast_pos.mpr positive
  have whole : (dividend : ℚ) / divisor =
      (dividend / divisor : Nat) + (dividend % divisor : Nat) / divisor := by
    rw [div_eq_iff size.ne', add_mul, div_mul_cancel₀ _ size.ne']
    exact_mod_cast (Nat.div_add_mod' dividend divisor).symm
  obtain ⟨round, sticky⟩ :=
    bits_accuracyOfFraction (dividend / divisor) (dividend % divisor) positive
  refine ⟨?_, div_nonneg (Nat.cast_nonneg _) size.le,
    (div_lt_one size).mpr (Nat.cast_lt.mpr (Nat.mod_lt _ positive)), ?_, ?_⟩
  · rw [mantissa_ofMantissaAndAccuracy]
    exact whole
  · rw [round, div_le_div_iff₀ two_pos size, one_mul, mul_comm]
    norm_cast
  · rw [sticky, div_eq_zero_iff, or_iff_left size.ne', div_eq_div_iff size.ne' two_ne_zero,
      one_mul, mul_comm]
    norm_cast

/-- The quotient of two powers of two times significands is at least this power of two. -/
theorem le_log_quotient {dividend divisor : Nat} (exponent exponent' : Int)
    (dividendPos : 0 < dividend) (divisorPos : 0 < divisor) :
    totalExponent dividend exponent - totalExponent divisor exponent' - 1 ≤
      Int.log 2 ((dividend * 2 ^ exponent : ℚ) / (divisor * 2 ^ exponent')) := by
  have size : (0 : ℚ) < divisor := Nat.cast_pos.mpr divisorPos
  have least : (2 : ℚ) ^ (dividend.log2 : Int) ≤ dividend := by
    rw [zpow_natCast]
    exact_mod_cast Nat.log2_self_le dividendPos.ne'
  have most : (divisor : ℚ) ≤ 2 ^ (divisor.log2 + 1 : Int) := by
    exact_mod_cast Nat.lt_log2_self.le
  have dividendUnit := unit_pos exponent
  have divisorUnit := unit_pos exponent'
  refine (Int.zpow_le_iff_le_log (by decide) (by positivity)).mp ?_
  calc (2 : ℚ) ^ (totalExponent dividend exponent - totalExponent divisor exponent' - 1)
      = 2 ^ (dividend.log2 : Int) * 2 ^ exponent /
          (2 ^ (divisor.log2 + 1 : Int) * 2 ^ exponent') := by
        rw [← zpow_add₀ two_ne_zero, ← zpow_add₀ two_ne_zero, ← zpow_sub₀ two_ne_zero]
        congr 1
        unfold totalExponent
        omega
    _ ≤ _ := by gcongr

/-- The exponent is chosen so that there are digits enough. -/
theorem targetExponent_le_unitExponent {dividend divisor : Nat} (exponent exponent' : Int)
    (dividendPos : 0 < dividend) (divisorPos : 0 < divisor) :
    Format.binary64.targetExponent
        (totalExponent dividend exponent - totalExponent divisor exponent') ≤
      unitExponent (dividend * 2 ^ exponent / (divisor * 2 ^ exponent')) := by
  have digits := le_log_quotient exponent exponent' dividendPos divisorPos
  have precision : Format.binary64.targetExponent
      (totalExponent dividend exponent - totalExponent divisor exponent') =
        max (totalExponent dividend exponent - totalExponent divisor exponent' - 53)
          leastExponent := rfl
  unfold unitExponent
  omega

/-- The dividend is shifted to divide whole numbers instead. -/
theorem quotient_shifted (dividend divisor shift : Nat) (exponent exponent' : Int) :
    (dividend * 2 ^ exponent / (divisor * 2 ^ exponent') : ℚ) / 2 ^ (exponent - exponent' - shift) =
      (dividend <<< shift : Nat) / divisor := by
  have exponents : (2 : ℚ) ^ exponent =
      2 ^ shift * 2 ^ exponent' * 2 ^ (exponent - exponent' - shift) := by
    rw [← zpow_natCast, ← zpow_add₀ two_ne_zero, ← zpow_add₀ two_ne_zero]
    congr 1
    omega
  have unit := unit_pos exponent'
  have target := unit_pos (exponent - exponent' - shift)
  rw [Nat.shiftLeft_eq, Nat.cast_mul, Nat.cast_pow, Nat.cast_ofNat, exponents]
  field_simp

/-- The quotient of positive significands is rounded from digits enough. -/
theorem div_finite {dividend divisor : Nat} (exponent exponent' : Int)
    (dividendPos : 0 < dividend) (divisorPos : 0 < divisor) :
    ∃ rounded : Parts, rounded.Canonical ∧ rounded.sign = .positive ∧
      rounded.magnitude * 2 ^ leastExponent =
        nearestEven (dividend * 2 ^ exponent / (divisor * 2 ^ exponent')) ∧
      UnpackedFloat.div .binary64 (.finite .positive dividend exponent dividendPos)
        (.finite .positive divisor exponent' divisorPos) = rounded.unpacked := by
  have size : (0 : ℚ) < dividend := Nat.cast_pos.mpr dividendPos
  have size' : (0 : ℚ) < divisor := Nat.cast_pos.mpr divisorPos
  have unit := unit_pos exponent
  have unit' := unit_pos exponent'
  obtain ⟨target, chosen⟩ : ∃ target, target = min (exponent - exponent')
    (Format.binary64.targetExponent
      (totalExponent dividend exponent - totalExponent divisor exponent')) := ⟨_, rfl⟩
  have fine := (chosen.trans_le (min_le_right _ _)).trans
    (targetExponent_le_unitExponent exponent exponent' dividendPos divisorPos)
  obtain ⟨shift, places⟩ := Int.eq_ofNat_of_zero_le
    (sub_nonneg.mpr (chosen.trans_le (min_le_left _ _)))
  have truncates := truncates_quotient (dividend <<< shift) divisorPos
  rw [← quotient_shifted dividend divisor shift exponent exponent', ← places, sub_sub_cancel]
    at truncates
  obtain ⟨rounded, canonical, sign, magnitude, form⟩ :=
    roundWithAccuracy_eq .positive truncates (by positivity) fine
  refine ⟨rounded, canonical, sign, magnitude, ?_⟩
  rw [← form]
  unfold UnpackedFloat.div divCore
  dsimp only
  rw [← chosen, places, Int.toNat_natCast]
  rfl

/-! ## Quotients of doubles -/

section Doubles

variable {left right : Float} (leftFinite : left.isFinite) (leftPositive : 0 < left)

include leftFinite leftPositive

/-- **The quotient of positive doubles is the exact quotient, rounded half to even.** -/
theorem roundsEven_div (rightFinite : right.isFinite) (rightPositive : 0 < right) :
    RoundsEven (value left / value right) (left / right) := by
  obtain ⟨dividendPos, -, dividend⟩ := parts_of_pos leftFinite leftPositive
  obtain ⟨divisorPos, -, divisor⟩ := parts_of_pos rightFinite rightPositive
  obtain ⟨rounded, canonical, sign, magnitude, form⟩ :=
    div_finite (parts left).exponent (parts right).exponent dividendPos divisorPos
  rw [dividend, divisor]
  refine .of_packed canonical sign magnitude ?_
  rw [← form, ← unpack_of_pos leftFinite leftPositive, ← unpack_of_pos rightFinite rightPositive]
  rfl

/-- A positive double divided by zero is infinite. -/
theorem unpack_div_zero : (left / 0).toModel.unpack = .infinity .positive := by
  have quotient : (left / 0).toModel =
      .pack (UnpackedFloat.div .binary64 left.toModel.unpack (0 : Float).toModel.unpack) := rfl
  rw [quotient, unpack_of_pos leftFinite leftPositive, unpack_zero]
  change (Float.Model.pack (.infinity .positive)).unpack = _
  rfl

/-- A positive double divided by infinity is zero. -/
theorem div_eq_zero_of_infinity (infinite : right.toModel.unpack = .infinity .positive) :
    left / right = 0 := by
  have quotient : (left / right).toModel =
      .pack (UnpackedFloat.div .binary64 left.toModel.unpack right.toModel.unpack) := rfl
  apply eq_of_unpack_eq
  rw [quotient, unpack_of_pos leftFinite leftPositive, infinite, unpack_zero]
  change (Float.Model.pack (.zero .positive)).unpack = _
  rfl

end Doubles

end LSystemExplorer.Binary64
