import LSystemExplorer.Proofs.Number.Values

/-!
# Powers of doubles

The power of a double is computed from two bounds of the exact power, and in full only if the
bounds are rounded to different doubles.  The bounds are multiplied and cut off again and again,
and each time the number stays between them (`Estimate.Encloses.power`).

A whole number of powers of two is rounded half to even, however small or large it is
(`roundsEven_nearest`), and rounding keeps the order.  So the power of a positive double is the
exact power, rounded half to even (`roundsEven_power`), and where the exact power lies decides
whether it becomes zero, infinite, or a positive finite double.
-/

set_option autoImplicit false

namespace LSystemExplorer

/-! ## Estimates -/

namespace Estimate

/-- The number is between the bounds. -/
structure Encloses (estimate : Estimate) (number : ℚ) : Prop where
  least : estimate.lower * 2 ^ estimate.exponent ≤ number
  most : number ≤ estimate.upper * 2 ^ estimate.exponent

theorem encloses_exactly (significand : Nat) (exponent : Int) :
    (exactly significand exponent).Encloses (significand * 2 ^ exponent) :=
  ⟨le_rfl, le_rfl⟩

namespace Encloses

variable {estimate left right : Estimate} {number other : ℚ}

theorem nonneg (encloses : estimate.Encloses number) : 0 ≤ number :=
  le_trans (by positivity) encloses.least

/-- The bounds are cut off away from the number. -/
theorem shortened (encloses : estimate.Encloses number) :
    estimate.shortened.Encloses number := by
  obtain ⟨lower, upper, exponent⟩ := estimate
  obtain ⟨cut, chosen⟩ : ∃ cut, cut = upper.log2 + 1 - digits := ⟨_, rfl⟩
  have unit : (2 : ℚ) ^ (exponent + cut) = 2 ^ cut * 2 ^ exponent := by
    rw [zpow_add₀ two_ne_zero, zpow_natCast, mul_comm]
  have positive := Binary64.unit_pos exponent
  unfold Estimate.shortened
  dsimp only
  rw [← chosen]
  refine ⟨?_, ?_⟩
  · have down : lower / 2 ^ cut * 2 ^ cut ≤ lower := Nat.div_mul_le_self lower (2 ^ cut)
    refine le_trans ?_ encloses.least
    dsimp only
    rw [Nat.shiftRight_eq_div_pow, unit, ← mul_assoc]
    refine mul_le_mul_of_nonneg_right ?_ positive.le
    exact_mod_cast down
  · have up : upper ≤ (upper + (2 ^ cut - 1)) / 2 ^ cut * 2 ^ cut := by
      have last : upper + (2 ^ cut - 1) < _ := Nat.lt_div_mul_add (Nat.two_pow_pos cut)
      omega
    refine encloses.most.trans ?_
    dsimp only
    rw [Nat.shiftRight_eq_div_pow, Nat.one_shiftLeft, unit, ← mul_assoc]
    refine mul_le_mul_of_nonneg_right ?_ positive.le
    exact_mod_cast up

theorem product (encloses : left.Encloses number) (encloses' : right.Encloses other) :
    (left.product right).Encloses (number * other) := by
  have unit : (2 : ℚ) ^ (left.exponent + right.exponent) = 2 ^ left.exponent * 2 ^ right.exponent :=
    zpow_add₀ two_ne_zero _ _
  refine shortened ⟨?_, ?_⟩
  · dsimp only
    rw [unit, Nat.cast_mul, mul_mul_mul_comm]
    exact mul_le_mul encloses.least encloses'.least (by positivity) encloses.nonneg
  · dsimp only
    rw [unit, Nat.cast_mul, mul_mul_mul_comm]
    exact mul_le_mul encloses.most encloses'.most encloses'.nonneg (by positivity)

/-- **The bounds of a power enclose the power.** -/
theorem power (encloses : estimate.Encloses number) (times : Nat) :
    (estimate.power times).Encloses (number ^ times) := by
  fun_induction Estimate.power estimate times with
  | case1 =>
      rw [pow_zero]
      simpa using encloses_exactly 1 0
  | case2 times nonzero half square even ih =>
      have twice : times / 2 + times / 2 = times := by omega
      rw [← twice, pow_add]
      exact ih.product ih
  | case3 times nonzero half square odd ih =>
      have twice : times / 2 + times / 2 + 1 = times := by omega
      rw [← twice, pow_succ, pow_add]
      exact (ih.product ih).product encloses

end Encloses

end Estimate

namespace Binary64

/-! ## Numbers of powers of two -/

/-- What is far too small for a double is rounded to zero. -/
theorem nearestEven_eq_zero_of_log_lt {significand : Nat} {exponent : Int}
    (small : significand.log2 + 1 + exponent < leastExponent) :
    nearestEven (significand * 2 ^ exponent) = 0 := by
  rcases Nat.eq_zero_or_pos significand with none | some
  · rw [none, Nat.cast_zero, zero_mul, nearestEven_zero]
  · have unit := unit_pos exponent
    have size : (0 : ℚ) < significand := Nat.cast_pos.mpr some
    refine (nearestEven_eq_zero_iff (by positivity)).mpr ?_
    calc (significand : ℚ) * 2 ^ exponent
        ≤ 2 ^ (significand.log2 + 1 : Int) * 2 ^ exponent := by
          refine mul_le_mul_of_nonneg_right ?_ unit.le
          exact_mod_cast Nat.lt_log2_self.le
      _ = 2 ^ (significand.log2 + 1 + exponent) := (zpow_add₀ two_ne_zero _ _).symm
      _ ≤ halfOfLeast := by
          refine zpow_le_zpow_right₀ one_le_two ?_
          unfold leastExponent at small
          omega

/-- **What is nearest to a number of powers of two is this number, rounded half to even.** -/
theorem roundsEven_nearest (significand : Nat) (exponent : Int) :
    RoundsEven (significand * 2 ^ exponent) (nearest significand exponent) := by
  unfold nearest
  split_ifs with small
  · refine .of_eq_zero ?_
    rcases small with none | small
    · rw [none, Nat.cast_zero, zero_mul, nearestEven_zero]
    · exact nearestEven_eq_zero_of_log_lt small
  · obtain ⟨rounded, canonical, sign, magnitude, form⟩ :=
      round_eq .positive exponent (Nat.pos_of_ne_zero (mt .inl small))
    exact .of_packed canonical sign magnitude (congrArg Float.Model.pack form)

/-! ## Powers -/

/-- The bounds of the power are enough, if they are rounded to the same double. -/
theorem roundsEven_powerOf (significand : Nat) (exponent : Int) (times : Nat) :
    RoundsEven ((significand * 2 ^ exponent) ^ times) (powerOf significand exponent times) := by
  have bounds := (Estimate.encloses_exactly significand exponent).power times
  unfold powerOf
  dsimp only
  generalize (Estimate.exactly significand exponent).power times = estimate at bounds ⊢
  have below := roundsEven_nearest estimate.lower estimate.exponent
  have above := roundsEven_nearest estimate.upper estimate.exponent
  split_ifs with same
  · exact below.squeeze (same ▸ above) (by positivity) bounds.least bounds.most
  · have full := roundsEven_nearest (significand ^ times) (exponent * times)
    rwa [Nat.cast_pow, zpow_mul, zpow_natCast, ← mul_pow] at full

/-- **The power of a positive double is the exact power, rounded half to even.** -/
theorem roundsEven_power {base : Float} (finite : base.isFinite) (positive : 0 < base)
    (times : Nat) : RoundsEven (value base ^ times) (power base times) := by
  obtain ⟨-, unsigned, size⟩ := parts_of_pos finite positive
  rw [power, if_pos finite, unsigned, size]
  exact roundsEven_powerOf _ _ times

end Binary64

end LSystemExplorer
