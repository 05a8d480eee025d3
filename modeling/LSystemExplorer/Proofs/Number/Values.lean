import LSystemExplorer.Proofs.Number.Division

/-!
# Doubles that a fraction is rounded to

A finite double is a multiple of the least power of two, and stands for a fraction (`value`).  A
fraction is rounded to a double half to even (`RoundsEven`): at its unit, and to infinity if this
leads to `2 ^ 1024` or more.  It is rounded to one double only, and so is all that lies between two
fractions that are rounded to the same (`RoundsEven.squeeze`).

No double is nearer to a fraction than the one it is rounded to (`abs_sub_nearestEven_le`).  Where
a positive fraction lies decides whether it becomes zero, infinite, or a positive finite double
(`RoundsEven.outcome`), and it becomes the last exactly if it is in reach (`RoundsEven.usable_iff`).
-/

set_option autoImplicit false

namespace LSystemExplorer.Binary64

open Float.Model (UnpackedFloat)

/-! ## Parts and values -/

namespace Parts

variable {parts other : Parts}

/-- Canonical parts are the same if they are equally far away from zero, on the same side. -/
theorem Canonical.eq_of_magnitude_eq (canonical : parts.Canonical) (canonical' : other.Canonical)
    (negative : parts.negative = other.negative) (magnitude : parts.magnitude = other.magnitude) :
    parts = other := by
  have exponent : parts.exponent = other.exponent := by
    rcases lt_trichotomy parts.exponent other.exponent with below | same | above
    · exact absurd magnitude (canonical.magnitude_lt canonical' below).ne
    · exact same
    · exact absurd magnitude (canonical'.magnitude_lt canonical above).ne'
  have significand : parts.significand = other.significand := by
    rw [Parts.magnitude, Parts.magnitude, exponent] at magnitude
    exact Nat.eq_of_mul_eq_mul_right (Nat.two_pow_pos _) magnitude
  obtain ⟨_, _, _⟩ := parts
  obtain ⟨_, _, _⟩ := other
  cases negative
  cases exponent
  cases significand
  rfl

/-- Canonical parts are those of a double if they are below `2 ^ 1024`. -/
theorem Canonical.exponent_le_iff (canonical : parts.Canonical) :
    parts.exponent ≤ 971 ↔ (parts.magnitude : ℚ) * 2 ^ leastExponent < 2 ^ (1024 : Int) := by
  rw [magnitude_mul canonical.least]
  constructor
  · intro bounded
    calc (parts.significand : ℚ) * 2 ^ parts.exponent
        < 2 ^ (53 : Int) * 2 ^ parts.exponent :=
          mul_lt_mul_of_pos_right (by exact_mod_cast canonical.short) (unit_pos _)
      _ ≤ 2 ^ (53 : Int) * 2 ^ (971 : Int) :=
          mul_le_mul_of_nonneg_left (zpow_le_zpow_right₀ one_le_two bounded) (unit_pos _).le
      _ = 2 ^ (1024 : Int) := by rw [← zpow_add₀ two_ne_zero]; rfl
  · intro below
    by_contra! large
    have full : 2 ^ 52 ≤ parts.significand :=
      canonical.full.resolve_right fun least => by unfold leastExponent at least; omega
    refine below.not_ge ?_
    calc (2 : ℚ) ^ (1024 : Int)
        = 2 ^ (52 : Int) * 2 ^ (972 : Int) := by rw [← zpow_add₀ two_ne_zero]; rfl
      _ ≤ 2 ^ (52 : Int) * 2 ^ parts.exponent :=
          mul_le_mul_of_nonneg_left (zpow_le_zpow_right₀ one_le_two large) (unit_pos _).le
      _ ≤ parts.significand * 2 ^ parts.exponent :=
          mul_le_mul_of_nonneg_right (by exact_mod_cast full) (unit_pos _).le

/-- The parts of a double are those it was packed from. -/
theorem Canonical.parts_of_packed (canonical : parts.Canonical) (bounded : parts.exponent ≤ 971)
    {number : Float} (packed : number.toModel = Float.Model.pack parts.unpacked) :
    Binary64.parts number = parts := by
  have bits : number.toBits.toNat = parts.encoded := by
    rw [← canonical.toNat_pack bounded]
    change number.toModel.toBits.toNat = _
    rw [packed]
    rfl
  rw [parts_eq, bits, canonical.partsOfBits_encoded bounded]

end Parts

/-- The number that a finite double stands for. -/
def value (number : Float) : ℚ :=
  steps number * 2 ^ leastExponent

section Positive

variable {number : Float} (finite : number.isFinite) (positive : 0 < number)

include finite positive

/-- The parts of a positive double. -/
theorem parts_of_pos :
    0 < (parts number).significand ∧ (parts number).negative = false ∧
      value number = (parts number).significand * 2 ^ (parts number).exponent := by
  rw [lt_iff_steps isFinite_zero finite, steps_zero] at positive
  have unsigned : (parts number).negative = false := by
    by_contra negative
    have sign : (parts number).sign = .negative := if_pos (by simpa using negative)
    rw [steps, Parts.steps_of_negative sign] at positive
    omega
  have sign : (parts number).sign = .positive := if_neg (by simp [unsigned])
  refine ⟨?_, unsigned, ?_⟩
  · exact Nat.pos_of_ne_zero fun zero => positive.ne' (Parts.steps_of_eq_zero zero)
  · rw [value, steps, Parts.steps_of_positive sign, Int.cast_natCast,
      Parts.magnitude_mul (canonical_parts number).least]

theorem unpack_of_pos :
    number.toModel.unpack = .finite .positive (parts number).significand (parts number).exponent
      (parts_of_pos finite positive).1 := by
  obtain ⟨significand, unsigned, -⟩ := parts_of_pos finite positive
  have sign : (parts number).sign = .positive := if_neg (by simp [unsigned])
  rw [unpack_eq_parts finite, Parts.unpacked_of_pos significand]
  simp only [sign]

theorem value_pos : 0 < value number := by
  obtain ⟨significand, -, size⟩ := parts_of_pos finite positive
  rw [size]
  exact mul_pos (Nat.cast_pos.mpr significand) (unit_pos _)

end Positive

/-! ## Rounded doubles -/

theorem unpack_zero : (0 : Float).toModel.unpack = .zero .positive := by
  have none : parts 0 = Parts.zeroOf .positive := by decide +kernel
  rw [unpack_eq_parts isFinite_zero, none, Parts.unpacked_zeroOf]

/-- Nothing is taken away from a finite double. -/
theorem sub_zero_of_isFinite {number : Float} (finite : number.isFinite) : number - 0 = number := by
  have kept (value : UnpackedFloat) :
      UnpackedFloat.sub .binary64 value (.zero .positive) = value := by
    cases value with
    | zero sign => cases sign <;> rfl
    | _ => rfl
  have difference : (number - 0).toModel =
      .pack (UnpackedFloat.sub .binary64 number.toModel.unpack (0 : Float).toModel.unpack) := rfl
  apply eq_of_unpack_eq
  rw [difference, unpack_zero, kept, unpack_eq_parts finite]
  exact (canonical_parts number).unpack_pack (exponent_parts_le finite)

theorem isInf_of_unpack_eq {number : Float} (form : number.toModel.unpack = .infinity .positive) :
    number.isInf ∧ 0 < number := by
  constructor
  · change number.toModel.unpack.isInf = true
    rw [form]
    rfl
  · rw [lt_iff_compare, unpack_zero, form]
    rfl

/-- What becomes of a positive number that is rounded to a double. -/
structure RoundOutcome (exact : ℚ) (number : Float) : Prop where
  zero : exact ≤ halfOfLeast → number = 0
  infinite : pastGreatest ≤ exact → number.isInf ∧ 0 < number
  usable : InReach exact → number.isFinite ∧ 0 < number
  halfEven : InReach exact → value number = nearestEven exact
  nearest : InReach exact → ∀ other : Float, |exact - value number| ≤ |exact - value other|

/-- The number is rounded to the double, half to even. -/
structure RoundsEven (exact : ℚ) (number : Float) : Prop where
  finite : nearestEven exact < 2 ^ (1024 : Int) →
    number.isFinite ∧ (parts number).negative = false ∧ value number = nearestEven exact
  infinite : 2 ^ (1024 : Int) ≤ nearestEven exact →
    number.toModel.unpack = .infinity .positive

namespace RoundsEven

variable {exact lower upper : ℚ} {number other : Float}

/-- What was rounded and then packed. -/
theorem of_packed {rounded : Parts} (canonical : rounded.Canonical)
    (sign : rounded.sign = .positive) (size : rounded.magnitude * 2 ^ leastExponent =
      nearestEven exact) (packed : number.toModel = Float.Model.pack rounded.unpacked) :
    RoundsEven exact number := by
  constructor
  · intro below
    have bounded := canonical.exponent_le_iff.mpr (size ▸ below)
    have read := canonical.parts_of_packed bounded packed
    refine ⟨isFinite_of_unpack_eq (packed ▸ canonical.unpack_pack bounded), ?_, ?_⟩
    · rw [read]
      revert sign
      unfold Parts.sign
      cases rounded.negative <;> simp
    · rw [value, steps, read, Parts.steps_of_positive sign, Int.cast_natCast]
      exact size
  · intro beyond
    rw [packed, canonical.unpack_pack_of_lt, sign]
    exact not_le.mp (mt canonical.exponent_le_iff.mp (size ▸ beyond.not_gt))

theorem of_eq_zero (zero : nearestEven exact = 0) : RoundsEven exact 0 := by
  constructor
  · intro _
    rw [zero, value, steps_zero, Int.cast_zero, zero_mul]
    exact ⟨isFinite_zero, by decide +kernel, rfl⟩
  · intro beyond
    exact absurd (zero ▸ beyond) (unit_pos 1024).not_ge

/-- A number is rounded to one double only. -/
theorem unique (rounds : RoundsEven exact number) (rounds' : RoundsEven exact other) :
    number = other := by
  rcases lt_or_ge (nearestEven exact) (2 ^ (1024 : Int)) with below | beyond
  · obtain ⟨finite, positive, size⟩ := rounds.finite below
    obtain ⟨finite', positive', size'⟩ := rounds'.finite below
    have steps_eq : steps number = steps other := by
      have same := mul_right_cancel₀ (unit_pos leastExponent).ne' (size.trans size'.symm)
      exact_mod_cast same
    have magnitude : (parts number).magnitude = (parts other).magnitude := by
      rw [← Parts.natAbs_steps, ← Parts.natAbs_steps]
      exact congrArg Int.natAbs steps_eq
    apply eq_of_unpack_eq
    rw [unpack_eq_parts finite, unpack_eq_parts finite', (canonical_parts number).eq_of_magnitude_eq
      (canonical_parts other) (positive.trans positive'.symm) magnitude]
  · exact eq_of_unpack_eq ((rounds.infinite beyond).trans (rounds'.infinite beyond).symm)

/-- **What lies between numbers that are rounded to the same double is rounded to it, too.** -/
theorem squeeze (below : RoundsEven lower number) (above : RoundsEven upper number)
    (nonneg : 0 ≤ lower) (least : lower ≤ exact) (most : exact ≤ upper) :
    RoundsEven exact number := by
  have down := nearestEven_mono nonneg least
  have up := nearestEven_mono (nonneg.trans least) most
  constructor
  · intro inside
    obtain ⟨finite, positive, size⟩ := below.finite (down.trans_lt inside)
    have bounded : nearestEven upper < 2 ^ (1024 : Int) := by
      by_contra! beyond
      exact (isFinite_iff.mp finite).2 _ (above.infinite beyond)
    obtain ⟨-, -, size'⟩ := above.finite bounded
    exact ⟨finite, positive, le_antisymm (size.trans_le down) (up.trans size'.ge)⟩
  · intro beyond
    exact above.infinite (beyond.trans up)

variable (positive : 0 < exact)

include positive

/-- What is not more than half of the least double becomes zero. -/
theorem eq_zero (rounds : RoundsEven exact number) (small : exact ≤ halfOfLeast) : number = 0 :=
  rounds.unique (of_eq_zero ((nearestEven_eq_zero_iff positive).mpr small))

/-- What is not below the middle behind the greatest double becomes infinite. -/
theorem unpack_eq_infinity (rounds : RoundsEven exact number) (large : pastGreatest ≤ exact) :
    number.toModel.unpack = .infinity .positive :=
  rounds.infinite ((le_nearestEven_iff positive).mpr large)

/-- What lies between becomes a positive finite double. -/
theorem between (rounds : RoundsEven exact number) (reach : InReach exact) :
    number.isFinite ∧ 0 < number ∧ value number = nearestEven exact := by
  obtain ⟨finite, -, size⟩ :=
    rounds.finite (not_le.mp (mt (le_nearestEven_iff positive).mp reach.2.not_ge))
  have nonzero : nearestEven exact ≠ 0 := mt (nearestEven_eq_zero_iff positive).mp reach.1.not_ge
  have above : 0 < value number := by
    rw [size]
    exact (nearestEven_nonneg positive.le).lt_of_ne' nonzero
  refine ⟨finite, ?_, size⟩
  rw [lt_iff_steps isFinite_zero finite, steps_zero]
  exact_mod_cast pos_of_mul_pos_left above (unit_pos leastExponent).le

/-- **A positive number becomes zero, infinite, or the nearest double.** -/
theorem outcome (rounds : RoundsEven exact number) : RoundOutcome exact number where
  zero := rounds.eq_zero positive
  infinite large := isInf_of_unpack_eq (rounds.unpack_eq_infinity positive large)
  usable reach := ⟨(rounds.between positive reach).1, (rounds.between positive reach).2.1⟩
  halfEven reach := (rounds.between positive reach).2.2
  nearest reach other := by
    rw [(rounds.between positive reach).2.2]
    exact abs_sub_nearestEven_le positive (fits_steps other)

/-- **A positive number becomes a positive finite double exactly if it is in reach.** -/
theorem usable_iff (rounds : RoundsEven exact number) :
    (number.isFinite ∧ 0 < number) ↔ InReach exact := by
  refine ⟨?_, (rounds.outcome positive).usable⟩
  rintro ⟨finite, above⟩
  constructor
  · by_contra! small
    rw [rounds.eq_zero positive small] at above
    exact not_lt_self 0 above
  · by_contra! large
    exact (isFinite_iff.mp finite).2 _ (rounds.unpack_eq_infinity positive large)

end RoundsEven

end LSystemExplorer.Binary64
