import LSystemExplorer.Proofs.Number.Order

/-!
# Doubles in steps

All finite doubles are multiples of the least positive one, `2 ^ -1074`, which is called a step
here.  So a finite double is a whole number of steps (`Binary64.steps`), read off its parts, and
sums, remainders and comparisons of doubles can be told with whole numbers.

A finite double unpacks to its parts (`unpack_eq_parts`), and these are canonical: the significand
is below `2 ^ 53`, and it has its leading bit unless the exponent is the least.  Of two canonical
forms the one with the larger exponent is farther from zero, which is why comparing exponents
before significands is comparing numbers of steps (`lt_iff_steps`, `le_iff_steps`).
-/

set_option autoImplicit false

namespace LSystemExplorer

open Float.Model (UnpackedFloat)
open Float.Model.UnpackedFloat (Sign unpackExponent unpackMantissa unpackSign)

namespace Binary64

/-! ## Parts -/

namespace Parts

/-- The sign of the number. -/
def sign (parts : Parts) : Sign :=
  if parts.negative then .negative else .positive

/-- How many steps the number is away from zero, if its exponent is in range. -/
def magnitude (parts : Parts) : Nat :=
  parts.significand * 2 ^ (parts.exponent - leastExponent).toNat

/-- How many steps the number is away from zero, below zero counted downward. -/
def steps (parts : Parts) : Int :=
  parts.sign.apply parts.magnitude

/-- The unpacked double with these parts. -/
def unpacked (parts : Parts) : UnpackedFloat :=
  if zero : parts.significand = 0 then .zero parts.sign
  else .finite parts.sign parts.significand parts.exponent (Nat.pos_of_ne_zero zero)

/-- The parts are those of a double, but for an exponent that may be too large. -/
structure Canonical (parts : Parts) : Prop where
  short : parts.significand < 2 ^ 53
  least : leastExponent ≤ parts.exponent
  full : 2 ^ 52 ≤ parts.significand ∨ parts.exponent = leastExponent

variable {parts other : Parts}

theorem unpacked_of_eq_zero (zero : parts.significand = 0) :
    parts.unpacked = .zero parts.sign :=
  dif_pos zero

theorem unpacked_of_pos (positive : 0 < parts.significand) :
    parts.unpacked = .finite parts.sign parts.significand parts.exponent positive :=
  dif_neg positive.ne'

theorem unpacked_eq_finite {mantissa : Nat} {exponent : Int} (positive : 0 < mantissa)
    (significand : parts.significand = mantissa) (scale : parts.exponent = exponent) :
    parts.unpacked = .finite parts.sign mantissa exponent positive := by
  subst significand scale
  exact unpacked_of_pos positive

theorem magnitude_of_eq_zero (zero : parts.significand = 0) : parts.magnitude = 0 := by
  rw [magnitude, zero, Nat.zero_mul]

theorem magnitude_pos (positive : 0 < parts.significand) : 0 < parts.magnitude :=
  Nat.mul_pos positive (Nat.two_pow_pos _)

theorem steps_of_eq_zero (zero : parts.significand = 0) : parts.steps = 0 := by
  rw [steps, magnitude_of_eq_zero zero]
  cases parts.sign <;> rfl

theorem steps_of_negative (negative : parts.sign = .negative) :
    parts.steps = -(parts.magnitude : Int) := by
  rw [steps, negative]
  rfl

theorem steps_of_positive (positive : parts.sign = .positive) :
    parts.steps = parts.magnitude := by
  rw [steps, positive]
  rfl

theorem natAbs_steps (parts : Parts) : parts.steps.natAbs = parts.magnitude := by
  rw [steps]
  cases parts.sign with
  | negative => exact (Int.natAbs_neg _).trans (Int.natAbs_natCast _)
  | positive => exact Int.natAbs_natCast _

/-- What is unpacked decides how many steps there are. -/
theorem steps_eq_of_unpacked (same : parts.unpacked = other.unpacked) :
    parts.steps = other.steps := by
  rcases Nat.eq_zero_or_pos parts.significand with zero | positive
  · rw [unpacked_of_eq_zero zero] at same
    rcases Nat.eq_zero_or_pos other.significand with zero' | positive'
    · rw [steps_of_eq_zero zero, steps_of_eq_zero zero']
    · rw [unpacked_of_pos positive'] at same
      cases same
  · rw [unpacked_of_pos positive] at same
    rcases Nat.eq_zero_or_pos other.significand with zero' | positive'
    · rw [unpacked_of_eq_zero zero'] at same
      cases same
    · rw [unpacked_of_pos positive'] at same
      injection same with sign significand exponent
      rw [steps, steps, magnitude, magnitude, sign, significand, exponent]

/-- Of canonical forms the one with the larger exponent is farther from zero. -/
theorem Canonical.magnitude_lt (canonical : parts.Canonical) (canonical' : other.Canonical)
    (below : parts.exponent < other.exponent) : parts.magnitude < other.magnitude := by
  have full : 2 ^ 52 ≤ other.significand :=
    canonical'.full.resolve_right fun same => by have := canonical.least; omega
  have exponents : (parts.exponent - leastExponent).toNat + 1 ≤
      (other.exponent - leastExponent).toNat := by
    have := canonical.least
    omega
  calc parts.magnitude
      < 2 ^ 53 * 2 ^ (parts.exponent - leastExponent).toNat :=
        Nat.mul_lt_mul_of_pos_right canonical.short (Nat.two_pow_pos _)
    _ = 2 ^ 52 * 2 ^ ((parts.exponent - leastExponent).toNat + 1) := by ring
    _ ≤ 2 ^ 52 * 2 ^ (other.exponent - leastExponent).toNat :=
        Nat.mul_le_mul_left _ (Nat.pow_le_pow_right (by decide) exponents)
    _ ≤ other.magnitude := Nat.mul_le_mul_right _ full

/-- Comparing exponents and then significands is comparing distances from zero. -/
theorem Canonical.compare_magnitude (canonical : parts.Canonical)
    (canonical' : other.Canonical) :
    (compare parts.exponent other.exponent).then
        (compare parts.significand other.significand) =
      compare parts.magnitude other.magnitude := by
  rcases lt_trichotomy parts.exponent other.exponent with below | same | above
  · rw [compare_lt_iff_lt.mpr below,
      compare_lt_iff_lt.mpr (canonical.magnitude_lt canonical' below)]
    rfl
  · rw [compare_eq_iff_eq.mpr same, magnitude, magnitude, same]
    change compare parts.significand other.significand = _
    rcases lt_trichotomy parts.significand other.significand with less | equal | more
    · rw [compare_lt_iff_lt.mpr less,
        compare_lt_iff_lt.mpr (Nat.mul_lt_mul_of_pos_right less (Nat.two_pow_pos _))]
    · rw [equal, compare_eq_iff_eq.mpr rfl, compare_eq_iff_eq.mpr rfl]
    · rw [compare_gt_iff_gt.mpr more,
        compare_gt_iff_gt.mpr (Nat.mul_lt_mul_of_pos_right more (Nat.two_pow_pos _))]
  · rw [compare_gt_iff_gt.mpr above,
      compare_gt_iff_gt.mpr (canonical'.magnitude_lt canonical above)]
    rfl

/-- **Comparing canonical forms is comparing numbers of steps.** -/
theorem Canonical.compare_eq_lt_iff (canonical : parts.Canonical)
    (canonical' : other.Canonical) :
    UnpackedFloat.compare parts.unpacked other.unpacked = some .lt ↔
      parts.steps < other.steps := by
  have magnitudes := canonical.compare_magnitude canonical'
  rcases Nat.eq_zero_or_pos parts.significand with zero | positive
  · rw [unpacked_of_eq_zero zero, steps_of_eq_zero zero]
    rcases Nat.eq_zero_or_pos other.significand with zero' | positive'
    · rw [unpacked_of_eq_zero zero', steps_of_eq_zero zero']
      simp [UnpackedFloat.compare]
    · have away := magnitude_pos positive'
      rw [unpacked_of_pos positive']
      cases sign : other.sign with
      | negative => simp [UnpackedFloat.compare, steps_of_negative sign]
      | positive => simpa [UnpackedFloat.compare, steps_of_positive sign] using away
  · have away := magnitude_pos positive
    rw [unpacked_of_pos positive]
    rcases Nat.eq_zero_or_pos other.significand with zero' | positive'
    · rw [unpacked_of_eq_zero zero', steps_of_eq_zero zero']
      cases sign : parts.sign with
      | negative => simpa [UnpackedFloat.compare, steps_of_negative sign] using away
      | positive => simp [UnpackedFloat.compare, steps_of_positive sign]
    · have away' := magnitude_pos positive'
      rw [unpacked_of_pos positive']
      cases sign : parts.sign with
      | negative =>
          rw [steps_of_negative sign]
          cases sign' : other.sign with
          | negative =>
              simp only [UnpackedFloat.compare, magnitudes, steps_of_negative sign',
                Option.some.injEq, Ordering.swap_eq_lt, compare_gt_iff_gt]
              omega
          | positive =>
              simp only [UnpackedFloat.compare, steps_of_positive sign', true_iff]
              omega
      | positive =>
          rw [steps_of_positive sign]
          cases sign' : other.sign with
          | negative =>
              simp only [UnpackedFloat.compare, steps_of_negative sign', Option.some.injEq,
                reduceCtorEq, false_iff]
              omega
          | positive =>
              simp only [UnpackedFloat.compare, magnitudes, steps_of_positive sign',
                Option.some.injEq, compare_lt_iff_lt]
              omega

end Parts

/-! ## Bits -/

/-- The parts that are read off sixty-four bits. -/
def partsOfBits (bits : Nat) : Parts :=
  if bits / leadingBit % 2048 = 0 then
    ⟨decide (signBit ≤ bits), bits % leadingBit, leastExponent⟩
  else
    ⟨decide (signBit ≤ bits), leadingBit + bits % leadingBit,
      leastExponent + (bits / leadingBit % 2048 - 1 : Nat)⟩

theorem parts_eq (number : Float) : parts number = partsOfBits number.toBits.toNat := rfl

theorem sign_partsOfBits (bits : Nat) :
    (partsOfBits bits).sign = if signBit ≤ bits then .negative else .positive := by
  unfold partsOfBits Parts.sign
  split <;> simp only [decide_eq_true_eq]

theorem canonical_partsOfBits (bits : Nat) : (partsOfBits bits).Canonical := by
  have fraction : bits % leadingBit < leadingBit := Nat.mod_lt _ (by decide)
  have leading : leadingBit = 2 ^ 52 := rfl
  unfold partsOfBits
  split
  · exact ⟨by dsimp only; omega, le_refl _, .inr rfl⟩
  · exact ⟨by dsimp only; omega, by dsimp only; omega, .inl (by dsimp only; omega)⟩

section Unpacking

variable (bits : BitVec 64)

theorem toNat_unpackExponent :
    (@unpackExponent .binary64 bits).toNat = bits.toNat / leadingBit % 2048 := by
  simp [unpackExponent, Nat.shiftRight_eq_div_pow, leadingBit]

theorem toNat_unpackMantissa :
    (@unpackMantissa .binary64 bits).toNat = bits.toNat % leadingBit := by
  simp [unpackMantissa, leadingBit]

theorem toNat_unpackSign :
    (@unpackSign .binary64 bits).toNat = bits.toNat / signBit := by
  have bound : bits.toNat < 2 ^ 64 := bits.isLt
  have small : bits.toNat / 2 ^ 63 < 2 := by omega
  simp [unpackSign, Nat.shiftRight_eq_div_pow, signBit]
  omega

theorem ofBitVec_unpackSign :
    Sign.ofBitVec (@unpackSign .binary64 bits) = (partsOfBits bits.toNat).sign := by
  have quotient := toNat_unpackSign bits
  rw [sign_partsOfBits, Sign.ofBitVec]
  by_cases negative : signBit ≤ bits.toNat
  · rw [if_pos negative, if_neg]
    intro zero
    rw [zero] at quotient
    have : 1 ≤ bits.toNat / signBit := (Nat.one_le_div_iff (by decide)).mpr negative
    simp at quotient
    omega
  · rw [if_neg negative, if_pos]
    apply BitVec.eq_of_toNat_eq
    rw [quotient, Nat.div_eq_of_lt (by omega)]
    rfl

/-- **What is finite unpacks to its parts.** -/
theorem unpack_eq_unpacked (finite : bits.toNat / leadingBit % 2048 ≠ 2047) :
    UnpackedFloat.unpack .binary64 bits = (partsOfBits bits.toNat).unpacked := by
  have exponent := toNat_unpackExponent bits
  have mantissa := toNat_unpackMantissa bits
  have notLargest : @unpackExponent .binary64 bits ≠ -1#11 := by
    intro largest
    rw [largest] at exponent
    exact finite exponent.symm
  unfold UnpackedFloat.unpack
  dsimp only
  rw [if_neg notLargest, ofBitVec_unpackSign]
  by_cases least : bits.toNat / leadingBit % 2048 = 0
  · have read : partsOfBits bits.toNat =
        ⟨decide (signBit ≤ bits.toNat), bits.toNat % leadingBit, leastExponent⟩ := if_pos least
    have field : @unpackExponent .binary64 bits = 0#11 :=
      BitVec.eq_of_toNat_eq (exponent.trans least)
    rw [if_pos field]
    split
    · rename_i none
      rw [none] at mantissa
      rw [Parts.unpacked_of_eq_zero]
      rw [read]
      exact mantissa.symm
    · refine (Parts.unpacked_eq_finite _ ?_ ?_).symm
      · rw [read, mantissa]
      · rw [read, exponent, least]
        rfl
  · have read : partsOfBits bits.toNat =
        ⟨decide (signBit ≤ bits.toNat), leadingBit + bits.toNat % leadingBit,
          leastExponent + (bits.toNat / leadingBit % 2048 - 1 : Nat)⟩ := if_neg least
    have field : @unpackExponent .binary64 bits ≠ 0#11 := by
      intro none
      rw [none] at exponent
      exact least exponent.symm
    have leading : (1#1 ++ @unpackMantissa .binary64 bits).toNat =
        leadingBit + bits.toNat % leadingBit := by
      rw [BitVec.toNat_append, mantissa]
      exact (Nat.shiftLeft_add_eq_or_of_lt (Nat.mod_lt _ (by decide)) 1).symm
    rw [if_neg field]
    refine (Parts.unpacked_eq_finite _ ?_ ?_).symm
    · rw [read, leading]
    · rw [read, exponent]
      change leastExponent + _ = _ - (1023 + 52 : Int)
      unfold leastExponent
      omega

end Unpacking

/-! ## Finite doubles -/

/-- The number of steps of a finite double. -/
def steps (number : Float) : Int :=
  (parts number).steps

section Finite

variable {number left right : Float}

theorem biased_ne_of_isFinite (finite : number.isFinite) :
    number.toBits.toNat / leadingBit % 2048 ≠ 2047 := by
  intro largest
  have exponent := toNat_unpackExponent number.toBits.toBitVec
  have field : @unpackExponent .binary64 number.toBits.toBitVec = -1#11 :=
    BitVec.eq_of_toNat_eq (exponent.trans largest)
  obtain ⟨defined, bounded⟩ := isFinite_iff.mp finite
  change UnpackedFloat.unpack .binary64 number.toBits.toBitVec ≠ _ at defined
  change ∀ sign, UnpackedFloat.unpack .binary64 number.toBits.toBitVec ≠ _ at bounded
  unfold UnpackedFloat.unpack at defined bounded
  dsimp only at defined bounded
  rw [if_pos field] at defined
  simp only [if_pos field] at bounded
  split at defined
  · rename_i none
    rw [if_pos none] at bounded
    exact bounded _ rfl
  · exact defined rfl

/-- **A finite double unpacks to its parts.** -/
theorem unpack_eq_parts (finite : number.isFinite) :
    number.toModel.unpack = (parts number).unpacked :=
  unpack_eq_unpacked _ (biased_ne_of_isFinite finite)

theorem canonical_parts (number : Float) : (parts number).Canonical :=
  canonical_partsOfBits _

theorem exponent_parts_le (finite : number.isFinite) : (parts number).exponent ≤ 971 := by
  have field := biased_ne_of_isFinite finite
  have below : number.toBits.toNat / leadingBit % 2048 < 2048 := Nat.mod_lt _ (by decide)
  rw [parts_eq, partsOfBits]
  unfold leastExponent
  split
  · change (-1074 : Int) ≤ 971
    decide
  · dsimp only
    omega

theorem isFinite_of_unpack_eq {parts : Parts} (form : number.toModel.unpack = parts.unpacked) :
    number.isFinite := by
  rw [isFinite_iff, form, Parts.unpacked]
  split
  · exact ⟨nofun, nofun⟩
  · exact ⟨nofun, nofun⟩

theorem steps_eq_of_unpack_eq {parts : Parts}
    (form : number.toModel.unpack = parts.unpacked) : steps number = parts.steps := by
  refine Parts.steps_eq_of_unpacked ?_
  rw [← form, unpack_eq_parts (isFinite_of_unpack_eq form)]

/-- **Finite doubles are in the order of their numbers of steps.** -/
theorem lt_iff_steps (leftFinite : left.isFinite) (rightFinite : right.isFinite) :
    left < right ↔ steps left < steps right := by
  rw [lt_iff_compare, unpack_eq_parts leftFinite, unpack_eq_parts rightFinite]
  exact (canonical_parts left).compare_eq_lt_iff (canonical_parts right)

theorem le_iff_steps (leftFinite : left.isFinite) (rightFinite : right.isFinite) :
    left ≤ right ↔ steps left ≤ steps right := by
  rw [← not_lt, ← lt_iff_steps rightFinite leftFinite]
  constructor
  · exact not_lt_of_le
  · exact le_of_not_lt (not_isNaN_of_isFinite rightFinite) (not_isNaN_of_isFinite leftFinite)

end Finite

end Binary64

end LSystemExplorer
