import LSystemExplorer.Proofs.Number.Rounding

/-!
# Sums and differences of doubles

The sum of two finite doubles is computed exactly, over the smaller of the two exponents, and then
rounded and packed (`roundsTo_add`).  So is the difference, which is the sum with the negative
number (`roundsTo_sub`).  A finite result is therefore the double nearest to the exact one
(`RoundsTo.nearest`).

A result is too large only if rounding leads to an exponent above the largest one.  All finite
doubles are nearer to zero than that, so a result that is exactly as far away as a finite double,
or less, is finite (`RoundsTo.isFinite`).
-/

set_option autoImplicit false

namespace LSystemExplorer.Binary64

open Float.Model (UnpackedFloat Format)
open Float.Model.UnpackedFloat (Sign packComponents)

/-! ## Unpacked sums -/

namespace Parts

variable {parts other : Parts}

/-- Over a smaller exponent the significand is shifted up. -/
theorem apply_shiftLeft {exponent : Int} (least : leastExponent ≤ exponent)
    (below : exponent ≤ parts.exponent) :
    parts.sign.apply ((parts.significand <<< (parts.exponent - exponent).toNat : Nat) : Int) *
        2 ^ (exponent - leastExponent).toNat = parts.steps := by
  have places : (parts.exponent - leastExponent).toNat =
      (parts.exponent - exponent).toNat + (exponent - leastExponent).toNat := by omega
  have shifted : ((parts.significand <<< (parts.exponent - exponent).toNat : Nat) : Int) *
      2 ^ (exponent - leastExponent).toNat = parts.magnitude := by
    rw [magnitude, places, Nat.shiftLeft_eq, pow_add]
    push_cast
    ring
  rw [steps, ← shifted]
  cases parts.sign with
  | negative => exact neg_mul _ _
  | positive => rfl

/-- **The sum of canonical forms is rounded to the nearest number of steps that fits.** -/
theorem Canonical.nearest_add (canonical : parts.Canonical) (canonical' : other.Canonical) :
    ∃ rounded : Parts, rounded.Canonical ∧
      UnpackedFloat.add .binary64 parts.unpacked other.unpacked = rounded.unpacked ∧
      Nearest (parts.steps + other.steps) rounded.steps := by
  rcases Nat.eq_zero_or_pos parts.significand with zero | positive
  · rw [unpacked_of_eq_zero zero, steps_of_eq_zero zero, zero_add]
    rcases Nat.eq_zero_or_pos other.significand with zero' | positive'
    · rw [unpacked_of_eq_zero zero', steps_of_eq_zero zero']
      have sum : ∃ sign, UnpackedFloat.add .binary64 (.zero parts.sign) (.zero other.sign) =
          .zero sign := by
        cases parts.sign <;> cases other.sign <;> exact ⟨_, rfl⟩
      obtain ⟨sign, sum⟩ := sum
      refine ⟨zeroOf sign, canonical_zeroOf sign, sum.trans (unpacked_zeroOf sign).symm, ?_⟩
      rw [steps_zeroOf]
      exact .self fits_zero
    · refine ⟨other, canonical', ?_, .self canonical'.fits⟩
      rw [unpacked_of_pos positive']
      rfl
  · rcases Nat.eq_zero_or_pos other.significand with zero' | positive'
    · rw [unpacked_of_eq_zero zero', steps_of_eq_zero zero', add_zero]
      refine ⟨parts, canonical, ?_, .self canonical.fits⟩
      rw [unpacked_of_pos positive]
      rfl
    · have least : leastExponent ≤ min parts.exponent other.exponent :=
        le_min canonical.least canonical'.least
      have exact : (parts.sign.apply ((parts.significand <<<
            (parts.exponent - min parts.exponent other.exponent).toNat : Nat) : Int) +
          other.sign.apply ((other.significand <<<
            (other.exponent - min parts.exponent other.exponent).toNat : Nat) : Int)) *
            2 ^ (min parts.exponent other.exponent - leastExponent).toNat =
          parts.steps + other.steps := by
        rw [add_mul, apply_shiftLeft least (min_le_left _ _),
          apply_shiftLeft least (min_le_right _ _)]
      rw [← exact, unpacked_of_pos positive, unpacked_of_pos positive']
      exact nearest_normalize _ least .positive

/-- The parts of the opposite number. -/
def neg (parts : Parts) : Parts :=
  { parts with negative := !parts.negative }

@[simp] theorem sign_neg (parts : Parts) : parts.neg.sign = -parts.sign := by
  unfold neg sign
  cases parts.negative <;> rfl

theorem Canonical.neg (canonical : parts.Canonical) : parts.neg.Canonical :=
  ⟨canonical.short, canonical.least, canonical.full⟩

theorem steps_neg (parts : Parts) : parts.neg.steps = -parts.steps := by
  have magnitude : parts.neg.magnitude = parts.magnitude := rfl
  rw [steps, steps, sign_neg, magnitude]
  cases parts.sign with
  | negative => exact (neg_neg _).symm
  | positive => rfl

theorem unpacked_neg (parts : Parts) : parts.neg.unpacked = parts.unpacked.neg := by
  rcases Nat.eq_zero_or_pos parts.significand with zero | positive
  · rw [unpacked_of_eq_zero zero, unpacked_of_eq_zero (show parts.neg.significand = 0 from zero),
      sign_neg]
    rfl
  · rw [unpacked_of_pos positive, unpacked_of_pos (show 0 < parts.neg.significand from positive),
      sign_neg]
    rfl

end Parts

/-- A difference is the sum with the negative number. -/
theorem difference_eq_sum (left right : UnpackedFloat) :
    UnpackedFloat.sub .binary64 left right = UnpackedFloat.add .binary64 left right.neg := by
  cases left with
  | finite sign mantissa exponent =>
      cases right with
      | finite sign' mantissa' exponent' =>
          unfold UnpackedFloat.sub UnpackedFloat.add UnpackedFloat.neg
          dsimp only
          congr 1
          cases sign' with
          | negative => exact sub_neg_eq_add _ _
          | positive => exact Int.sub_eq_add_neg
      | _ => rfl
  | _ => cases right <;> rfl

/-! ## Packing -/

/-- The bits of a double with these parts. -/
def Parts.encoded (parts : Parts) : Nat :=
  (if parts.negative then signBit else 0) +
    if parts.significand < leadingBit then parts.significand
    else
      ((parts.exponent - leastExponent).toNat + 1) * leadingBit + (parts.significand - leadingBit)

/-- Fields that are put side by side are read off again. -/
theorem partsOfBits_fields (negative : Bool) {biased fraction : Nat} (small : biased < 2048)
    (short : fraction < leadingBit) :
    partsOfBits ((if negative then signBit else 0) + (biased * leadingBit + fraction)) =
      if biased = 0 then ⟨negative, fraction, leastExponent⟩
      else ⟨negative, leadingBit + fraction, leastExponent + (biased - 1 : Nat)⟩ := by
  unfold leadingBit at short
  cases negative with
  | false =>
      have field : (biased * leadingBit + fraction) / leadingBit % 2048 = biased := by
        unfold leadingBit
        omega
      have rest : (biased * leadingBit + fraction) % leadingBit = fraction := by
        unfold leadingBit
        omega
      have sign : ¬ signBit ≤ biased * leadingBit + fraction := by
        unfold leadingBit signBit
        omega
      simp [partsOfBits, field, rest, sign]
  | true =>
      have field : (signBit + (biased * leadingBit + fraction)) / leadingBit % 2048 = biased := by
        unfold leadingBit signBit
        omega
      have rest : (signBit + (biased * leadingBit + fraction)) % leadingBit = fraction := by
        unfold leadingBit signBit
        omega
      simp [partsOfBits, field, rest]

namespace Parts.Canonical

variable {parts : Parts}

theorem partsOfBits_encoded (canonical : parts.Canonical) (bounded : parts.exponent ≤ 971) :
    partsOfBits parts.encoded = parts := by
  have short : parts.significand < 2 * leadingBit := canonical.short
  have least := canonical.least
  unfold leastExponent at least
  unfold encoded
  by_cases small : parts.significand < leadingBit
  · have exponent : parts.exponent = leastExponent :=
      canonical.full.resolve_left (Nat.not_le_of_lt small)
    have fields := partsOfBits_fields parts.negative (show 0 < 2048 by decide) small
    rw [Nat.zero_mul, Nat.zero_add, if_pos rfl, ← exponent] at fields
    rw [if_pos small]
    exact fields
  · obtain ⟨shift, shifted⟩ : ∃ shift : Nat, shift = (parts.exponent - leastExponent).toNat :=
      ⟨_, rfl⟩
    have bound : shift + 1 < 2048 := by unfold leastExponent at shifted; omega
    have exponent : leastExponent + (shift : Int) = parts.exponent := by
      unfold leastExponent at shifted ⊢
      omega
    rw [if_neg small, ← shifted,
      partsOfBits_fields parts.negative bound (by omega), if_neg (Nat.succ_ne_zero shift),
      Nat.add_sub_cancel, exponent, Nat.add_sub_cancel' (Nat.le_of_not_lt small)]

end Parts.Canonical

theorem toNat_packComponents (sign : Sign) (exponent : BitVec 11) (mantissa : BitVec 52) :
    (packComponents .binary64 sign exponent mantissa).toNat =
      sign.toBitVec.toNat * signBit + (exponent.toNat * leadingBit + mantissa.toNat) := by
  have high : exponent.toNat < 2 ^ 11 := exponent.isLt
  have low : mantissa.toNat < 2 ^ 52 := mantissa.isLt
  change (sign.toBitVec ++ exponent ++ mantissa).toNat = _
  rw [BitVec.toNat_append, BitVec.toNat_append, ← Nat.shiftLeft_add_eq_or_of_lt high,
    ← Nat.shiftLeft_add_eq_or_of_lt low, Nat.shiftLeft_eq, Nat.shiftLeft_eq]
  unfold signBit leadingBit
  ring

/-- **Packing stores the parts.** -/
theorem Parts.Canonical.toNat_pack {parts : Parts} (canonical : parts.Canonical)
    (bounded : parts.exponent ≤ 971) :
    (UnpackedFloat.pack .binary64 parts.unpacked).toNat = parts.encoded := by
  have sign : parts.sign.toBitVec.toNat * signBit = if parts.negative then signBit else 0 := by
    unfold Parts.sign
    cases parts.negative <;> rfl
  rcases Nat.eq_zero_or_pos parts.significand with zero | positive
  · rw [unpacked_of_eq_zero zero, encoded, zero, if_pos (show 0 < leadingBit by decide), ← sign]
    exact toNat_packComponents parts.sign 0 0
  · have least := canonical.least
    have short := canonical.short
    unfold leastExponent at least
    obtain ⟨shift, shifted⟩ : ∃ shift : Nat, shift = (parts.exponent - leastExponent).toNat :=
      ⟨_, rfl⟩
    have biased : (parts.exponent + Format.binary64.exponentBias +
        Format.binary64.mantissaBitsWithoutImplicit).toNat = shift + 1 := by
      change (parts.exponent + 1023 + 52).toNat = _
      unfold leastExponent at shifted
      omega
    have bound : shift + 1 < 2047 := by unfold leastExponent at shifted; omega
    have inRange : ¬ 2 ^ Format.binary64.exponentBits ≤ shift + 1 + 1 := by
      change ¬ 2048 ≤ _
      omega
    have digits : parts.significand.log2 + 1 = Format.binary64.mantissaBits ↔
        ¬ parts.significand < leadingBit := by
      change parts.significand.log2 + 1 = 53 ↔ ¬ parts.significand < 2 ^ 52
      rw [← Nat.log2_lt positive.ne']
      have := (Nat.log2_lt positive.ne').mpr short
      omega
    rw [unpacked_of_pos positive]
    unfold UnpackedFloat.pack encoded
    dsimp only
    rw [biased, if_neg inRange]
    by_cases small : parts.significand < leadingBit
    · have mantissa : (BitVec.ofNat 52 parts.significand).toNat = parts.significand :=
        (BitVec.toNat_ofNat _ _).trans (Nat.mod_eq_of_lt small)
      rw [if_neg (mt digits.mp (not_not.mpr small)), if_pos small, toNat_packComponents, sign,
        mantissa]
      exact congrArg _ (Nat.zero_add _)
    · have exponent : (BitVec.ofNat 11 (shift + 1)).toNat = shift + 1 :=
        (BitVec.toNat_ofNat _ _).trans (Nat.mod_eq_of_lt (by omega))
      have mantissa : (BitVec.ofNat 52 parts.significand).toNat =
          parts.significand - leadingBit := by
        rw [BitVec.toNat_ofNat]
        change parts.significand % leadingBit = _
        unfold leadingBit at small ⊢
        omega
      rw [if_pos (digits.mpr small), if_neg small, toNat_packComponents, sign, exponent, mantissa,
        ← shifted]

/-- The exponent field of an infinity would be read as a larger exponent. -/
theorem biased_ne_of_exponent_le {bits : Nat} (bounded : (partsOfBits bits).exponent ≤ 971) :
    bits / leadingBit % 2048 ≠ 2047 := by
  intro largest
  rw [partsOfBits, largest, if_neg (by decide)] at bounded
  exact absurd bounded (show ¬ leastExponent + ((2047 - 1 : Nat) : Int) ≤ 971 by decide)

/-- **What was packed unpacks to the same**, if it is not too large. -/
theorem Parts.Canonical.unpack_pack {parts : Parts} (canonical : parts.Canonical)
    (bounded : parts.exponent ≤ 971) :
    (Float.Model.pack parts.unpacked).unpack = parts.unpacked := by
  have bits := canonical.toNat_pack bounded
  have read := canonical.partsOfBits_encoded bounded
  change UnpackedFloat.unpack .binary64 (UnpackedFloat.pack .binary64 parts.unpacked) = _
  rw [unpack_eq_unpacked, bits, read]
  rw [bits]
  refine biased_ne_of_exponent_le ?_
  rw [read]
  exact bounded

/-- What is too large becomes an infinity. -/
theorem Parts.Canonical.unpack_pack_of_lt {parts : Parts} (canonical : parts.Canonical)
    (large : 971 < parts.exponent) :
    (Float.Model.pack parts.unpacked).unpack = .infinity parts.sign := by
  have positive : 0 < parts.significand := by
    rcases canonical.full with full | least
    · exact (Nat.two_pow_pos 52).trans_le full
    · exact absurd (least ▸ large) (by decide)
  have infinite : Float.Model.pack parts.unpacked = Float.Model.pack (.infinity parts.sign) := by
    have field : 2 ^ Format.binary64.exponentBits ≤ (parts.exponent +
        Format.binary64.exponentBias + Format.binary64.mantissaBitsWithoutImplicit).toNat + 1 := by
      change 2048 ≤ (parts.exponent + 1023 + 52).toNat + 1
      omega
    have packed : UnpackedFloat.pack .binary64 parts.unpacked =
        UnpackedFloat.pack .binary64 (.infinity parts.sign) := by
      rw [unpacked_of_pos positive]
      exact if_pos field
    simp only [Float.Model.pack, packed]
  rw [infinite]
  cases parts.sign <;> rfl

/-! ## Sums -/

/-- The double is what rounding the exact number of steps leads to: the nearest number that fits,
or an infinity if this is too large. -/
def RoundsTo (exact : Int) (number : Float) : Prop :=
  ∃ rounded : Parts, rounded.Canonical ∧ number.toModel = Float.Model.pack rounded.unpacked ∧
    Nearest exact rounded.steps

namespace RoundsTo

variable {exact : Int} {number bound : Float}

/-- A finite result is nearest to the exact number. -/
theorem nearest (rounds : RoundsTo exact number) (finite : number.isFinite) :
    Nearest exact (steps number) := by
  obtain ⟨rounded, canonical, packed, nearest⟩ := rounds
  rcases le_or_gt rounded.exponent 971 with bounded | large
  · have form : number.toModel.unpack = rounded.unpacked := by
      rw [packed, canonical.unpack_pack bounded]
    rw [steps_eq_of_unpack_eq form]
    exact nearest
  · refine absurd ?_ ((isFinite_iff.mp finite).2 rounded.sign)
    rw [packed, canonical.unpack_pack_of_lt large]

/-- **The result is finite if the exact number is no farther from zero than a finite double.** -/
theorem isFinite (rounds : RoundsTo exact number) (boundFinite : bound.isFinite)
    (within : |exact| ≤ |steps bound|) : number.isFinite := by
  obtain ⟨rounded, canonical, packed, nearest⟩ := rounds
  have small : rounded.exponent ≤ 971 := by
    by_contra large
    have beyond := (canonical_parts bound).magnitude_lt canonical
      ((exponent_parts_le boundFinite).trans_lt (not_le.mp large))
    have near := nearest.abs_le_abs (fits_steps bound) within
    rw [Int.abs_eq_natAbs, Int.abs_eq_natAbs, Parts.natAbs_steps, steps, Parts.natAbs_steps] at near
    omega
  have form : number.toModel.unpack = rounded.unpacked := by
    rw [packed, canonical.unpack_pack small]
  exact isFinite_of_unpack_eq form

end RoundsTo

section Sums

variable {left right : Float}

/-- **A sum of doubles is the exact sum, rounded.** -/
theorem roundsTo_add (leftFinite : left.isFinite) (rightFinite : right.isFinite) :
    RoundsTo (steps left + steps right) (left + right) := by
  obtain ⟨rounded, canonical, sum, nearest⟩ :=
    (canonical_parts left).nearest_add (canonical_parts right)
  refine ⟨rounded, canonical, ?_, nearest⟩
  rw [← sum, ← unpack_eq_parts leftFinite, ← unpack_eq_parts rightFinite]
  rfl

/-- **A difference of doubles is the exact difference, rounded.** -/
theorem roundsTo_sub (leftFinite : left.isFinite) (rightFinite : right.isFinite) :
    RoundsTo (steps left - steps right) (left - right) := by
  obtain ⟨rounded, canonical, sum, nearest⟩ :=
    (canonical_parts left).nearest_add (canonical_parts right).neg
  rw [Parts.steps_neg, ← sub_eq_add_neg] at nearest
  refine ⟨rounded, canonical, ?_, nearest⟩
  rw [← sum, Parts.unpacked_neg, ← unpack_eq_parts leftFinite, ← unpack_eq_parts rightFinite,
    ← difference_eq_sum]
  rfl

end Sums

end LSystemExplorer.Binary64
