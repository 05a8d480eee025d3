import LSystemExplorer.Proofs.Number.Sums

/-!
# The remainder of a division of doubles

The significands of both numbers are shifted to the smaller of the two exponents, and the remainder
is taken there.  One of the two was there already and is not exceeded, so the remainder is a double
without rounding.  Counted in steps, the remainder of a division of doubles is that of the whole
numbers, cut off toward zero (`steps_remainder`).
-/

set_option autoImplicit false

namespace LSystemExplorer.Binary64

open Float.Model (UnpackedFloat)
open Float.Model.UnpackedFloat (Sign)

/-! ## Putting a double together -/

namespace Parts

variable {parts : Parts}

/-- How far a short significand is shifted up until it is normal or the least exponent is
reached. -/
def room (parts : Parts) : Nat :=
  min (52 - parts.significand.log2) (parts.exponent - leastExponent).toNat

/-- The same number with the leading bit of its significand moved up as far as there is room. -/
def shiftedUp (parts : Parts) : Parts where
  negative := parts.negative
  significand := parts.significand <<< parts.room
  exponent := parts.exponent - parts.room

theorem room_le (least : leastExponent ≤ parts.exponent) :
    leastExponent ≤ parts.exponent - parts.room := by
  unfold room
  omega

theorem canonical_shiftedUp (positive : 0 < parts.significand)
    (short : parts.significand < 2 ^ 53) (least : leastExponent ≤ parts.exponent) :
    parts.shiftedUp.Canonical := by
  have digits : parts.significand.log2 ≤ 52 :=
    Nat.le_of_lt_succ ((Nat.log2_lt positive.ne').mpr short)
  have room : parts.room =
      min (52 - parts.significand.log2) (parts.exponent - leastExponent).toNat := rfl
  have up : parts.shiftedUp.significand = parts.significand * 2 ^ parts.room :=
    Nat.shiftLeft_eq _ _
  refine ⟨?_, room_le least, ?_⟩
  · calc parts.shiftedUp.significand
        < 2 ^ (parts.significand.log2 + 1) * 2 ^ parts.room := by
          rw [up]
          exact Nat.mul_lt_mul_of_pos_right Nat.lt_log2_self (Nat.two_pow_pos _)
      _ = 2 ^ (parts.significand.log2 + 1 + parts.room) := (Nat.pow_add _ _ _).symm
      _ ≤ 2 ^ 53 := Nat.pow_le_pow_right (by decide) (by omega)
  · by_cases small : parts.exponent - parts.room = leastExponent
    · exact .inr small
    · refine .inl ?_
      calc 2 ^ 52 = 2 ^ (parts.significand.log2 + parts.room) := by congr 1; omega
        _ = 2 ^ parts.significand.log2 * 2 ^ parts.room := Nat.pow_add _ _ _
        _ ≤ parts.significand * 2 ^ parts.room :=
          Nat.mul_le_mul_right _ (Nat.log2_self_le positive.ne')
        _ = parts.shiftedUp.significand := up.symm

theorem steps_shiftedUp (least : leastExponent ≤ parts.exponent) :
    parts.shiftedUp.steps = parts.steps := by
  have within := room_le least
  have places : parts.room + (parts.exponent - parts.room - leastExponent).toNat =
      (parts.exponent - leastExponent).toNat := by omega
  have magnitude : parts.shiftedUp.magnitude = parts.magnitude := by
    change parts.significand <<< parts.room * 2 ^ (parts.exponent - parts.room - _).toNat = _
    rw [Nat.shiftLeft_eq, Nat.mul_assoc, ← Nat.pow_add, places]
    rfl
  have sign : parts.shiftedUp.sign = parts.sign := rfl
  rw [steps, steps, sign, magnitude]

end Parts

section OfParts

variable {parts : Parts}

/-- The bits of canonical parts unpack to these parts. -/
theorem unpack_ofBits_encoded (canonical : parts.Canonical) (bounded : parts.exponent ≤ 971) :
    (Float.ofBits (UInt64.ofNat parts.encoded)).toModel.unpack = parts.unpacked := by
  have bits : (UInt64.ofNat parts.encoded).toBitVec.toNat = parts.encoded := by
    rw [← canonical.toNat_pack bounded]
    exact UInt64.toNat_ofNat_of_lt (BitVec.isLt _)
  have read := canonical.partsOfBits_encoded bounded
  change (Float.Model.pack (UnpackedFloat.unpack .binary64 _)).unpack = _
  rw [unpack_eq_unpacked, bits, read, canonical.unpack_pack bounded]
  rw [bits]
  refine biased_ne_of_exponent_le ?_
  rw [read]
  exact bounded

theorem ofParts_eq (parts : Parts) :
    ofParts parts = Float.ofBits (UInt64.ofNat parts.shiftedUp.encoded) := by
  have signed (magnitude : Nat) :
      (if parts.negative then signBit + magnitude else magnitude) =
        (if parts.negative then signBit else 0) + magnitude := by
    split
    · rfl
    · exact (Nat.zero_add magnitude).symm
  unfold ofParts
  dsimp only
  rw [signed]
  rfl

/-- The double that canonical parts are stored as. -/
theorem steps_ofBits_encoded (canonical : parts.Canonical) (bounded : parts.exponent ≤ 971) :
    (Float.ofBits (UInt64.ofNat parts.encoded)).isFinite ∧
      steps (Float.ofBits (UInt64.ofNat parts.encoded)) = parts.steps := by
  have form := unpack_ofBits_encoded canonical bounded
  exact ⟨isFinite_of_unpack_eq form, steps_eq_of_unpack_eq form⟩

/-- **Parts of a double in range are put together without loss.** -/
theorem steps_ofParts (short : parts.significand < 2 ^ 53)
    (least : leastExponent ≤ parts.exponent) (most : parts.exponent ≤ 971) :
    (ofParts parts).isFinite ∧ steps (ofParts parts) = parts.steps := by
  rw [ofParts_eq]
  rcases Nat.eq_zero_or_pos parts.significand with zero | positive
  · -- a zero is stored without its exponent
    have canonical : (⟨parts.negative, 0, leastExponent⟩ : Parts).Canonical :=
      ⟨Nat.two_pow_pos 53, le_rfl, .inr rfl⟩
    have none : parts.shiftedUp.significand = 0 := by
      rw [Parts.shiftedUp, zero, Nat.zero_shiftLeft]
    have same : parts.shiftedUp.encoded = (⟨parts.negative, 0, leastExponent⟩ : Parts).encoded := by
      rw [Parts.encoded, Parts.encoded, none, if_pos (show 0 < leadingBit by decide),
        if_pos (show 0 < leadingBit by decide)]
      rfl
    obtain ⟨finite, count⟩ :=
      steps_ofBits_encoded canonical (show leastExponent ≤ 971 by decide)
    rw [same, Parts.steps_of_eq_zero zero]
    exact ⟨finite, count.trans (Parts.steps_of_eq_zero rfl)⟩
  · have bounded : parts.shiftedUp.exponent ≤ 971 := by
      change parts.exponent - parts.room ≤ 971
      omega
    rw [← Parts.steps_shiftedUp least]
    exact steps_ofBits_encoded (Parts.canonical_shiftedUp positive short least) bounded

end OfParts

/-! ## Remainders -/

theorem tmod_apply (sign sign' : Sign) (dividend divisor : Nat) :
    (sign.apply dividend).tmod (sign'.apply divisor) = sign.apply (dividend % divisor : Nat) := by
  cases sign with
  | negative =>
      cases sign' with
      | negative => exact (Int.tmod_neg _ _).trans (Int.neg_tmod _ _)
      | positive => exact Int.neg_tmod _ _
  | positive =>
      cases sign' with
      | negative => exact Int.tmod_neg _ _
      | positive => rfl

/-- The rest of the significands over the smaller exponent. -/
def restOf (dividend divisor : Parts) : Parts where
  negative := dividend.negative
  significand :=
    (dividend.significand <<<
        (dividend.exponent - min dividend.exponent divisor.exponent).toNat) %
      (divisor.significand <<<
        (divisor.exponent - min dividend.exponent divisor.exponent).toNat)
  exponent := min dividend.exponent divisor.exponent

theorem steps_restOf {dividend divisor : Parts} (canonical : dividend.Canonical)
    (canonical' : divisor.Canonical) :
    (restOf dividend divisor).steps = dividend.steps.tmod divisor.steps := by
  have least : leastExponent ≤ min dividend.exponent divisor.exponent :=
    le_min canonical.least canonical'.least
  have rest := Parts.apply_shiftLeft least (le_refl (restOf dividend divisor).exponent)
  rw [show (restOf dividend divisor).exponent = min dividend.exponent divisor.exponent from rfl,
    sub_self, Int.toNat_zero, Nat.shiftLeft_zero] at rest
  rw [← rest, ← Parts.apply_shiftLeft least (min_le_left _ _),
    ← Parts.apply_shiftLeft least (min_le_right _ _), Int.mul_comm _ (2 ^ _),
    Int.mul_comm _ (2 ^ _), Int.mul_comm _ (2 ^ _), Int.mul_tmod_mul_of_pos _ _ (by positivity),
    tmod_apply]
  rfl

/-- The rest is below one of the two significands. -/
theorem significand_restOf_lt {dividend divisor : Parts} (canonical : dividend.Canonical)
    (canonical' : divisor.Canonical) (positive : 0 < divisor.significand) :
    (restOf dividend divisor).significand < 2 ^ 53 := by
  rcases le_total dividend.exponent divisor.exponent with below | above
  · have kept : (dividend.exponent - min dividend.exponent divisor.exponent).toNat = 0 := by omega
    refine lt_of_le_of_lt (Nat.mod_le _ _) ?_
    rw [kept, Nat.shiftLeft_zero]
    exact canonical.short
  · have kept : (divisor.exponent - min dividend.exponent divisor.exponent).toNat = 0 := by omega
    have rest : (restOf dividend divisor).significand < divisor.significand := by
      unfold restOf
      dsimp only
      rw [kept, Nat.shiftLeft_zero]
      exact Nat.mod_lt _ positive
    exact rest.trans canonical'.short

theorem steps_zero : steps 0 = 0 := by
  decide +kernel

theorem isFinite_zero : (0 : Float).isFinite := by
  decide +kernel

/-- What compares equal with zero is no step away from it. -/
theorem steps_eq_zero_of_beq {number : Float} (finite : number.isFinite) (zero : number == 0) :
    steps number = 0 := by
  have alike := Alike.of_beq zero
  have notBelow : ¬ number < 0 := mt (alike.lt_congr (.refl 0)).mp (not_lt_self 0)
  have notAbove : ¬ 0 < number := mt (Alike.lt_congr (.refl 0) alike).mp (not_lt_self 0)
  rw [lt_iff_steps finite isFinite_zero, steps_zero] at notBelow
  rw [lt_iff_steps isFinite_zero finite, steps_zero] at notAbove
  omega

theorem isInf_eq_false {number : Float} (finite : number.isFinite) : number.isInf = false := by
  have bounded := (isFinite_iff.mp finite).2
  change number.toModel.unpack.isInf = false
  cases form : number.toModel.unpack with
  | infinity sign => exact absurd form (bounded sign)
  | _ => rfl

/-- **The remainder of a division of doubles is that of the numbers of steps.** -/
theorem steps_remainder {dividend divisor : Float} (dividendFinite : dividend.isFinite)
    (divisorFinite : divisor.isFinite) (nonzero : steps divisor ≠ 0) :
    (remainder dividend divisor).isFinite ∧
      steps (remainder dividend divisor) = (steps dividend).tmod (steps divisor) := by
  have positive : 0 < (parts divisor).significand :=
    Nat.pos_of_ne_zero fun zero => nonzero (Parts.steps_of_eq_zero zero)
  have canonical := canonical_parts dividend
  have canonical' := canonical_parts divisor
  have defined : (dividend.isNaN || divisor.isNaN || dividend.isInf || divisor == 0) = false := by
    rw [Bool.or_eq_false_iff, Bool.or_eq_false_iff, Bool.or_eq_false_iff]
    refine ⟨⟨⟨?_, ?_⟩, isInf_eq_false dividendFinite⟩, ?_⟩
    · exact eq_false_of_ne_true (not_isNaN_of_isFinite dividendFinite)
    · exact eq_false_of_ne_true (not_isNaN_of_isFinite divisorFinite)
    · exact eq_false_of_ne_true (mt (steps_eq_zero_of_beq divisorFinite) nonzero)
  have rest : remainder dividend divisor = ofParts (restOf (parts dividend) (parts divisor)) := by
    rw [remainder, defined, isInf_eq_false divisorFinite]
    rfl
  obtain ⟨finite, count⟩ := steps_ofParts (significand_restOf_lt canonical canonical' positive)
    (le_min canonical.least canonical'.least)
    ((min_le_left _ _).trans (exponent_parts_le dividendFinite))
  rw [rest]
  exact ⟨finite, count.trans (steps_restOf canonical canonical')⟩

end LSystemExplorer.Binary64
