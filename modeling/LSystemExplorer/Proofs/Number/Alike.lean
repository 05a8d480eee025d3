import LSystemExplorer.Number.Binary64
import Mathlib

/-!
# Doubles that differ at most by the sign of zero

Two doubles count as the same number when they compare equal or when neither is a
number.  Two doubles that are the same in this sense are one and the same double, unless
they are the two zeros (`Alike.eq_or_zeros`).

The operations on doubles are computed on unpacked doubles, where the cases are the
constructors.  There the relation is `SameValue`, and it is carried by sums, differences,
products, comparisons, and quotients of alike dividends: the outcomes are alike again.
Alike divisors do not do, for the two zeros there lead to two infinities.
-/

set_option autoImplicit false

namespace LSystemExplorer.Binary64

/-! ## The bits of a double

A double is sixty-four bits, and its operations are computed on its unpacked form: an
infinity, no number, a zero, or a sign with a mantissa and an exponent.

Packing undoes unpacking, since all undefined doubles have the same bits, so two doubles
with the same unpacked form are one and the same (`eq_of_unpack_eq`).  Packing rounds
nothing to an undefined double: a finite form that is too large becomes an infinity
(`unpack_pack_ne_notANumber`).
-/

open Float.Model (UnpackedFloat)
open Float.Model.UnpackedFloat (Sign packComponents)

/-- Doubles that are the same when unpacked are the same. -/
theorem eq_of_unpack_eq {left right : Float}
    (same : left.toModel.unpack = right.toModel.unpack) : left = right := by
  obtain ⟨⟨leftBits, leftValid⟩⟩ := left
  obtain ⟨⟨rightBits, rightValid⟩⟩ := right
  have bits : leftBits.toBitVec = rightBits.toBitVec :=
    (UnpackedFloat.unpack_inj_of_valid leftValid rightValid).mp same
  cases UInt64.toBitVec_inj.mp bits
  rfl

/-- Only the largest exponent field stands for an undefined double. -/
theorem unpack_packComponents_ne_notANumber (sign : Sign) {exponent : BitVec 11}
    (mantissa : BitVec 52) (finite : exponent ≠ -1#11) :
    UnpackedFloat.unpack .binary64 (packComponents .binary64 sign exponent mantissa) ≠
      .notANumber := by
  unfold UnpackedFloat.unpack
  rw [UnpackedFloat.unpackExponent_packComponents]
  dsimp only
  rw [if_neg finite]
  split
  · split
    · exact nofun
    · exact nofun
  · exact nofun

/-- What is a number is still one when it is packed. -/
theorem unpack_pack_ne_notANumber {value : UnpackedFloat} (number : value ≠ .notANumber) :
    (Float.Model.pack value).unpack ≠ .notANumber := by
  cases value with
  | notANumber => exact absurd rfl number
  | infinity sign => cases sign <;> exact nofun
  | zero sign => cases sign <;> exact nofun
  | finite sign mantissa exponent positive =>
      change UnpackedFloat.unpack .binary64 (UnpackedFloat.pack .binary64 _) ≠ _
      unfold UnpackedFloat.pack
      dsimp only
      split
      · cases sign <;> exact nofun
      · rename_i inRange
        split
        · -- the exponent is below the field of an infinity, so it is stored as it is
          refine unpack_packComponents_ne_notANumber _ _ fun largest => ?_
          have field := congrArg BitVec.toNat largest
          rw [BitVec.toNat_ofNat] at field
          generalize (exponent + _ + _ : Int).toNat = biased at inRange field
          change biased % 2 ^ 11 = 2047 at field
          change ¬ 2 ^ 11 ≤ biased + 1 at inRange
          omega
        · exact unpack_packComponents_ne_notANumber _ _ (by decide)

end LSystemExplorer.Binary64

namespace LSystemExplorer

open Float.Model (UnpackedFloat Format)
open Float.Model.UnpackedFloat (Sign)

/-! ## Unpacked doubles -/

/-- The unpacked doubles are the same up to the sign of zero. -/
inductive SameValue : UnpackedFloat → UnpackedFloat → Prop
  | refl (value : UnpackedFloat) : SameValue value value
  | zeros (left right : Sign) : SameValue (.zero left) (.zero right)

namespace SameValue

variable {left left' right right' : UnpackedFloat}

theorem symm (same : SameValue left right) : SameValue right left := by
  cases same with
  | refl => exact .refl left
  | zeros sign sign' => exact .zeros sign' sign

theorem trans {middle : UnpackedFloat} (first : SameValue left middle)
    (second : SameValue middle right) : SameValue left right := by
  cases first with
  | refl => exact second
  | zeros sign sign' =>
      cases second with
      | refl => exact .zeros sign sign'
      | zeros _ sign'' => exact .zeros sign sign''

/-! ### Zeros in one place -/

/-- Adding one zero or the other makes no difference but to the sign of zero. -/
theorem zero_add (sign sign' : Sign) (value : UnpackedFloat) :
    SameValue (UnpackedFloat.add .binary64 (.zero sign) value)
      (UnpackedFloat.add .binary64 (.zero sign') value) := by
  cases value with
  | zero other => cases sign <;> cases sign' <;> cases other <;> constructor
  | _ => exact .refl _

theorem add_zero (value : UnpackedFloat) (sign sign' : Sign) :
    SameValue (UnpackedFloat.add .binary64 value (.zero sign))
      (UnpackedFloat.add .binary64 value (.zero sign')) := by
  cases value with
  | zero other => cases sign <;> cases sign' <;> cases other <;> constructor
  | _ => exact .refl _

theorem zero_sub (sign sign' : Sign) (value : UnpackedFloat) :
    SameValue (UnpackedFloat.sub .binary64 (.zero sign) value)
      (UnpackedFloat.sub .binary64 (.zero sign') value) := by
  cases value with
  | zero other => cases sign <;> cases sign' <;> cases other <;> constructor
  | _ => exact .refl _

theorem sub_zero (value : UnpackedFloat) (sign sign' : Sign) :
    SameValue (UnpackedFloat.sub .binary64 value (.zero sign))
      (UnpackedFloat.sub .binary64 value (.zero sign')) := by
  cases value with
  | zero other => cases sign <;> cases sign' <;> cases other <;> constructor
  | _ => exact .refl _

theorem zero_mul (sign sign' : Sign) (value : UnpackedFloat) :
    SameValue (UnpackedFloat.mul .binary64 (.zero sign) value)
      (UnpackedFloat.mul .binary64 (.zero sign') value) := by
  cases value <;> constructor

theorem mul_zero (value : UnpackedFloat) (sign sign' : Sign) :
    SameValue (UnpackedFloat.mul .binary64 value (.zero sign))
      (UnpackedFloat.mul .binary64 value (.zero sign')) := by
  cases value <;> constructor

theorem zero_div (sign sign' : Sign) (value : UnpackedFloat) :
    SameValue (UnpackedFloat.div .binary64 (.zero sign) value)
      (UnpackedFloat.div .binary64 (.zero sign') value) := by
  cases value <;> constructor

theorem compare_zero_left (sign sign' : Sign) (value : UnpackedFloat) :
    UnpackedFloat.compare (.zero sign) value = UnpackedFloat.compare (.zero sign') value := by
  cases value with
  | infinity other => cases other <;> rfl
  | finite other => cases other <;> rfl
  | _ => rfl

theorem compare_zero_right (value : UnpackedFloat) (sign sign' : Sign) :
    UnpackedFloat.compare value (.zero sign) = UnpackedFloat.compare value (.zero sign') := by
  cases value with
  | infinity other => cases other <;> rfl
  | finite other => cases other <;> rfl
  | _ => rfl

/-! ### Operations -/

/-- An operation for which it makes no difference which zero stands on a side can be
applied to the same values on both. -/
theorem congr₂ {operation : UnpackedFloat → UnpackedFloat → UnpackedFloat}
    (zeroLeft : ∀ sign sign' value,
      SameValue (operation (.zero sign) value) (operation (.zero sign') value))
    (zeroRight : ∀ value sign sign',
      SameValue (operation value (.zero sign)) (operation value (.zero sign')))
    (lefts : SameValue left left') (rights : SameValue right right') :
    SameValue (operation left right) (operation left' right') := by
  have first : SameValue (operation left right) (operation left' right) := by
    cases lefts with
    | refl => exact .refl _
    | zeros sign sign' => exact zeroLeft sign sign' right
  have second : SameValue (operation left' right) (operation left' right') := by
    cases rights with
    | refl => exact .refl _
    | zeros sign sign' => exact zeroRight left' sign sign'
  exact first.trans second

theorem div_left (same : SameValue left left') (divisor : UnpackedFloat) :
    SameValue (UnpackedFloat.div .binary64 left divisor)
      (UnpackedFloat.div .binary64 left' divisor) := by
  cases same with
  | refl => exact .refl _
  | zeros sign sign' => exact zero_div sign sign' divisor

/-- The same values compare in the same way with the same values. -/
theorem compare_congr (lefts : SameValue left left') (rights : SameValue right right') :
    UnpackedFloat.compare left right = UnpackedFloat.compare left' right' := by
  have first : UnpackedFloat.compare left right = UnpackedFloat.compare left' right := by
    cases lefts with
    | refl => rfl
    | zeros sign sign' => exact compare_zero_left sign sign' right
  have second : UnpackedFloat.compare left' right = UnpackedFloat.compare left' right' := by
    cases rights with
    | refl => rfl
    | zeros sign sign' => exact compare_zero_right left' sign sign'
  exact first.trans second

/-- A value compares equal with itself if it is a number. -/
theorem compare_self {value : UnpackedFloat} (number : value ≠ .notANumber) :
    UnpackedFloat.compare value value = some .eq := by
  have equal := (UnpackedFloat.beq_iff_ne_notANumber_and_eq value value).mpr
    ⟨number, number, Or.inl rfl⟩
  exact beq_iff_eq.mp equal

theorem eq_notANumber (same : SameValue left .notANumber) : left = .notANumber := by
  cases same
  rfl

/-- Values that compare equal are the same up to the sign of zero. -/
theorem of_compare (equal : UnpackedFloat.compare left right = some .eq) :
    SameValue left right := by
  have numbers := (UnpackedFloat.beq_iff_ne_notANumber_and_eq left right).mp
    (beq_iff_eq.mpr equal)
  obtain ⟨-, -, rfl | ⟨rfl, rfl⟩ | ⟨rfl, rfl⟩⟩ := numbers
  · exact .refl left
  · exact .zeros .positive .negative
  · exact .zeros .negative .positive

/-- Cut off to a whole number, either zero is the same. -/
theorem toUInt64_eq (same : SameValue left right) : left.toUInt64 = right.toUInt64 := by
  cases same with
  | refl => rfl
  | zeros sign sign' => rfl

/-- Packing does not take zeros apart. -/
theorem unpack_pack (same : SameValue left right) :
    SameValue (Float.Model.pack left).unpack (Float.Model.pack right).unpack := by
  cases same with
  | refl => exact .refl _
  | zeros sign sign' => cases sign <;> cases sign' <;> first | exact .refl _ | exact .zeros _ _

end SameValue

/-! ## Doubles -/

/-- The numbers compare equal, or neither is a number. -/
def Alike (left right : Float) : Prop :=
  left == right ∨ (left.isNaN ∧ right.isNaN)

theorem beq_iff_compare {left right : Float} :
    left == right ↔
      UnpackedFloat.compare left.toModel.unpack right.toModel.unpack = some .eq :=
  beq_iff_eq (α := Option Ordering)

theorem lt_iff_compare {left right : Float} :
    left < right ↔
      UnpackedFloat.compare left.toModel.unpack right.toModel.unpack = some .lt := by
  show decide (left.toModel < right.toModel) = true ↔ _
  rw [decide_eq_true_iff]
  exact beq_iff_eq (α := Option Ordering)

theorem isNaN_iff {number : Float} :
    number.isNaN ↔ number.toModel.unpack = .notANumber := by
  change number.toModel.unpack.isNaN = true ↔ _
  cases number.toModel.unpack <;> simp [UnpackedFloat.isNaN]

/-- **Doubles are alike when they are the same up to the sign of zero.** -/
theorem alike_iff {left right : Float} :
    Alike left right ↔ SameValue left.toModel.unpack right.toModel.unpack := by
  constructor
  · rintro (equal | ⟨leftUndefined, rightUndefined⟩)
    · exact .of_compare (beq_iff_compare.mp equal)
    · rw [isNaN_iff] at leftUndefined rightUndefined
      rw [leftUndefined, rightUndefined]
      exact .refl _
  · intro same
    by_cases undefined : right.isNaN
    · rw [isNaN_iff] at undefined
      rw [undefined] at same
      exact Or.inr ⟨isNaN_iff.mpr same.eq_notANumber, isNaN_iff.mpr undefined⟩
    · refine Or.inl (beq_iff_compare.mpr ?_)
      rw [SameValue.compare_congr same (.refl _)]
      exact SameValue.compare_self fun form => undefined (isNaN_iff.mpr form)

namespace Alike

variable {left left' right right' : Float}

theorem of_beq (equal : left == right) : Alike left right :=
  Or.inl equal

theorem refl (number : Float) : Alike number number :=
  alike_iff.mpr (.refl _)

theorem symm (alike : Alike left right) : Alike right left :=
  alike_iff.mpr (alike_iff.mp alike).symm

/-- Doubles are alike only if they are the same double or the two zeros. -/
theorem eq_or_zeros (alike : Alike left right) :
    left = right ∨ ∃ sign sign', left.toModel.unpack = .zero sign ∧
      right.toModel.unpack = .zero sign' := by
  have same := alike_iff.mp alike
  generalize leftForm : left.toModel.unpack = leftValue at same
  generalize rightForm : right.toModel.unpack = rightValue at same
  cases same with
  | refl => exact Or.inl (Binary64.eq_of_unpack_eq (leftForm.trans rightForm.symm))
  | zeros sign sign' => exact Or.inr ⟨sign, sign', rfl, rfl⟩

theorem add (lefts : Alike left left') (rights : Alike right right') :
    Alike (left + right) (left' + right') :=
  alike_iff.mpr (SameValue.congr₂ SameValue.zero_add SameValue.add_zero (alike_iff.mp lefts)
    (alike_iff.mp rights)).unpack_pack

theorem sub (lefts : Alike left left') (rights : Alike right right') :
    Alike (left - right) (left' - right') :=
  alike_iff.mpr (SameValue.congr₂ SameValue.zero_sub SameValue.sub_zero (alike_iff.mp lefts)
    (alike_iff.mp rights)).unpack_pack

theorem mul (lefts : Alike left left') (rights : Alike right right') :
    Alike (left * right) (left' * right') :=
  alike_iff.mpr (SameValue.congr₂ SameValue.zero_mul SameValue.mul_zero (alike_iff.mp lefts)
    (alike_iff.mp rights)).unpack_pack

theorem div_left (alike : Alike left left') (divisor : Float) :
    Alike (left / divisor) (left' / divisor) :=
  alike_iff.mpr ((alike_iff.mp alike).div_left divisor.toModel.unpack).unpack_pack

/-- Alike doubles are on the same side of alike doubles. -/
theorem lt_congr (lefts : Alike left left') (rights : Alike right right') :
    left < right ↔ left' < right' := by
  rw [lt_iff_compare, lt_iff_compare,
    SameValue.compare_congr (alike_iff.mp lefts) (alike_iff.mp rights)]

theorem toUInt64_eq (alike : Alike left right) : left.toUInt64 = right.toUInt64 :=
  (alike_iff.mp alike).toUInt64_eq

theorem positivePart (alike : Alike left right) :
    Alike (Scalar.positivePart left) (Scalar.positivePart right) := by
  have side : (0 : Float) < left ↔ (0 : Float) < right := lt_congr (.refl 0) alike
  unfold Scalar.positivePart
  by_cases above : (0 : Float) < left
  · rw [if_pos above, if_pos (side.mp above)]
    exact alike
  · rw [if_neg above, if_neg (mt side.mpr above)]
    exact .refl _

end Alike

end LSystemExplorer
