import LSystemExplorer.Proofs.Catalog.Faults
import LSystemExplorer.Proofs.CommandLine.Outcome
import LSystemExplorer.Proofs.Number.Powers
import LSystemExplorer.Proofs.Number.Quotients

/-!
# How long traced segments are

The extent of a traced drawing is divided by the model's shrinking factor once for each pass, that
is, by a power of it.  A model that is built has a positive finite factor, but no one looks at the
power.  It is the exact power rounded to a double, and so it is zero if the exact power is too
small, and infinite if this is too large.

The lengths of the segments follow (`Report.segmentLength_outcome`).  They are infinite in the
first case and zero in the second, and in all others the quotient is rounded to a double.  So a
length is positive and finite exactly if the power and the quotient are both in reach.  A factor of
one half is too small after 1100 passes, and a factor of two is too large after 1024
(`Report.divided_by_zero`).
-/

set_option autoImplicit false

namespace LSystemExplorer

open Binary64 (value InReach RoundOutcome RoundsEven)

/-! ## The space inside a square -/

namespace Report

variable {extent : Float}

/-- A square has no margin, and its inside is as high as the square. -/
theorem segmentLength_square (valid : IsExtent extent) (model : Model Float) :
    (square extent).segmentLength model = model.segmentLength extent := by
  have margin : (2.0 : Float) * 0 = 0 := by decide +kernel
  have inside : (square extent).innerHeight = extent := by
    change Scalar.positivePart (extent - 2.0 * 0) = extent
    rw [margin, Binary64.sub_zero_of_isFinite valid.1]
    exact if_pos valid.2
  rw [Viewport.segmentLength, inside]

/-! ## Lengths -/

/-- What becomes of the power of a shrinking factor and of the extent that is divided by it. -/
structure LengthOutcome (exact : ℚ) (extent divisor length : Float) : Prop where
  /-- The divisor is the exact power, rounded. -/
  power : RoundOutcome exact divisor
  usableDivisor : (divisor.isFinite ∧ 0 < divisor) ↔ InReach exact
  infinite : exact ≤ Binary64.halfOfLeast → length.isInf ∧ 0 < length
  zero : Binary64.pastGreatest ≤ exact → length = 0
  /-- The length is the exact quotient, rounded. -/
  quotient : InReach exact → RoundOutcome (value extent / value divisor) length
  usableLength : (length.isFinite ∧ 0 < length) ↔
    InReach exact ∧ InReach (value extent / value divisor)

/-- A positive double is divided by a positive number that was rounded. -/
theorem lengthOutcome_of_roundsEven {exact : ℚ} {divisor : Float} (positive : 0 < exact)
    (rounds : RoundsEven exact divisor) (valid : IsExtent extent) :
    LengthOutcome exact extent divisor (extent / divisor) := by
  have quotient (reach : InReach exact) :
      0 < value extent / value divisor ∧
        RoundsEven (value extent / value divisor) (extent / divisor) := by
    obtain ⟨finite, above⟩ := (rounds.usable_iff positive).mpr reach
    exact ⟨div_pos (Binary64.value_pos valid.1 valid.2) (Binary64.value_pos finite above),
      Binary64.roundsEven_div valid.1 valid.2 finite above⟩
  have infinite (small : exact ≤ Binary64.halfOfLeast) :
      (extent / divisor).toModel.unpack = .infinity .positive := by
    rw [rounds.eq_zero positive small]
    exact Binary64.unpack_div_zero valid.1 valid.2
  have zero (large : Binary64.pastGreatest ≤ exact) : extent / divisor = 0 :=
    Binary64.div_eq_zero_of_infinity valid.1 valid.2 (rounds.unpack_eq_infinity positive large)
  refine
    { power := rounds.outcome positive
      usableDivisor := rounds.usable_iff positive
      infinite := fun small => Binary64.isInf_of_unpack_eq (infinite small)
      zero := zero
      quotient := fun reach => (quotient reach).2.outcome (quotient reach).1
      usableLength := ?_ }
  constructor
  · rintro ⟨finite, above⟩
    have reach : InReach exact := by
      constructor
      · by_contra! small
        exact (isFinite_iff.mp finite).2 _ (infinite small)
      · by_contra! large
        rw [zero large] at above
        exact not_lt_self 0 above
    exact ⟨reach, ((quotient reach).2.usable_iff (quotient reach).1).mp ⟨finite, above⟩⟩
  · rintro ⟨reach, quotientReach⟩
    exact ((quotient reach).2.usable_iff (quotient reach).1).mpr quotientReach

/-- **What the extent of a drawing is divided by, and what comes of it.**  For every model that is
built and every extent, the divisor is the exact power of the shrinking factor, rounded to the
nearest double, to zero or to infinity.  It is positive and finite exactly if the exact power is in
reach, and the segments are of positive finite length exactly if the quotient is so, too.  A
divisor of zero makes the length infinite, and an infinite divisor makes it zero. -/
theorem segmentLength_outcome {name : String} {settings : List (Setting Float)}
    {model : Model Float} (built : Model.build name settings = .ok model)
    (valid : IsExtent extent) :
    LengthOutcome (value model.segments ^ model.iterations) extent
      (Scalar.power model.segments model.iterations) ((square extent).segmentLength model) := by
  obtain ⟨finite, positive⟩ := Model.valid_iff.mpr (Model.sound_of_build built)
  have rounds := Binary64.roundsEven_power (finite .segments) positive model.iterations
  have factor := Binary64.value_pos (finite .segments) positive
  rw [segmentLength_square valid]
  exact lengthOutcome_of_roundsEven (pow_pos factor _) rounds valid

/-- After four passes the segments of a Koch curve are 81 times shorter, and in a square of 90 their
length is positive and finite. -/
theorem segmentLength_outcome_of_koch :
    ∃ koch : Model Float, Model.build "Koch" [.segments 3.0, .iterations 4] = .ok koch ∧
      IsExtent 90.0 ∧ LengthOutcome 81 90.0 81.0 ((square 90.0).segmentLength koch) ∧
      ((square 90.0).segmentLength koch).isFinite ∧ 0 < (square 90.0).segmentLength koch := by
  let koch : Model Float := { Model.blank "Koch" with segments := 3.0, iterations := 4 }
  have built : Model.build "Koch" [.segments 3.0, .iterations 4] = .ok koch := rfl
  have valid : IsExtent 90.0 := ⟨by decide, by decide⟩
  have outcome := segmentLength_outcome built valid
  have power : value koch.segments ^ koch.iterations = 81 := by decide +kernel
  have divisor : Scalar.power koch.segments koch.iterations = 81.0 := by decide +kernel
  rw [power, divisor] at outcome
  have reach : InReach 81 ∧ InReach (value 90.0 / value 81.0) := by decide +kernel
  exact ⟨koch, built, valid, outcome, outcome.usableLength.mpr reach⟩

/-- **A model that was built may divide by zero.**  One half to the power of 1100 is too small for
a double, and two to the power of 1024 is too large.  The segments are infinitely long or of no
length, though the exact lengths, `2 ^ 100` and one half, are in reach. -/
theorem divided_by_zero :
    let short : Float := 9.332636185032189e-302
    let long : Float := 8.98846567431158e307
    ∃ halves doubles : Model Float,
      Model.build "Halves" [.segments 0.5, .iterations 1100] = .ok halves ∧
      Model.build "Doubles" [.segments 2.0, .iterations 1024] = .ok doubles ∧
      IsExtent short ∧ IsExtent long ∧
      Scalar.power halves.segments halves.iterations = 0 ∧
      ((square short).segmentLength halves).isInf ∧
      value short / value halves.segments ^ halves.iterations = 2 ^ 100 ∧
      (Scalar.power doubles.segments doubles.iterations).isInf ∧
      (square long).segmentLength doubles = 0 ∧
      value long / value doubles.segments ^ doubles.iterations = 1 / 2 := by
  intro short long
  let halves : Model Float := { Model.blank "Halves" with segments := 0.5, iterations := 1100 }
  let doubles : Model Float := { Model.blank "Doubles" with segments := 2.0, iterations := 1024 }
  have shortValid : IsExtent short := ⟨by decide +kernel, by decide +kernel⟩
  have longValid : IsExtent long := ⟨by decide +kernel, by decide +kernel⟩
  refine ⟨halves, doubles, rfl, rfl, shortValid, longValid, ?_⟩
  decide +kernel

end Report

end LSystemExplorer
