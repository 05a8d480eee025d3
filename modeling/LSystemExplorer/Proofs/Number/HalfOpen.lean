import LSystemExplorer.Proofs.Number.Exact
import LSystemExplorer.Proofs.Number.Division

/-!
# Rounding on a circle

A double that is brought into a half-open range goes through four operations that may round: the
length of the range, the distance from the lower end, the length that is added to a negative
remainder, and the last sum.  The first three do no harm.  Whatever the length is rounded to, the
offset that is found is below the exact length (`steps_offset_mem`), since it is a double, and
rounding leads across none.  So the number that is meant, the lower end and the offset together,
lies in the half-open range.

The last sum is rounded to the nearest double, and this may be the upper end.  So what is stored
is in the range with both its ends (`wrapped_within_ends`), and a stored number beyond the
half-open range can only be the upper end itself (`wrapped_onto_the_end`).

This does not happen if zero is in the range and the length is exact, as for the headings from
`-180` to `180`.  Then there is a double below the upper end that is not below the sum
(`exists_fits_below`): the offset itself, or, if that is not below the end, the double next to the
end, since doubles are no farther apart there than they are at the offset.
-/

set_option autoImplicit false

namespace LSystemExplorer

namespace Binary64

/-! ## Room below an end -/

/-- A long number has fifty-three digits before some unit. -/
theorem exists_unit {count : Int} (long : 2 ^ 53 ≤ count) :
    ∃ shift : Nat, 2 ^ 52 * 2 ^ shift ≤ count ∧ count < 2 ^ 53 * 2 ^ shift := by
  obtain ⟨size, rfl⟩ := Int.eq_ofNat_of_zero_le (show 0 ≤ count by omega)
  have positive : size ≠ 0 := by omega
  have digits : 52 ≤ size.log2 := (Nat.le_log2 positive).mpr (by omega)
  obtain ⟨shift, counted⟩ := Nat.exists_eq_add_of_le digits
  have least : 2 ^ (52 + shift) ≤ size := counted ▸ Nat.log2_self_le positive
  have most : size < 2 ^ (52 + shift + 1) := counted ▸ Nat.lt_log2_self
  refine ⟨shift, ?_, ?_⟩
  · rw [← pow_add]
    exact_mod_cast least
  · rw [← pow_add, show 53 + shift = 52 + shift + 1 by omega]
    exact_mod_cast most

/-- One unit below a number of fifty-three digits there is another number that fits. -/
theorem Fits.sub_unit {count : Int} {shift : Nat} (fits : Fits count)
    (long : 2 ^ 52 * 2 ^ shift ≤ count) (short : count < 2 ^ 53 * 2 ^ shift) :
    Fits (count - 2 ^ shift) := by
  have unit : (0 : Int) < 2 ^ shift := by positivity
  obtain ⟨times, rfl⟩ := fits.dvd_of_le long
  rw [mul_comm _ times] at long short ⊢
  have least : 2 ^ 52 ≤ times := le_of_mul_le_mul_right long unit
  have most : times < 2 ^ 53 := lt_of_mul_lt_mul_right short unit.le
  have whole : times * 2 ^ shift - 2 ^ shift = ((times - 1).toNat : Int) * 2 ^ shift := by
    rw [Int.toNat_of_nonneg (by omega), sub_mul, one_mul]
  rw [whole]
  exact fits_mul_two_pow (by omega) shift

/-- **There is room below the end of a range in which zero lies.**  An offset below the length is
taken to a place with a number that fits between it and the end. -/
theorem exists_fits_below {offset length upper : Int} (offsetFits : Fits offset)
    (lengthFits : Fits length) (upperFits : Fits upper) (below : offset < length)
    (nonneg : 0 ≤ upper) (within : upper ≤ length) :
    ∃ bound, Fits bound ∧ offset - (length - upper) ≤ bound ∧ bound < upper := by
  rcases lt_or_ge offset upper with less | more
  · exact ⟨offset, offsetFits, by omega, less⟩
  · rcases lt_or_ge upper (2 ^ 53) with short | long
    · exact ⟨upper - 1, .of_natAbs_lt (by omega), by omega, by omega⟩
    · -- the offset and the length are multiples of the unit of the end, so they are a unit apart
      obtain ⟨shift, least, most⟩ := exists_unit long
      have unit : (0 : Int) < 2 ^ shift := by positivity
      have apart : (2 ^ shift : Int) ≤ length - offset :=
        Int.le_of_dvd (by omega) (dvd_sub (lengthFits.dvd_of_le (least.trans within))
          (offsetFits.dvd_of_le (least.trans more)))
      exact ⟨upper - 2 ^ shift, upperFits.sub_unit least most, by omega, by omega⟩

end Binary64

namespace Bounded

open Binary64

/-! ## The offset -/

section Circle

variable {lower upper number : Float}

/-- How far above the lower end a number is put, before the last sum. -/
def offset (lower upper number : Float) : Float :=
  let length := upper - lower
  let rest := Binary64.remainder (number - lower) length
  let folded := if rest < 0 then rest + length else rest
  if length ≤ folded then 0 else folded

theorem wrapInto_eq_offset_add (positive : 0 < upper - lower) :
    wrapInto lower upper number = offset lower upper number + lower :=
  if_pos positive

/-- The length of a range of doubles is at least one step, and so is what it is rounded to. -/
theorem steps_length_pos (lowerFinite : lower.isFinite) (upperFinite : upper.isFinite)
    (lengthFinite : (upper - lower).isFinite) (ordered : lower < upper) :
    0 < steps (upper - lower) := by
  have apart : 1 ≤ steps upper - steps lower := by
    have := (lt_iff_steps lowerFinite upperFinite).mp ordered
    omega
  have one : Fits 1 := .of_natAbs_lt (by decide)
  have := ((roundsTo_sub upperFinite lowerFinite).nearest lengthFinite).le_of_ge one apart
  omega

/-- A remainder that is folded back is at most the divisor. -/
theorem steps_folded_mem {dividend divisor : Float} (dividendFinite : dividend.isFinite)
    (divisorFinite : divisor.isFinite) (positive : 0 < steps divisor) {folded : Float}
    (fold : folded = if Binary64.remainder dividend divisor < 0 then
      Binary64.remainder dividend divisor + divisor else Binary64.remainder dividend divisor) :
    folded.isFinite ∧ 0 ≤ steps folded ∧ steps folded ≤ steps divisor := by
  obtain ⟨restFinite, rest⟩ := steps_remainder dividendFinite divisorFinite positive.ne'
  have size : |steps (Binary64.remainder dividend divisor)| < steps divisor := by
    rw [rest]
    exact ExactNumber.abs_remainder_lt (α := Int) _ positive
  obtain ⟨least, most⟩ := abs_lt.mp size
  subst fold
  split
  · rename_i negative
    rw [lt_iff_steps restFinite isFinite_zero, steps_zero] at negative
    have rounds := roundsTo_add restFinite divisorFinite
    have finite := rounds.isFinite divisorFinite (by
      rw [abs_of_nonneg (by omega), abs_of_pos positive]
      omega)
    have nearest := rounds.nearest finite
    exact ⟨finite, nearest.le_of_ge fits_zero (by omega),
      nearest.le_of_le (fits_steps divisor) (by omega)⟩
  · rename_i notNegative
    rw [lt_iff_steps restFinite isFinite_zero, steps_zero] at notNegative
    exact ⟨restFinite, by omega, by omega⟩

/-- **The offset is below the exact length of the range**, whatever that is rounded to. -/
theorem steps_offset_mem (lowerFinite : lower.isFinite) (upperFinite : upper.isFinite)
    (lengthFinite : (upper - lower).isFinite) (distanceFinite : (number - lower).isFinite)
    (ordered : lower < upper) :
    (offset lower upper number).isFinite ∧ 0 ≤ steps (offset lower upper number) ∧
      steps (offset lower upper number) < steps (upper - lower) ∧
      steps (offset lower upper number) < steps upper - steps lower := by
  have positive := steps_length_pos lowerFinite upperFinite lengthFinite ordered
  have exact := (lt_iff_steps lowerFinite upperFinite).mp ordered
  obtain ⟨folded, fold⟩ : ∃ folded, folded =
      if Binary64.remainder (number - lower) (upper - lower) < 0 then
        Binary64.remainder (number - lower) (upper - lower) + (upper - lower)
      else Binary64.remainder (number - lower) (upper - lower) := ⟨_, rfl⟩
  obtain ⟨finite, least, most⟩ := steps_folded_mem distanceFinite lengthFinite positive fold
  have result : offset lower upper number = if upper - lower ≤ folded then 0 else folded := by
    rw [fold]
    rfl
  rw [result]
  split
  · rw [steps_zero]
    exact ⟨isFinite_zero, le_rfl, positive, by omega⟩
  · rename_i below
    rw [le_iff_steps lengthFinite finite, not_le] at below
    refine ⟨finite, least, below, ?_⟩
    -- rounding the length leads across no double, so not across the offset either
    by_contra beyond
    have nearest := (roundsTo_sub upperFinite lowerFinite).nearest lengthFinite
    have rounded := nearest.le_of_le (fits_steps folded) (not_lt.mp beyond)
    omega

end Circle

/-! ## What is stored -/

/-- **A double on a circle ends up in the range with both its ends**, and what is meant lies in the
half-open range.  The lower end and the offset, added exactly, are below the upper end, and a
nearest double is stored.  The upper end is not stored if the exact sum is a double, or if there is
a double between the sum and the end.  Nor is it if zero is in the range and the length of the range
is exact. -/
theorem wrapped_within_ends (bounded : Bounded Float) (circular : bounded.mode = .wrap)
    (lowerFinite : bounded.lower.isFinite) (upperFinite : bounded.upper.isFinite)
    (ordered : bounded.lower < bounded.upper)
    (lengthFinite : (bounded.upper - bounded.lower).isFinite) (number : Float)
    (distanceFinite : (number - bounded.lower).isFinite) :
    let place := offset bounded.lower bounded.upper number
    let stored := (bounded.set number).value
    stored.isFinite ∧ bounded.lower ≤ stored ∧ stored ≤ bounded.upper ∧
      (stored = place + bounded.lower ∧ 0 ≤ steps place ∧
        steps place + steps bounded.lower < steps bounded.upper ∧
        Nearest (steps place + steps bounded.lower) (steps stored) ∧
        ((∃ bound, Fits bound ∧ steps place + steps bounded.lower ≤ bound ∧
            bound < steps bounded.upper) →
          stored < bounded.upper)) ∧
      (bounded.lower ≤ 0 → 0 ≤ bounded.upper →
        steps (bounded.upper - bounded.lower) = steps bounded.upper - steps bounded.lower →
        stored < bounded.upper) := by
  obtain ⟨lower, upper, mode, value⟩ := bounded
  intro place stored
  dsimp only at circular lowerFinite upperFinite ordered lengthFinite distanceFinite ⊢
  subst circular
  have exact := (lt_iff_steps lowerFinite upperFinite).mp ordered
  have length := steps_length_pos lowerFinite upperFinite lengthFinite ordered
  obtain ⟨placeFinite, least, short, most⟩ : place.isFinite ∧ 0 ≤ steps place ∧
      steps place < steps (upper - lower) ∧ steps place < steps upper - steps lower :=
    steps_offset_mem lowerFinite upperFinite lengthFinite distanceFinite ordered
  have positive : 0 < upper - lower := by
    rw [lt_iff_steps isFinite_zero lengthFinite, steps_zero]
    exact length
  have sum : stored = place + lower := wrapInto_eq_offset_add positive
  have rounds : RoundsTo (steps place + steps lower) stored :=
    sum ▸ roundsTo_add placeFinite lowerFinite
  have finite : stored.isFinite := by
    rcases le_total 0 (steps place + steps lower) with nonneg | nonpos
    · refine rounds.isFinite upperFinite ?_
      rw [abs_of_nonneg nonneg]
      exact le_trans (by omega) (le_abs_self _)
    · refine rounds.isFinite lowerFinite ?_
      rw [abs_of_nonpos nonpos]
      exact le_trans (by omega) (neg_le_abs _)
  have nearest := rounds.nearest finite
  have room (between : ∃ bound, Fits bound ∧ steps place + steps lower ≤ bound ∧
      bound < steps upper) : stored < upper := by
    obtain ⟨bound, fits, reached, below⟩ := between
    rw [lt_iff_steps finite upperFinite]
    exact (nearest.le_of_le fits reached).trans_lt below
  refine ⟨finite, ?_, ?_, ⟨sum, least, by omega, nearest, room⟩,
    fun below above lengthExact => room ?_⟩
  · rw [le_iff_steps lowerFinite finite]
    exact nearest.le_of_ge (fits_steps lower) (by omega)
  · rw [le_iff_steps finite upperFinite]
    exact nearest.le_of_le (fits_steps upper) (by omega)
  · rw [le_iff_steps lowerFinite isFinite_zero, steps_zero] at below
    rw [le_iff_steps isFinite_zero upperFinite, steps_zero] at above
    obtain ⟨bound, fits, reached, last⟩ := exists_fits_below (fits_steps place)
      (fits_steps (upper - lower)) (fits_steps upper) short above (by omega)
    exact ⟨bound, fits, by omega, last⟩

/-- A double just below the lowest heading, which is folded back with a length that the offset is
rounded to. -/
theorem wrapped_within_ends_of_heading :
    let heading : Bounded Float := .make .wrap (-180.0) 180.0 90.0
    heading.mode = .wrap ∧ heading.lower.isFinite ∧ heading.upper.isFinite ∧
      heading.lower < heading.upper ∧ (heading.upper - heading.lower).isFinite ∧
      ((-180.00000000000003 : Float) - heading.lower).isFinite ∧
      heading.lower ≤ (heading.set (-180.00000000000003)).value ∧
      (heading.set (-180.00000000000003)).value < heading.upper := by
  intro heading
  have facts : heading.lower.isFinite ∧ heading.upper.isFinite ∧ heading.lower < heading.upper ∧
      (heading.upper - heading.lower).isFinite ∧
      ((-180.00000000000003 : Float) - heading.lower).isFinite := by decide +kernel
  obtain ⟨lowerFinite, upperFinite, ordered, lengthFinite, distanceFinite⟩ := facts
  have around : heading.lower ≤ 0 ∧ 0 ≤ heading.upper ∧
      steps (heading.upper - heading.lower) = steps heading.upper - steps heading.lower := by
    decide +kernel
  obtain ⟨-, least, -, -, most⟩ := wrapped_within_ends heading rfl lowerFinite upperFinite ordered
    lengthFinite (-180.00000000000003) distanceFinite
  exact ⟨rfl, lowerFinite, upperFinite, ordered, lengthFinite, distanceFinite, least,
    most around.1 around.2.1 around.2.2⟩

/-- **The upper end may be stored.**  The double below `1` is put halfway between `2` and the double
below it, and is rounded to `2`. -/
theorem wrapped_onto_the_end :
    ¬ ∀ lower upper number : Float, lower.isFinite → upper.isFinite → lower < upper →
      (upper - lower).isFinite → number.isFinite → (number - lower).isFinite →
      lower ≤ (Bounded.make .wrap lower upper number).value ∧
        (Bounded.make .wrap lower upper number).value < upper := by
  intro within
  have stored : ¬ (Bounded.make .wrap 1.0 2.0 (0.9999999999999999 : Float)).value < 2.0 := by
    decide +kernel
  refine stored (within 1.0 2.0 0.9999999999999999 ?_ ?_ ?_ ?_ ?_ ?_).2
  all_goals decide +kernel

end Bounded

end LSystemExplorer
