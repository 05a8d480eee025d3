import LSystemExplorer.Proofs.Number.Exact

/-!
# What a bounded number holds

A bounded number is written in three ways: a number is set, the stored number is shifted,
or the range is changed and the stored number is written again.  Whatever was written
before, the stored number depends on the number written last and on the range alone, and
`Settled` says how: round a circle it is the one number of the range that is congruent to
it, between walls the one that is nearest.  A circle without numbers leaves its lower end.

Every write leads to such a number (`settled_write`), so it is found after every history
(`settled_writeAll`), also if the range was changed on the way.  It follows that a stored
number can be written again without a change (`Settled.set_value`), and that round a circle
shifts add up (`writeAll_shifts`): a shift starts from the stored number, but this is
congruent to the number that was written.

All this is about exact numbers; doubles round when they are shifted.
-/

set_option autoImplicit false

namespace LSystemExplorer

/-- One way to write a bounded number. -/
inductive Write (α : Type)
  | set (number : α)
  | shift (delta : α)
  | setBounds (lower upper : α)
  deriving DecidableEq

namespace Bounded

/-! ## Histories of writes -/

section Histories

variable {α : Type} [Confinable α]

/-- What a write makes of a bounded number. -/
def write (bounded : Bounded α) : Write α → Bounded α
  | .set number => bounded.set number
  | .shift delta => bounded.shift delta
  | .setBounds lower upper => bounded.setBounds lower upper

/-- What writes make of a bounded number, one after the other. -/
def writeAll (bounded : Bounded α) (writes : List (Write α)) : Bounded α :=
  writes.foldl write bounded

/-- The number that is written, before it is brought into the range. -/
def written (bounded : Bounded α) : Write α → α
  | .set number => number
  | .shift delta => bounded.value + delta
  | .setBounds _ _ => bounded.value

/-- The number that was written last, given the one before the history. -/
def lastWritten (bounded : Bounded α) (before : α) : List (Write α) → α
  | [] => before
  | write :: later => (bounded.write write).lastWritten (bounded.written write) later

/-- The range after a history, given the one before it. -/
def lastRange (before : α × α) : List (Write α) → α × α
  | [] => before
  | .setBounds lower upper :: later => lastRange (lower, upper) later
  | _ :: later => lastRange before later

@[simp] theorem writeAll_nil (bounded : Bounded α) : bounded.writeAll [] = bounded := rfl

@[simp] theorem writeAll_cons (bounded : Bounded α) (write : Write α) (later : List (Write α)) :
    bounded.writeAll (write :: later) = (bounded.write write).writeAll later :=
  rfl

/-- No write changes the mode. -/
theorem mode_writeAll (bounded : Bounded α) (writes : List (Write α)) :
    (bounded.writeAll writes).mode = bounded.mode := by
  induction writes generalizing bounded with
  | nil => rfl
  | cons write later ih =>
      rw [writeAll_cons, ih]
      cases write <;> rfl

/-- Only a change of the range changes the range. -/
theorem range_writeAll (bounded : Bounded α) (writes : List (Write α)) :
    ((bounded.writeAll writes).lower, (bounded.writeAll writes).upper) =
      lastRange (bounded.lower, bounded.upper) writes := by
  induction writes generalizing bounded with
  | nil => rfl
  | cons write later ih =>
      rw [writeAll_cons, ih]
      cases write <;> rfl

end Histories

/-! ## The stored number -/

variable {α : Type} [ExactNumber α]

/-- The one number of a range that is congruent to another modulo the length of the range. -/
structure IsOnCircle (lower upper number value : α) : Prop where
  mem : value ∈ Set.Ico lower upper
  congruent : value ≡ number [PMOD upper - lower]
  unique : ∀ other ∈ Set.Ico lower upper, other ≡ number [PMOD upper - lower] → other = value

/-- The one number of a range that is nearest to another. -/
structure IsNearest (lower upper number value : α) : Prop where
  mem : value ∈ Set.Icc lower upper
  nearest : ∀ other ∈ Set.Icc lower upper, other ≠ value → |number - value| < |number - other|

/-- What is stored for the number that was written last. -/
def Settled (bounded : Bounded α) (number : α) : Prop :=
  match bounded.mode with
  | .wrap =>
    (bounded.lower < bounded.upper →
        IsOnCircle bounded.lower bounded.upper number bounded.value) ∧
      (bounded.upper ≤ bounded.lower → bounded.value = bounded.lower)
  | .clamp =>
    bounded.lower ≤ bounded.upper → IsNearest bounded.lower bounded.upper number bounded.value

theorem isOnCircle_wrapInto {lower upper : α} (nonempty : lower < upper) (number : α) :
    IsOnCircle lower upper number (wrapInto lower upper number) where
  mem := wrapInto_mem nonempty number
  congruent := wrapInto_modEq nonempty number
  unique _ member congruent :=
    eq_of_modEq member (wrapInto_mem nonempty number)
      (congruent.trans (wrapInto_modEq nonempty number).symm)

theorem isNearest_clampInto {lower upper : α} (ordered : lower ≤ upper) (number : α) :
    IsNearest lower upper number (clampInto lower upper number) where
  mem := clampInto_mem ordered number
  nearest _ member different := clampInto_nearest number member different

/-- **A number that was set is settled**, whatever was stored before. -/
theorem settled_set (bounded : Bounded α) (number : α) : (bounded.set number).Settled number := by
  obtain ⟨lower, upper, mode, value⟩ := bounded
  cases mode with
  | wrap => exact ⟨fun nonempty => isOnCircle_wrapInto nonempty number,
      fun empty => wrapInto_of_le empty number⟩
  | clamp => exact fun ordered => isNearest_clampInto ordered number

/-- Every write sets some number in the range that it leaves. -/
theorem settled_write (bounded : Bounded α) (write : Write α) :
    (bounded.write write).Settled (bounded.written write) := by
  cases write with
  | set number => exact settled_set bounded number
  | shift delta => exact settled_set bounded (bounded.value + delta)
  | setBounds lower upper => exact settled_set { bounded with lower, upper } bounded.value

/-- **The stored number is settled after every history.** -/
theorem settled_writeAll {bounded : Bounded α} {number : α} (settled : bounded.Settled number)
    (writes : List (Write α)) :
    (bounded.writeAll writes).Settled (bounded.lastWritten number writes) := by
  induction writes generalizing bounded number with
  | nil => exact settled
  | cons write later ih => exact ih (settled_write bounded write)

/-- A settled number stays when it is written once more. -/
theorem Settled.set_value {bounded : Bounded α} {number : α} (settled : bounded.Settled number)
    (ordered : bounded.mode = .clamp → bounded.lower ≤ bounded.upper) :
    bounded.set bounded.value = bounded := by
  obtain ⟨lower, upper, mode, value⟩ := bounded
  have same : fit mode lower upper value = value := by
    cases mode with
    | wrap =>
        rcases lt_or_ge lower upper with nonempty | empty
        · exact wrapInto_of_mem (settled.1 nonempty).mem
        · have least : value = lower := settled.2 empty
          exact (wrapInto_of_le empty value).trans least.symm
    | clamp => exact clampInto_of_mem (settled (ordered rfl)).mem
  change (⟨lower, upper, mode, fit mode lower upper value⟩ : Bounded α) = _
  rw [same]

/-! ## Shifts round a circle -/

/-- A shift leads to where it would have led without the range. -/
theorem shift_set {bounded : Bounded α} (circle : bounded.mode = .wrap) (number delta : α) :
    (bounded.set number).shift delta = bounded.set (number + delta) := by
  obtain ⟨lower, upper, mode, value⟩ := bounded
  subst circle
  change (⟨lower, upper, .wrap, wrapInto lower upper (wrapInto lower upper number + delta)⟩ :
    Bounded α) = ⟨lower, upper, .wrap, wrapInto lower upper (number + delta)⟩
  rcases lt_or_ge lower upper with nonempty | empty
  · rw [wrapInto_congr ((wrapInto_modEq nonempty number).add_right delta)]
  · rw [wrapInto_of_le empty, wrapInto_of_le empty]

theorem writeAll_shifts_set {bounded : Bounded α} (circle : bounded.mode = .wrap) (number : α)
    (deltas : List α) :
    (bounded.set number).writeAll (deltas.map .shift) = bounded.set (number + deltas.sum) := by
  induction deltas generalizing number with
  | nil => rw [List.map_nil, writeAll_nil, List.sum_nil, add_zero]
  | cons delta later ih =>
      have first : (bounded.set number).write (.shift delta) = bounded.set (number + delta) :=
        shift_set circle number delta
      rw [List.map_cons, writeAll_cons, first, ih, List.sum_cons, add_assoc]

/-- **Round a circle shifts add up.** -/
theorem Settled.writeAll_shifts {bounded : Bounded α} {number : α}
    (settled : bounded.Settled number) (circle : bounded.mode = .wrap) (deltas : List α) :
    bounded.writeAll (deltas.map .shift) = bounded.shift deltas.sum := by
  have same : bounded.set bounded.value = bounded := by
    refine settled.set_value fun walls => ?_
    rw [circle] at walls
    cases walls
  calc bounded.writeAll (deltas.map .shift)
      = (bounded.set bounded.value).writeAll (deltas.map .shift) := by rw [same]
    _ = bounded.set (bounded.value + deltas.sum) := writeAll_shifts_set circle _ deltas

/-! ## Every history -/

/-- **What a bounded number holds after a history.**  The mode is the one it was made with,
and the range the one that was given last.  The stored number is settled: round a circle with
numbers it is the one number of the range that is congruent, modulo the length of the range,
to the number that was written last, and round a circle without numbers the lower end; between
walls in order it is the number of the range that is nearest to the one written last.  It can
be written again without a change, and round a circle shifts add up. -/
theorem writeAll_outcome (mode : BoundMode) (lower upper initial : α) (writes : List (Write α)) :
    let made := Bounded.make mode lower upper initial
    let bounded := made.writeAll writes
    bounded.mode = mode ∧ (bounded.lower, bounded.upper) = lastRange (lower, upper) writes ∧
      bounded.Settled (made.lastWritten initial writes) ∧
      ((mode = .clamp → bounded.lower ≤ bounded.upper) →
        bounded.set bounded.value = bounded) ∧
      (mode = .wrap → ∀ deltas : List α,
        bounded.writeAll (deltas.map .shift) = bounded.shift deltas.sum) := by
  intro made bounded
  have settled : bounded.Settled (made.lastWritten initial writes) :=
    settled_writeAll (settled_set ⟨lower, upper, mode, initial⟩ initial) writes
  have sameMode : bounded.mode = mode := mode_writeAll made writes
  refine ⟨sameMode, range_writeAll made writes, settled, ?_, ?_⟩
  · intro ordered
    exact settled.set_value fun walls => ordered (sameMode.symm.trans walls)
  · intro circle
    exact settled.writeAll_shifts (sameMode.trans circle)

/-- Whole numbers on circles, one of which is empty for a while, fractions on a circle of
degrees, and fractions between walls. -/
theorem writeAll_outcome_of_three :
    let places : Bounded Int := (Bounded.make .wrap (-3) 4 100).writeAll
      [.shift (-9), .setBounds 5 5, .set 7, .setBounds (-5) 5, .set (-15)]
    let degrees : Bounded ℚ := (Bounded.make .wrap (-180) 180 100).writeAll [.shift (725 / 2)]
    let step : Bounded ℚ := (Bounded.make .clamp 5 120 60).writeAll
      [.shift (1 / 3), .setBounds (1 / 2) (2 / 3)]
    (places.lower < places.upper ∧ IsOnCircle (-5) 5 (-15) places.value ∧
        places.set places.value = places ∧
        places.writeAll ([7, -20].map .shift) = places.shift (-13)) ∧
      (degrees.lower < degrees.upper ∧ IsOnCircle (-180) 180 (925 / 2) degrees.value) ∧
      (step.lower ≤ step.upper ∧ IsNearest (1 / 2) (2 / 3) (181 / 3) step.value) := by
  intro places degrees step
  refine ⟨?_, ?_, ?_⟩
  · have nonempty : places.lower < places.upper := by decide
    obtain ⟨-, -, settled, again, shifts⟩ := writeAll_outcome .wrap (-3) 4 (100 : Int)
      [.shift (-9), .setBounds 5 5, .set 7, .setBounds (-5) 5, .set (-15)]
    exact ⟨nonempty, settled.1 nonempty, again nofun, shifts rfl [7, -20]⟩
  · have nonempty : degrees.lower < degrees.upper := by decide +kernel
    have written : (Bounded.make .wrap (-180) 180 (100 : ℚ)).lastWritten 100
        [.shift (725 / 2)] = 925 / 2 := by decide +kernel
    obtain ⟨-, -, settled, -, -⟩ := writeAll_outcome .wrap (-180) 180 (100 : ℚ) [.shift (725 / 2)]
    rw [written] at settled
    exact ⟨nonempty, settled.1 nonempty⟩
  · have ordered : step.lower ≤ step.upper := by decide +kernel
    have written : (Bounded.make .clamp 5 120 (60 : ℚ)).lastWritten 60
        [.shift (1 / 3), .setBounds (1 / 2) (2 / 3)] = 181 / 3 := by decide +kernel
    obtain ⟨-, -, settled, -, -⟩ := writeAll_outcome .clamp 5 120 (60 : ℚ)
      [.shift (1 / 3), .setBounds (1 / 2) (2 / 3)]
    rw [written] at settled
    exact ⟨ordered, settled ordered⟩

end Bounded

end LSystemExplorer
