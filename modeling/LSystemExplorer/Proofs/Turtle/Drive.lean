import LSystemExplorer.Proofs.Turtle.Outcome
import LSystemExplorer.Turtle.Drive

/-!
# What a fault leaves behind

Among all symbols only a `]` without an open branch raises a fault, and it does so before
anything was changed (`taken_eq`).  So a turtle that is driven on after faults is, at every
moment, the turtle that has not seen the symbols at fault at all.  They can be left out
afterwards, and the drive then goes through without a fault, to the same turtle and with the
same lines (`drive_accepted`).  Which later `]` raise faults is no different either, since
this hangs on the number of open branches alone.

A drive without faults is a walk (`walk_of_drive`).
-/

set_option autoImplicit false

namespace LSystemExplorer.Turtle

variable {α : Type}

/-! ## What came of a drive -/

/-- The symbols of a drive that raised no fault, each with its place. -/
def accepted (steps : List (Nat × Symbol))
    (results : List (Except Underflow (Option (Segment α)))) : List (Nat × Symbol) :=
  ((steps.zip results).filter fun entry => entry.2.isOk).map Prod.fst

/-- The lines that were drawn in a drive. -/
def drawn (results : List (Except Underflow (Option (Segment α)))) : List (Segment α) :=
  results.flatMap fun result =>
    match result with
    | .ok line? => line?.toList
    | .error _ => []

/-- A fault draws nothing. -/
theorem drawn_filter (results : List (Except Underflow (Option (Segment α)))) :
    drawn (results.filter Except.isOk) = drawn results := by
  induction results with
  | nil => rfl
  | cons result later ih =>
      cases result with
      | ok line? => exact congrArg (line?.toList ++ ·) ih
      | error underflow => exact ih

variable [Scalar α] [Compass α]

/-! ## One symbol -/

/-- **A symbol is heeded, unless it is a `]` without an open branch: this raises a fault and
leaves the turtle as it was.** -/
theorem taken_eq (pace : Pace α) (turtle : Turtle α) (index : Nat) (symbol : Symbol) :
    turtle.taken pace index symbol =
      if symbol = ']' ∧ turtle.depth = 0 then (.error ⟨index⟩, turtle)
      else (.ok (turtle.heed pace symbol).2, (turtle.heed pace symbol).1) := by
  cases told : Command.ofSymbol? symbol with
  | none =>
      have other : symbol ≠ ']' := by
        rintro rfl
        cases told
      rw [if_neg fun failing => other failing.1, taken, take, heed, told]
      rfl
  | some command =>
      obtain rfl := Command.ofSymbol?_eq_some_iff.mp told
      cases command with
      | pop =>
          obtain ⟨cursor, branches⟩ := turtle
          cases branches <;> rfl
      | _ => rfl

theorem taken_of_fault (pace : Pace α) {turtle : Turtle α} {symbol : Symbol}
    (fault : symbol = ']' ∧ turtle.depth = 0) (index : Nat) :
    turtle.taken pace index symbol = (.error ⟨index⟩, turtle) := by
  rw [taken_eq, if_pos fault]

theorem taken_of_heeded (pace : Pace α) {turtle : Turtle α} {symbol : Symbol}
    (heeded : ¬ (symbol = ']' ∧ turtle.depth = 0)) (index : Nat) :
    turtle.taken pace index symbol =
      (.ok (turtle.heed pace symbol).2, (turtle.heed pace symbol).1) := by
  rw [taken_eq, if_neg heeded]

/-! ## Several symbols -/

theorem drive_cons (pace : Pace α) (turtle : Turtle α) (index : Nat) (symbol : Symbol)
    (later : List (Nat × Symbol)) :
    turtle.drive pace ((index, symbol) :: later) =
      ((turtle.taken pace index symbol).1 ::
          ((turtle.taken pace index symbol).2.drive pace later).1,
        ((turtle.taken pace index symbol).2.drive pace later).2) :=
  rfl

theorem drive_append (pace : Pace α) (turtle : Turtle α) (front back : List (Nat × Symbol)) :
    turtle.drive pace (front ++ back) =
      ((turtle.drive pace front).1 ++ ((turtle.drive pace front).2.drive pace back).1,
        ((turtle.drive pace front).2.drive pace back).2) := by
  induction front generalizing turtle with
  | nil => rfl
  | cons step later ih =>
      obtain ⟨index, symbol⟩ := step
      rw [List.cons_append, drive_cons, drive_cons, ih]
      rfl

/-- Every symbol leads to something. -/
theorem length_drive (pace : Pace α) (turtle : Turtle α) (steps : List (Nat × Symbol)) :
    (turtle.drive pace steps).1.length = steps.length := by
  induction steps generalizing turtle with
  | nil => rfl
  | cons step later ih => exact congrArg (· + 1) (ih _)

/-- What each symbol leads to is decided by the turtle that the symbols before it left. -/
theorem drive_getElem? (pace : Pace α) (turtle : Turtle α) {steps : List (Nat × Symbol)}
    {place index : Nat} {symbol : Symbol} (here : steps[place]? = some (index, symbol)) :
    let before := (turtle.drive pace (steps.take place)).2
    (turtle.drive pace steps).1[place]? = some (before.taken pace index symbol).1 ∧
      (turtle.drive pace (steps.take (place + 1))).2 = (before.taken pace index symbol).2 := by
  intro before
  obtain ⟨within, entry⟩ := List.getElem?_eq_some_iff.mp here
  have upTo : steps.take (place + 1) = steps.take place ++ [(index, symbol)] := by
    rw [List.take_add_one, here, Option.toList_some]
  have split : steps = steps.take place ++ (index, symbol) :: steps.drop (place + 1) := by
    rw [← entry, List.getElem_cons_drop, List.take_append_drop]
  have length : (turtle.drive pace (steps.take place)).1.length = place := by
    rw [length_drive, List.length_take_of_le within.le]
  constructor
  · conv_lhs => rw [split]
    rw [drive_append, drive_cons, List.getElem?_append_right length.le, length, Nat.sub_self]
    rfl
  · rw [upTo, drive_append]
    rfl

/-- **Leaving out the symbols at fault changes nothing but that there are no faults.** -/
theorem drive_accepted (pace : Pace α) (turtle : Turtle α) (steps : List (Nat × Symbol)) :
    turtle.drive pace (accepted steps (turtle.drive pace steps).1) =
      ((turtle.drive pace steps).1.filter Except.isOk, (turtle.drive pace steps).2) := by
  induction steps generalizing turtle with
  | nil => rfl
  | cons step later ih =>
      obtain ⟨index, symbol⟩ := step
      by_cases fault : symbol = ']' ∧ turtle.depth = 0
      · rw [drive_cons, taken_of_fault pace fault]
        exact ih turtle
      · have taken := taken_of_heeded pace fault index
        have kept : ∀ results,
            accepted ((index, symbol) :: later)
                (.ok (turtle.heed pace symbol).2 :: results) =
              (index, symbol) :: accepted later results := fun _ => rfl
        rw [drive_cons, taken]
        dsimp only
        rw [kept, drive_cons, taken]
        dsimp only
        rw [ih]
        rfl

/-- **A drive without faults is a walk.** -/
theorem walk_of_drive (pace : Pace α) {turtle : Turtle α} {steps : List (Nat × Symbol)}
    (smooth : ∀ result ∈ (turtle.drive pace steps).1, result.isOk) :
    walk pace turtle (steps.map Prod.snd) =
      .ok ((turtle.drive pace steps).2, drawn (turtle.drive pace steps).1) := by
  refine (walk_eq_ok_iff pace).mpr ?_
  induction steps generalizing turtle with
  | nil => exact ⟨rfl, rfl, rfl⟩
  | cons step later ih =>
      obtain ⟨index, symbol⟩ := step
      rw [drive_cons] at smooth ⊢
      have heeded : ¬ (symbol = ']' ∧ turtle.depth = 0) := by
        intro fault
        have raised := smooth _ (List.mem_cons_self ..)
        rw [taken_of_fault pace fault] at raised
        cases raised
      rw [taken_of_heeded pace heeded index] at smooth ⊢
      obtain ⟨matched, last, lines⟩ := ih fun result member =>
        smooth result (List.mem_cons_of_mem _ member)
      rw [depth_heed] at matched
      refine ⟨unmatched?_cons_eq_none.mpr ⟨heeded, matched⟩, last, ?_⟩
      exact congrArg ((turtle.heed pace symbol).2.toList ++ ·) lines

/-! ## Every drive -/

/-- **A fault leaves the turtle as it was.**  In a drive that goes on after faults a fault is
raised exactly by the `]` at which no branch is open; it names the place it was given and
leaves the turtle as it was.  When just these symbols are left out, no fault is raised, the
turtle ends where it ended with them, with the same branches open, and it draws the same
lines; so the symbols that are left can be walked along. -/
theorem drive_outcome (pace : Pace α) (turtle : Turtle α) (steps : List (Nat × Symbol)) :
    let driven := turtle.drive pace steps
    let kept := accepted steps driven.1
    let smooth := turtle.drive pace kept
    driven.1.length = steps.length ∧
      (∀ place index symbol, steps[place]? = some (index, symbol) →
        let before := (turtle.drive pace (steps.take place)).2
        let after := (turtle.drive pace (steps.take (place + 1))).2
        (∀ underflow, driven.1[place]? = some (.error underflow) ↔
            symbol = ']' ∧ before.depth = 0 ∧ underflow = ⟨index⟩) ∧
          (∀ underflow, driven.1[place]? = some (.error underflow) → after = before)) ∧
      (∀ result ∈ smooth.1, result.isOk) ∧ smooth.2 = driven.2 ∧
      drawn smooth.1 = drawn driven.1 ∧
      walk pace turtle (kept.map Prod.snd) = .ok (driven.2, drawn driven.1) := by
  intro driven kept smooth
  have same : smooth = (driven.1.filter Except.isOk, driven.2) :=
    drive_accepted pace turtle steps
  have ok : ∀ result ∈ smooth.1, result.isOk := by
    intro result member
    rw [same] at member
    exact (List.mem_filter.mp member).2
  have lines : drawn smooth.1 = drawn driven.1 := by
    rw [same]
    exact drawn_filter driven.1
  have last : smooth.2 = driven.2 := by rw [same]
  refine ⟨length_drive pace turtle steps, fun place index symbol here => ?_, ok, last, lines, ?_⟩
  · intro before after
    obtain ⟨led, left⟩ := drive_getElem? pace turtle here
    have led : driven.1[place]? = some (before.taken pace index symbol).1 := led
    have left : after = (before.taken pace index symbol).2 := left
    rw [led, left]
    by_cases fault : symbol = ']' ∧ before.depth = 0
    · rw [taken_of_fault pace fault]
      refine ⟨fun underflow => ?_, fun _ _ => rfl⟩
      simp [fault, eq_comm]
    · rw [taken_of_heeded pace fault]
      refine ⟨fun underflow => ?_, nofun⟩
      constructor
      · exact nofun
      · rintro ⟨closes, none, -⟩
        exact absurd ⟨closes, none⟩ fault
  · have walked := walk_of_drive pace ok
    rw [← last, ← lines]
    exact walked

/-- Of three `]` the first and the last raise faults, under the places they were given.  The
one in between closes the branch that was opened after the first fault. -/
theorem drive_outcome_stumbling :
    let turtle : Turtle Float := .start (.facing ⟨0.5, 1.0⟩ 90.0)
    let steps : List (Nat × Symbol) :=
      [(7, ']'), (0, 'F'), (1, '['), (1, 'é'), (2, '-'), (3, 'F'), (4, ']'), (9, ']'), (5, 'F')]
    let driven := turtle.drive ⟨1.5, 25.0⟩ steps
    steps[7]? = some (9, ']') ∧ driven.1[7]? = some (.error ⟨9⟩) ∧
      (turtle.drive ⟨1.5, 25.0⟩ (steps.take 8)).2 =
        (turtle.drive ⟨1.5, 25.0⟩ (steps.take 7)).2 ∧
      walk ⟨1.5, 25.0⟩ turtle "F[é-F]F".toList = .ok (driven.2, drawn driven.1) := by
  intro turtle steps driven
  have here : steps[7]? = some (9, ']') := rfl
  obtain ⟨-, faults, -, -, -, walked⟩ := drive_outcome ⟨1.5, 25.0⟩ turtle steps
  obtain ⟨raised, left⟩ := faults 7 9 ']' here
  have fault : driven.1[7]? = some (.error ⟨9⟩) := (raised ⟨9⟩).mpr ⟨rfl, rfl, rfl⟩
  exact ⟨here, fault, left ⟨9⟩ fault, walked⟩

end LSystemExplorer.Turtle
