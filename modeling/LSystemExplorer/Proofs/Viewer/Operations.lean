import LSystemExplorer.Proofs.Viewer.History

/-!
# Operations as data

An action says where something comes from: a key, a frame or a direct call.  What it does to
the viewer is one of a few operations, and to perform it is to carry this operation out
(`perform_eq_operate`).

Some operations only turn the drawing, and some only bring the scene up to date.  Neither kind
has a say in which model is selected, or in whether the user wants to leave.  So after a run
these two depend on the other operations alone, the ones that steer (`selection_operateAll`,
`hasQuit_operateAll`), however many of the rest are mixed in.
-/

set_option autoImplicit false

namespace LSystemExplorer

variable {α : Type}

/-! ## Operations -/

/-- What an action does to the viewer. -/
inductive Operation (α : Type)
  | stay
  | quit
  | move (delta : Int)
  | select (place : Nat)
  | turn (delta : α)
  | setBack
  | setBackAndReport
  | draw (viewport : Viewport α)
  deriving DecidableEq

/-- The operation that a key asks for. -/
def Keystroke.operation [Scalar α] (keystroke : Keystroke) : Operation α :=
  match keystroke.key with
  | .character 'q' | .character 'Q' | .escape => .quit
  | .left => .move (-1)
  | .right => .move 1
  | .up => .turn keystroke.angleChange
  | .down => .turn (-keystroke.angleChange)
  | .character 'r' | .character 'R' => .setBackAndReport
  | .character _ | .other => .stay

/-- The operation that an action comes down to. -/
def Action.operation [Scalar α] : Action α → Operation α
  | .press keystroke => keystroke.operation
  | .shift delta => .move delta
  | .select place => .select place
  | .adjust delta => .turn delta
  | .resetAngle => .setBack
  | .refresh viewport => .draw viewport
  | .present area => .draw (Viewport.ofPane (Panes.ofArea area).drawing)

namespace Operation

/-- How far the operation turns the drawing, if that is what it does. -/
def turn? : Operation α → Option α
  | .turn delta => some delta
  | _ => none

/-- The operation brings the scene up to date and does nothing else. -/
def draws : Operation α → Bool
  | .draw _ => true
  | _ => false

/-- The operation neither turns the drawing nor only brings the scene up to date. -/
def steers : Operation α → Bool
  | .turn _ | .draw _ => false
  | _ => true

/-- The operation asks to leave. -/
def quits : Operation α → Bool
  | .quit => true
  | _ => false

/-- The operations that steer. -/
def steering (operations : List (Operation α)) : List (Operation α) :=
  operations.filter steers

/-- The operations that do more than bring the scene up to date. -/
def withoutDrawing (operations : List (Operation α)) : List (Operation α) :=
  operations.filter fun operation => !operation.draws

/-- What the operation makes of the selection. -/
def reselect (selection : Bounded Int) : Operation α → Bounded Int
  | .move delta => selection.shift delta
  | .select place => selection.set (signedPlace place)
  | _ => selection

/-! ## Leaving operations out -/

variable {operation : Operation α}

theorem turn?_of_draws (draws : operation.draws) : operation.turn? = none := by
  cases operation with
  | draw => rfl
  | _ => cases draws

theorem not_steers_of_draws (draws : operation.draws) : operation.steers = false := by
  cases operation with
  | draw => rfl
  | _ => cases draws

theorem reselect_of_not_steers (hidden : operation.steers = false) (selection : Bounded Int) :
    operation.reselect selection = selection := by
  cases operation with
  | turn => rfl
  | draw => rfl
  | _ => cases hidden

theorem quits_of_not_steers (hidden : operation.steers = false) : operation.quits = false := by
  cases operation with
  | turn => rfl
  | draw => rfl
  | _ => cases hidden

theorem steering_cons_of_steers (steers : operation.steers) (later : List (Operation α)) :
    steering (operation :: later) = operation :: steering later :=
  List.filter_cons_of_pos steers

theorem steering_cons_of_not_steers (hidden : operation.steers = false)
    (later : List (Operation α)) : steering (operation :: later) = steering later :=
  List.filter_cons_of_neg (Bool.eq_false_iff.mp hidden)

theorem withoutDrawing_cons_of_draws (draws : operation.draws) (later : List (Operation α)) :
    withoutDrawing (operation :: later) = withoutDrawing later :=
  List.filter_cons_of_neg (by simp [draws])

theorem withoutDrawing_cons_of_not_draws (shown : operation.draws = false)
    (later : List (Operation α)) :
    withoutDrawing (operation :: later) = operation :: withoutDrawing later :=
  List.filter_cons_of_pos (by simp [shown])

theorem withoutDrawing_append (operations later : List (Operation α)) :
    withoutDrawing (operations ++ later) = withoutDrawing operations ++ withoutDrawing later :=
  List.filter_append ..

/-- Operations that only draw are not among those that steer. -/
theorem steering_withoutDrawing (operations : List (Operation α)) :
    steering (withoutDrawing operations) = steering operations := by
  rw [steering, withoutDrawing, List.filter_filter]
  congr 1
  funext operation
  cases operation <;> rfl

end Operation

namespace Viewer

variable [Scalar α]

/-! ## The wish to leave -/

theorem hasQuit_report (viewer : Viewer α) (before : α) (status : Status α) :
    (viewer.report before status).hasQuit = viewer.hasQuit := by
  unfold report
  split <;> rfl

theorem hasQuit_shift (viewer : Viewer α) (delta : Int) :
    (viewer.shift delta).hasQuit = viewer.hasQuit := by
  unfold shift
  dsimp only
  split <;> rfl

/-! ## Operations carried out -/

variable [Compass α]

/-- Carry out an operation. -/
def operate (viewer : Viewer α) : Operation α → Viewer α
  | .stay => viewer
  | .quit => { viewer with hasQuit := true }
  | .move delta => viewer.shift delta
  | .select place => viewer.select place
  | .turn delta => viewer.adjust delta
  | .setBack => viewer.resetAngle
  | .setBackAndReport => viewer.resetAndReport
  | .draw viewport => viewer.refresh viewport

/-- Carry out operations one after the other. -/
def operateAll (viewer : Viewer α) (operations : List (Operation α)) : Viewer α :=
  operations.foldl operate viewer

theorem press_eq_operate (viewer : Viewer α) (keystroke : Keystroke) :
    viewer.press keystroke = viewer.operate keystroke.operation := by
  obtain ⟨key, control⟩ := keystroke
  unfold press Keystroke.operation
  dsimp only
  split <;> simp only [operate]

/-- **To perform an action is to carry out its operation.** -/
theorem perform_eq_operate (viewer : Viewer α) (action : Action α) :
    viewer.perform action = viewer.operate action.operation := by
  cases action with
  | press keystroke => exact press_eq_operate viewer keystroke
  | _ => rfl

theorem performAll_eq_operateAll (viewer : Viewer α) (history : List (Action α)) :
    viewer.performAll history = viewer.operateAll (history.map Action.operation) := by
  rw [operateAll, List.foldl_map, performAll]
  congr 1
  funext viewer action
  exact perform_eq_operate viewer action

theorem operate_step (viewer : Viewer α) (operation : Operation α) :
    Step viewer (viewer.operate operation) := by
  cases operation with
  | stay => exact .stay
  | quit => exact .quit
  | move delta => exact .shift delta
  | select place => exact .select place
  | turn delta => exact .adjust delta
  | setBack => exact .resetAngle
  | setBackAndReport => exact .resetAndReport
  | draw viewport => exact .refresh viewport

/-! ## What steers -/

theorem hasQuit_refresh (viewer : Viewer α) (viewport : Viewport α) :
    (viewer.refresh viewport).hasQuit = viewer.hasQuit := by
  unfold refresh
  dsimp only
  split <;> rfl

/-- The selection after an operation depends on the selection alone. -/
theorem selection_operate (viewer : Viewer α) (operation : Operation α) :
    (viewer.operate operation).selection = operation.reselect viewer.selection := by
  cases operation with
  | stay => rfl
  | quit => rfl
  | move delta => exact selection_shift viewer delta
  | select place => rfl
  | turn delta => exact selection_report _ _ _
  | setBack => rfl
  | setBackAndReport => exact selection_report _ _ _
  | draw viewport => exact selection_refresh viewer viewport

theorem hasQuit_operate (viewer : Viewer α) (operation : Operation α) :
    (viewer.operate operation).hasQuit = (viewer.hasQuit || operation.quits) := by
  cases operation with
  | quit => exact (Bool.or_true _).symm
  | stay => exact (Bool.or_false _).symm
  | move delta => exact (hasQuit_shift viewer delta).trans (Bool.or_false _).symm
  | select place => exact (Bool.or_false _).symm
  | turn delta => exact (hasQuit_report _ _ _).trans (Bool.or_false _).symm
  | setBack => exact (Bool.or_false _).symm
  | setBackAndReport => exact (hasQuit_report _ _ _).trans (Bool.or_false _).symm
  | draw viewport => exact (hasQuit_refresh viewer viewport).trans (Bool.or_false _).symm

/-- **Which model is selected depends on the operations that steer.** -/
theorem selection_operateAll (viewer : Viewer α) (operations : List (Operation α)) :
    (viewer.operateAll operations).selection =
      (Operation.steering operations).foldl Operation.reselect viewer.selection := by
  induction operations generalizing viewer with
  | nil => rfl
  | cons operation later ih =>
      have first : (viewer.operateAll (operation :: later)).selection =
          (Operation.steering later).foldl Operation.reselect
            (operation.reselect viewer.selection) := by
        rw [← selection_operate]
        exact ih (viewer.operate operation)
      rw [first]
      cases steers : operation.steers with
      | true => rw [Operation.steering_cons_of_steers steers, List.foldl_cons]
      | false =>
          rw [Operation.steering_cons_of_not_steers steers,
            Operation.reselect_of_not_steers steers]

/-- **Whether the user wants to leave depends on the operations that steer.** -/
theorem hasQuit_operateAll (viewer : Viewer α) (operations : List (Operation α)) :
    (viewer.operateAll operations).hasQuit =
      (viewer.hasQuit || (Operation.steering operations).any Operation.quits) := by
  induction operations generalizing viewer with
  | nil => exact (Bool.or_false _).symm
  | cons operation later ih =>
      have first : (viewer.operateAll (operation :: later)).hasQuit =
          (viewer.hasQuit || operation.quits ||
            (Operation.steering later).any Operation.quits) := by
        rw [← hasQuit_operate]
        exact ih (viewer.operate operation)
      rw [first]
      cases steers : operation.steers with
      | true => rw [Operation.steering_cons_of_steers steers, List.any_cons, Bool.or_assoc]
      | false =>
          rw [Operation.steering_cons_of_not_steers steers,
            Operation.quits_of_not_steers steers, Bool.or_false]

end Viewer

end LSystemExplorer
