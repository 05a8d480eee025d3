import LSystemExplorer.Proofs.Viewer.Freshness
import LSystemExplorer.Proofs.Viewer.Operations
import LSystemExplorer.Proofs.Viewer.Reach

/-!
# What the angle remembers

Some operations activate a model: they set the angle back to the one that the model comes
with.  So what the user did to the angle before is forgotten, and the angle is the one of the
model, changed by the turns since then, each of which is cut off at the ends of the range
(`angleAfter`).  To go on to another model activates it.  A selection that stands at the wall
and is told to go further activates nothing, and leaves all but the report as it is
(`shift_eq_of_quiet`); in a circle even a way once round activates.

Which operations activate depends on the selection alone (`activates_congr`), and this is
moved by operations that neither turn nor draw.  So two runs whose steering operations are the
same activate the same models at the same times.  They end at the same angle as soon as they
turn alike after the last of these times, whatever they did before and whenever they drew
(`performAll_since_activation`).  Nothing is asked of the numbers here: all of this holds of
exact angles and of rounded ones.
-/

set_option autoImplicit false

namespace LSystemExplorer.Viewer

variable {α : Type}

theorem model_congr {viewer other : Viewer α} (catalogs : viewer.catalog = other.catalog)
    (selections : viewer.selection = other.selection) : viewer.model = other.model := by
  rw [model, model, place, place, catalogs, selections]

/-! ## Activating operations -/

variable [Scalar α]

/-- The operation sets the angle back to the one that the model comes with. -/
def activates (viewer : Viewer α) : Operation α → Bool
  | .move delta => viewer.wraps || (viewer.shift delta).place != viewer.place
  | .select _ | .setBack | .setBackAndReport => true
  | .stay | .quit | .turn _ | .draw _ => false

/-- Only the selection decides what activates. -/
theorem activates_congr {viewer other : Viewer α} (same : viewer.selection = other.selection)
    (operation : Operation α) : viewer.activates operation = other.activates operation := by
  cases operation with
  | move delta =>
      have moved : (viewer.shift delta).selection = (other.shift delta).selection := by
        rw [selection_shift, selection_shift, same]
      simp only [activates, wraps, place, moved, same]
  | _ => rfl

theorem activates_of_draws (viewer : Viewer α) {operation : Operation α}
    (draws : operation.draws) : viewer.activates operation = false := by
  cases operation with
  | draw => rfl
  | _ => cases draws

/-- A move activates the model it comes to, or it stays at the wall and only reports it. -/
theorem shift_cases (viewer : Viewer α) (delta : Int) :
    (viewer.activates (.move delta) ∧
      viewer.shift delta = activate { viewer with selection := viewer.selection.shift delta }) ∨
    (viewer.activates (.move delta) = false ∧ (viewer.shift delta).place = viewer.place ∧
      viewer.shift delta = { viewer with
        selection := viewer.selection.shift delta, status := (viewer.shift delta).status }) := by
  have moved : (viewer.shift delta).place =
      place { viewer with selection := viewer.selection.shift delta } := by
    rw [place, selection_shift]
    rfl
  have active : viewer.activates (.move delta) =
      !((viewer.shift delta).place = viewer.place && !viewer.wraps) := by
    rw [activates, Bool.not_and, Bool.not_not, Bool.or_comm, bne, beq_eq_decide]
  rw [active, moved]
  unfold shift
  dsimp only
  split
  · rename_i stays
    rw [stays]
    rw [Bool.and_eq_true, decide_eq_true_iff] at stays
    exact Or.inr ⟨rfl, stays.1, rfl⟩
  · rename_i goes
    rw [Bool.not_eq_true] at goes
    rw [goes]
    exact Or.inl ⟨rfl, rfl⟩

variable {catalog : Catalog α} {mode : BoundMode} {viewer : Viewer α}

/-- **A move that activates nothing leaves all but the report as it is.** -/
theorem shift_eq_of_quiet [Compass α] (selecting : Selecting catalog mode viewer) {delta : Int}
    (quiet : viewer.activates (.move delta) = false) :
    viewer.shift delta = { viewer with status := (viewer.shift delta).status } := by
  rcases viewer.shift_cases delta with ⟨active, -⟩ | ⟨-, stays, moved⟩
  · rw [active] at quiet
    cases quiet
  · have after : Selecting catalog mode (viewer.shift delta) :=
      selecting.of_step (.shift delta)
    have sameValue : (viewer.selection.shift delta).value = viewer.selection.value := by
      rw [← selection_shift, after.value_eq, selecting.value_eq, stays]
    have sameSelection : viewer.selection.shift delta = viewer.selection := by
      show { viewer.selection with value := (viewer.selection.shift delta).value } = _
      rw [sameValue]
    rw [sameSelection] at moved
    exact moved

/-! ## The angle after an operation -/

/-- The angle that a model comes with, changed by the turns among some operations.  It is
brought into its range at first and after every turn. -/
def angleAfter (model : Model α) (operations : List (Operation α)) : α :=
  (operations.filterMap Operation.turn?).foldl (fun angle turn => AngleRange.fit (angle + turn))
    (AngleRange.fit model.angleStep)

theorem angleAfter_append_turn (model : Model α) (operations : List (Operation α)) (turn : α) :
    angleAfter model (operations ++ [.turn turn]) =
      AngleRange.fit (angleAfter model operations + turn) := by
  unfold angleAfter
  rw [List.filterMap_append, List.foldl_append]
  rfl

theorem angleAfter_append_of_turn?_eq_none (model : Model α) (operations : List (Operation α))
    {operation : Operation α} (none : operation.turn? = none) :
    angleAfter model (operations ++ [operation]) = angleAfter model operations := by
  unfold angleAfter
  rw [List.filterMap_append, List.filterMap_cons_none none, List.filterMap_nil, List.append_nil]

/-- Operations that only draw turn nothing. -/
theorem angleAfter_withoutDrawing (model : Model α) (operations : List (Operation α)) :
    angleAfter model (Operation.withoutDrawing operations) = angleAfter model operations := by
  unfold angleAfter Operation.withoutDrawing
  rw [List.filterMap_filter]
  congr 2
  funext operation
  cases draws : operation.draws with
  | true => exact (Operation.turn?_of_draws draws).symm
  | false => rfl

variable [Compass α] {operation : Operation α}

/-- A model is shown with the angle it comes with once the angle was set back. -/
theorem Fresh.angle_resetAngle (fresh : Fresh catalog viewer) :
    viewer.resetAngle.angle = angleAfter viewer.model [] := by
  obtain ⟨number, inRange⟩ := fresh.turning
  rw [angle, resetAngle, inRange]
  rfl

/-- What activates a model sets the angle back. -/
theorem Fresh.angle_operate_of_activates (fresh : Fresh catalog viewer)
    (active : viewer.activates operation) :
    (viewer.operate operation).angle = angleAfter (viewer.operate operation).model [] := by
  have selected (selection : Bounded Int) : Fresh catalog { viewer with selection } :=
    fresh.of_keepsScene (keepsScene_selection viewer selection)
  cases operation with
  | move delta =>
      rcases viewer.shift_cases delta with ⟨-, moved⟩ | ⟨quiet, -⟩
      · rw [operate, moved]
        exact (selected _).angle_resetAngle
      · rw [active] at quiet
        cases quiet
  | select place => exact (selected _).angle_resetAngle
  | setBack => exact fresh.angle_resetAngle
  | setBackAndReport =>
      have sameModel : viewer.resetAndReport.model = viewer.model :=
        model_congr (keepsScene_resetAndReport viewer).catalog (selection_report _ _ _)
      rw [operate, sameModel, resetAndReport, angle_report]
      exact fresh.angle_resetAngle
  | _ => cases active

theorem Selecting.selection_operate_of_quiet (selecting : Selecting catalog mode viewer)
    (quiet : viewer.activates operation = false) :
    (viewer.operate operation).selection = viewer.selection := by
  cases operation with
  | move delta =>
      rw [operate, shift_eq_of_quiet selecting quiet]
  | select => cases quiet
  | _ => exact selection_operate viewer _

/-- Without an activation the angle is changed by a turn only. -/
theorem Selecting.angle_operate_of_quiet (selecting : Selecting catalog mode viewer)
    (quiet : viewer.activates operation = false) (none : operation.turn? = none) :
    (viewer.operate operation).angle = viewer.angle := by
  cases operation with
  | stay => rfl
  | quit => rfl
  | move delta =>
      rw [operate, shift_eq_of_quiet selecting quiet]
      rfl
  | turn delta => cases none
  | draw viewport => exact angle_refresh viewer viewport
  | _ => cases quiet

/-- A turn is cut off at the ends of the range. -/
theorem Fresh.angle_adjust (fresh : Fresh catalog viewer) (delta : α) :
    (viewer.adjust delta).angle = AngleRange.fit (viewer.angle + delta) := by
  obtain ⟨number, inRange⟩ := fresh.turning
  rw [angle, turning_adjust, angle, inRange]
  rfl

/-- Without an activation an operation counts among the recent ones. -/
theorem Fresh.angleAfter_operate_of_quiet (fresh : Fresh catalog viewer)
    (selecting : Selecting catalog mode viewer)
    (quiet : viewer.activates operation = false) {model : Model α}
    {recent : List (Operation α)} (before : viewer.angle = angleAfter model recent) :
    (viewer.operate operation).angle = angleAfter model (recent ++ [operation]) := by
  cases operation with
  | turn delta => rw [operate, fresh.angle_adjust, before, angleAfter_append_turn]
  | _ =>
      rw [angleAfter_append_of_turn?_eq_none model recent rfl, ← before]
      exact selecting.angle_operate_of_quiet quiet rfl

/-! ## The angle after a run -/

/-- What was done after the last activation, if `recent` was done before that. -/
def sinceActivation (viewer : Viewer α) (recent : List (Operation α)) :
    List (Operation α) → List (Operation α)
  | [] => recent
  | operation :: later =>
    (viewer.operate operation).sinceActivation
      (if viewer.activates operation then [] else recent ++ [operation]) later

/-- The viewer is at a place of its catalog, and its angle is that of the model there, changed
by the recent turns. -/
structure Remembering (catalog : Catalog α) (mode : BoundMode) (recent : List (Operation α))
    (viewer : Viewer α) : Prop where
  selecting : Selecting catalog mode viewer
  fresh : Fresh catalog viewer
  angle : viewer.angle = angleAfter viewer.model recent

namespace Remembering

variable {recent : List (Operation α)}

/-- A viewer that starts has just activated a model. -/
theorem start (catalog : Catalog α) (mode : BoundMode) (place : Nat) :
    Remembering catalog mode [] (Viewer.start catalog mode place) :=
  ⟨selecting_start catalog mode place, fresh_start catalog mode place, rfl⟩

theorem operate (remembering : Remembering catalog mode recent viewer) (operation : Operation α) :
    Remembering catalog mode (if viewer.activates operation then [] else recent ++ [operation])
      (viewer.operate operation) := by
  obtain ⟨selecting, fresh, before⟩ := remembering
  have step := operate_step viewer operation
  refine ⟨selecting.of_step step, fresh.of_step step, ?_⟩
  cases active : viewer.activates operation with
  | true => exact fresh.angle_operate_of_activates active
  | false =>
      have sameModel : (viewer.operate operation).model = viewer.model :=
        model_congr step.catalog (selecting.selection_operate_of_quiet active)
      rw [sameModel]
      exact fresh.angleAfter_operate_of_quiet selecting active before

/-- **The angle remembers what was done after the last activation, and nothing else.** -/
theorem operateAll (remembering : Remembering catalog mode recent viewer)
    (operations : List (Operation α)) :
    Remembering catalog mode (viewer.sinceActivation recent operations)
      (viewer.operateAll operations) := by
  induction operations generalizing viewer recent with
  | nil => exact remembering
  | cons operation later ih => exact ih (remembering.operate operation)

end Remembering

/-- Drawing activates nothing, and so makes no difference to what was done after the last
activation. -/
theorem withoutDrawing_sinceActivation {other : Viewer α}
    (same : viewer.selection = other.selection) (recent operations : List (Operation α)) :
    Operation.withoutDrawing (viewer.sinceActivation recent operations) =
      other.sinceActivation (Operation.withoutDrawing recent)
        (Operation.withoutDrawing operations) := by
  induction operations generalizing viewer other recent with
  | nil => rfl
  | cons operation later ih =>
      cases draws : operation.draws with
      | true =>
          have unmoved : (viewer.operate operation).selection = other.selection := by
            rw [selection_operate,
              Operation.reselect_of_not_steers (Operation.not_steers_of_draws draws), same]
          have hidden : Operation.withoutDrawing (recent ++ [operation]) =
              Operation.withoutDrawing recent := by
            rw [Operation.withoutDrawing_append, Operation.withoutDrawing_cons_of_draws draws]
            exact List.append_nil _
          rw [Operation.withoutDrawing_cons_of_draws draws, sinceActivation,
            viewer.activates_of_draws draws, ih unmoved]
          exact congrArg (other.sinceActivation · _) hidden
      | false =>
          have moved :
              (viewer.operate operation).selection = (other.operate operation).selection := by
            rw [selection_operate, selection_operate, same]
          rw [Operation.withoutDrawing_cons_of_not_draws draws, sinceActivation, sinceActivation,
            ih moved, activates_congr same]
          cases other.activates operation with
          | true => rfl
          | false =>
              have kept : Operation.withoutDrawing (recent ++ [operation]) =
                  Operation.withoutDrawing recent ++ [operation] := by
                rw [Operation.withoutDrawing_append,
                  Operation.withoutDrawing_cons_of_not_draws draws]
                rfl
              exact congrArg (other.operate operation |>.sinceActivation · _) kept

/-! ## Two runs -/

/-- Runs that steer alike, and turn alike after the last activation, end alike. -/
theorem Remembering.operateAll_forgets {recent operations operations' : List (Operation α)}
    (remembering : Remembering catalog mode recent viewer)
    (steering : Operation.steering operations = Operation.steering operations')
    (turning : Operation.withoutDrawing (viewer.sinceActivation recent operations) =
      Operation.withoutDrawing (viewer.sinceActivation recent operations')) :
    (viewer.operateAll operations).place = (viewer.operateAll operations').place ∧
      (viewer.operateAll operations).angle = (viewer.operateAll operations').angle ∧
      (viewer.operateAll operations).hasQuit = (viewer.operateAll operations').hasQuit := by
  have first := remembering.operateAll operations
  have second := remembering.operateAll operations'
  have selections :
      (viewer.operateAll operations).selection = (viewer.operateAll operations').selection := by
    rw [selection_operateAll, selection_operateAll, steering]
  have models : (viewer.operateAll operations).model = (viewer.operateAll operations').model :=
    model_congr (first.selecting.unchanged.trans second.selecting.unchanged.symm) selections
  refine ⟨congrArg (fun selection => selection.value.toNat) selections, ?_, ?_⟩
  · rw [first.angle, second.angle, models, ← angleAfter_withoutDrawing, turning,
      angleAfter_withoutDrawing]
  · rw [hasQuit_operateAll, hasQuit_operateAll, steering]

/-- **The angle forgets what was done before the last activation, and drawing does not count.**
The angle is the one that the model at the place comes with, cut off at five and at a hundred
and twenty degrees, and so changed by each turn since the last activation.  A move that
activates nothing leaves all but the report as it is.  Runs that differ in turns before the
last activation, and in drawing, end at the same place and angle, and with the same wish to
leave; drawing alone never makes a difference to these. -/
theorem performAll_since_activation (catalog : Catalog α) (mode : BoundMode) (place : Nat)
    (history : List (Action α)) :
    let fit : α → α := Bounded.clampInto 5.0 120.0
    let start := Viewer.start catalog mode place
    let viewer := start.performAll history
    let operations := history.map Action.operation
    viewer.angle =
        ((start.sinceActivation [] operations).filterMap Operation.turn?).foldl
          (fun angle turn => fit (angle + turn)) (fit (catalog.model viewer.place).angleStep) ∧
      (∀ delta, viewer.activates (.move delta) = false →
        viewer.shift delta = { viewer with status := (viewer.shift delta).status }) ∧
      ∀ history' : List (Action α),
        let viewer' := start.performAll history'
        let operations' := history'.map Action.operation
        (Operation.steering operations = Operation.steering operations' →
          Operation.withoutDrawing (start.sinceActivation [] operations) =
            Operation.withoutDrawing (start.sinceActivation [] operations') →
          viewer.place = viewer'.place ∧ viewer.angle = viewer'.angle ∧
            viewer.hasQuit = viewer'.hasQuit) ∧
        (Operation.withoutDrawing operations = Operation.withoutDrawing operations' →
          viewer.place = viewer'.place ∧ viewer.angle = viewer'.angle ∧
            viewer.hasQuit = viewer'.hasQuit) := by
  intro fit start viewer operations
  have started : Remembering catalog mode [] start := .start catalog mode place
  have ran : viewer = start.operateAll operations := performAll_eq_operateAll start history
  have reached : Remembering catalog mode (start.sinceActivation [] operations) viewer := by
    rw [ran]
    exact started.operateAll operations
  refine ⟨?_, fun delta => shift_eq_of_quiet reached.selecting, fun history' => ?_⟩
  · rw [← reached.selecting.unchanged]
    exact reached.angle
  · intro viewer' operations'
    have ran' : viewer' = start.operateAll operations' := performAll_eq_operateAll start history'
    rw [ran, ran']
    refine ⟨started.operateAll_forgets, fun same => started.operateAll_forgets ?_ ?_⟩
    · rw [← Operation.steering_withoutDrawing, same, Operation.steering_withoutDrawing]
    · rw [withoutDrawing_sinceActivation rfl, withoutDrawing_sinceActivation rfl, same]

/-- Both runs go on to a model that comes with an angle beyond the range, turn it back a
little, and run into the wall.  What they did before, and when they drew, is different. -/
theorem performAll_since_activation_of_two :
    let catalog : Catalog Float :=
      ⟨[{ Model.blank "Flat" with segments := 2.0 },
        { Model.blank "Steep" with segments := 3.0, angleStep := 200.0 }], List.cons_ne_nil _ _⟩
    let start := Viewer.start catalog .clamp 0
    let history : List (Action Float) :=
      [.adjust 40.0, .shift 1, .press ⟨.down, false⟩, .press ⟨.right, false⟩]
    let history' : List (Action Float) :=
      [.press ⟨.up, true⟩, .present ⟨0, 0, 80, 24⟩, .press ⟨.right, false⟩,
        .present ⟨0, 0, 60, 20⟩, .adjust (-0.5), .shift 1]
    let operations := history.map Action.operation
    let operations' := history'.map Action.operation
    let viewer := start.performAll history
    let viewer' := start.performAll history'
    Operation.steering operations = Operation.steering operations' ∧
      Operation.withoutDrawing (start.sinceActivation [] operations) =
        Operation.withoutDrawing (start.sinceActivation [] operations') ∧
      viewer.place = viewer'.place ∧ viewer.angle = viewer'.angle ∧
      viewer.hasQuit = viewer'.hasQuit ∧ viewer.angle = 119.5 ∧
      viewer.activates (.move 1) = false ∧
      viewer.shift 1 = { viewer with status := (viewer.shift 1).status } := by
  intro catalog start history history' operations operations' viewer viewer'
  have steering : Operation.steering operations = Operation.steering operations' := by
    decide +kernel
  have turning : Operation.withoutDrawing (start.sinceActivation [] operations) =
      Operation.withoutDrawing (start.sinceActivation [] operations') := by
    decide +kernel
  have wall : viewer.activates (.move 1) = false := by decide +kernel
  obtain ⟨angle, quiet, two⟩ := performAll_since_activation catalog .clamp 0 history
  obtain ⟨forgets, -⟩ := two history'
  obtain ⟨places, angles, leaving⟩ := forgets steering turning
  exact ⟨steering, turning, places, angles, leaving, angle.trans (by decide +kernel), wall,
    quiet 1 wall⟩

end LSystemExplorer.Viewer
