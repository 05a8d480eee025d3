import LSystemExplorer.Proofs.Drawing.Success
import LSystemExplorer.Proofs.Viewer.Freshness
import LSystemExplorer.Viewer.Display

/-!
# No failure is reported once it is over

A failure is reported when a scene cannot be drawn.  The report is left standing by all that
reports nothing itself, and even by a scene that is drawn later and succeeds.  Still it never
outlives the failure.  Whatever goes on to another model reports this at once, and writes over
it.  As long as it stands, the viewer is where the scene on hand was drawn, and this scene is
the one that failed (`Reporting`).  There the model fails at every angle and in every viewport,
so no scene that succeeds can be drawn under the report.

On the screen a report is a text, and the text of a failure can be told from all others by its
first letter (`Status.message_eq_iff`).  So no text of a failure stands beside a scene that was
drawn (`report_never_stale`).
-/

set_option autoImplicit false

namespace LSystemExplorer

/-! ## Texts -/

theorem Underflow.message_eq (underflow : Underflow) :
    underflow.message =
      "Branch stack underflow: unmatched ']' at symbol " ++ underflow.index.repr :=
  rfl

/-- The place of an underflow can be read off its text. -/
theorem Underflow.eq_of_message_eq {underflow other : Underflow}
    (same : underflow.message = other.message) : underflow = other := by
  rw [message_eq, message_eq, String.append_right_inj] at same
  obtain ⟨index⟩ := underflow
  exact congrArg Underflow.mk (Nat.repr_injective same)

/-- **Only the report of a failure has the text of a failure.** -/
theorem Status.message_eq_iff {status : Status Float} {underflow : Underflow} :
    status.message = underflow.message ↔ status = .failed underflow := by
  constructor
  · intro same
    have initial : status.message.toList.head? = some 'B' := by
      rw [same, Underflow.message_eq, String.toList_append]
      rfl
    cases status with
    | failed other => exact congrArg Status.failed (Underflow.eq_of_message_eq same)
    | ready => cases initial
    | atFirst => cases initial
    | atLast => cases initial
    | showing name =>
        have text : (Status.showing name).message = "Model: " ++ name := rfl
        rw [text, String.toList_append] at initial
        cases initial
    | turned angle =>
        have text : (Status.turned angle).message =
            "Angle " ++ Decimal.fixed 1 angle ++ "°" := rfl
        rw [text, String.toList_append, String.toList_append] at initial
        cases initial
    | angleReset angle =>
        have text : (Status.angleReset angle).message =
            "Angle reset to " ++ Decimal.fixed 1 angle ++ "°" := rfl
        rw [text, String.toList_append, String.toList_append] at initial
        cases initial
  · rintro rfl
    rfl

namespace Viewer

variable {α : Type} [Scalar α]

/-! ## What stands and what is written over -/

/-- The angle is reported, unless all is left as it is. -/
theorem status_report (viewer : Viewer α) (before : α) (status : Status α) :
    (viewer.report before status).status = viewer.status ∨
      (viewer.report before status).status = status := by
  unfold report
  split
  · exact Or.inl rfl
  · exact Or.inr rfl

/-- A move is reported, whether it leads anywhere or not. -/
theorem status_shift_ne_failed (viewer : Viewer α) (delta : Int) (underflow : Underflow) :
    (viewer.shift delta).status ≠ .failed underflow := by
  unfold shift
  dsimp only
  split
  · dsimp only
    split <;> exact nofun
  · exact nofun

/-- **An operation that draws nothing leaves the report and the selection as they are, or it
reports something other than a failure.** -/
theorem Step.report [Compass α] {before after : Viewer α} (step : Step before after) :
    (after.status = before.status ∧ after.selection = before.selection) ∨
      (∀ underflow, after.status ≠ .failed underflow) ∨
      ∃ viewport, after = before.refresh viewport := by
  cases step with
  | stay => exact Or.inl ⟨rfl, rfl⟩
  | quit => exact Or.inl ⟨rfl, rfl⟩
  | shift delta => exact Or.inr (Or.inl (status_shift_ne_failed before delta))
  | select place => exact Or.inr (Or.inl fun _ => nofun)
  | adjust delta =>
      have same : (before.adjust delta).selection = before.selection := selection_report _ _ _
      rcases status_report { before with turning := before.turning.shift delta } before.angle
        (.turned (before.turning.shift delta).value) with kept | turned
      · exact Or.inl ⟨kept, same⟩
      · exact Or.inr (Or.inl fun _ failed => nomatch turned.symm.trans failed)
  | resetAngle => exact Or.inl ⟨rfl, rfl⟩
  | resetAndReport =>
      have same : before.resetAndReport.selection = before.selection := selection_report _ _ _
      rcases status_report before.resetAngle before.angle (.angleReset before.resetAngle.angle) with
        kept | turned
      · exact Or.inl ⟨kept, same⟩
      · exact Or.inr (Or.inl fun _ failed => nomatch turned.symm.trans failed)
  | refresh viewport => exact Or.inr (Or.inr ⟨viewport, rfl⟩)

/-! ## The report of a failure -/

/-- A failure that is reported is the one of the scene on hand, and this was drawn where the
viewer is. -/
def Reporting (viewer : Viewer α) : Prop :=
  ∀ underflow, viewer.status = .failed underflow →
    viewer.scene = .error underflow ∧
      ∃ key, viewer.drawnFor = some key ∧ key.place = viewer.place

namespace Reporting

variable {catalog : Catalog α} {viewer before after : Viewer α}

/-- Nothing has failed at first. -/
theorem start (catalog : Catalog α) (mode : BoundMode) (place : Nat) :
    Reporting (Viewer.start catalog mode place) :=
  fun _ => nofun

omit [Scalar α] in
/-- Beside a scene that was drawn no failure is reported. -/
theorem status_ne_failed (reporting : Reporting viewer) {scene : Scene α}
    (drawn : viewer.scene = .ok scene) (underflow : Underflow) :
    viewer.status ≠ .failed underflow := by
  intro told
  have failed := (reporting underflow told).1
  rw [drawn] at failed
  cases failed

variable [Compass α]

/-- The model that is shown fails wherever it is drawn, as long as its failure is reported. -/
theorem render_eq_error (reporting : Reporting viewer) (fresh : Fresh catalog viewer)
    {underflow : Underflow} (told : viewer.status = .failed underflow) (angle : α)
    (viewport : Viewport α) : Scene.render viewer.model angle viewport = .error underflow := by
  obtain ⟨failed, key, drawnFor, here⟩ := reporting underflow told
  have drawn : Scene.render viewer.model key.angle key.viewport = .error underflow := by
    rw [Viewer.model, fresh.unchanged, ← here, ← fresh.drawn key drawnFor]
    exact failed
  exact Scene.render_error_anywhere drawn angle viewport

/-- A scene that is drawn under a report fails again, so that the report remains true. -/
theorem refresh (reporting : Reporting viewer) (fresh : Fresh catalog viewer)
    (viewport : Viewport α) : Reporting (viewer.refresh viewport) := by
  unfold Viewer.refresh
  dsimp only
  split
  · exact reporting
  · intro underflow told
    have fails (told : viewer.status = .failed underflow) (angle : α) (viewport : Viewport α) :=
      reporting.render_eq_error fresh told angle viewport
    dsimp only at told ⊢
    cases drawn : Scene.render viewer.model (viewer.sceneKey viewport).angle viewport with
    | ok scene =>
        rw [drawn] at told
        rw [fails told] at drawn
        cases drawn
    | error raised =>
        rw [drawn] at told
        cases told
        exact ⟨rfl, _, rfl, rfl⟩

/-- **No operation leaves behind the report of a failure that is over.** -/
theorem of_step (step : Step before after) (fresh : Fresh catalog before)
    (reporting : Reporting before) : Reporting after := by
  rcases step.report with ⟨sameStatus, sameSelection⟩ | other | ⟨viewport, rfl⟩
  · rcases step.keepsScene with kept | ⟨viewport, rfl⟩
    · intro underflow told
      obtain ⟨failed, key, drawnFor, here⟩ := reporting underflow (sameStatus.symm.trans told)
      refine ⟨kept.scene.trans failed, key, kept.drawnFor.trans drawnFor, ?_⟩
      rw [here, Viewer.place, Viewer.place, sameSelection]
    · exact reporting.refresh fresh viewport
  · exact fun underflow told => absurd told (other underflow)
  · exact reporting.refresh fresh viewport

/-- So there is none after any history. -/
theorem performAll (fresh : Fresh catalog before) (reporting : Reporting before)
    (history : List (Action α)) : Reporting (before.performAll history) := by
  have kept : ∀ {before after : Viewer α}, Step before after →
      Fresh catalog before ∧ Reporting before → Fresh catalog after ∧ Reporting after :=
    fun step ⟨fresh, reporting⟩ => ⟨fresh.of_step step, of_step step fresh reporting⟩
  exact (performAll_induction kept ⟨fresh, reporting⟩ history).2

end Reporting

/-! ## The status line -/

/-- **No text of a failure is stale.**  After every history of a viewer, a frame or a scene that
could be drawn does not come with the text of a failure.  If this text is on the status line,
then the failure is the one of the model that is still shown: its last scene failed so, and so
does every other. -/
theorem report_never_stale (catalog : Catalog Float) (mode : BoundMode) (place : Nat)
    (history : List (Action Float)) :
    let viewer := (Viewer.start catalog mode place).performAll history
    (∀ viewport scene, (viewer.refresh viewport).scene = .ok scene →
        ∀ underflow : Underflow,
          (viewer.refresh viewport).status.message ≠ underflow.message) ∧
      (∀ area scene, (viewer.present area).1.scene = .ok scene →
        ∀ underflow : Underflow, (viewer.present area).1.status.message ≠ underflow.message ∧
          (viewer.present area).2.status.message ≠ underflow.message) ∧
      ∀ underflow : Underflow, viewer.status.message = underflow.message →
        viewer.scene = .error underflow ∧
          (∃ key, viewer.drawnFor = some key ∧ key.place = viewer.place) ∧
          ∀ angle viewport, Scene.render viewer.model angle viewport = .error underflow := by
  intro viewer
  have fresh : Fresh catalog viewer := (fresh_start catalog mode place).performAll history
  have reporting : Reporting viewer :=
    (Reporting.start catalog mode place).performAll (fresh_start catalog mode place) history
  have silent : ∀ viewport scene, (viewer.refresh viewport).scene = .ok scene →
      ∀ underflow : Underflow,
        (viewer.refresh viewport).status.message ≠ underflow.message :=
    fun viewport _ drawn underflow same =>
      (reporting.refresh fresh viewport).status_ne_failed drawn underflow
        (Status.message_eq_iff.mp same)
  refine ⟨silent, fun area scene drawn underflow => ?_, fun underflow same => ?_⟩
  · -- The frame and the viewer it leaves behind report the same.
    exact ⟨silent _ scene drawn underflow, silent _ scene drawn underflow⟩
  · have told : viewer.status = .failed underflow := Status.message_eq_iff.mp same
    obtain ⟨failed, here⟩ := reporting underflow told
    exact ⟨failed, here, reporting.render_eq_error fresh told⟩

/-- Of two models the first cannot be drawn.  Its failure stays on the status line as long as no
other model is chosen, and is gone when the second one is drawn. -/
theorem report_never_stale_beside_line :
    let unbalanced : Model Float :=
      { Model.blank "Unbalanced" with seed := "F]F".toList, angleStep := 45.0, segments := 2.0 }
    let line : Model Float := { Model.blank "Line" with segments := 2.0 }
    let catalog : Catalog Float := ⟨[unbalanced, line], List.cons_ne_nil _ _⟩
    let area : Area := ⟨0, 0, 80, 24⟩
    let failing := (Viewer.start catalog .clamp 0).performAll
      [.present area, .press ⟨.character 'x', false⟩, .resetAngle]
    let moved := (Viewer.start catalog .clamp 0).performAll
      [.present area, .press ⟨.character 'x', false⟩, .resetAngle, .shift 1]
    failing.status.message = (Underflow.mk 1).message ∧
      (∀ angle viewport, Scene.render failing.model angle viewport = .error ⟨1⟩) ∧
      ∃ scene, (moved.present area).1.scene = .ok scene ∧
        ∀ underflow : Underflow, (moved.present area).1.status.message ≠ underflow.message := by
  intro unbalanced line catalog area failing moved
  have told : failing.status.message = (Underflow.mk 1).message := by decide +kernel
  have drawn : ∃ scene, (moved.present area).1.scene = .ok scene := by
    cases outcome : (moved.present area).1.scene with
    | ok scene => exact ⟨scene, rfl⟩
    | error underflow =>
        have succeeds : (moved.present area).1.hasFailed = false := by decide +kernel
        rw [Frame.hasFailed, outcome] at succeeds
        cases succeeds
  obtain ⟨scene, drawn⟩ := drawn
  obtain ⟨-, -, belongs⟩ := report_never_stale catalog .clamp 0
    [.present area, .press ⟨.character 'x', false⟩, .resetAngle]
  obtain ⟨-, silent, -⟩ := report_never_stale catalog .clamp 0
    [.present area, .press ⟨.character 'x', false⟩, .resetAngle, .shift 1]
  exact ⟨told, (belongs ⟨1⟩ told).2.2, scene, drawn,
    fun underflow => (silent area scene drawn underflow).1⟩

end Viewer

end LSystemExplorer
