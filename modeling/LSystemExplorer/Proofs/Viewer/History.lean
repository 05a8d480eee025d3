import LSystemExplorer.Viewer.Session

/-!
# What can happen to the viewer

Keys, frames and direct calls all come down to a few operations on the viewer, which
`Step` lists.  Each action is one of them (`perform_step`), and so a property that holds
at first and is kept by every operation holds after every history
(`performAll_induction`).

Only one of the operations draws.  All others leave the catalog, the last scene and what
it was drawn for as they are, and whatever they do to the angle is done by writing it into
its range (`KeepsScene`).  The selection, too, is never changed but by writing a number
into its range (`Step.selection`).
-/

set_option autoImplicit false

namespace LSystemExplorer.Viewer

variable {α : Type} [Scalar α]

/-! ## Operations -/

/-- One operation on the viewer. -/
inductive Step [Compass α] (viewer : Viewer α) : Viewer α → Prop
  | stay : Step viewer viewer
  | quit : Step viewer { viewer with hasQuit := true }
  | shift (delta : Int) : Step viewer (viewer.shift delta)
  | select (place : Nat) : Step viewer (viewer.select place)
  | adjust (delta : α) : Step viewer (viewer.adjust delta)
  | resetAngle : Step viewer viewer.resetAngle
  | resetAndReport : Step viewer viewer.resetAndReport
  | refresh (viewport : Viewport α) : Step viewer (viewer.refresh viewport)

section History

variable [Compass α]

/-- A key comes down to one operation. -/
theorem press_step (viewer : Viewer α) (keystroke : Keystroke) :
    Step viewer (viewer.press keystroke) := by
  unfold press
  split
  · exact .quit
  · exact .quit
  · exact .quit
  · exact .shift (-1)
  · exact .shift 1
  · exact .adjust _
  · exact .adjust _
  · exact .resetAndReport
  · exact .resetAndReport
  · exact .stay
  · exact .stay

/-- Every action comes down to one operation. -/
theorem perform_step (viewer : Viewer α) (action : Action α) :
    Step viewer (viewer.perform action) := by
  cases action with
  | press keystroke => exact press_step viewer keystroke
  | shift delta => exact .shift delta
  | select place => exact .select place
  | adjust delta => exact .adjust delta
  | resetAngle => exact .resetAngle
  | refresh viewport => exact .refresh viewport
  | present area => exact .refresh _

/-- **What every operation keeps holds after every history.** -/
theorem performAll_induction {property : Viewer α → Prop}
    (kept : ∀ {before after : Viewer α}, Step before after → property before → property after)
    {viewer : Viewer α} (first : property viewer) (history : List (Action α)) :
    property (viewer.performAll history) := by
  induction history generalizing viewer with
  | nil => exact first
  | cons action later ih => exact ih (kept (perform_step viewer action) first)

end History

/-! ## Operations that draw nothing -/

/-- The catalog and the scene are as before, and the angle is as before or was written. -/
structure KeepsScene (before after : Viewer α) : Prop where
  catalog : after.catalog = before.catalog
  drawnFor : after.drawnFor = before.drawnFor
  scene : after.scene = before.scene
  turning : after.turning = before.turning ∨
    ∃ number, after.turning = before.turning.set number

namespace KeepsScene

variable {before after later : Viewer α}

theorem refl (viewer : Viewer α) : KeepsScene viewer viewer :=
  ⟨rfl, rfl, rfl, Or.inl rfl⟩

/-- Only the number written last counts. -/
theorem trans (first : KeepsScene before after) (second : KeepsScene after later) :
    KeepsScene before later := by
  refine ⟨second.catalog.trans first.catalog, second.drawnFor.trans first.drawnFor,
    second.scene.trans first.scene, ?_⟩
  rcases second.turning with same | ⟨number, written⟩
  · rw [same]
    exact first.turning
  · refine Or.inr ⟨number, ?_⟩
    rw [written]
    rcases first.turning with same | ⟨number', written'⟩
    · rw [same]
    · rw [written']
      rfl

end KeepsScene

theorem keepsScene_resetAngle (viewer : Viewer α) : KeepsScene viewer viewer.resetAngle :=
  ⟨rfl, rfl, rfl, Or.inr ⟨_, rfl⟩⟩

theorem keepsScene_selection (viewer : Viewer α) (selection : Bounded Int) :
    KeepsScene viewer { viewer with selection } :=
  ⟨rfl, rfl, rfl, Or.inl rfl⟩

theorem keepsScene_activate (viewer : Viewer α) : KeepsScene viewer viewer.activate :=
  ⟨rfl, rfl, rfl, Or.inr ⟨_, rfl⟩⟩

theorem keepsScene_report (viewer : Viewer α) (before : α) (status : Status α) :
    KeepsScene viewer (viewer.report before status) := by
  unfold report
  split
  · exact .refl viewer
  · exact ⟨rfl, rfl, rfl, Or.inl rfl⟩

theorem keepsScene_shift (viewer : Viewer α) (delta : Int) :
    KeepsScene viewer (viewer.shift delta) := by
  unfold shift
  dsimp only
  split
  · exact ⟨rfl, rfl, rfl, Or.inl rfl⟩
  · exact (keepsScene_selection viewer _).trans (keepsScene_activate _)

theorem keepsScene_select (viewer : Viewer α) (place : Nat) :
    KeepsScene viewer (viewer.select place) :=
  (keepsScene_selection viewer _).trans (keepsScene_activate _)

theorem keepsScene_adjust (viewer : Viewer α) (delta : α) :
    KeepsScene viewer (viewer.adjust delta) := by
  have turned : KeepsScene viewer { viewer with turning := viewer.turning.shift delta } :=
    ⟨rfl, rfl, rfl, Or.inr ⟨_, rfl⟩⟩
  exact turned.trans (keepsScene_report _ _ _)

theorem keepsScene_resetAndReport (viewer : Viewer α) :
    KeepsScene viewer viewer.resetAndReport :=
  (keepsScene_resetAngle viewer).trans (keepsScene_report _ _ _)

/-- No key draws anything. -/
theorem keepsScene_press (viewer : Viewer α) (keystroke : Keystroke) :
    KeepsScene viewer (viewer.press keystroke) := by
  unfold press
  split
  · exact ⟨rfl, rfl, rfl, Or.inl rfl⟩
  · exact ⟨rfl, rfl, rfl, Or.inl rfl⟩
  · exact ⟨rfl, rfl, rfl, Or.inl rfl⟩
  · exact keepsScene_shift viewer (-1)
  · exact keepsScene_shift viewer 1
  · exact keepsScene_adjust viewer _
  · exact keepsScene_adjust viewer _
  · exact keepsScene_resetAndReport viewer
  · exact keepsScene_resetAndReport viewer
  · exact .refl viewer
  · exact .refl viewer

/-! ## Bringing the scene up to date -/

section Refresh

variable [Compass α] (viewer : Viewer α) (viewport : Viewport α)

@[simp] theorem catalog_refresh : (viewer.refresh viewport).catalog = viewer.catalog := by
  unfold refresh
  dsimp only
  split <;> rfl

@[simp] theorem selection_refresh :
    (viewer.refresh viewport).selection = viewer.selection := by
  unfold refresh
  dsimp only
  split <;> rfl

@[simp] theorem turning_refresh : (viewer.refresh viewport).turning = viewer.turning := by
  unfold refresh
  dsimp only
  split <;> rfl

theorem place_refresh : (viewer.refresh viewport).place = viewer.place :=
  congrArg (fun selection => selection.value.toNat) (selection_refresh viewer viewport)

theorem angle_refresh : (viewer.refresh viewport).angle = viewer.angle :=
  congrArg Bounded.value (turning_refresh viewer viewport)

end Refresh

/-- **An operation draws nothing unless it brings the scene up to date.** -/
theorem Step.keepsScene [Compass α] {before after : Viewer α} (step : Step before after) :
    KeepsScene before after ∨ ∃ viewport, after = before.refresh viewport := by
  cases step with
  | stay => exact Or.inl (.refl before)
  | quit => exact Or.inl ⟨rfl, rfl, rfl, Or.inl rfl⟩
  | shift delta => exact Or.inl (keepsScene_shift before delta)
  | select place => exact Or.inl (keepsScene_select before place)
  | adjust delta => exact Or.inl (keepsScene_adjust before delta)
  | resetAngle => exact Or.inl (keepsScene_resetAngle before)
  | resetAndReport => exact Or.inl (keepsScene_resetAndReport before)
  | refresh viewport => exact Or.inr ⟨viewport, rfl⟩

/-- A move writes the selection, whatever it reports. -/
theorem selection_shift (viewer : Viewer α) (delta : Int) :
    (viewer.shift delta).selection = viewer.selection.shift delta := by
  unfold shift
  dsimp only
  split <;> rfl

theorem angle_report (viewer : Viewer α) (before : α) (status : Status α) :
    (viewer.report before status).angle = viewer.angle := by
  unfold report
  split <;> rfl

theorem selection_report (viewer : Viewer α) (angle : α) (status : Status α) :
    (viewer.report angle status).selection = viewer.selection := by
  unfold report
  split <;> rfl

/-- An operation leaves the selection as it is or writes it. -/
theorem Step.selection [Compass α] {before after : Viewer α} (step : Step before after) :
    after.selection = before.selection ∨
      ∃ number, after.selection = before.selection.set number := by
  cases step with
  | stay => exact Or.inl rfl
  | quit => exact Or.inl rfl
  | shift delta => exact Or.inr ⟨before.selection.value + delta, selection_shift before delta⟩
  | select place => exact Or.inr ⟨signedPlace place, rfl⟩
  | adjust delta => exact Or.inl (selection_report _ _ _)
  | resetAngle => exact Or.inl rfl
  | resetAndReport => exact Or.inl (selection_report _ _ _)
  | refresh viewport => exact Or.inl (selection_refresh before viewport)

/-- No operation changes the catalog. -/
theorem Step.catalog [Compass α] {before after : Viewer α} (step : Step before after) :
    after.catalog = before.catalog := by
  rcases step.keepsScene with kept | ⟨viewport, rfl⟩
  · exact kept.catalog
  · exact catalog_refresh before viewport

end LSystemExplorer.Viewer
