import LSystemExplorer.Proofs.Drawing.Resemblance
import LSystemExplorer.Proofs.Viewer.Display
import LSystemExplorer.Proofs.Viewer.History

/-!
# The scene is never out of date

The viewer keeps the last scene and what it was drawn for, and draws nothing when that
compares equal to what is asked for now.  The operations in between may change the model
and the angle without a look at the scene, and may change them back again.

All the same the scene on hand is the one that belongs to what it was drawn for
(`Fresh`): the catalog never changes, and the two are only written together.  An angle in
its range is not zero, so angles that compare equal are the same; viewports that compare
equal lead to scenes that count as the same.  So the scene the viewer comes up with is the
one drawn from scratch (`Fresh.refresh_scene`), and a frame shows the scene of the model
and the angle that it names (`refresh_never_stale`).
-/

set_option autoImplicit false

namespace LSystemExplorer

/-! ## Angles -/

namespace AngleRange

open Float.Model (UnpackedFloat)
open Float.Model.UnpackedFloat (Sign)

theorem unpack_least : (least : Float).toModel.unpack =
    .finite .positive 5629499534213120 (-50) (by decide) :=
  rfl

theorem unpack_greatest : (greatest : Float).toModel.unpack =
    .finite .positive 8444249301319680 (-46) (by decide) :=
  rfl

/-- An angle in the range is neither zero. -/
theorem fit_ne_zero (number : Float) (sign : Sign) :
    (fit number).toModel.unpack ≠ .zero sign := by
  have fitted : fit number =
      if number < least then least else if greatest < number then greatest else number := rfl
  rw [fitted]
  split
  · rw [unpack_least]
    exact nofun
  · rename_i notBelow
    split
    · rw [unpack_greatest]
      exact nofun
    · intro zero
      refine notBelow (lt_iff_compare.mpr ?_)
      rw [zero, unpack_least]
      rfl

/-- Angles in the range are the same when they compare equal. -/
theorem eq_of_beq {number other : Float} (equal : fit number == other) : fit number = other := by
  rcases (Alike.of_beq equal).eq_or_zeros with same | ⟨sign, -, zero, -⟩
  · exact same
  · exact absurd zero (fit_ne_zero number sign)

end AngleRange

namespace Viewer

/-! ## The scene on hand -/

section Fresh

variable {α : Type} [Scalar α] [Compass α]

/-- The angle is in its range, and the scene is the one that belongs to what it was drawn
for. -/
structure Fresh (catalog : Catalog α) (viewer : Viewer α) : Prop where
  unchanged : viewer.catalog = catalog
  turning : ∃ number, viewer.turning = AngleRange.bounded number
  drawn : ∀ key, viewer.drawnFor = some key →
    viewer.scene = Scene.render (catalog.model key.place) key.angle key.viewport

variable {catalog : Catalog α}

/-- Nothing is drawn at first. -/
theorem fresh_start (catalog : Catalog α) (mode : BoundMode) (place : Nat) :
    Fresh catalog (Viewer.start catalog mode place) :=
  ⟨rfl, ⟨_, rfl⟩, nofun⟩

namespace Fresh

variable {before after : Viewer α}

theorem of_keepsScene (kept : KeepsScene before after) (fresh : Fresh catalog before) :
    Fresh catalog after := by
  refine ⟨kept.catalog.trans fresh.unchanged, ?_, ?_⟩
  · obtain ⟨number, inRange⟩ := fresh.turning
    rcases kept.turning with same | ⟨number', written⟩
    · exact ⟨number, same.trans inRange⟩
    · rw [inRange] at written
      exact ⟨number', written⟩
  · rw [kept.drawnFor, kept.scene]
    exact fresh.drawn

/-- What the scene was drawn for is written together with the scene. -/
theorem refresh (fresh : Fresh catalog before) (viewport : Viewport α) :
    Fresh catalog (before.refresh viewport) := by
  unfold Viewer.refresh
  dsimp only
  split
  · exact fresh
  · refine ⟨fresh.unchanged, fresh.turning, ?_⟩
    rintro key ⟨⟩
    show Scene.render before.model _ _ = _
    rw [Viewer.model, fresh.unchanged]
    rfl

theorem of_step (step : Step before after) (fresh : Fresh catalog before) :
    Fresh catalog after := by
  rcases step.keepsScene with kept | ⟨viewport, rfl⟩
  · exact fresh.of_keepsScene kept
  · exact fresh.refresh viewport

/-- **The scene on hand belongs to what it was drawn for, whatever happened.** -/
theorem performAll (fresh : Fresh catalog before) (history : List (Action α)) :
    Fresh catalog (before.performAll history) :=
  performAll_induction of_step fresh history

end Fresh

end Fresh

/-! ## What the viewer comes up with -/

variable {catalog : Catalog Float} {viewer : Viewer Float}

/-- A key that agrees stands for the very place and angle, and for a viewport that counts
as the same. -/
theorem Fresh.of_agrees (fresh : Fresh catalog viewer) {viewport : Viewport Float}
    {key : SceneKey Float} (agrees : (viewer.sceneKey viewport).agrees key) :
    viewer.place = key.place ∧ viewer.angle = key.angle ∧ viewport.Alike key.viewport := by
  simp only [SceneKey.agrees, Bool.and_eq_true, beq_iff_eq] at agrees
  obtain ⟨⟨⟨⟨places, angles⟩, widths⟩, heights⟩, margins⟩ := agrees
  obtain ⟨number, inRange⟩ := fresh.turning
  have sameAngle : viewer.angle = key.angle := by
    rw [Viewer.angle, inRange]
    refine AngleRange.eq_of_beq ?_
    rw [← angles, sceneKey, Viewer.angle, inRange]
    rfl
  exact ⟨places, sameAngle, .of_beq widths, .of_beq heights, .of_beq margins⟩

/-- A scene that is drawn for a key that agrees counts as the same. -/
theorem Fresh.render_agrees (fresh : Fresh catalog viewer) {viewport : Viewport Float}
    {key : SceneKey Float} (agrees : (viewer.sceneKey viewport).agrees key) :
    SameScene (Scene.render (catalog.model key.place) key.angle key.viewport)
      (Scene.render viewer.model viewer.angle viewport) := by
  obtain ⟨samePlace, sameAngle, viewports⟩ := fresh.of_agrees agrees
  rw [Viewer.model, fresh.unchanged, samePlace, sameAngle]
  exact Scene.render_alike _ _ viewports.symm

/-- **The scene the viewer comes up with is the one drawn from scratch.** -/
theorem Fresh.refresh_scene (fresh : Fresh catalog viewer) (viewport : Viewport Float) :
    SameScene (viewer.refresh viewport).scene
      (Scene.render viewer.model viewer.angle viewport) := by
  unfold Viewer.refresh
  dsimp only
  split
  · rename_i agrees
    obtain ⟨key, drawnFor, agrees⟩ := (Option.any_eq_true _ _).mp agrees
    rw [fresh.drawn key drawnFor]
    exact fresh.render_agrees agrees
  · exact .refl Scene.Alike.refl _

/-- **The scene is never out of date.**  After every history of a viewer, and for every
viewport, the scene it comes up with is the one drawn from scratch for the model and the
angle at that time.  Every frame names that model, by its place, and that angle, and it
looks as if its scene had been drawn from scratch for the two.  A screen on which it is drawn
shows both of them, the sizes of the scene, and the dots of its segments. -/
theorem refresh_never_stale (catalog : Catalog Float) (mode : BoundMode) (place : Nat)
    (history : List (Action Float)) :
    let viewer := (Viewer.start catalog mode place).performAll history
    (∀ viewport, SameScene (viewer.refresh viewport).scene
        (Scene.render viewer.model viewer.angle viewport)) ∧
      ∀ area, let frame := (viewer.present area).1
        frame.place = viewer.place ∧ frame.angle = viewer.angle ∧
          frame.model = catalog.model frame.place ∧
          SameScene frame.scene (Scene.render frame.model frame.angle frame.viewport) ∧
          (∀ screen, frame.draw screen =
            Frame.draw { frame with scene := Scene.render frame.model frame.angle frame.viewport }
              screen) ∧
          ∀ width height, frame.ShownOn
            (Scene.render frame.model frame.angle frame.viewport) (frame.screen width height) := by
  intro viewer
  have fresh : Fresh catalog viewer := (fresh_start catalog mode place).performAll history
  refine ⟨fresh.refresh_scene, fun area => ?_⟩
  intro frame
  have place : frame.place = viewer.place := place_refresh viewer _
  have angle : frame.angle = viewer.angle := angle_refresh viewer _
  have model : frame.model = catalog.model frame.place := by
    show Viewer.model (viewer.refresh _) = _
    rw [Viewer.model, catalog_refresh, fresh.unchanged]
    rfl
  have scene : SameScene frame.scene
      (Scene.render frame.model frame.angle frame.viewport) := by
    rw [model, place, angle, ← fresh.unchanged]
    exact fresh.refresh_scene _
  exact ⟨place, angle, model, scene, Frame.draw_eq scene, Frame.shownOn_of_same scene⟩

/-- Of three models the second is drawn anew when it is selected and turned, and the pane beside
the drawing says so. -/
theorem refresh_never_stale_of_three :
    let model (name : String) : Model Float :=
      { Model.blank name with iterations := 0, angleStep := 45.0, segments := 2.0 }
    let three : Catalog Float :=
      ⟨[model "Left", model "Middle", model "Right"], List.cons_ne_nil _ _⟩
    let viewer := (Viewer.start three .clamp 0).performAll
      [.present ⟨0, 0, 160, 40⟩, .press ⟨.right, false⟩, .press ⟨.up, false⟩]
    let frame := (viewer.present ⟨0, 0, 160, 40⟩).1
    let scratch := Scene.render (model "Middle") frame.angle frame.viewport
    let panes := Panes.ofArea ⟨0, 0, 160, 40⟩
    (∀ text ∈ ["Model     2/3", "Angle     45.5° (default 45.0°)", "Symbols   1", "Segments  1"],
      (frame.screen 160 40).ShowsText (ModelPane.textArea panes.model) text.toList) ∧
    ∃ scene, scratch = .ok scene ∧
      (frame.screen 160 40).ShowsDots panes.drawing.inside frame.viewport scene := by
  intro model three viewer frame scratch panes
  obtain ⟨-, frames⟩ := refresh_never_stale three .clamp 0
    [.present ⟨0, 0, 160, 40⟩, .press ⟨.right, false⟩, .press ⟨.up, false⟩]
  obtain ⟨-, -, -, -, -, shown⟩ := frames ⟨0, 0, 160, 40⟩
  obtain ⟨facts, -, dots, -⟩ := shown 160 40
  have size : (Frame.screen frame 160 40).area = ⟨0, 0, 160, 40⟩ := frame.area_draw _
  rw [size] at facts dots
  have fits : ∀ line ∈ ModelPane.lines frame, line.map Span.text ∈ frame.facts scratch →
      line.Fits 41 := by
    decide +kernel
  have room : (ModelPane.paragraph frame).rowsNeeded 41 ≤ 37 := by decide +kernel
  have texts : (frame.facts scratch).map (List.flatMap String.toList) =
      ["Model     2/3", "Angle     45.5° (default 45.0°)", "Symbols   1",
        "Segments  1"].map String.toList := by
    decide +kernel
  have drawn : scratch.isOk := by decide +kernel
  constructor
  · intro text member
    have among : text.toList ∈ (frame.facts scratch).map (List.flatMap String.toList) :=
      texts ▸ List.mem_map_of_mem member
    obtain ⟨fact, stated, same⟩ := List.mem_map.mp among
    obtain ⟨line, here, pieces, stands⟩ := facts fact stated
    rw [← same]
    exact stands (fits line here (pieces.symm ▸ stated)) room
  · cases made : scratch with
    | ok scene => exact ⟨scene, rfl, dots scene made⟩
    | error underflow =>
        rw [made] at drawn
        cases drawn

end Viewer

end LSystemExplorer
