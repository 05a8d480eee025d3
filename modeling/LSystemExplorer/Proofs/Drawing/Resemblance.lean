import LSystemExplorer.Drawing.Scene
import LSystemExplorer.Proofs.Number.Alike
import LSystemExplorer.Proofs.Turtle.Related
import LSystemExplorer.Screen.Dots

/-!
# Drawings in viewports that compare equal

Comparing equal is not being the same: a side or a margin of a viewport may be either
zero.  Such viewports lead to drawings that differ at most by the sign of some zeros
(`Scene.render_alike`).  The sides of a viewport enter a drawing through sums, differences,
products and a dividend only, and the heading of the turtle does not depend on them.

On the screen the difference vanishes altogether: the coordinates of a point are compared
with the sides of the canvas and cut off to whole numbers, and either zero gives the same
dot.  So drawings that differ at most by the sign of some zeros have the same dots
(`Screen.drawScene_eq`).
-/

set_option autoImplicit false

namespace LSystemExplorer

/-- The sides and the margins count as the same numbers. -/
structure Viewport.Alike (left right : Viewport Float) : Prop where
  width : LSystemExplorer.Alike left.width right.width
  height : LSystemExplorer.Alike left.height right.height
  margin : LSystemExplorer.Alike left.margin right.margin

/-- The lengths of the words are the same, and the coordinates of corresponding lines
count as the same numbers. -/
structure Scene.Alike (left right : Scene Float) : Prop where
  patternLength : left.patternLength = right.patternLength
  segments : List.Forall₂ (Segment.Related LSystemExplorer.Alike) left.segments right.segments

namespace Scene.Alike

theorem refl (scene : Scene Float) : Scene.Alike scene scene :=
  ⟨rfl, List.forall₂_same.mpr fun _ _ => ⟨⟨.refl _, .refl _⟩, ⟨.refl _, .refl _⟩⟩⟩

end Scene.Alike

/-- What scenes come to is the same up to the sign of zero. -/
abbrev SameScene : Except Underflow (Scene Float) → Except Underflow (Scene Float) → Prop :=
  SameOutcome Scene.Alike

namespace Viewport.Alike

variable {left right : Viewport Float}

theorem symm (viewports : left.Alike right) : right.Alike left :=
  ⟨viewports.width.symm, viewports.height.symm, viewports.margin.symm⟩

theorem innerWidth (viewports : left.Alike right) :
    LSystemExplorer.Alike left.innerWidth right.innerWidth :=
  (viewports.width.sub ((Alike.refl _).mul viewports.margin)).positivePart

theorem innerHeight (viewports : left.Alike right) :
    LSystemExplorer.Alike left.innerHeight right.innerHeight :=
  (viewports.height.sub ((Alike.refl _).mul viewports.margin)).positivePart

theorem startingCursor (viewports : left.Alike right) (model : Model Float) :
    Cursor.Related LSystemExplorer.Alike (left.startingCursor model)
      (right.startingCursor model) := by
  refine ⟨⟨(viewports.innerWidth.mul (.refl _)).add viewports.margin,
    (viewports.innerHeight.mul (.refl _)).add viewports.margin⟩, ?_⟩
  rw [Viewport.startingCursor, Viewport.startingCursor, Cursor.facing, Cursor.facing]

theorem pace (viewports : left.Alike right) (model : Model Float) (angle : Float) :
    Pace.Related LSystemExplorer.Alike (left.pace model angle) (right.pace model angle) := by
  have lengths : LSystemExplorer.Alike (left.segmentLength model) (right.segmentLength model) :=
    viewports.innerHeight.div_left _
  exact ⟨rfl, fun heading _ _ alike => alike.add ((Alike.refl _).mul lengths),
    fun heading _ _ alike => alike.sub ((Alike.refl _).mul lengths)⟩

end Viewport.Alike

/-- **Viewports that count as the same lead to scenes that do.** -/
theorem Scene.render_alike (model : Model Float) (angle : Float) {left right : Viewport Float}
    (viewports : left.Alike right) :
    SameScene (Scene.render model angle left) (Scene.render model angle right) :=
  (interpret_related (viewports.pace model angle) (viewports.startingCursor model)
    model.generate).map fun lines => ⟨rfl, lines⟩

/-! ## Dots -/

/-- Points that count as the same have the same dot. -/
theorem Point.dot?_eq (width height : Float) (columns rows : Nat) {left right : Point Float}
    (points : Point.Related LSystemExplorer.Alike left right) :
    left.dot? width height columns rows = right.dot? width height columns rows := by
  have beforeLeft : left.x < 0.0 ↔ right.x < 0.0 := points.x.lt_congr (.refl _)
  have beyondRight : width < left.x ↔ width < right.x := (Alike.refl width).lt_congr points.x
  have beforeTop : left.y < 0.0 ↔ right.y < 0.0 := points.y.lt_congr (.refl _)
  have beyondBottom : height < left.y ↔ height < right.y :=
    (Alike.refl height).lt_congr points.y
  have column :
      ((left.x - 0.0) * (columns.toFloat - 1.0) / width).toUInt64 =
        ((right.x - 0.0) * (columns.toFloat - 1.0) / width).toUInt64 :=
    (((points.x.sub (.refl _)).mul (.refl _)).div_left width).toUInt64_eq
  have row :
      ((height - left.y) * (rows.toFloat - 1.0) / height).toUInt64 =
        ((height - right.y) * (rows.toFloat - 1.0) / height).toUInt64 :=
    ((((Alike.refl height).sub points.y).mul (.refl _)).div_left height).toUInt64_eq
  simp only [Point.dot?, beforeLeft, beyondRight, beforeTop, beyondBottom, column, row]

/-- Lines that count as the same have the same dots. -/
theorem Segment.dots_eq (viewport : Viewport Float) (columns rows : Nat)
    {left right : Segment Float} (lines : Segment.Related LSystemExplorer.Alike left right) :
    left.dots viewport columns rows = right.dots viewport columns rows := by
  have place : ∀ {point point' : Point Float}, Point.Related LSystemExplorer.Alike point point' →
      Point.dot? viewport.width viewport.height columns rows
          ⟨point.x, viewport.height - point.y⟩ =
        Point.dot? viewport.width viewport.height columns rows
          ⟨point'.x, viewport.height - point'.y⟩ := fun points =>
    Point.dot?_eq _ _ _ _ ⟨points.x, (Alike.refl _).sub points.y⟩
  unfold Segment.dots
  dsimp only
  rw [place lines.start, place lines.finish]

/-- A fold does not tell lists apart whose items it does not tell apart. -/
theorem foldl_eq_of_forall₂ {β γ : Type} {same : β → β → Prop} (combine : γ → β → γ)
    (steps : ∀ result item item', same item item' → combine result item = combine result item')
    {lefts rights : List β} (items : List.Forall₂ same lefts rights) (first : γ) :
    lefts.foldl combine first = rights.foldl combine first := by
  induction items generalizing first with
  | nil => rfl
  | cons here _ ih => rw [List.foldl_cons, List.foldl_cons, steps first _ _ here, ih]

/-- **Scenes that count as the same look the same on the screen.** -/
theorem Screen.drawScene_eq (screen : Screen) (area : Area) (viewport : Viewport Float)
    (color : Color) {left right : Scene Float} (scenes : left.Alike right) :
    screen.drawScene area viewport color left = screen.drawScene area viewport color right := by
  unfold Screen.drawScene
  dsimp only
  rw [foldl_eq_of_forall₂ (fun cells segment =>
    (segment.dots viewport (2 * area.width) (4 * area.height)).foldl (Dot.mark area.width) cells)
    (fun cells _ _ lines => by rw [Segment.dots_eq _ _ _ lines]) scenes.segments]

end LSystemExplorer
