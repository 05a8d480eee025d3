import LSystemExplorer.Proofs.Drawing.Scaling
import LSystemExplorer.Screen.Dots
import LSystemExplorer.Viewer.Frame

/-!
# Where a drawing starts

A model starts at a point of the unit square, and a viewport scales the square into the space
inside its margin.  Where the margin leaves some space the start is in it, and where it leaves
none the start is the margin away from the upper and the left side.  So it is on the canvas if
only one margin fits into either side (`Viewport.share_mem`), and inside the margin if two do
(`Viewport.share_mem_inside`).

In a pane one row of cells has room for both margins, but one column has room for one margin only.
So a drawing starts on the canvas in every pane whose inside is not empty, and inside the margin
from two columns on (`Viewport.startingCursor_on_canvas`).  The canvas is the same upside down,
and so is the space inside the margin, which is why it makes no difference that a pane draws it
like this.

All of this is exact, and so it is stated for fractions.
-/

set_option autoImplicit false

namespace LSystemExplorer

open scoped Fraction

/-! ## Points of a viewport -/

/-- The model starts in the unit square. -/
structure Model.StartsInSquare (model : Model ℚ) : Prop where
  x : model.position.x ∈ Set.Icc 0 1
  y : model.position.y ∈ Set.Icc 0 1

namespace Viewport

/-- The point of the viewport turned upside down. -/
def flipped {α : Type} [Scalar α] (viewport : Viewport α) (point : Point α) : Point α :=
  ⟨point.x, viewport.height - point.y⟩

/-- These are the points whose dots a pane looks for. -/
theorem dots_eq_flipped (viewport : Viewport Float) (columns rows : Nat)
    (segment : Segment Float) :
    segment.dots viewport columns rows =
      match (viewport.flipped segment.start).dot? viewport.width viewport.height columns rows,
        (viewport.flipped segment.finish).dot? viewport.width viewport.height columns rows with
      | some start, some finish => Dot.line start finish
      | _, _ => [] := rfl

/-- The point is on the canvas, its sides included. -/
structure OnCanvas (viewport : Viewport ℚ) (point : Point ℚ) : Prop where
  x : point.x ∈ Set.Icc 0 viewport.width
  y : point.y ∈ Set.Icc 0 viewport.height

/-- The point is at least the margin away from every side. -/
structure InsideMargin (viewport : Viewport ℚ) (point : Point ℚ) : Prop where
  x : point.x ∈ Set.Icc viewport.margin (viewport.width - viewport.margin)
  y : point.y ∈ Set.Icc viewport.margin (viewport.height - viewport.margin)

variable {viewport : Viewport ℚ} {point : Point ℚ}

theorem OnCanvas.flipped (onCanvas : viewport.OnCanvas point) :
    viewport.OnCanvas (viewport.flipped point) := by
  obtain ⟨least, most⟩ := onCanvas.y
  exact ⟨onCanvas.x, sub_nonneg.mpr most, sub_le_self _ least⟩

theorem InsideMargin.flipped (inside : viewport.InsideMargin point) :
    viewport.InsideMargin (viewport.flipped point) := by
  obtain ⟨least, most⟩ := inside.y
  exact ⟨inside.x, le_sub_comm.mp most, sub_le_sub_left least _⟩

/-- A margin that leaves no space has no points inside. -/
theorem InsideMargin.two_margins (inside : viewport.InsideMargin point) :
    2 * viewport.margin ≤ viewport.width := by
  obtain ⟨least, most⟩ := inside.x
  linarith

/-! ## Shares of a side -/

section Shares

variable {side margin share : ℚ}

/-- The point at some share of the space that the margin leaves on a side. -/
def shareOf (side margin share : ℚ) : ℚ :=
  Scalar.positivePart (side - 2.0 * margin) * share + margin

theorem shareOf_eq (side margin share : ℚ) :
    shareOf side margin share = max (side - 2 * margin) 0 * share + margin := by
  have two : (2.0 : ℚ) = 2 := by norm_num
  rw [shareOf, Scalar.positivePart_eq_max, two]

variable (proper : share ∈ Set.Icc 0 1)

include proper

/-- If both margins fit into the side, the point is between them. -/
theorem share_mem_inside (fits : 2 * margin ≤ side) :
    shareOf side margin share ∈ Set.Icc margin (side - margin) := by
  obtain ⟨least, most⟩ := proper
  have space : 0 ≤ side - 2 * margin := sub_nonneg.mpr fits
  have above : 0 ≤ (side - 2 * margin) * share := mul_nonneg space least
  have below : (side - 2 * margin) * share ≤ side - 2 * margin :=
    mul_le_of_le_one_right space most
  rw [shareOf_eq, max_eq_left space]
  constructor <;> linarith

/-- If one margin fits into the side, the point is on it. -/
theorem share_mem (positive : 0 ≤ margin) (fits : margin ≤ side) :
    shareOf side margin share ∈ Set.Icc 0 side := by
  rcases le_total (2 * margin) side with both | single
  · obtain ⟨least, most⟩ := share_mem_inside proper both
    exact ⟨positive.trans least, most.trans (sub_le_self side positive)⟩
  · have none : side - 2 * margin ≤ 0 := sub_nonpos.mpr single
    rw [shareOf_eq, max_eq_right none, zero_mul, zero_add]
    exact ⟨positive, fits⟩

end Shares

/-! ## The start -/

variable {model : Model ℚ}

/-- **A drawing starts on every canvas on which one margin fits into either side.** -/
theorem start_onCanvas (starts : model.StartsInSquare) (positive : 0 ≤ viewport.margin)
    (width : viewport.margin ≤ viewport.width) (height : viewport.margin ≤ viewport.height) :
    viewport.OnCanvas (viewport.startingCursor model).position :=
  ⟨share_mem starts.x positive width, share_mem starts.y positive height⟩

/-- **It starts inside the margin if two margins do.** -/
theorem start_insideMargin (starts : model.StartsInSquare)
    (width : 2 * viewport.margin ≤ viewport.width)
    (height : 2 * viewport.margin ≤ viewport.height) :
    viewport.InsideMargin (viewport.startingCursor model).position :=
  ⟨share_mem_inside starts.x width, share_mem_inside starts.y height⟩

theorem ofCount_eq (count : Nat) : (ofCount count : ℚ) = count := by
  have numeral : (ofCount count : ℚ) = Rat.ofScientific count false 0 := rfl
  rw [numeral, Rat.ofScientific_false_def, pow_zero, mul_one]

/-- The viewport of a pane in numbers. -/
theorem ofPane_eq (pane : Area) :
    (ofPane pane : Viewport ℚ) =
      ⟨2 * (pane.width - 2 : Nat), 4 * (pane.height - 2 : Nat), 2⟩ := by
  have inside : pane.inside.width = pane.width - 2 ∧ pane.inside.height = pane.height - 2 :=
    ⟨rfl, rfl⟩
  have two : (2.0 : ℚ) = 2 := by norm_num
  have four : (4.0 : ℚ) = 4 := by norm_num
  rw [ofPane, ofCount_eq, ofCount_eq, inside.1, inside.2, dotsPerColumn, dotsPerRow, paneMargin,
    two, four, mul_comm, mul_comm _ (4 : ℚ)]

/-- **A drawing starts on the canvas.**  Let there be at least one cell inside the border of a
pane, and let a model start in the unit square.  Then the turtle starts on the canvas of the pane,
and also when the canvas is turned upside down.  Either way it starts inside the margin if the
pane has two columns inside its border, and only then. -/
theorem startingCursor_on_canvas (pane : Area) (columns : 0 < pane.inside.width)
    (rows : 0 < pane.inside.height) (model : Model ℚ) (starts : model.StartsInSquare) :
    let viewport : Viewport ℚ := .ofPane pane
    let start := (viewport.startingCursor model).position
    viewport.OnCanvas start ∧ viewport.OnCanvas (viewport.flipped start) ∧
      (viewport.InsideMargin start ↔ 2 ≤ pane.inside.width) ∧
      (viewport.InsideMargin (viewport.flipped start) ↔ 2 ≤ pane.inside.width) := by
  intro viewport start
  have numbers : viewport = ⟨2 * (pane.width - 2 : Nat), 4 * (pane.height - 2 : Nat), 2⟩ :=
    ofPane_eq pane
  have oneColumn : (1 : ℚ) ≤ (pane.width - 2 : Nat) := Nat.one_le_cast.mpr columns
  have oneRow : (1 : ℚ) ≤ (pane.height - 2 : Nat) := Nat.one_le_cast.mpr rows
  have onCanvas : viewport.OnCanvas start := by
    refine start_onCanvas starts ?_ ?_ ?_ <;> rw [numbers] <;> dsimp only <;> linarith
  have inside (twoColumns : 2 ≤ pane.inside.width) : viewport.InsideMargin start := by
    have wide : (2 : ℚ) ≤ (pane.width - 2 : Nat) := Nat.ofNat_le_cast.mpr twoColumns
    refine start_insideMargin starts ?_ ?_ <;> rw [numbers] <;> dsimp only <;> linarith
  have columnsOf {point : Point ℚ} (inside : viewport.InsideMargin point) :
      2 ≤ pane.inside.width := by
    have both := inside.two_margins
    rw [numbers] at both
    have wide : (2 : ℚ) ≤ (pane.width - 2 : Nat) := by linarith
    exact Nat.ofNat_le_cast.mp wide
  exact ⟨onCanvas, onCanvas.flipped, ⟨columnsOf, inside⟩,
    ⟨columnsOf, fun wide => (inside wide).flipped⟩⟩

/-- One column inside a border is two dots wide, and a drawing that should start in its middle
starts two dots from the left.  With two columns there is a single point inside the margin, and
the drawing starts there. -/
theorem startingCursor_on_canvas_of_columns :
    let narrow : Area := ⟨0, 0, 3, 3⟩
    let wide : Area := ⟨7, 1, 4, 3⟩
    let model : Model ℚ := { Model.blank "Weed" with position := ⟨1 / 2, 1⟩, segments := 3 }
    let start (pane : Area) := ((Viewport.ofPane pane : Viewport ℚ).startingCursor model).position
    0 < narrow.inside.width ∧ 0 < narrow.inside.height ∧ model.StartsInSquare ∧
      (Viewport.ofPane narrow : Viewport ℚ).OnCanvas (start narrow) ∧
      start narrow = ⟨2, 2⟩ ∧ ¬ (Viewport.ofPane narrow : Viewport ℚ).InsideMargin (start narrow) ∧
      (Viewport.ofPane wide : Viewport ℚ).InsideMargin (start wide) := by
  intro narrow wide model start
  have starts : model.StartsInSquare := ⟨by norm_num [model], by norm_num [model]⟩
  have columns : 0 < narrow.inside.width := by decide
  have rows : 0 < narrow.inside.height := by decide
  obtain ⟨onCanvas, -, outside, -⟩ := startingCursor_on_canvas narrow columns rows model starts
  obtain ⟨-, -, inside, -⟩ :=
    startingCursor_on_canvas wide (by decide) (by decide) model starts
  refine ⟨columns, rows, starts, onCanvas, by decide +kernel, ?_, inside.mpr (by decide)⟩
  intro within
  exact absurd (outside.mp within) (by decide)

end Viewport

end LSystemExplorer
