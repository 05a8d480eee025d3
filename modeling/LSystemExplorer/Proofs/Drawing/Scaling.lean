import LSystemExplorer.Drawing.Scene
import LSystemExplorer.Proofs.Number.Exact
import LSystemExplorer.Proofs.Turtle.Heading
import LSystemExplorer.Proofs.Turtle.Related

/-!
# Drawings of another size

When all sides of a viewport and its margin are multiplied by a positive factor, the drawing is
multiplied by it.  The viewport enters a drawing at two places.  It says where the turtle
starts: the space inside the margin grows by the factor, also when the margin leaves none and it
is cut off at zero (`Scalar.positivePart_mul`).  And it says how far a step goes, by a division
that does not touch the factor.  So the two turtles start at corresponding places, and a step
along any heading keeps them there (`Viewport.pace_scaled`), whatever lengths the heading is
read off as.  The rest is what two related turtles have in common on every word.

All of this is exact, and so it is stated for fractions.
-/

set_option autoImplicit false

namespace LSystemExplorer

open scoped Fraction

/-! ## Scaled drawings -/

/-- The point with both coordinates multiplied. -/
def Point.scaled (factor : ℚ) (point : Point ℚ) : Point ℚ :=
  ⟨factor * point.x, factor * point.y⟩

/-- The segment between the multiplied ends. -/
def Segment.scaled (factor : ℚ) (segment : Segment ℚ) : Segment ℚ :=
  ⟨segment.start.scaled factor, segment.finish.scaled factor⟩

/-- The scene with all its lines scaled, in the same order.  The word that was walked is the
same. -/
def Scene.scaled (factor : ℚ) (scene : Scene ℚ) : Scene ℚ :=
  { scene with segments := scene.segments.map (Segment.scaled factor) }

/-- The viewport with its sides and its margin multiplied. -/
def Viewport.scaled (factor : ℚ) (viewport : Viewport ℚ) : Viewport ℚ :=
  ⟨factor * viewport.width, factor * viewport.height, factor * viewport.margin⟩

/-- The second number is `factor` times the first. -/
def IsMultiple (factor number multiple : ℚ) : Prop :=
  factor * number = multiple

variable {factor : ℚ}

theorem Point.Related.scaled_eq {point multiple : Point ℚ}
    (points : Point.Related (IsMultiple factor) point multiple) :
    point.scaled factor = multiple := by
  obtain ⟨x, y⟩ := points
  rw [Point.scaled, x, y]

theorem Segment.Related.scaled_eq {segment multiple : Segment ℚ}
    (segments : Segment.Related (IsMultiple factor) segment multiple) :
    segment.scaled factor = multiple := by
  obtain ⟨start, finish⟩ := segments
  rw [Segment.scaled, start.scaled_eq, finish.scaled_eq]

/-- Lines that correspond one to one are the scaled ones. -/
theorem map_scaled_eq {segments multiples : List (Segment ℚ)}
    (lines : List.Forall₂ (Segment.Related (IsMultiple factor)) segments multiples) :
    segments.map (Segment.scaled factor) = multiples := by
  have same : List.Forall₂ (fun segment multiple => segment.scaled factor = multiple)
      segments multiples := lines.imp fun _ _ => Segment.Related.scaled_eq
  rw [← List.forall₂_map_left_iff, List.forall₂_eq_eq_eq] at same
  exact same

/-! ## Viewports -/

theorem Scalar.positivePart_eq_max (number : ℚ) : positivePart number = max number 0 := by
  by_cases positive : 0 < number
  · exact (if_pos positive).trans (max_eq_left positive.le).symm
  · exact (if_neg positive).trans (max_eq_right (not_lt.mp positive)).symm

/-- What is cut off at zero is cut off at zero after scaling, too. -/
theorem Scalar.positivePart_mul (positive : 0 < factor) (number : ℚ) :
    positivePart (factor * number) = factor * positivePart number := by
  rw [positivePart_eq_max, positivePart_eq_max, mul_max_of_nonneg _ _ positive.le, mul_zero]

namespace Viewport

/-- The space inside the margin grows with the viewport. -/
theorem inside_scaled (positive : 0 < factor) (side margin : ℚ) :
    Scalar.positivePart (factor * side - 2.0 * (factor * margin)) =
      factor * Scalar.positivePart (side - 2.0 * margin) := by
  have inside : factor * side - 2.0 * (factor * margin) = factor * (side - 2.0 * margin) := by
    rw [mul_sub, mul_left_comm factor]
  rw [inside, Scalar.positivePart_mul positive]

theorem innerWidth_scaled (positive : 0 < factor) (viewport : Viewport ℚ) :
    (viewport.scaled factor).innerWidth = factor * viewport.innerWidth :=
  inside_scaled positive viewport.width viewport.margin

theorem innerHeight_scaled (positive : 0 < factor) (viewport : Viewport ℚ) :
    (viewport.scaled factor).innerHeight = factor * viewport.innerHeight :=
  inside_scaled positive viewport.height viewport.margin

/-- **The turtle starts at the scaled place**, and looks the same way. -/
theorem startingCursor_scaled (positive : 0 < factor) (viewport : Viewport ℚ) (model : Model ℚ) :
    Cursor.Related (IsMultiple factor) (viewport.startingCursor model)
      ((viewport.scaled factor).startingCursor model) := by
  have placed (inner margin share : ℚ) :
      factor * (inner * share + margin) = factor * inner * share + factor * margin := by ring
  refine ⟨⟨?_, ?_⟩, rfl⟩
  · rw [IsMultiple, startingCursor, startingCursor, innerWidth_scaled positive]
    exact placed _ _ _
  · rw [IsMultiple, startingCursor, startingCursor, innerHeight_scaled positive]
    exact placed _ _ _

theorem segmentLength_scaled (positive : 0 < factor) (viewport : Viewport ℚ) (model : Model ℚ) :
    (viewport.scaled factor).segmentLength model = factor * viewport.segmentLength model := by
  rw [segmentLength, segmentLength, innerHeight_scaled positive]
  exact mul_div_assoc factor _ _

variable [Compass ℚ]

/-- **A step along any heading keeps corresponding places so.** -/
theorem pace_scaled (positive : 0 < factor) (viewport : Viewport ℚ) (model : Model ℚ)
    (angle : ℚ) :
    Pace.Related (IsMultiple factor) (viewport.pace model angle)
      ((viewport.scaled factor).pace model angle) := by
  have lengths := segmentLength_scaled positive viewport model
  refine ⟨rfl, fun heading x x' multiple => ?_, fun heading y y' multiple => ?_⟩
  · rw [IsMultiple] at multiple ⊢
    rw [pace, pace, lengths, ← multiple]
    ring
  · rw [IsMultiple] at multiple ⊢
    rw [pace, pace, lengths, ← multiple]
    ring

end Viewport

/-! ## Scenes -/

/-- **A drawing grows with its viewport.**  In a viewport whose sides and margin are all
multiplied by a positive factor, a model is drawn with the same lines in the same order, each of
their coordinates multiplied by the factor, or cannot be drawn for the same reason. -/
theorem Scene.render_scaled [Compass ℚ] (model : Model ℚ) (angle : ℚ) (viewport : Viewport ℚ)
    (positive : 0 < factor) :
    Scene.render model angle (viewport.scaled factor) =
      (Scene.render model angle viewport).map (Scene.scaled factor) := by
  have outcomes := interpret_related (viewport.pace_scaled positive model angle)
    (viewport.startingCursor_scaled positive model) model.generate
  have scenes : SameOutcome (fun scene multiple => scene.scaled factor = multiple)
      (Scene.render model angle viewport) (Scene.render model angle (viewport.scaled factor)) :=
    outcomes.map fun lines => by rw [Scene.scaled, map_scaled_eq lines]
  exact scenes.map_eq.symm

/-- The margin leaves a space of 30 by 20 dots, and in the viewport that is two and a half times as
large one of 75 by 50.  A word that closes one branch too many cannot be drawn in either. -/
theorem Scene.render_scaled_cross :
    letI := Compass.alongAxes
    let viewport : Viewport ℚ := ⟨34, 24, 2⟩
    let cross : Model ℚ :=
      { Model.blank "Cross" with
        iterations := 1
        seed := "F".toList
        rules := Rules.ofList [('F', "F[+F]f|F".toList)]
        segments := 5 }
    let broken : Model ℚ := { cross with seed := "F]".toList }
    (0 : ℚ) < 5 / 2 ∧
      Scene.render cross 90 (viewport.scaled (5 / 2)) =
        (Scene.render cross 90 viewport).map (Scene.scaled (5 / 2)) ∧
      Scene.render cross 90 viewport = .ok ⟨8, [⟨⟨17, 22⟩, ⟨17, 18⟩⟩, ⟨⟨17, 18⟩, ⟨21, 18⟩⟩,
        ⟨⟨17, 14⟩, ⟨17, 18⟩⟩]⟩ ∧
      Scene.render broken 90 (viewport.scaled (5 / 2)) = .error ⟨8⟩ := by
  let _ : Compass ℚ := Compass.alongAxes
  intro viewport cross broken
  have positive : (0 : ℚ) < 5 / 2 := by norm_num
  have drawn : Scene.render cross 90 viewport = .ok ⟨8, [⟨⟨17, 22⟩, ⟨17, 18⟩⟩,
      ⟨⟨17, 18⟩, ⟨21, 18⟩⟩, ⟨⟨17, 14⟩, ⟨17, 18⟩⟩]⟩ := by decide +kernel
  have failed : Scene.render broken 90 viewport = .error ⟨8⟩ := by decide +kernel
  refine ⟨positive, Scene.render_scaled cross 90 viewport positive, drawn, ?_⟩
  rw [Scene.render_scaled broken 90 viewport positive, failed]
  rfl

end LSystemExplorer
