import LSystemExplorer.Grammar.Model
import LSystemExplorer.Number.Bounded
import LSystemExplorer.Turtle.Walk

/-!
# Scenes

A viewport is the canvas a model is drawn on, with a blank margin on all sides.
The model's starting point, which lies in the unit square, is scaled into the
part inside the margin, and the height of that part decides how long a segment
is.  A scene is the outcome of drawing a model in a viewport with some angle.
-/

set_option autoImplicit false

namespace LSystemExplorer

/-- A canvas, with the second coordinate pointing down. -/
structure Viewport (α : Type) where
  width : α
  height : α
  /-- How far the drawing stays away from each side. -/
  margin : α
  deriving Repr, DecidableEq

/-- What was drawn for a model: how long its word is, and the lines, in the order in which the
turtle drew them. -/
structure Scene (α : Type) where
  /-- The length of the word that was walked, in eight-bit units. -/
  patternLength : Nat
  segments : List (Segment α)
  deriving Repr, DecidableEq

namespace Viewport

variable {α : Type} [Scalar α]

/-- The width inside the margin; a margin that leaves nothing leaves zero. -/
def innerWidth (viewport : Viewport α) : α :=
  Scalar.positivePart (viewport.width - 2.0 * viewport.margin)

/-- The height inside the margin; a margin that leaves nothing leaves zero. -/
def innerHeight (viewport : Viewport α) : α :=
  Scalar.positivePart (viewport.height - 2.0 * viewport.margin)

/-- Where the turtle starts for a model. -/
def startingCursor (viewport : Viewport α) (model : Model α) : Cursor α :=
  Cursor.facing
    ⟨viewport.innerWidth * model.position.x + viewport.margin,
      viewport.innerHeight * model.position.y + viewport.margin⟩
    model.heading

/-- How long one segment of a model is. -/
def segmentLength (viewport : Viewport α) (model : Model α) : α :=
  model.segmentLength viewport.innerHeight

/-- How far a turtle walks and turns for a model. -/
def pace (viewport : Viewport α) (model : Model α) (angle : α) : Pace α :=
  ⟨viewport.segmentLength model, angle⟩

end Viewport

namespace Scene

variable {α : Type}

/-- The scene before anything was drawn. -/
def empty : Scene α := ⟨0, []⟩

/-- Draw a model in a viewport, turning by `angle` degrees at a time. -/
@[specialize] def render [Scalar α] [Compass α] (model : Model α) (angle : α)
    (viewport : Viewport α) : Except Underflow (Scene α) :=
  let word := model.generate
  (interpret (viewport.pace model angle) (viewport.startingCursor model) word).map
    fun segments => ⟨word.encodedLength, segments⟩

end Scene

end LSystemExplorer

namespace LSystemExplorer.AngleRange

/-! ## The range of turning angles

Wherever a drawing is shown the turning angle lies between five degrees and a
third of a circle.
-/

variable {α : Type} [Scalar α]

/-- The lower end of the range, in degrees. -/
def least : α := 5.0

/-- The upper end of the range, in degrees. -/
def greatest : α := 120.0

/-- Bring an angle into the range. -/
def fit (angle : α) : α :=
  Bounded.fit .clamp least greatest angle

/-- An angle that stays in the range from now on. -/
def bounded (angle : α) : Bounded α :=
  Bounded.make .clamp least greatest angle

end LSystemExplorer.AngleRange
