import LSystemExplorer.Screen.Cells
import LSystemExplorer.Viewer.State

/-!
# Frames

A frame is what the viewer shows at one moment: the drawing in a pane on the left,
the model in a pane on the right, and a status line below them.  The drawing has
two columns and four rows of dots in each cell of its pane, inside the border, and
so the size of the screen decides the viewport.
-/

set_option autoImplicit false

namespace LSystemExplorer

/-! ## Panes -/

/-- How a screen is divided. -/
structure Panes where
  drawing : Area
  model : Area
  /-- The left half of the status line. -/
  status : Area
  /-- The right half of the status line. -/
  keys : Area
  deriving Repr, DecidableEq

/-- The panes of a screen.  The status line is the last row, and the drawing takes 72
percent of the columns above it. -/
def Panes.ofArea (area : Area) : Panes :=
  let rows := area.splitLastRow
  let above := rows.1.splitColumns (rows.1.percentOfColumns 72)
  let line := rows.2.splitColumns (rows.2.percentOfColumns 50)
  ⟨above.1, above.2, line.1, line.2⟩

namespace Viewport

variable {α : Type} [Scalar α]

/-- A number of cells as a number of the canvas. -/
def ofCount (count : Nat) : α :=
  OfScientific.ofScientific count false 0

/-- The columns of dots in a cell. -/
def dotsPerColumn : α := 2.0

/-- The rows of dots in a cell. -/
def dotsPerRow : α := 4.0

/-- How far a drawing stays away from the border, in dots. -/
def paneMargin : α := 2.0

/-- The dots inside the border of a pane. -/
def ofPane (pane : Area) : Viewport α :=
  ⟨ofCount pane.inside.width * dotsPerColumn, ofCount pane.inside.height * dotsPerRow,
    paneMargin⟩

end Viewport

/-! ## Frames -/

/-- What the status line points out. -/
inductive Badge
  | failure
  | last
  | first
  deriving Repr, DecidableEq

/-- All that is shown at one moment. -/
structure Frame (α : Type) where
  model : Model α
  place : Nat
  total : Nat
  angle : α
  viewport : Viewport α
  scene : Except Underflow (Scene α)
  status : Status α
  /-- The selection goes round in a circle. -/
  wraps : Bool

namespace Frame

variable {α : Type}

/-- The model of the frame could not be drawn. -/
def hasFailed (frame : Frame α) : Bool :=
  match frame.scene with
  | .ok _ => false
  | .error _ => true

/-- What the status line points out.  A selection that goes round in a circle has no
ends to point out. -/
def badge? (frame : Frame α) : Option Badge :=
  if frame.hasFailed then some .failure
  else if frame.wraps then none
  else if frame.total ≤ frame.place + 1 then some .last
  else if frame.place = 0 then some .first
  else none

end Frame

namespace Viewer

variable {α : Type}

/-- The frame that shows the present state of the viewer. -/
def frame (viewer : Viewer α) (viewport : Viewport α) : Frame α where
  model := viewer.model
  place := viewer.place
  total := viewer.catalog.size
  angle := viewer.angle
  viewport := viewport
  scene := viewer.scene
  status := viewer.status
  wraps := viewer.wraps

/-- Show a frame on a screen, and the state of the viewer afterwards. -/
@[specialize] def present [Scalar α] [Compass α] (viewer : Viewer α) (area : Area) :
    Frame α × Viewer α :=
  let viewport := Viewport.ofPane (Panes.ofArea area).drawing
  let refreshed := viewer.refresh viewport
  (refreshed.frame viewport, refreshed)

end Viewer

end LSystemExplorer
