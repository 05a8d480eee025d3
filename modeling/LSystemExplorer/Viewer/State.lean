import LSystemExplorer.Catalog.Basic
import LSystemExplorer.Drawing.Scene

/-!
# The state of the viewer

The viewer shows one model of a catalog at a time, drawn with an angle that the
user may change.  Going to another model sets the angle back to the one the model
comes with.  The selection either goes round in a circle or stops at the first
and at the last model.

The last scene is kept and drawn anew only when the model, the angle or the
viewport has changed.  Numbers are compared as machine numbers are, so a scene
whose angle or viewport is not a number is drawn each time.
-/

set_option autoImplicit false

namespace LSystemExplorer

/-! ## The status -/

/-- What the viewer reports about the last thing it did. -/
inductive Status (α : Type)
  | ready
  | showing (name : String)
  | turned (angle : α)
  | angleReset (angle : α)
  | atFirst
  | atLast
  | failed (underflow : Underflow)
  deriving Repr, DecidableEq

/-! ## The selection -/

/-- How many numbers have sixty-four bits: `2 ^ 64`. -/
def wordCount : Nat := 0x10000000000000000

/-- A place in a list as the signed number with the same sixty-four bits. -/
def signedPlace (place : Nat) : Int :=
  Int.bmod place wordCount

/-- The selection of one of `size` models, at first the one at `place`.  In a circle
the end of the range is no place itself. -/
def Bounded.selection (mode : BoundMode) (size place : Nat) : Bounded Int :=
  match mode with
  | .wrap => Bounded.make .wrap 0 size (signedPlace place)
  | .clamp => Bounded.make .clamp 0 (size - 1) (signedPlace place)

/-! ## The state -/

/-- What a scene depends on. -/
structure SceneKey (α : Type) where
  place : Nat
  angle : α
  viewport : Viewport α
  deriving Repr, DecidableEq

/-- Both keys stand for the same scene. -/
def SceneKey.agrees {α : Type} [Scalar α] (left right : SceneKey α) : Bool :=
  left.place == right.place && left.angle == right.angle &&
    left.viewport.width == right.viewport.width &&
    left.viewport.height == right.viewport.height &&
    left.viewport.margin == right.viewport.margin

/-- The state of the viewer. -/
structure Viewer (α : Type) where
  catalog : Catalog α
  selection : Bounded Int
  turning : Bounded α
  /-- What the last scene was drawn for, if there is one. -/
  drawnFor : Option (SceneKey α)
  scene : Except Underflow (Scene α)
  hasQuit : Bool
  status : Status α

namespace Viewer

variable {α : Type}

/-- The place of the model that is shown. -/
def place (viewer : Viewer α) : Nat :=
  viewer.selection.value.toNat

/-- The model that is shown. -/
def model (viewer : Viewer α) : Model α :=
  viewer.catalog.model viewer.place

/-- The present angle, in degrees. -/
def angle (viewer : Viewer α) : α :=
  viewer.turning.value

/-- The selection goes round in a circle. -/
def wraps (viewer : Viewer α) : Bool :=
  viewer.selection.mode = .wrap

/-- The last scene could not be drawn. -/
def hasFailed (viewer : Viewer α) : Bool :=
  match viewer.scene with
  | .ok _ => false
  | .error _ => true

variable [Scalar α]

/-- Set the angle back to the one the model comes with. -/
def resetAngle (viewer : Viewer α) : Viewer α :=
  { viewer with turning := viewer.turning.set viewer.model.angleStep }

/-- A viewer that shows the model at some place at first. -/
def start (catalog : Catalog α) (mode : BoundMode) (place : Nat) : Viewer α :=
  resetAngle {
    catalog
    selection := Bounded.selection mode catalog.size place
    turning := AngleRange.bounded AngleRange.least
    drawnFor := none
    scene := .ok Scene.empty
    hasQuit := false
    status := .ready }

/-- Show the selected model at the angle that it comes with, and report its name. -/
def activate (viewer : Viewer α) : Viewer α :=
  { viewer.resetAngle with status := .showing viewer.model.name }

/-- Go `delta` models further.  A selection that stops at the ends and cannot move
leaves the viewer as it is and reports the end. -/
def shift (viewer : Viewer α) (delta : Int) : Viewer α :=
  let moved := { viewer with selection := viewer.selection.shift delta }
  if moved.place = viewer.place && !viewer.wraps then
    { moved with status := if delta < 0 then .atFirst else .atLast }
  else moved.activate

/-- Go to the model at a place. -/
def select (viewer : Viewer α) (place : Nat) : Viewer α :=
  { viewer with selection := viewer.selection.set (signedPlace place) }.activate

/-- Report a change of the angle.  An angle that stayed the same draws nothing anew, so
the report of a scene that could not be drawn is then left standing. -/
def report (viewer : Viewer α) (before : α) (status : Status α) : Viewer α :=
  if viewer.hasFailed && viewer.angle == before then viewer else { viewer with status }

/-- Turn by `delta` degrees more, and report the angle. -/
def adjust (viewer : Viewer α) (delta : α) : Viewer α :=
  let adjusted := { viewer with turning := viewer.turning.shift delta }
  adjusted.report viewer.angle (.turned adjusted.angle)

/-- Set the angle back, and report it. -/
def resetAndReport (viewer : Viewer α) : Viewer α :=
  let reset := viewer.resetAngle
  reset.report viewer.angle (.angleReset reset.angle)

/-- What the scene in a viewport depends on. -/
def sceneKey (viewer : Viewer α) (viewport : Viewport α) : SceneKey α :=
  ⟨viewer.place, viewer.angle, viewport⟩

/-- Bring the scene up to date for a viewport.  A model that cannot be drawn is
reported. -/
@[specialize] def refresh [Compass α] (viewer : Viewer α) (viewport : Viewport α) : Viewer α :=
  let key := viewer.sceneKey viewport
  if viewer.drawnFor.any key.agrees then viewer
  else
    let scene := Scene.render viewer.model key.angle viewport
    let status := match scene with
      | .ok _ => viewer.status
      | .error underflow => .failed underflow
    { viewer with drawnFor := some key, scene, status }

end Viewer

end LSystemExplorer
