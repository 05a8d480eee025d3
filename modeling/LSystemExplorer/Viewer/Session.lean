import LSystemExplorer.Viewer.Frame
import LSystemExplorer.Viewer.State

/-!
# Sessions

An action is anything that can happen to the viewer, and a history is a list of
actions.  In a session a frame is shown before each key is taken; the size of the
screen may change from frame to frame.  The session ends with the frame after
which the user wants to leave.
-/

set_option autoImplicit false

namespace LSystemExplorer

/-! ## Keys

The arrows to the left and to the right go to the model before and after, the
arrows up and down change the angle, `r` sets it back, and `q` or escape leaves.
Keys that mean nothing change nothing.
-/

/-- A key of the keyboard. -/
inductive Key
  | left
  | right
  | up
  | down
  | escape
  | character (character : Char)
  | other
  deriving Repr, DecidableEq

/-- A key that is pressed, alone or together with the control key. -/
structure Keystroke where
  key : Key
  control : Bool := false
  deriving Repr, DecidableEq

namespace Keystroke

variable {α : Type} [Scalar α]

/-- How far a key changes the angle, in degrees. -/
def increment : α := 0.5

/-- How many times farther it does so together with the control key. -/
def fastFactor : α := 10.0

/-- How far this key changes the angle, in degrees. -/
def angleChange (keystroke : Keystroke) : α :=
  if keystroke.control then increment * fastFactor else increment

end Keystroke

/-- What a key does. -/
def Viewer.press {α : Type} [Scalar α] (viewer : Viewer α) (keystroke : Keystroke) : Viewer α :=
  match keystroke.key with
  | .character 'q' | .character 'Q' | .escape => { viewer with hasQuit := true }
  | .left => viewer.shift (-1)
  | .right => viewer.shift 1
  | .up => viewer.adjust keystroke.angleChange
  | .down => viewer.adjust (-keystroke.angleChange)
  | .character 'r' | .character 'R' => viewer.resetAndReport
  | .character _ | .other => viewer

/-! ## Actions -/

/-- Anything that can happen to the viewer. -/
inductive Action (α : Type)
  | press (keystroke : Keystroke)
  | shift (delta : Int)
  | select (place : Nat)
  | adjust (delta : α)
  /-- The angle is set back without a report. -/
  | resetAngle
  | refresh (viewport : Viewport α)
  | present (area : Area)
  deriving Repr, DecidableEq

namespace Viewer

variable {α : Type} [Scalar α] [Compass α]

/-- The viewer after an action. -/
@[specialize] def perform (viewer : Viewer α) : Action α → Viewer α
  | .press keystroke => viewer.press keystroke
  | .shift delta => viewer.shift delta
  | .select place => viewer.select place
  | .adjust delta => viewer.adjust delta
  | .resetAngle => viewer.resetAngle
  | .refresh viewport => viewer.refresh viewport
  | .present area => (viewer.present area).2

/-- The viewer after a history. -/
@[specialize] def performAll (viewer : Viewer α) (history : List (Action α)) : Viewer α :=
  history.foldl perform viewer

/-! ## Frames and keys in turn -/

/-- The frames of a session that begins with a screen of some size.  Each key comes
with the size of the screen that the next frame is shown on. -/
@[specialize] def session (viewer : Viewer α) (area : Area) :
    List (Keystroke × Area) → List (Frame α)
  | [] => [(viewer.present area).1]
  | (keystroke, next) :: later =>
    let shown := viewer.present area
    if shown.2.hasQuit then [shown.1]
    else shown.1 :: (shown.2.press keystroke).session next later

end Viewer

end LSystemExplorer
