import LSystemExplorer.Grammar.Model
import LSystemExplorer.Grammar.Rules
import LSystemExplorer.Number.Bounded

/-!
# Walking along a word

The turtle takes a word symbol by symbol.  It has a cursor and a stack of
remembered cursors, and the walk yields the segments it draws.  The only thing
that can go wrong is a `]` when nothing is remembered; the walk then ends with
the place of that symbol in the word, and the turtle is left as it was.
Branches that are still open at the end of the word are no fault.
-/

set_option autoImplicit false

namespace LSystemExplorer

/-! ## What the symbols tell the turtle

Seven symbols are commands.  All others belong to the grammar alone, and the
turtle passes over them.
-/

/-- Something the turtle is told to do. -/
inductive Command
  | draw
  | move
  /-- Turn counter-clockwise by the angle step. -/
  | turnLeft
  /-- Turn clockwise by the angle step. -/
  | turnRight
  | turnAround
  /-- Remember the place and the heading. -/
  | push
  /-- Go back to what was remembered last. -/
  | pop
  deriving Repr, DecidableEq

/-- The command that a symbol stands for, if it stands for one. -/
def Command.ofSymbol? : Symbol → Option Command
  | 'F' => some .draw
  | 'f' => some .move
  | '-' => some .turnLeft
  | '+' => some .turnRight
  | '|' => some .turnAround
  | '[' => some .push
  | ']' => some .pop
  | _ => none

/-! ## Where the turtle is and where it looks

A cursor is a point and a heading.  The heading is kept in the half-open range
from half a turn clockwise to half a turn counter-clockwise, whatever it is set
to, and a step goes along it; up on the canvas is toward smaller coordinates.
-/

/-- A point and a heading in degrees. -/
structure Cursor (α : Type) where
  position : Point α
  /-- The heading, already brought into its range. -/
  heading : α
  deriving Repr, DecidableEq

namespace Cursor

variable {α : Type} [Scalar α]

/-- Bring a heading into the range from `-180` up to, but not including, `180`
degrees. -/
@[specialize] def wrapHeading (degrees : α) : α :=
  Bounded.fit .wrap (-180.0) 180.0 degrees

/-- The cursor at a point that looks along a heading. -/
@[specialize] def facing (position : Point α) (degrees : α) : Cursor α :=
  ⟨position, wrapHeading degrees⟩

/-- Turn by some degrees, counter-clockwise if they are positive. -/
@[specialize] def rotate (cursor : Cursor α) (degrees : α) : Cursor α :=
  { cursor with heading := wrapHeading (cursor.heading + degrees) }

/-- Walk along the heading. -/
@[specialize] def advance [Compass α] (cursor : Cursor α) (length : α) : Cursor α :=
  { cursor with
    position :=
      ⟨cursor.position.x + Compass.cosine cursor.heading * length,
        cursor.position.y - Compass.sine cursor.heading * length⟩ }

end Cursor

/-! ## The walk -/

/-- A line that was drawn. -/
structure Segment (α : Type) where
  start : Point α
  finish : Point α
  deriving Repr, DecidableEq

/-- How far the turtle walks and turns at a time. -/
structure Pace (α : Type) where
  length : α
  angle : α
  deriving Repr, DecidableEq

/-- A branch was closed that had not been opened. -/
structure Underflow where
  /-- The place of the closing symbol in the word, counted in symbols. -/
  index : Nat
  deriving Repr, DecidableEq

/-- The wording of an underflow. -/
def Underflow.message (underflow : Underflow) : String :=
  s!"Branch stack underflow: unmatched ']' at symbol {underflow.index}"

/-- A cursor, and the cursors to come back to. -/
structure Turtle (α : Type) where
  cursor : Cursor α
  /-- What it remembers, the latest first. -/
  branches : List (Cursor α)
  deriving Repr, DecidableEq

namespace Turtle

variable {α : Type}

/-- A turtle that remembers nothing. -/
def start (cursor : Cursor α) : Turtle α :=
  ⟨cursor, []⟩

/-- The number of open branches. -/
def depth (turtle : Turtle α) : Nat :=
  turtle.branches.length

variable [Scalar α] [Compass α]

/-- Carry out one command.  The result is the turtle afterwards and the line it
drew, if any; there is none when no branch is open to come back from. -/
@[specialize] def obey (pace : Pace α) (turtle : Turtle α) :
    Command → Option (Turtle α × Option (Segment α))
  | .draw =>
    let cursor := turtle.cursor.advance pace.length
    some ({ turtle with cursor }, some ⟨turtle.cursor.position, cursor.position⟩)
  | .move => some ({ turtle with cursor := turtle.cursor.advance pace.length }, none)
  | .turnLeft => some ({ turtle with cursor := turtle.cursor.rotate pace.angle }, none)
  | .turnRight => some ({ turtle with cursor := turtle.cursor.rotate (-pace.angle) }, none)
  | .turnAround => some ({ turtle with cursor := turtle.cursor.rotate 180.0 }, none)
  | .push => some ({ turtle with branches := turtle.cursor :: turtle.branches }, none)
  | .pop =>
    match turtle.branches with
    | [] => none
    | latest :: older => some (⟨latest, older⟩, none)

/-- Take one symbol, which stands at `index` in its word. -/
@[specialize] def step (pace : Pace α) (turtle : Turtle α) (index : Nat) (symbol : Symbol) :
    Except Underflow (Turtle α × Option (Segment α)) :=
  match Command.ofSymbol? symbol with
  | none => .ok (turtle, none)
  | some command =>
    match turtle.obey pace command with
    | some outcome => .ok outcome
    | none => .error ⟨index⟩

/-- Take the symbols of a word one after the other, the first of which stands at
`index`; `drawn` are the lines drawn before, the latest first. -/
@[specialize] def walkFrom (pace : Pace α) :
    Word → Nat → Turtle α → List (Segment α) → Except Underflow (Turtle α × List (Segment α))
  | [], _, turtle, drawn => .ok (turtle, drawn.reverse)
  | symbol :: later, index, turtle, drawn =>
    match turtle.step pace index symbol with
    | .error underflow => .error underflow
    | .ok (moved, none) => walkFrom pace later (index + 1) moved drawn
    | .ok (moved, some line) => walkFrom pace later (index + 1) moved (line :: drawn)

/-- Walk along a word: the turtle at the end, and the lines it drew in order. -/
@[specialize] def walk (pace : Pace α) (turtle : Turtle α) (word : Word) :
    Except Underflow (Turtle α × List (Segment α)) :=
  walkFrom pace word 0 turtle []

end Turtle

/-- The lines that are drawn for a word by a turtle that starts at a cursor. -/
@[specialize] def interpret {α : Type} [Scalar α] [Compass α] (pace : Pace α) (cursor : Cursor α)
    (word : Word) : Except Underflow (List (Segment α)) :=
  (Turtle.walk pace (Turtle.start cursor) word).map Prod.snd

end LSystemExplorer
