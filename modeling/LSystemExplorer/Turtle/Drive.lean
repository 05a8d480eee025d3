import LSystemExplorer.Turtle.Walk

/-!
# Driving the turtle

A walk ends with the first fault.  Who drives the turtle by hand gives it one symbol after
the other, each with the place under which a fault is to be reported, and may go on after a
fault.  So it matters what a fault leaves behind.  Here the turtle is the state: commands
change it bit by bit, and a fault is raised with the turtle as it is at that moment.
-/

set_option autoImplicit false

namespace LSystemExplorer

/-- What is done to a turtle step by step and may raise a fault on the way. -/
abbrev Drive (α : Type) := ExceptT Underflow (StateM (Turtle α))

namespace Turtle

variable {α : Type}

/-- Forget the cursor that was remembered last, and say which it was, if there is one. -/
def popBranch : Drive α (Option (Cursor α)) := do
  let turtle ← get
  match turtle.branches with
  | [] => return none
  | latest :: older =>
    set { turtle with branches := older }
    return some latest

/-- Change the cursor, and leave the branches. -/
def changeCursor (change : Cursor α → Cursor α) : Drive α Unit :=
  modify fun turtle => { turtle with cursor := change turtle.cursor }

variable [Scalar α] [Compass α]

/-- Carry out a command that stands at `index`, and say which line was drawn, if any. -/
@[specialize] def carryOut (pace : Pace α) (index : Nat) :
    Command → Drive α (Option (Segment α))
  | .draw => do
    let start := (← get).cursor.position
    changeCursor fun cursor => cursor.advance pace.length
    return some ⟨start, (← get).cursor.position⟩
  | .move => do
    changeCursor fun cursor => cursor.advance pace.length
    return none
  | .turnLeft => do
    changeCursor fun cursor => cursor.rotate pace.angle
    return none
  | .turnRight => do
    changeCursor fun cursor => cursor.rotate (-pace.angle)
    return none
  | .turnAround => do
    changeCursor fun cursor => cursor.rotate 180.0
    return none
  | .push => do
    modify fun turtle => { turtle with branches := turtle.cursor :: turtle.branches }
    return none
  | .pop => do
    let some latest ← popBranch | throw ⟨index⟩
    changeCursor fun _ => latest
    return none

/-- Take a symbol that stands at `index`. -/
@[specialize] def take (pace : Pace α) (index : Nat) (symbol : Symbol) :
    Drive α (Option (Segment α)) :=
  match Command.ofSymbol? symbol with
  | none => return none
  | some command => carryOut pace index command

/-- What a symbol leads to, and the turtle it leaves behind, also if it raises a fault. -/
@[specialize] def taken (pace : Pace α) (turtle : Turtle α) (index : Nat) (symbol : Symbol) :
    Except Underflow (Option (Segment α)) × Turtle α :=
  (take pace index symbol).run.run turtle

/-- Take some symbols, each with its place, and go on after faults.  The result is what each
symbol led to, and the turtle at the end. -/
@[specialize] def drive (pace : Pace α) (turtle : Turtle α) :
    List (Nat × Symbol) → List (Except Underflow (Option (Segment α))) × Turtle α
  | [] => ([], turtle)
  | (index, symbol) :: later =>
    let first := turtle.taken pace index symbol
    let rest := first.2.drive pace later
    (first.1 :: rest.1, rest.2)

end Turtle

end LSystemExplorer
