import LSystemExplorer.Proofs.Turtle.Outcome
import Mathlib.Data.List.Forall2

/-!
# Two turtles on the same word

Two turtles walk along the same word at their own paces and from their own cursors.
They always look the same way, and their coordinates stand in some relation: they may be
alike up to the sign of zero, or those of one may be a multiple of those of the other.
The relation is a parameter here.  It is carried from numbers to points, cursors and
lines coordinate by coordinate, and two paces are related when a step of either turtle
keeps it.

Then each symbol keeps the turtles related (`Turtle.Related.heed`), so the lines they
draw correspond one to one (`Turtle.Related.lines`).  As the brackets of the word alone
decide whether a walk fails, the two interpretations come to the same outcome
(`interpret_related`).
-/

set_option autoImplicit false

namespace LSystemExplorer

variable {α : Type} {related : α → α → Prop}

/-! ## Related data -/

/-- The coordinates are related. -/
structure Point.Related (related : α → α → Prop) (left right : Point α) : Prop where
  x : related left.x right.x
  y : related left.y right.y

/-- The cursors look the same way, from related points. -/
structure Cursor.Related (related : α → α → Prop) (left right : Cursor α) : Prop where
  position : left.position.Related related right.position
  heading : left.heading = right.heading

/-- The lines have related ends. -/
structure Segment.Related (related : α → α → Prop) (left right : Segment α) : Prop where
  start : left.start.Related related right.start
  finish : left.finish.Related related right.finish

/-- The turtles are at related cursors and remember related cursors. -/
structure Turtle.Related (related : α → α → Prop) (left right : Turtle α) : Prop where
  cursor : left.cursor.Related related right.cursor
  branches : List.Forall₂ (Cursor.Related related) left.branches right.branches

/-- The paces turn by the same angle, and a step along any heading keeps the relation of
the coordinates. -/
structure Pace.Related [Scalar α] [Compass α] (related : α → α → Prop) (left right : Pace α) :
    Prop where
  angle : left.angle = right.angle
  across : ∀ (heading : α) {x x' : α}, related x x' →
    related (x + Compass.cosine heading * left.length)
      (x' + Compass.cosine heading * right.length)
  down : ∀ (heading : α) {y y' : α}, related y y' →
    related (y - Compass.sine heading * left.length)
      (y' - Compass.sine heading * right.length)

/-- Both fail at the same place, or both succeed with the same result. -/
inductive SameOutcome {β : Type} (same : β → β → Prop) :
    Except Underflow β → Except Underflow β → Prop
  | ok {left right : β} (results : same left right) : SameOutcome same (.ok left) (.ok right)
  | error (underflow : Underflow) : SameOutcome same (.error underflow) (.error underflow)

namespace SameOutcome

variable {β γ : Type} {same : β → β → Prop} {same' : γ → γ → Prop}

/-- An outcome is the same as itself if its result is. -/
theorem refl (reflexive : ∀ result, same result result) (outcome : Except Underflow β) :
    SameOutcome same outcome outcome := by
  cases outcome with
  | ok result => exact .ok (reflexive result)
  | error underflow => exact .error underflow

theorem map {left right : Except Underflow β} {f g : β → γ}
    (outcomes : SameOutcome same left right)
    (results : ∀ {result result' : β}, same result result' → same' (f result) (g result')) :
    SameOutcome same' (left.map f) (right.map g) := by
  cases outcomes with
  | ok same => exact .ok (results same)
  | error underflow => exact .error underflow

/-- Outcomes are equal when one result is a function of the other. -/
theorem map_eq {f : β → β} {left right : Except Underflow β}
    (outcomes : SameOutcome (fun result result' => f result = result') left right) :
    left.map f = right := by
  cases outcomes with
  | ok same => exact congrArg Except.ok same
  | error underflow => rfl

end SameOutcome

/-! ## One symbol -/

theorem Cursor.Related.rotate [Scalar α] {left right : Cursor α}
    (cursors : Cursor.Related related left right) {degrees degrees' : α}
    (same : degrees = degrees') :
    Cursor.Related related (left.rotate degrees) (right.rotate degrees') := by
  refine ⟨cursors.position, ?_⟩
  rw [Cursor.rotate, Cursor.rotate, cursors.heading, same]

section Walk

variable [Scalar α] [Compass α] {leftPace rightPace : Pace α}

theorem Cursor.Related.advance {left right : Cursor α}
    (paces : Pace.Related related leftPace rightPace)
    (cursors : Cursor.Related related left right) :
    Cursor.Related related (left.advance leftPace.length) (right.advance rightPace.length) := by
  obtain ⟨⟨x, y⟩, heading⟩ := cursors
  refine ⟨⟨?_, ?_⟩, heading⟩
  · rw [Cursor.advance, Cursor.advance, ← heading]
    exact paces.across left.heading x
  · rw [Cursor.advance, Cursor.advance, ← heading]
    exact paces.down left.heading y

namespace Turtle.Related

variable {left right : Turtle α}

/-- **A symbol keeps the turtles related.** -/
theorem heed (paces : Pace.Related related leftPace rightPace)
    (turtles : Turtle.Related related left right) (symbol : Symbol) :
    Turtle.Related related (left.heed leftPace symbol).1 (right.heed rightPace symbol).1 := by
  cases told : Command.ofSymbol? symbol with
  | none =>
      simp only [Turtle.heed, told, Option.bind_none, Option.getD_none]
      exact turtles
  | some command =>
      obtain rfl := Command.ofSymbol?_eq_some_iff.mp told
      obtain ⟨cursors, branches⟩ := turtles
      cases command with
      | draw => exact ⟨cursors.advance paces, branches⟩
      | move => exact ⟨cursors.advance paces, branches⟩
      | turnLeft => exact ⟨cursors.rotate paces.angle, branches⟩
      | turnRight => exact ⟨cursors.rotate (congrArg Neg.neg paces.angle), branches⟩
      | turnAround => exact ⟨cursors.rotate rfl, branches⟩
      | push => exact ⟨cursors, .cons cursors branches⟩
      | pop =>
          obtain ⟨leftCursor, leftBranches⟩ := left
          obtain ⟨rightCursor, rightBranches⟩ := right
          cases branches with
          | nil => exact ⟨cursors, .nil⟩
          | cons latest older => exact ⟨latest, older⟩

/-- The lines from where the turtles are to where their next steps lead are related. -/
theorem stroke (paces : Pace.Related related leftPace rightPace)
    (turtles : Turtle.Related related left right) :
    Segment.Related related (left.stroke leftPace) (right.stroke rightPace) :=
  ⟨turtles.cursor.position, (turtles.cursor.advance paces).position⟩

/-! ## Whole words -/

/-- **The lines that the turtles draw correspond one to one.** -/
theorem lines (paces : Pace.Related related leftPace rightPace)
    (turtles : Turtle.Related related left right) (word : Word) :
    List.Forall₂ (Segment.Related related) (left.lines leftPace word)
      (right.lines rightPace word) := by
  induction word generalizing left right with
  | nil => exact .nil
  | cons symbol later ih =>
      have following := ih (turtles.heed paces symbol)
      rw [lines_cons, lines_cons, line_heed, line_heed]
      by_cases draws : symbol = 'F'
      · rw [if_pos draws, if_pos draws]
        exact .cons (turtles.stroke paces) following
      · rw [if_neg draws, if_neg draws]
        exact following

end Turtle.Related

/-- **Turtles at related cursors and paces come to the same outcome**, with corresponding
lines if they succeed. -/
theorem interpret_related {left right : Cursor α}
    (paces : Pace.Related related leftPace rightPace)
    (cursors : Cursor.Related related left right) (word : Word) :
    SameOutcome (List.Forall₂ (Segment.Related related)) (interpret leftPace left word)
      (interpret rightPace right word) := by
  have turtles : Turtle.Related related (.start left) (.start right) := ⟨cursors, .nil⟩
  rw [interpret_eq, interpret_eq]
  cases unmatched? 0 word with
  | none => exact .ok (turtles.lines paces word)
  | some place => exact .error ⟨place⟩

end Walk

end LSystemExplorer
