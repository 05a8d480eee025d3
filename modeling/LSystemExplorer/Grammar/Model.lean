import LSystemExplorer.Decimal.Text
import LSystemExplorer.Grammar.Rules
import LSystemExplorer.Number.Scalar

/-!
# Models

A model is one fractal: the word it starts from, the rules, how often they are
applied, and how the resulting word is placed, turned and scaled when it is
drawn.  A model is described by a name and a list of settings, of which a later
one overrides an earlier one, and only the final values are examined: all
numbers have to be finite, and the factor by which a segment shrinks has to be
positive.
-/

set_option autoImplicit false

namespace LSystemExplorer

/-- A point of the unit square or of a canvas, with the second coordinate
pointing down. -/
structure Point (α : Type) where
  x : α
  y : α
  deriving Repr, DecidableEq, Inhabited

/-- One fractal. -/
structure Model (α : Type) where
  name : String
  rules : Rules
  /-- The rules of one more pass after the last. -/
  finalRules : Rules
  iterations : Nat
  seed : Word
  /-- The heading at the start, in degrees; zero points to the right. -/
  heading : α
  /-- Where drawing starts, in the unit square. -/
  position : Point α
  /-- How far a turn goes, in degrees, unless the viewer chooses another angle. -/
  angleStep : α
  /-- The factor by which a pass makes the segments shorter. -/
  segments : α
  deriving DecidableEq

/-- A number that a model must not leave infinite or undefined. -/
inductive ModelNumber
  | segments
  | heading
  | positionX
  | positionY
  | angleStep
  deriving Repr, DecidableEq

/-- How messages refer to the number. -/
def ModelNumber.label : ModelNumber → String
  | .segments => "segments"
  | .heading => "initial_angle"
  | .positionX => "initial_position.x"
  | .positionY => "initial_position.y"
  | .angleStep => "angle_step"

/-- What keeps a description from being a model. -/
inductive Defect (α : Type)
  | segmentsNotPositive (segments : α)
  | iterationsOutOfRange (iterations : Int)
  | notFinite (number : ModelNumber)
  deriving Repr, DecidableEq

/-- A description that is not a model. -/
structure InvalidModel (α : Type) where
  name : String
  defect : Defect α
  deriving Repr, DecidableEq

/-- The wording of a defect. -/
def Defect.message : Defect Float → String
  | .segmentsNotPositive segments =>
    s!"segments must be positive, got {Decimal.plain segments}"
  | .iterationsOutOfRange iterations =>
    s!"iterations must be a non-negative count, got {iterations}"
  | .notFinite number => s!"{number.label} must be a finite number"

/-- The wording of a refusal, with the name of the model. -/
def InvalidModel.message (invalid : InvalidModel Float) : String :=
  s!"Invalid model '{invalid.name}': {invalid.defect.message}"

/-- One value in the description of a model. -/
inductive Setting (α : Type)
  | rule (symbol : Symbol) (word : Word)
  | finalRule (symbol : Symbol) (word : Word)
  | iterations (count : Nat)
  | seed (word : Word)
  | heading (degrees : α)
  | position (x y : α)
  | angleStep (degrees : α)
  | segments (factor : α)
  deriving Repr, DecidableEq

namespace Model

section Description

variable {α : Type}

/-- The model with one value changed. -/
def apply (model : Model α) : Setting α → Model α
  | .rule symbol word => { model with rules := model.rules.insert symbol word }
  | .finalRule symbol word => { model with finalRules := model.finalRules.insert symbol word }
  | .iterations count => { model with iterations := count }
  | .seed word => { model with seed := word }
  | .heading degrees => { model with heading := degrees }
  | .position x y => { model with position := ⟨x, y⟩ }
  | .angleStep degrees => { model with angleStep := degrees }
  | .segments factor => { model with segments := factor }

end Description

variable {α : Type} [Scalar α]

/-- What a description holds before its first setting: four passes over the word
`F`, drawn upward from the middle of the lower edge.  The shrinking factor has
no default that would do. -/
def blank (name : String) : Model α where
  name := name
  rules := ∅
  finalRules := ∅
  iterations := 4
  seed := ['F']
  heading := 90.0
  position := ⟨0.5, 1.0⟩
  angleStep := 0
  segments := 0

/-- The numbers of a model that have to be finite, in the order in which they are
examined. -/
def numbers (model : Model α) : List (ModelNumber × α) :=
  [(.segments, model.segments), (.heading, model.heading), (.positionX, model.position.x),
    (.positionY, model.position.y), (.angleStep, model.angleStep)]

/-- The first thing that is wrong with a model, if anything is: the numbers come
first, and the sign of the shrinking factor last. -/
def defect? (model : Model α) : Option (Defect α) :=
  match model.numbers.find? fun entry => !Scalar.isFinite entry.2 with
  | some entry => some (.notFinite entry.1)
  | none => if model.segments ≤ 0 then some (.segmentsNotPositive model.segments) else none

/-- The model described by a name and settings. -/
def build (name : String) (settings : List (Setting α)) : Except (InvalidModel α) (Model α) :=
  let model := settings.foldl Model.apply (blank name)
  match model.defect? with
  | some defect => .error ⟨name, defect⟩
  | none => .ok model

/-- How long one segment is when the whole drawing spans `extent`. -/
def segmentLength (model : Model α) (extent : α) : α :=
  extent / Scalar.power model.segments model.iterations

end Model

end LSystemExplorer

namespace LSystemExplorer.Model

/-! ## The word of a model

The word of a model is its seed after all passes of its rules and one pass of
its final rules.  The same word comes about symbol by symbol, without any word
in between: `Model.expansion` follows a single symbol down to the symbols it
ends in.
-/

variable {α : Type}

/-- The word that is drawn for a model.  A final rule set without rules is not
applied. -/
def generate (model : Model α) : Word :=
  let word := model.rules.rewriteTimes model.iterations model.seed
  if model.finalRules.isEmpty then word else model.finalRules.rewrite word

/-- What a single symbol becomes in the given number of passes and the final
one, following each of its successors to the end before the next. -/
def expansion (model : Model α) : Nat → Symbol → Word
  | 0, symbol => model.finalRules.replacement symbol
  | passes + 1, symbol =>
    match model.rules.find? symbol with
    | some word => word.flatMap (model.expansion passes)
    | none => model.expansion passes symbol

end LSystemExplorer.Model
