import LSystemExplorer.Grammar.Model
import LSystemExplorer.Yaml.Decode

/-!
# Records and catalogs

A catalog is written down as a list of records, each of which makes a model, and it is kept as the
list of these models.
-/

set_option autoImplicit false

namespace LSystemExplorer

/-! ## Records

A record is one entry of a catalog as it is written down.  Only its name and its
shrinking factor have to be given; what is left out gets the same default as in
a model that is built from settings.  A record makes a model unless one of its
numbers does not do.
-/

/-- One entry of a catalog, with defaults for what was left out. -/
structure Record (α : Type) where
  name : String
  /-- The rules of every pass, in the order in which they are written. -/
  mapping : List (Symbol × Word)
  finalMapping : List (Symbol × Word)
  /-- The number of passes; it may turn out to be negative. -/
  iterations : Int
  initialValue : Word
  initialAngle : α
  initialPosition : α × α
  angleStep : α
  segments : α
  deriving DecidableEq

/-- What was read of a record so far. -/
structure PartialRecord (α : Type) where
  name : Option String
  mapping : Option (List (Symbol × Word))
  finalMapping : Option (List (Symbol × Word))
  iterations : Option Int
  initialValue : Option Word
  initialAngle : Option α
  initialPosition : Option (α × α)
  angleStep : Option α
  segments : Option α
  deriving DecidableEq

namespace PartialRecord

/-- Nothing was read yet. -/
def empty {α : Type} : PartialRecord α :=
  ⟨none, none, none, none, none, none, none, none, none⟩

/-- The record, if what cannot be left out is there; otherwise what is missing
first. -/
def complete {α : Type} [Scalar α] (given : PartialRecord α) : Except String (Record α) := do
  let some name := given.name | throw "name"
  let some segments := given.segments | throw "segments"
  return {
    name
    mapping := given.mapping.getD []
    finalMapping := given.finalMapping.getD []
    iterations := given.iterations.getD 4
    initialValue := given.initialValue.getD ['F']
    initialAngle := given.initialAngle.getD 90.0
    initialPosition := given.initialPosition.getD (0.5, 1.0)
    angleStep := given.angleStep.getD 0
    segments }

end PartialRecord

namespace Record

variable {α : Type}

/-- The settings that some rules stand for, in their order. -/
def ruleSettings (rules : List (Symbol × Word)) (setting : Symbol → Word → Setting α) :
    List (Setting α) :=
  rules.map fun rule => setting rule.1 rule.2

/-- The settings that describe the model of a record. -/
def settings (record : Record α) : List (Setting α) :=
  [.iterations record.iterations.toNat, .seed record.initialValue, .heading record.initialAngle,
    .position record.initialPosition.1 record.initialPosition.2, .angleStep record.angleStep,
    .segments record.segments] ++
    ruleSettings record.mapping .rule ++ ruleSettings record.finalMapping .finalRule

/-- The number of passes of a model lies below `2 ^ 32`. -/
def passLimit : Int := 0x100000000

/-- The model of a record.  The number of passes is examined before all else. -/
def toModel [Scalar α] (record : Record α) : Except (InvalidModel α) (Model α) :=
  if 0 ≤ record.iterations ∧ record.iterations < passLimit then
    Model.build record.name record.settings
  else .error ⟨record.name, .iterationsOutOfRange record.iterations⟩

end Record

/-! ### Records in a text -/

namespace Record

open Yaml (Decoder Mismatch Path)

/-- The keys that a record may have. -/
def fields : List String :=
  ["name", "mapping", "final_mapping", "iterations", "initial_value", "initial_angle",
    "initial_position", "angle_step", "segments"]

/-- How messages name a record. -/
def expectation : String := "struct ModelRecord"

/-- Decode rules: the keys are single characters, and the values are their replacements. -/
def decodeRules (path : Path) : Decoder (List (Symbol × Word)) :=
  let rule (rules : List (Symbol × Word)) : Decoder (List (Symbol × Word)) := do
    let step ← Decoder.keyStep
    let symbol ← Decoder.character path
    let word ← Decoder.text (step :: path) "a string"
    return (symbol, word) :: rules
  Decoder.mapping path "a map" rule [] fun rules => return rules.reverse

/-- Decode the value of a key that must not have come before. -/
def once {β : Type} (field : String) (earlier : Option β) (value : Decoder β) :
    Decoder (Option β) := do
  if earlier.isSome then Decoder.mismatch (.duplicateField field)
  return some (← value)

/-- One key of a record, and its value. -/
def decodeField (path : Path) (given : PartialRecord Float) : Decoder (PartialRecord Float) := do
  let step ← Decoder.keyStep
  let within := step :: path
  let field ← Decoder.node path fun
    | .scalar scalar =>
      let field := String.ofList scalar.text
      if fields.contains field then return field
      else Decoder.mismatch (.unknownField field fields)
    | item => Decoder.unexpected "field identifier" item
  match field with
  | "name" =>
    let name ← once field given.name do
      return String.ofList (← Decoder.text within "a string")
    return { given with name }
  | "mapping" =>
    return { given with mapping := ← once field given.mapping (decodeRules within) }
  | "final_mapping" =>
    return { given with finalMapping := ← once field given.finalMapping (decodeRules within) }
  | "iterations" =>
    return { given with iterations := ← once field given.iterations (Decoder.whole within) }
  | "initial_value" =>
    let word := Decoder.text within "a string"
    return { given with initialValue := ← once field given.initialValue word }
  | "initial_angle" =>
    return { given with initialAngle := ← once field given.initialAngle (Decoder.number within) }
  | "initial_position" =>
    let position := Decoder.pair within
    return { given with initialPosition := ← once field given.initialPosition position }
  | "angle_step" =>
    return { given with angleStep := ← once field given.angleStep (Decoder.number within) }
  | _ => return { given with segments := ← once field given.segments (Decoder.number within) }

/-- Decode a record: its keys in any order, none of them twice, and those that it cannot do
without. -/
def decodeRecord (path : Path) : Decoder (Record Float) :=
  Decoder.mapping path expectation (decodeField path) PartialRecord.empty fun given =>
    match given.complete with
    | .ok record => return record
    | .error field => Decoder.mismatch (.missingField field)

/-- The records that a text lists, or what is wrong with the text. -/
def listOfText (text : List Char) : Except Yaml.DecodeError (List (Record Float)) :=
  Decoder.decode (Decoder.sequence [] "a sequence" decodeRecord) text

end Record

/-! ## Catalogs

A catalog is a list of models in a fixed order, and there is at least one.  So a
place past the end can always be taken for the last model.  A model is looked up
by its name without regard to the case of the basic letters, and of several that
match the first one counts.
-/

/-- The names are the same up to the case of the basic letters. -/
def sameName (left right : String) : Bool :=
  left.toList.map Char.toLower == right.toList.map Char.toLower

/-- A list of models with at least one model in it. -/
structure Catalog (α : Type) where
  models : List (Model α)
  models_ne_nil : models ≠ []

namespace Catalog

variable {α : Type}

/-- The catalog of some models, if there are any. -/
def ofModels? (models : List (Model α)) : Option (Catalog α) :=
  if nonempty : models ≠ [] then some ⟨models, nonempty⟩ else none

/-- The number of models. -/
def size (catalog : Catalog α) : Nat :=
  catalog.models.length

/-- There is a model. -/
theorem size_pos (catalog : Catalog α) : 0 < catalog.size :=
  List.length_pos_iff.2 catalog.models_ne_nil

/-- The model at a place, if the place is not past the end. -/
def get? (catalog : Catalog α) (place : Nat) : Option (Model α) :=
  catalog.models[place]?

/-- The model at a place, or the last one when the place is past the end. -/
def model (catalog : Catalog α) (place : Nat) : Model α :=
  have inside : min place (catalog.size - 1) < catalog.models.length := by
    have positive := catalog.size_pos
    unfold size at *
    omega
  catalog.models[min place (catalog.size - 1)]

/-- The first model that goes by a name, and its place. -/
def find? (catalog : Catalog α) (name : String) : Option (Nat × Model α) :=
  (catalog.models.zipIdx.find? fun entry => sameName entry.1.name name).map fun entry =>
    (entry.2, entry.1)

end Catalog

end LSystemExplorer
