import LSystemExplorer.Yaml.Document
import LSystemExplorer.Yaml.PlainValue

/-!
# Decoding documents

A decoder takes items from a document and makes a value of them.  What can go
wrong is of two kinds.  The document may break off where an item is needed, and
then its own fault is the outcome.  Or the items do not have the form that is
asked for; such a problem comes with the place of the innermost node that was
being decoded, and with the path that leads to it from the top.  The first
problem met is reported, even if the document breaks off further on.
-/

set_option autoImplicit false

namespace LSystemExplorer.Yaml

/-! ## Problems -/

/-- One step of the path to a node. -/
inductive PathStep
  | index (position : Nat)
  | key (name : List Char)
  /-- The value of a key that is no scalar. -/
  | unknown
  deriving Repr, DecidableEq

/-- The steps that lead to a node, the last one first. -/
abbrev Path := List PathStep

/-- A path as it is shown: a dot for the top, brackets around positions, and dots
between keys. -/
def Path.render : Path → String
  | [] => "."
  | .index position :: outer => s!"{Path.render outer}[{position}]"
  | [.key name] => String.ofList name
  | .key name :: outer => Path.render outer ++ "." ++ String.ofList name
  | [.unknown] => "?"
  | .unknown :: outer => Path.render outer ++ ".?"

/-- How a text that is well formed fails to be what is asked for. -/
inductive Mismatch
  | invalidType (found expected : String)
  | invalidValue (found expected : String)
  | invalidLength (length : Nat) (expected : String)
  | missingField (name : String)
  | unknownField (name : String) (known : List String)
  | duplicateField (name : String)
  deriving Repr, DecidableEq

/-- A word between the marks that messages put around names. -/
def ticked (name : String) : String :=
  "\x60" ++ name ++ "\x60"

/-- The wording of a mismatch. -/
def Mismatch.message : Mismatch → String
  | .invalidType found expected => s!"invalid type: {found}, expected {expected}"
  | .invalidValue found expected => s!"invalid value: {found}, expected {expected}"
  | .invalidLength length expected => s!"invalid length {length}, expected {expected}"
  | .missingField name => "missing field " ++ ticked name
  | .unknownField name known =>
    "unknown field " ++ ticked name ++ ", expected one of " ++
      String.intercalate ", " (known.map ticked)
  | .duplicateField name => "duplicate field " ++ ticked name

/-- A mismatch and where it was met. -/
structure Problem where
  mismatch : Mismatch
  /-- The path and the place, once they are known. -/
  place : Option (Path × Mark)
  deriving Repr, DecidableEq

/-- The wording of a problem.  The path is left out at the top, and the place at
the very beginning of the text. -/
def Problem.message (problem : Problem) : String :=
  match problem.place with
  | none => problem.mismatch.message
  | some (path, mark) =>
    let path := if path.isEmpty then "" else path.render ++ ": "
    let place :=
      if mark.line = 0 ∧ mark.column = 0 then ""
      else s!" at line {mark.line + 1} column {mark.column + 1}"
    path ++ problem.mismatch.message ++ place

/-- Why a text could not be decoded. -/
inductive DecodeError
  | malformed (fault : Fault)
  | mismatched (problem : Problem)
  deriving Repr, DecidableEq

/-! ## Decoders -/

/-- How far decoding has come. -/
structure Progress where
  place : Nat
  followed : Nat

/-- A decoder takes items of a document and makes a value of them. -/
abbrev Decoder (α : Type) := ReaderT Document (StateT Progress (Except DecodeError)) α

namespace Decoder

variable {α : Type}

/-- Fail for a mismatch, whose place is not known yet. -/
def mismatch (mismatch : Mismatch) : Decoder α :=
  throw (.mismatched ⟨mismatch, none⟩)

/-- The next item and where it stands. -/
def peek : Decoder (Item × Mark) := do
  let document ← read
  match document.items[(← get).place]? with
  | some item => return item
  | none => throw (.malformed (document.fault.getD .missingNode))

/-- Take the next item. -/
def next : Decoder (Item × Mark) := do
  let item ← peek
  modify fun progress => { progress with place := progress.place + 1 }
  return item

/-- Give a problem that comes up in `body` a place, unless it has one. -/
def located (path : Path) (mark : Mark) (body : Decoder α) : Decoder α :=
  tryCatch body fun error =>
    match error with
    | .mismatched ⟨mismatch, none⟩ => throw (.mismatched ⟨mismatch, some (path, mark)⟩)
    | other => throw other

/-- References are followed at most a hundred times as often as there are items. -/
def countReference : Decoder Unit := do
  modify fun progress => { progress with followed := progress.followed + 1 }
  if (← read).items.size * 100 < (← get).followed then throw (.malformed .endlessReferences)

/-- Decode the node at `path` whose first item is given to `body`.  A reference is
followed, and decoding goes on behind it afterwards. -/
def node (path : Path) (body : Item → Decoder α) : Decoder α := do
  let (item, mark) ← next
  located path mark <|
    match item with
    | .reference place => do
      countReference
      let back := (← get).place
      modify fun progress => { progress with place }
      let (item, mark) ← next
      let value ← located path mark (body item)
      modify fun progress => { progress with place := back }
      return value
    | item => body item

/-- The item is of another kind than the one that is asked for. -/
def unexpected (expected : String) : Item → Decoder α
  | .scalar scalar =>
    match PlainValue.ofScalar scalar with
    | .mistagged value form => mismatch (.invalidValue ("string " ++ Text.quoted value) form)
    | value => mismatch (.invalidType value.describe expected)
  | .sequenceStart => mismatch (.invalidType "sequence" expected)
  | .mappingStart => mismatch (.invalidType "map" expected)
  | _ => throw (.malformed .missingNode)

/-- The text of a scalar, however it is written. -/
def text (path : Path) (expected : String) : Decoder (List Char) :=
  node path fun
    | .scalar scalar => return scalar.text
    | item => unexpected expected item

/-- The only character of a scalar. -/
def character (path : Path) : Decoder Char :=
  node path fun
    | .scalar ⟨[only], _, _⟩ => return only
    | .scalar scalar =>
      mismatch (.invalidValue ("string " ++ Text.quoted scalar.text) "a character")
    | item => unexpected "a character" item

/-- The number that a plain scalar writes. -/
def number (path : Path) : Decoder Float :=
  node path fun
    | .scalar scalar =>
      match if scalar.style = .plain then number? scalar.text else none with
      | some value => return value
      | none => unexpected "f64" (.scalar scalar)
    | item => unexpected "f64" item

/-- A whole number of 64 bits. -/
def whole (path : Path) : Decoder Int :=
  node path fun
    | .scalar scalar =>
      match if scalar.style = .plain then whole? scalar.text else none with
      | some value =>
        if -wholeLimit 63 ≤ value ∧ value < wholeLimit 63 then return value
        else unexpected "i64" (.scalar scalar)
      | none => unexpected "i64" (.scalar scalar)
    | item => unexpected "i64" item

/-! ## Collections -/

/-- The end of the surrounding collection comes next. -/
def atEnd : Decoder Bool := do
  match (← peek).1 with
  | .sequenceEnd => return true
  | .mappingEnd => return true
  | .void => return true
  | _ => return false

/-- Pass over nodes until `depth` collections have ended; without any, over a
single node. -/
def skipWithin : Nat → Nat → Decoder Unit
  | 0, _ => pure ()
  | fuel + 1, depth => do
    let depth :=
      match (← next).1 with
      | .sequenceStart => depth + 1
      | .mappingStart => depth + 1
      | .sequenceEnd => depth - 1
      | .mappingEnd => depth - 1
      | _ => depth
    if depth = 0 then return else skipWithin fuel depth

/-- Pass over one node without looking at it. -/
def skip : Decoder Unit := do
  skipWithin ((← read).items.size + 1) 0

/-- The number of nodes up to the end of the surrounding collection, which are
passed over, and `count` before them. -/
def skipRest : Nat → Nat → Decoder Nat
  | 0, count => return count
  | fuel + 1, count => do
    if ← atEnd then return count
    skip
    skipRest fuel (count + 1)

/-- Decode the rest of a collection with a decoder for one more piece. -/
def repeatUntilEnd (piece : Nat → α → Decoder α) : Nat → Nat → α → Decoder α
  | 0, _, state => return state
  | fuel + 1, position, state => do
    if ← atEnd then return state
    repeatUntilEnd piece fuel (position + 1) (← piece position state)

/-- A sequence of any length.  Nothing at all counts as a sequence without
entries. -/
def sequence (path : Path) (expected : String) (entry : Path → Decoder α) :
    Decoder (List α) :=
  node path fun
    | .sequenceStart => do
      let piece (position : Nat) (entries : List α) : Decoder (List α) := do
        return (← entry (.index position :: path)) :: entries
      let entries ← repeatUntilEnd piece ((← read).items.size + 1) 0 []
      let _ ← next
      return entries.reverse
    | .void => return []
    | .scalar scalar =>
      if scalar.isAbsent then return [] else unexpected expected (.scalar scalar)
    | item => unexpected expected item

/-- A sequence of two numbers. -/
def pair (path : Path) : Decoder (Float × Float) :=
  let expected := "a tuple of size 2"
  node path fun
    | .sequenceStart => do
      if ← atEnd then mismatch (.invalidLength 0 expected)
      let first ← number (.index 0 :: path)
      if ← atEnd then mismatch (.invalidLength 1 expected)
      let second ← number (.index 1 :: path)
      let length ← skipRest ((← read).items.size + 1) 2
      let _ ← next
      if length ≠ 2 then mismatch (.invalidLength length "sequence of 2 elements")
      return (first, second)
    | .scalar scalar =>
      if scalar.isAbsent then mismatch (.invalidLength 0 expected)
      else unexpected expected (.scalar scalar)
    | item => unexpected expected item

/-- A mapping, whose keys and values are taken in by `piece` one after the other,
and whose outcome is examined by `finish` before its end is taken.  Nothing at
all counts as a mapping without keys. -/
def mapping {β : Type} (path : Path) (expected : String) (piece : α → Decoder α) (state : α)
    (finish : α → Decoder β) : Decoder β :=
  node path fun
    | .mappingStart => do
      let state ← repeatUntilEnd (fun _ => piece) ((← read).items.size + 1) 0 state
      let value ← finish state
      let _ ← next
      return value
    | .scalar scalar =>
      if scalar.isAbsent then finish state else unexpected expected (.scalar scalar)
    | item => unexpected expected item

/-- The step from a mapping to the value of the key that comes next. -/
def keyStep : Decoder PathStep := do
  match (← peek).1 with
  | .scalar scalar => return .key scalar.text
  | _ => return .unknown

/-- The value that a decoder makes of a text.  A fault behind the value counts, and so does a
second document. -/
def decode (decoder : Decoder α) (source : List Char) : Except DecodeError α := do
  let document := Document.ofList source
  let (value, _) ← StateT.run (ReaderT.run decoder document) ⟨0, 0⟩
  match document.fault with
  | some fault => throw (DecodeError.malformed fault)
  | none =>
    if document.continues then throw (DecodeError.malformed .furtherDocument) else return value

end Decoder

end LSystemExplorer.Yaml
