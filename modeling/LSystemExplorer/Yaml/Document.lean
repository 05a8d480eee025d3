import LSystemExplorer.Yaml.Event

/-!
# Documents

A document is the list of its items: scalars, collections that begin and end,
and references.  A reference leads to the place among the items that an anchor
names.  A document that breaks off keeps the items before the fault, because
whoever reads the items may find them wrong before the fault is reached.
-/

set_option autoImplicit false

namespace LSystemExplorer.Yaml

/-- What a document is made of, one piece after the other. -/
inductive Item
  | scalar (scalar : Scalar)
  | sequenceStart
  | sequenceEnd
  | mappingStart
  | mappingEnd
  /-- What begins at the given place among the items stands here again. -/
  | reference (place : Nat)
  /-- The text holds no document at all. -/
  | void
  deriving Repr, DecidableEq

/-- The anchors of a document.  An anchor's number is the number of different
names given before it, so a name that is given again can take over the number of
another one; the place that was noted last for a number is the one that counts. -/
structure Anchors where
  numbers : List (List Char × Nat)
  places : List (Nat × Nat)

namespace Anchors

/-- Give an anchor the next number, and note the place where it stands.  An older anchor of that
name is forgotten. -/
def insert (anchors : Anchors) (name : List Char) (place : Nat) : Anchors :=
  let number := anchors.numbers.length
  { numbers := (name, number) :: anchors.numbers.filter fun entry => entry.1 ≠ name
    places := (number, place) :: anchors.places }

end Anchors

/-- The items of a text's first document. -/
structure Document where
  items : Array (Item × Mark)
  /-- Why the items break off, if they do. -/
  fault : Option Fault
  /-- The text goes on behind the document. -/
  continues : Bool

namespace Document

/-- The state of collecting items. -/
structure Collection where
  items : Array (Item × Mark)
  anchors : Anchors

/-- Collect an item that may have an anchor. -/
def Collection.add (collection : Collection) (item : Item) (mark : Mark)
    (anchor : Option (List Char)) : Collection :=
  let place := collection.items.size
  { collection with
    items := collection.items.push (item, mark)
    anchors :=
      match anchor with
      | none => collection.anchors
      | some name => collection.anchors.insert name place }

/-- The items with each reference led to its place. -/
def Collection.resolve (collection : Collection) : Array (Item × Mark) :=
  collection.items.map fun (item, mark) =>
    match item with
    | .reference number => (.reference ((collection.anchors.places.lookup number).getD 0), mark)
    | other => (other, mark)

/-- The document that was collected so far. -/
def close (collection : Collection) (fault : Option Fault) (continues : Bool) : Document :=
  ⟨collection.resolve, fault, continues⟩

/-- The text was looked at up to a place that cannot be read any more, if only
`readable` characters of it can be read. -/
def isSpoiled (readable : Option Nat) (stream : EventStream) : Bool :=
  readable.any (· ≤ stream.tokens.mark.index)

/-- The text goes on behind a document. -/
def goesOn (readable : Option Nat) (stream : EventStream) : Bool :=
  match stream.next with
  | .ok (located, stream) => isSpoiled readable stream || located.event ≠ .streamEnd
  | .error _ => true

/-- Collect the items of the first document.  If a number is given, only so many
characters of the text can be read. -/
def collect (readable : Option Nat) : Nat → Collection → EventStream → Document
  | 0, collection, _ => close collection (some .missingNode) false
  | fuel + 1, collection, stream =>
    match stream.next with
    | .error fault => close collection (some fault) false
    | .ok (⟨event, mark⟩, stream) =>
      let further (item : Item) (anchor : Option (List Char)) : Document :=
        collect readable fuel (collection.add item mark anchor) stream
      if isSpoiled readable stream then close collection (some .forbiddenCharacter) false
      else
        match event with
        | .documentStart => collect readable fuel collection stream
        | .documentEnd => close collection none (goesOn readable stream)
        | .streamEnd =>
          if collection.items.isEmpty then close (collection.add .void mark none) none false
          else close collection none false
        | .reference name =>
          match collection.anchors.numbers.lookup name with
          | some number => further (.reference number) none
          | none => close collection (some .unknownAnchor) false
        | .scalar anchor scalar => further (.scalar scalar) anchor
        | .sequenceStart anchor => further .sequenceStart anchor
        | .sequenceEnd => further .sequenceEnd none
        | .mappingStart anchor => further .mappingStart anchor
        | .mappingEnd => further .mappingEnd none

/-- How many octets of a text are examined at a time. -/
def portion : Nat := 16384

/-- The number of characters that can be read, if there are others: those before the
portion with the first character that no text may hold.  The present portion begins
behind `before` characters and already has `characters` characters in `octets` octets. -/
def readableFrom (before characters octets : Nat) : List Char → Option Nat
  | [] => none
  | character :: text =>
    if portion < octets + character.utf8Size then
      if isAllowed character then
        readableFrom (before + characters) 1 character.utf8Size text
      else some (before + characters)
    else if isAllowed character then
      readableFrom before (characters + 1) (octets + character.utf8Size) text
    else some before

/-- The first document of a text.  A character that no text may hold spoils the portion
that it stands in. -/
def ofList (text : List Char) : Document :=
  collect (readableFrom 0 0 0 text) (8 * text.length + 16) ⟨#[], ⟨[], []⟩⟩
    (EventStream.ofList text)

end Document

end LSystemExplorer.Yaml
