import LSystemExplorer.Yaml.Scalar

/-!
# Tokens

A text falls into tokens: indicators, scalars, names of anchors, tags and
directives.  Nested blocks have no brackets in the text, so the token stream
adds tokens for where a block begins and ends.  This module has the tokens and
reads those that consist of more than an indicator.
-/

set_option autoImplicit false

namespace LSystemExplorer.Yaml

/-- The pieces that a text is written with, and the ends of its blocks. -/
inductive TokenKind
  | streamEnd
  | versionDirective (major minor : Nat)
  | shorthandDirective (handle expansion : List Char)
  | documentStart
  | documentEnd
  | blockSequenceStart
  | blockMappingStart
  | blockEnd
  | flowSequenceStart
  | flowSequenceEnd
  | flowMappingStart
  | flowMappingEnd
  | blockEntry
  | flowEntry
  | key
  | value
  | reference (name : List Char)
  | anchor (name : List Char)
  | tag (handle suffix : List Char)
  | scalar (text : List Char) (style : ScalarStyle)
  deriving Repr, DecidableEq

/-- A token, and where it begins and ends. -/
structure Token where
  kind : TokenKind
  start : Mark
  finish : Mark
  deriving Repr, DecidableEq

/-! ## Names -/

/-- A character that may follow the name of an anchor, apart from white space. -/
def mayFollowName (character : Char) : Bool :=
  character = '?' || character = ':' || character = ',' || character = ']' ||
    character = '}' || character = '%' || character = '@' || character = '\x60'

/-- Take the name of an anchor or of a reference, behind its mark. -/
def takeName (source : Source) : Except Fault (List Char × Source) :=
  let source := source.drop 1
  let name := source.takeWhile isWordCharacter
  let next := source.drop name.length
  if name.isEmpty || !(endsWord next.peek || next.peek.any mayFollowName) then .error .badAnchor
  else .ok (name, next)

/-! ## Tags -/

/-- A character that stands for itself in a tag.  Commas and square brackets do so
only in a tag that is written out in full. -/
def isTagCharacter (verbatim : Bool) (character : Char) : Bool :=
  isWordCharacter character ||
    [';', '/', '?', ':', '@', '&', '=', '+', '$', '.', '!', '~', '*', '\'', '(', ')'].contains
      character ||
    (verbatim && (character = ',' || character = '[' || character = ']'))

/-- The octet that is written as a percent sign and two digits of the base
sixteen. -/
def percentOctet? : List Char → Option Nat
  | '%' :: high :: low :: _ => hexValue? [high, low]
  | _ => none

/-- How many octets follow the first one of an encoded character, and the part of
its number that the first one holds. -/
def octetPlan? (octet : Nat) : Option (Nat × Nat) :=
  if octet < 0x80 then some (0, octet)
  else if octet < 0xc0 then none
  else if octet < 0xe0 then some (1, octet - 0xc0)
  else if octet < 0xf0 then some (2, octet - 0xe0)
  else if octet < 0xf8 then some (3, octet - 0xf0)
  else none

/-- The number of an encoded character, and how many characters of the text write
it, after `count` more octets. -/
def percentTail? : Nat → Nat → Nat → List Char → Option (Nat × Nat)
  | 0, code, width, _ => some (code, width)
  | count + 1, code, width, text => do
    let octet ← percentOctet? text
    if 0x80 ≤ octet ∧ octet < 0xc0 then
      percentTail? count (64 * code + (octet - 0x80)) (width + 3) (text.drop 3)
    else none

/-- The least number that needs `count` octets behind the first one. -/
def leastCode : Nat → Nat
  | 0 => 0
  | 1 => 0x80
  | 2 => 0x800
  | _ => 0x10000

/-- The character that percent signs encode, and how many characters of the text
write it.  Octets that encode no character, or in more octets than it needs, count as
a character of their own. -/
def percentCharacter? (text : List Char) : Option (Char × Nat) := do
  let octet ← percentOctet? text
  let (count, code) ← octetPlan? octet
  let (code, width) ← percentTail? count code 3 (text.drop 3)
  let character :=
    if code.isValidChar && leastCode count ≤ code then Char.ofNat code else '\ufffd'
  return (character, width)

/-- The characters of a tag, after some that are given backwards. -/
def tagCharacters (verbatim : Bool) :
    Nat → List Char → Source → Except Fault (List Char × Source)
  | 0, taken, source => .ok (taken.reverse, source)
  | fuel + 1, taken, source =>
    match source.peek with
    | none => .ok (taken.reverse, source)
    | some character =>
      if character = '%' then
        match percentCharacter? source.rest with
        | none => .error .badTag
        | some (decoded, width) =>
          tagCharacters verbatim fuel (decoded :: taken) (source.drop width)
      else if isTagCharacter verbatim character then
        tagCharacters verbatim fuel (character :: taken) (source.drop 1)
      else .ok (taken.reverse, source)

/-- The characters of a tag that come next. -/
def takeTagCharacters (verbatim : Bool) (source : Source) :
    Except Fault (List Char × Source) :=
  tagCharacters verbatim (source.rest.length + 1) [] source

/-- The shorthand that comes next: an exclamation mark and the word behind it,
with a second mark if there is one. -/
def takeShorthand (source : Source) : Except Fault (List Char × Source) :=
  if !source.startsWith '!' then .error .badTag
  else
    let word := (source.drop 1).takeWhile isWordCharacter
    let next := source.drop (word.length + 1)
    if next.startsWith '!' then .ok ('!' :: word ++ ['!'], next.drop 1)
    else .ok ('!' :: word, next)

/-- The shorthand and the suffix of the tag that comes next.  A tag in angle
brackets has no shorthand, a single mark stands for itself, and a word without a
second mark is part of the suffix. -/
def takeTagParts (source : Source) : Except Fault (List Char × List Char × Source) := do
  if source.peekAt 1 == some '<' then
    let (suffix, next) ← takeTagCharacters true (source.drop 2)
    if suffix.isEmpty || !next.startsWith '>' then throw .badTag
    return ([], suffix, next.drop 1)
  let (handle, next) ← takeShorthand source
  if 2 ≤ handle.length && handle.getLast? = some '!' then
    let (suffix, next) ← takeTagCharacters false next
    if suffix.isEmpty then throw .badTag
    return (handle, suffix, next)
  let (suffix, next) ← takeTagCharacters false next
  let suffix := handle.drop 1 ++ suffix
  if suffix.isEmpty then return ([], ['!'], next)
  return (['!'], suffix, next)

/-- The tag that comes next.  White space follows it, or a comma between
brackets. -/
def takeTag (bracketed : Bool) (source : Source) :
    Except Fault (List Char × List Char × Source) := do
  let (handle, suffix, next) ← takeTagParts source
  if endsWord next.peek || (bracketed && next.startsWith ',') then return (handle, suffix, next)
  throw .badTag

/-! ## Directives -/

/-- Take a number of at most nine digits. -/
def takeNumber (source : Source) : Except Fault (Nat × Source) :=
  let digits := source.takeWhile Char.isDigit
  if digits.isEmpty || 9 < digits.length then .error .badDirective
  else .ok (digits.foldl (fun value digit => 10 * value + (digit.toNat - '0'.toNat)) 0,
    source.drop digits.length)

/-- Take the two numbers of a version, with a point between them. -/
def takeVersion (source : Source) : Except Fault (TokenKind × Source) := do
  let (major, source) ← takeNumber (source.dropWhile isBlank)
  if !source.startsWith '.' then throw .badDirective
  let (minor, source) ← takeNumber (source.drop 1)
  return (.versionDirective major minor, source)

/-- A shorthand and what it is short for. -/
def takeShorthandDirective (source : Source) : Except Fault (TokenKind × Source) := do
  let (handle, source) ← takeShorthand (source.dropWhile isBlank)
  if handle ≠ ['!'] && !(2 ≤ handle.length && handle.getLast? = some '!') then throw .badDirective
  if !source.peek.any isBlank then throw .badDirective
  let (expansion, source) ← takeTagCharacters true (source.dropWhile isBlank)
  if expansion.isEmpty || !endsWord source.peek then throw .badDirective
  return (.shorthandDirective handle expansion, source)

/-- Take a directive: a version, or what a shorthand is short for. -/
def takeDirective (source : Source) : Except Fault (Token × Source) := do
  let start := source.mark
  let source := source.drop 1
  let name := source.takeWhile isWordCharacter
  let source := source.drop name.length
  if !endsWord source.peek then throw .badDirective
  let (kind, source) ←
    if name = ['Y', 'A', 'M', 'L'] then takeVersion source
    else if name = ['T', 'A', 'G'] then takeShorthandDirective source
    else throw .badDirective
  let finish := source.mark
  let source := source.dropWhile isBlank
  let source := if source.startsWith '#' then source.dropLine else source
  if !endsLine source.peek then throw .badDirective
  return (⟨kind, start, finish⟩, source.takeBreak.2)

end LSystemExplorer.Yaml
