/-!
# Text that is being read

A source is the text that is still to be read, together with the place where it
begins.  Places count characters, and a line ends with a line feed, a carriage
return, both of them in that order, or one of the three other breaks that the
format knows.
-/

set_option autoImplicit false

namespace LSystemExplorer.Yaml

/-- A place in a text; all counts begin with zero. -/
structure Mark where
  index : Nat
  line : Nat
  column : Nat
  deriving Repr, DecidableEq

/-- Why a text is not a document. -/
inductive Fault
  | forbiddenCharacter
  /-- A character cannot begin anything. -/
  | strayCharacter
  /-- A dash, question mark or colon stands where none may. -/
  | strayIndicator
  | missingColon
  /-- A colon stands before a bracket or a comma. -/
  | ambiguousColon
  /-- A tab stands among the blanks that indent a line. -/
  | tabInIndentation
  /-- A directive is malformed, unknown or given twice. -/
  | badDirective
  | unsupportedVersion
  /-- The name of an anchor is missing or runs into other text. -/
  | badAnchor
  | badTag
  | undeclaredShorthand
  /-- The first line of a block scalar holds more than it may. -/
  | badBlockHeader
  | badEscape
  | unclosedQuote
  | missingDocumentStart
  | missingNode
  | missingEntry
  | unknownAnchor
  | furtherDocument
  /-- References are followed out of all proportion. -/
  | endlessReferences
  deriving Repr, DecidableEq

/-- White space inside of a line. -/
def isBlank (character : Char) : Bool :=
  character = ' ' || character = '\t'

/-- The end of a line. -/
def isBreak (character : Char) : Bool :=
  character = '\n' || character = '\r' || character = '\u0085' ||
    character = '\u2028' || character = '\u2029'

/-- A letter or digit of the basic set, a hyphen or a low line. -/
def isWordCharacter (character : Char) : Bool :=
  character.isAlphanum || character = '_' || character = '-'

/-- The line ends here, or the text does. -/
def endsLine : Option Char → Bool
  | none => true
  | some character => isBreak character

/-- The text ends here, or the line, or there is a blank. -/
def endsWord : Option Char → Bool
  | none => true
  | some character => isBlank character || isBreak character

/-- Characters that a text may hold. -/
def isAllowed (character : Char) : Bool :=
  let code := character.toNat
  code = 0x09 || code = 0x0a || code = 0x0d || (0x20 ≤ code && code ≤ 0x7e) || code = 0x85 ||
    (0xa0 ≤ code && code ≤ 0xd7ff) || (0xe000 ≤ code && code ≤ 0xfffd) || 0x10000 ≤ code

/-- Text from some place on. -/
structure Source where
  rest : List Char
  mark : Mark
  deriving Repr

namespace Source

/-- The source at the beginning of a text. -/
def ofList (text : List Char) : Source := ⟨text, ⟨0, 0, 0⟩⟩

/-- The next character. -/
def peek (source : Source) : Option Char := source.rest.head?

/-- The character behind the next `offset` ones. -/
def peekAt (source : Source) (offset : Nat) : Option Char := source.rest[offset]?

/-- This character comes next. -/
def startsWith (source : Source) (character : Char) : Bool := source.peek == some character

/-- Go on by some characters of the line. -/
def drop (source : Source) (count : Nat) : Source :=
  { rest := source.rest.drop count
    mark := { source.mark with
      index := source.mark.index + count
      column := source.mark.column + count } }

/-- Pass over characters of the same line as long as they are of some kind. -/
def dropWhile (source : Source) (kind : Char → Bool) : Source :=
  source.drop (source.rest.takeWhile kind).length

/-- The characters of some kind that come next. -/
def takeWhile (source : Source) (kind : Char → Bool) : List Char :=
  source.rest.takeWhile kind

/-- Pass over the rest of the line, but not over its end. -/
def dropLine (source : Source) : Source :=
  source.dropWhile fun character => !isBreak character

/-- The place at the beginning of the next line, `width` characters on. -/
def nextLine (mark : Mark) (width : Nat) : Mark :=
  ⟨mark.index + width, mark.line + 1, 0⟩

/-- Pass over the end of a line, if one comes next.  A scalar keeps it as a line
feed, except for the two breaks that are kept as they are. -/
def takeBreak (source : Source) : List Char × Source :=
  match source.rest with
  | '\r' :: '\n' :: rest => (['\n'], ⟨rest, nextLine source.mark 2⟩)
  | character :: rest =>
    if character = '\u2028' || character = '\u2029' then
      ([character], ⟨rest, nextLine source.mark 1⟩)
    else if isBreak character then (['\n'], ⟨rest, nextLine source.mark 1⟩)
    else ([], source)
  | [] => ([], source)

/-- Three dots or three dashes begin the line and are a word of their own. -/
def atDocumentMark (source : Source) : Bool :=
  source.mark.column = 0 && endsWord (source.peekAt 3) &&
    (source.rest.take 3 = ['-', '-', '-'] || source.rest.take 3 = ['.', '.', '.'])

end Source

end LSystemExplorer.Yaml
