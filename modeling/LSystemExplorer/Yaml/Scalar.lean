import LSystemExplorer.Yaml.Source

/-!
# The text of scalars

A scalar is text without structure, and there are five ways to write one.  In
plain and quoted scalars white space between words may include ends of lines:
a single one counts as a space, and of several in a row all but the first are
kept.  Block scalars keep the lines of an indented block, either as they are or
folded by the same rule, and say in their first line what becomes of the line
ends that close the block.
-/

set_option autoImplicit false

namespace LSystemExplorer.Yaml

/-- The ways of writing a scalar. -/
inductive ScalarStyle
  | plain
  | singleQuoted
  | doubleQuoted
  | literal
  | folded
  deriving Repr, DecidableEq

/-! ## White space between words -/

/-- White space between two words. -/
inductive Gap
  | blanks (text : List Char)
  /-- Ends of lines: the first, and the others as they are kept. -/
  | lines (first others : List Char)

/-- What white space leaves in a scalar. -/
def Gap.text : Gap → List Char
  | .blanks text => text
  | .lines ['\n'] [] => [' ']
  | .lines ['\n'] others => others
  | .lines first others => first ++ others

/-- The white space holds the end of a line. -/
def Gap.endsLine : Gap → Bool
  | .blanks _ => false
  | .lines .. => true

/-- Read on through white space.  After the end of a line a tab may not stand
before the column `indent`. -/
def Gap.read (indent : Nat) : Nat → Gap → Source → Except Fault (Gap × Source)
  | 0, gap, source => .ok (gap, source)
  | fuel + 1, gap, source =>
    match source.peek with
    | none => .ok (gap, source)
    | some character =>
      if isBlank character then
        match gap with
        | .blanks text => Gap.read indent fuel (.blanks (text ++ [character])) (source.drop 1)
        | .lines first others =>
          if character = '\t' && source.mark.column < indent then .error .tabInIndentation
          else Gap.read indent fuel (.lines first others) (source.drop 1)
      else if isBreak character then
        let (kept, next) := source.takeBreak
        match gap with
        | .blanks _ => Gap.read indent fuel (.lines kept []) next
        | .lines first others => Gap.read indent fuel (.lines first (others ++ kept)) next
      else .ok (gap, source)

/-- Take the white space up to the next character of a scalar, with what was taken before. -/
def Source.takeGap (source : Source) (indent : Nat) (gap : Gap) : Except Fault (Gap × Source) :=
  gap.read indent (source.rest.length + 1) source

/-! ## Plain scalars -/

/-- A scalar that was read, and the text behind it. -/
structure ScannedScalar where
  text : List Char
  /-- The line ended behind it. -/
  atLineEnd : Bool
  rest : Source

/-- A character that separates the entries of a bracketed collection, or opens or
closes one. -/
def isFlowIndicator (character : Char) : Bool :=
  character = ',' || character = '[' || character = ']' || character = '{' || character = '}'

/-- One word of a plain scalar.  A colon ends it only before white space, and
between brackets their signs end it too. -/
def plainWord (bracketed : Bool) : List Char → Except Fault (List Char)
  | [] => .ok []
  | character :: rest =>
    if isBlank character || isBreak character then .ok []
    else if bracketed && character = ':' &&
        rest.head?.any (fun next => isFlowIndicator next || next = '?') then
      .error .ambiguousColon
    else if (character = ':' && endsWord rest.head?) ||
        (bracketed && isFlowIndicator character) then .ok []
    else (plainWord bracketed rest).map (character :: ·)

/-- The words of a plain scalar, after some text and white space were read. -/
def plainWords (bracketed : Bool) (indent : Nat) :
    Nat → List Char → Gap → Source → Except Fault ScannedScalar
  | 0, text, gap, source => .ok ⟨text, gap.endsLine, source⟩
  | fuel + 1, text, gap, source => do
    if source.atDocumentMark || source.startsWith '#' then return ⟨text, gap.endsLine, source⟩
    let word ← plainWord bracketed source.rest
    if word.isEmpty then return ⟨text, gap.endsLine, source⟩
    let text := text ++ gap.text ++ word
    let source := source.drop word.length
    if !source.rest.isEmpty && endsWord source.peek then
      let (gap, source) ← source.takeGap indent (.blanks [])
      if !bracketed && source.mark.column < indent then return ⟨text, gap.endsLine, source⟩
      plainWords bracketed indent fuel text gap source
    else return ⟨text, false, source⟩

/-- The plain scalar that comes next.  Outside of brackets its later lines have
to reach the column `indent`. -/
def plainScalar (bracketed : Bool) (indent : Nat) (source : Source) :
    Except Fault ScannedScalar :=
  plainWords bracketed indent (source.rest.length + 1) [] (.blanks []) source

/-! ## Quoted scalars -/

/-- The character that an escape sequence of one character stands for. -/
def simpleEscape? : Char → Option Char
  | '0' => some '\x00'
  | 'a' => some '\x07'
  | 'b' => some '\x08'
  | 't' => some '\t'
  | '\t' => some '\t'
  | 'n' => some '\n'
  | 'v' => some '\x0b'
  | 'f' => some '\x0c'
  | 'r' => some '\r'
  | 'e' => some '\x1b'
  | ' ' => some ' '
  | '"' => some '"'
  | '/' => some '/'
  | '\\' => some '\\'
  | 'N' => some '\u0085'
  | '_' => some '\u00a0'
  | 'L' => some '\u2028'
  | 'P' => some '\u2029'
  | _ => none

/-- How many digits the escape sequences have that give a character by its
number. -/
def escapeWidth? : Char → Option Nat
  | 'x' => some 2
  | 'u' => some 4
  | 'U' => some 8
  | _ => none

/-- The value of a digit in the base sixteen. -/
def hexDigit? (character : Char) : Option Nat :=
  if character.isDigit then some (character.toNat - '0'.toNat)
  else if 'a' ≤ character ∧ character ≤ 'f' then some (character.toNat - 'a'.toNat + 10)
  else if 'A' ≤ character ∧ character ≤ 'F' then some (character.toNat - 'A'.toNat + 10)
  else none

/-- The number that digits in the base sixteen write. -/
def hexValue? (digits : List Char) : Option Nat :=
  digits.foldlM (fun value digit => (hexDigit? digit).map (16 * value + ·)) 0

/-- The character with a number, if there is one. -/
def characterAt? (code : Nat) : Option Char :=
  if code.isValidChar then some (Char.ofNat code) else none

/-- The character that an escape sequence stands for, and how long the sequence
is, given the text behind the backslash. -/
def escape? : List Char → Option (Char × Nat)
  | [] => none
  | kind :: rest =>
    match simpleEscape? kind, escapeWidth? kind with
    | some character, _ => some (character, 1)
    | none, some width =>
      if rest.length < width then none
      else do
        let code ← hexValue? (rest.take width)
        let character ← characterAt? code
        return (character, width + 1)
    | none, none => none

/-- The mark that encloses a quoted scalar. -/
def quoteMark : ScalarStyle → Char
  | .singleQuoted => '\''
  | _ => '"'

/-- One word of a quoted scalar, after the part of it that is given backwards:
the word, whether an escaped line end follows it, and what comes next. -/
def quotedWord (style : ScalarStyle) :
    Nat → List Char → Source → Except Fault (List Char × Bool × Source)
  | 0, word, source => .ok (word.reverse, false, source)
  | fuel + 1, word, source =>
    let mark := quoteMark style
    match source.rest with
    | [] => .ok (word.reverse, false, source)
    | character :: rest =>
      if isBlank character || isBreak character then .ok (word.reverse, false, source)
      else if style = .singleQuoted && character = mark && rest.head? = some mark then
        quotedWord style fuel (mark :: word) (source.drop 2)
      else if character = mark then .ok (word.reverse, false, source)
      else if style = .doubleQuoted && character = '\\' then
        if rest.head?.any isBreak then .ok (word.reverse, true, (source.drop 1).takeBreak.2)
        else
          match escape? rest with
          | none => .error .badEscape
          | some (escaped, width) =>
            quotedWord style fuel (escaped :: word) (source.drop (width + 1))
      else quotedWord style fuel (character :: word) (source.drop 1)

/-- The words of a quoted scalar up to its closing mark, after some text. -/
def quotedWords (style : ScalarStyle) :
    Nat → List Char → Source → Except Fault ScannedScalar
  | 0, _, _ => .error .unclosedQuote
  | fuel + 1, text, source => do
    if source.atDocumentMark || source.rest.isEmpty then throw .unclosedQuote
    let (word, escapedBreak, source) ← quotedWord style (source.rest.length + 1) [] source
    let text := text ++ word
    if source.startsWith (quoteMark style) then return ⟨text, false, source.drop 1⟩
    let (gap, source) ← source.takeGap 0 (if escapedBreak then .lines [] [] else .blanks [])
    quotedWords style fuel (text ++ gap.text) source

/-- Read a quoted scalar from its first quote to its last. -/
def quotedScalar (style : ScalarStyle) (source : Source) : Except Fault ScannedScalar :=
  quotedWords style (source.rest.length + 1) [] (source.drop 1)

/-! ## Block scalars -/

/-- What becomes of the line ends that close a block. -/
inductive Chomping
  | strip
  | clip
  | keep
  deriving Repr, DecidableEq

/-- What the first line of a block says. -/
structure BlockHeader where
  chomping : Chomping
  /-- How much deeper than its surroundings the block is indented, if given. -/
  indent : Option Nat

/-- The chomping sign that comes next, if one does. -/
def takeChomping (source : Source) : Option Chomping × Source :=
  match source.peek with
  | some '+' => (some .keep, source.drop 1)
  | some '-' => (some .strip, source.drop 1)
  | _ => (none, source)

/-- The indentation digit that comes next, if one does; it is not zero. -/
def takeIndent (source : Source) : Except Fault (Option Nat × Source) :=
  match source.peek with
  | some digit =>
    if digit = '0' then .error .badBlockHeader
    else if digit.isDigit then .ok (some (digit.toNat - '0'.toNat), source.drop 1)
    else .ok (none, source)
  | none => .ok (none, source)

/-- The signs behind the one that opens a block, in either order, and the rest of
their line, which holds nothing but a comment. -/
def takeBlockHeader (source : Source) : Except Fault (BlockHeader × Source) := do
  let (before, source) := takeChomping source
  let (indent, source) ← takeIndent source
  let (behind, source) :=
    if before.isNone && indent.isSome then takeChomping source else (before, source)
  let source := source.dropWhile isBlank
  let source := if source.startsWith '#' then source.dropLine else source
  if !endsLine source.peek then throw .badBlockHeader
  return (⟨behind.getD .clip, indent⟩, source.takeBreak.2)

/-- Pass over indentation and empty lines.  The result is the line ends that were
passed, the greatest column that was reached, and what comes next.  Indentation
goes up to the column `indent`, or on and on as long as that is not known. -/
def takeEmptyLines (indent : Option Nat) :
    Nat → List Char → Nat → Source → Except Fault (List Char × Nat × Source)
  | 0, kept, deepest, source => .ok (kept, deepest, source)
  | fuel + 1, kept, deepest, source =>
    let spaces := (source.takeWhile (· = ' ')).length
    let source := source.drop <|
      match indent with
      | some column => min spaces (column - source.mark.column)
      | none => spaces
    let deepest := max deepest source.mark.column
    let shallow :=
      match indent with
      | some column => source.mark.column < column
      | none => true
    if shallow && source.startsWith '\t' then .error .tabInIndentation
    else if source.peek.any isBreak then
      let (line, next) := source.takeBreak
      takeEmptyLines indent fuel (kept ++ line) deepest next
    else .ok (kept, deepest, source)

/-- The lines of a block, after some text, a line end and further line ends were
read.  `afterBlank` says that the last line began with a blank. -/
def blockLines (style : ScalarStyle) (indent : Nat) :
    Nat → List Char → List Char → List Char → Bool → Source →
      Except Fault (List Char × List Char × List Char × Source)
  | 0, text, first, others, _, source => .ok (text, first, others, source)
  | fuel + 1, text, first, others, afterBlank, source => do
    if source.mark.column ≠ indent || source.rest.isEmpty then
      return (text, first, others, source)
    let onBlank := source.peek.any isBlank
    let folds := style = .folded && first = ['\n'] && !afterBlank && !onBlank
    let join := if folds then (if others.isEmpty then [' '] else []) else first
    let line := source.takeWhile fun character => !isBreak character
    let (first, next) := (source.drop line.length).takeBreak
    let text := text ++ join ++ others ++ line
    let (others, _, next) ← takeEmptyLines (some indent) (next.rest.length + 1) [] 0 next
    blockLines style indent fuel text first others onBlank next

/-- The block scalar that comes next, inside a collection that is indented by
`parent` columns, if there is one.  Without an indentation digit the first line
that is not empty decides how far the block is indented, and that is at least
one column more than its surroundings. -/
def blockScalar (style : ScalarStyle) (parent : Option Nat) (source : Source) :
    Except Fault ScannedScalar := do
  let (header, source) ← takeBlockHeader (source.drop 1)
  let fuel := source.rest.length + 1
  let least := (parent.map (· + 1)).getD 0
  let (indent, breaks, source) ← do
    match header.indent with
    | some deeper =>
      let indent := parent.getD 0 + deeper
      let (breaks, _, source) ← takeEmptyLines (some indent) fuel [] 0 source
      pure (indent, breaks, source)
    | none =>
      let (breaks, deepest, source) ← takeEmptyLines none fuel [] 0 source
      pure (max (max deepest least) 1, breaks, source)
  let (text, first, others, source) ← blockLines style indent fuel [] [] breaks false source
  let tail :=
    match header.chomping with
    | .strip => []
    | .clip => first
    | .keep => first ++ others
  return ⟨text ++ tail, true, source⟩

end LSystemExplorer.Yaml
