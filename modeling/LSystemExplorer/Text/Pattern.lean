import LSystemExplorer.Text.Letters
import LSystemExplorer.Text.Basic

/-!
# Search patterns

A pattern describes the texts that are searched for: characters, sets of characters
in square brackets, groups in round brackets, alternatives between bars, repetitions,
and escape sequences.  This module does not search; it tells which texts are patterns.

Within a group three modes can be switched on and off.  Blanks and remarks between
the signs can be allowed, capital and small letters can be taken for the same, and
octets can be meant instead of characters.  A pattern for octets must not match
anything that is no text.  A pattern for characters knows nothing of the properties of
characters: there are no named classes in it, no ends of words, and no pairs of capital
and small letters.  And no pattern is nested too deeply.
-/

set_option autoImplicit false

namespace LSystemExplorer.Pattern

/-- How a part of a pattern is to be read. -/
structure Mode where
  /-- Blanks and remarks between the signs are passed over. -/
  spaced : Bool := false
  caseless : Bool := false
  octets : Bool := false
  deriving Repr, DecidableEq

/-- Pass over blanks and remarks, which go from a hash sign to the end of a line. -/
def dropBlanks (inRemark : Bool) : List Char → List Char
  | [] => []
  | character :: text =>
    if inRemark then dropBlanks (character ≠ '\n') text
    else if Text.isSpace character then dropBlanks false text
    else if character = '#' then dropBlanks true text
    else character :: text

/-- Pass over what does not count between two signs. -/
def Mode.skip (mode : Mode) (text : List Char) : List Char :=
  if mode.spaced then dropBlanks false text else text

/-- A character of the basic set. -/
def isBasic (character : Char) : Bool :=
  character.toNat < 0x80

/-! ## Escape sequences -/

/-- What an escape sequence stands for. -/
inductive Escape
  /-- A character.  It may be given as an octet. -/
  | character (value : Char) (asOctet : Bool)
  | oneOf
  | place
  deriving Repr, DecidableEq

/-- The value of a digit in the base sixteen. -/
def hexDigit? (digit : Char) : Option Nat :=
  if '0' ≤ digit ∧ digit ≤ '9' then some (digit.toNat - '0'.toNat)
  else if 'a' ≤ digit ∧ digit ≤ 'f' then some (digit.toNat - 'a'.toNat + 10)
  else if 'A' ≤ digit ∧ digit ≤ 'F' then some (digit.toNat - 'A'.toNat + 10)
  else none

/-- Read a number of `count` digits in the base sixteen. -/
def readHex? (mode : Mode) (value : Nat) : Nat → List Char → Option (Nat × List Char)
  | 0, text => some (value, text)
  | count + 1, text =>
    match mode.skip text with
    | [] => none
    | digit :: rest =>
      (hexDigit? digit).bind fun digit => readHex? mode (16 * value + digit) count rest

/-- Read the number of a character. -/
def readNumbered? (mode : Mode) (digits : Nat) (text : List Char) :
    Option (Escape × List Char) :=
  (readHex? mode 0 digits text).bind fun (number, rest) =>
    if number.isValidChar then some (.character (Char.ofNat number) (digits = 2), rest) else none

/-- The control characters that have a letter of their own. -/
def lettered : List (Char × Char) :=
  [('a', '\x07'), ('f', '\x0c'), ('t', '\t'), ('n', '\n'), ('r', '\r'), ('v', '\x0b')]

/-- Read what follows a backslash. -/
def readEscape? (mode : Mode) (text : List Char) : Option (Escape × List Char) :=
  match text with
  | [] => none
  | 'x' :: rest => readNumbered? mode 2 rest
  | 'u' :: rest => readNumbered? mode 4 rest
  | 'U' :: rest => readNumbered? mode 8 rest
  | sign :: rest =>
    match lettered.lookup sign with
    | some character => some (.character character false, rest)
    | none =>
      if sign = 'A' ∨ sign = 'z' then some (.place, rest)
      else if sign ∈ ['b', 'B', '<', '>'] then
        if mode.octets then some (.place, rest) else none
      else if sign ∈ ['d', 's', 'w'] then
        if mode.octets then some (.oneOf, rest) else none
      else if isBasic sign && !sign.isAlphanum then some (.character sign false, rest)
      else none

/-! ## Sets of characters -/

/-- A pair of square brackets that is still open. -/
structure Bracket where
  /-- How deeply its members are nested. -/
  members : List Nat := []
  /-- How deeply what stands before an operator is nested. -/
  before : Option Nat := none
  /-- Nothing but dashes was read. -/
  fresh : Bool := true
  deriving Repr, DecidableEq

/-- How deeply things are nested that stand side by side; several of them count as
one more level. -/
def nestingTogether : List Nat → Nat
  | [] => 0
  | [depth] => depth
  | depths => depths.foldl max 0 + 1

namespace Bracket

/-- Add a member. -/
def add (bracket : Bracket) (depth : Nat) : Bracket :=
  { bracket with members := depth :: bracket.members, fresh := false }

/-- Add a dash at the beginning. -/
def addDash (bracket : Bracket) : Bracket :=
  { bracket with members := 0 :: bracket.members }

/-- How deeply the whole is nested. -/
def depth (bracket : Bracket) : Nat :=
  let members := nestingTogether bracket.members
  match bracket.before with
  | none => members
  | some before => max before members + 1

/-- Go on behind an operator. -/
def combine (bracket : Bracket) : Bracket where
  before := some bracket.depth
  fresh := false

end Bracket

/-- The classes that have a name within brackets. -/
def classNames : List String :=
  ["alnum", "alpha", "ascii", "blank", "cntrl", "digit", "graph", "lower", "print", "punct",
    "space", "upper", "word", "xdigit"]

/-- Read a class that is given by its name, and whether everything else is meant. -/
def readClass? (text : List Char) : Option (Bool × List Char) :=
  match text with
  | ':' :: rest =>
    let (negated, rest) :=
      match rest with
      | '^' :: rest => (true, rest)
      | rest => (false, rest)
    match rest.dropWhile (· ≠ ':') with
    | ':' :: ']' :: behind =>
      if String.ofList (rest.takeWhile (· ≠ ':')) ∈ classNames then some (negated, behind)
      else none
    | _ => none
  | _ => none

/-- Read one end of a range. -/
def readEnd? (mode : Mode) (text : List Char) : Option (Escape × List Char) :=
  match text with
  | [] => none
  | '\\' :: rest => readEscape? mode rest
  | character :: rest => some (.character character false, rest)

/-- The character may stand in a set. -/
def Mode.admits (mode : Mode) (character : Char) : Bool :=
  !mode.octets || isBasic character

/-- Read a member of a set: a character, a class, or a range of characters. -/
def readMember? (mode : Mode) (text : List Char) : Option (List Char) :=
  match readEnd? mode text with
  | none | some (.place, _) => none
  | some (.oneOf, rest) =>
    match mode.skip rest with
    | '-' :: behind => if (mode.skip behind).head? ∈ [some ']', some '-'] then some rest else none
    | _ => some rest
  | some (.character first _, rest) =>
    if !mode.admits first then none
    else
      match mode.skip rest with
      | '-' :: behind =>
        let behind := mode.skip behind
        if behind.head? ∈ [some ']', some '-'] then some rest
        else
          match readEnd? mode behind with
          | some (.character last _, rest) =>
            if first ≤ last && mode.admits last then some rest else none
          | _ => none
      | _ => some rest

/-- Read what follows an opening bracket, up to the members. -/
def readBracket? (mode : Mode) (text : List Char) : Option (List Char) :=
  match mode.skip text with
  | '^' :: rest => if mode.octets then none else some rest
  | rest => some rest

/-- Read the members of nested sets and find out how deeply they are nested. -/
def readSet? (mode : Mode) :
    Nat → Bracket → List Bracket → List Char → Option (Nat × List Char)
  | 0, _, _, _ => none
  | fuel + 1, bracket, outer, text =>
    match mode.skip text with
    | [] => none
    | ']' :: rest =>
      if bracket.fresh && bracket.members.isEmpty then
        readSet? mode fuel (bracket.add 0) outer rest
      else
        match outer with
        | [] => some (bracket.depth + 1, rest)
        | next :: outer => readSet? mode fuel (next.add (bracket.depth + 1)) outer rest
    | '[' :: rest =>
      match readClass? rest with
      | some (negated, behind) =>
        if mode.octets && negated then none else readSet? mode fuel (bracket.add 0) outer behind
      | none =>
        (readBracket? mode rest).bind fun behind =>
          readSet? mode fuel {} ({ bracket with fresh := false } :: outer) behind
    | '&' :: '&' :: rest | '~' :: '~' :: rest => readSet? mode fuel bracket.combine outer rest
    | '-' :: rest =>
      if bracket.fresh then readSet? mode fuel bracket.addDash outer rest
      else
        match rest with
        | '-' :: behind => readSet? mode fuel bracket.combine outer behind
        | _ =>
          (readMember? mode ('-' :: rest)).bind fun behind =>
            readSet? mode fuel (bracket.add 0) outer behind
    | rest =>
      (readMember? mode rest).bind fun behind =>
        readSet? mode fuel (bracket.add 0) outer behind

/-! ## Groups -/

/-- What an opening round bracket begins. -/
inductive Opening
  | group (mode : Mode) (name : Option (List Char))
  /-- Nothing; the mode is another one from here on. -/
  | switch (mode : Mode)

/-- The character may stand at the beginning of a name. -/
def beginsName (character : Char) : Bool :=
  character = '_' || Text.letters.contains character

/-- The character may stand in a name. -/
def continuesName (character : Char) : Bool :=
  character ∈ ['_', '.', '[', ']'] || Text.isAlphanumeric character

/-- Read the name of a group. -/
def readName? (text : List Char) : Option (List Char × List Char) :=
  let name := text.takeWhile (· ≠ '>')
  match name, text.dropWhile (· ≠ '>') with
  | first :: further, _ :: rest =>
    if beginsName first && further.all continuesName then some (name, rest) else none
  | _, _ => none

/-- The letters of all modes; some make no difference to what is a pattern. -/
def modeLetters : List Char := ['i', 'm', 's', 'U', 'u', 'R', 'x']

/-- Switch the mode that goes by a letter. -/
def Mode.switch (mode : Mode) (letter : Char) (on : Bool) : Mode :=
  if letter = 'x' then { mode with spaced := on }
  else if letter = 'i' then { mode with caseless := on }
  else if letter = 'u' then { mode with octets := !on }
  else mode

/-- Read the letters of modes, of which those behind a dash are switched off.  None
may come twice, and a dash may not come last. -/
def readModes? (mode : Mode) (seen : List Char) (last : Option Char) :
    List Char → Option (Opening × List Char)
  | [] => none
  | ':' :: rest => if last = some '-' then none else some (.group mode none, rest)
  | ')' :: rest => if last = some '-' ∨ last = none then none else some (.switch mode, rest)
  | letter :: rest =>
    if seen.contains letter then none
    else if letter = '-' then readModes? mode ('-' :: seen) (some '-') rest
    else if modeLetters.contains letter then
      readModes? (mode.switch letter (!seen.contains '-')) (letter :: seen) (some letter) rest
    else none

/-- Read what follows an opening round bracket.  Looking ahead or back is not
possible. -/
def readOpening? (mode : Mode) (text : List Char) : Option (Opening × List Char) :=
  match text with
  | '?' :: 'P' :: '<' :: rest =>
    (readName? rest).map fun (name, rest) => (.group mode (some name), rest)
  | '?' :: '<' :: rest =>
    (readName? rest).map fun (name, rest) => (.group mode (some name), rest)
  | '?' :: rest => readModes? mode [] none rest
  | rest => some (.group mode none, rest)

/-! ## Patterns -/

/-- What was read of a group. -/
structure Level where
  mode : Mode := {}
  /-- How deeply the parts since the last bar are nested, the last one first.  A
  switch of the mode counts as a part that cannot be repeated. -/
  parts : List (Option Nat) := []
  /-- How deeply the alternatives before it are nested. -/
  alternatives : List Nat := []

namespace Level

/-- Add a part. -/
def add (level : Level) (depth : Nat) : Level :=
  { level with parts := some depth :: level.parts }

/-- How deeply the last alternative is nested. -/
def alternative (level : Level) : Nat :=
  nestingTogether (level.parts.map (·.getD 0))

/-- How deeply the whole is nested. -/
def depth (level : Level) : Nat :=
  nestingTogether (level.alternative :: level.alternatives)

/-- Begin with the next alternative. -/
def bar (level : Level) : Level :=
  { level with parts := [], alternatives := level.alternative :: level.alternatives }

end Level

/-- A character outside of sets is part of a pattern. -/
def Mode.matches (mode : Mode) (character : Char) (asOctet : Bool) : Bool :=
  if mode.octets then !asOctet || isBasic character else !mode.caseless

/-- Read a pattern and find out how deeply it is nested. -/
def read? : Nat → Level → List Level → List (List Char) → List Char → Option Nat
  | 0, _, _, _, _ => none
  | fuel + 1, level, outer, names, text =>
    match level.mode.skip text with
    | [] => if outer.isEmpty then some level.depth else none
    | '(' :: rest =>
      match readOpening? level.mode (level.mode.skip rest) with
      | none => none
      | some (.switch mode, behind) =>
        read? fuel { level with mode, parts := none :: level.parts } outer names behind
      | some (.group mode none, behind) =>
        read? fuel { mode } (level :: outer) names behind
      | some (.group mode (some name), behind) =>
        if names.contains name then none
        else read? fuel { mode } (level :: outer) (name :: names) behind
    | ')' :: rest =>
      match outer with
      | [] => none
      | next :: outer => read? fuel (next.add (level.depth + 1)) outer names rest
    | '|' :: rest => read? fuel level.bar outer names rest
    | '[' :: rest =>
      if level.mode.caseless && !level.mode.octets then none
      else
        match (readBracket? level.mode rest).bind (readSet? level.mode (fuel + 1) {} []) with
        | some (depth, behind) => read? fuel (level.add depth) outer names behind
        | none => none
    | '?' :: rest | '*' :: rest | '+' :: rest =>
      match level.parts with
      | some depth :: parts =>
        let behind := if rest.head? = some '?' then rest.drop 1 else rest
        read? fuel { level with parts := some (depth + 1) :: parts } outer names behind
      | _ => none
    | '\x7b' :: _ => none
    | '\\' :: rest =>
      match readEscape? level.mode rest with
      | none => none
      | some (.character character asOctet, behind) =>
        if level.mode.matches character asOctet then
          read? fuel (level.add 0) outer names behind
        else none
      | some (_, behind) => read? fuel (level.add 0) outer names behind
    | '.' :: rest => if level.mode.octets then none else read? fuel (level.add 0) outer names rest
    | '^' :: rest | '$' :: rest => read? fuel (level.add 0) outer names rest
    | character :: rest =>
      if level.mode.matches character false then read? fuel (level.add 0) outer names rest
      else none

/-- Patterns are not nested more deeply. -/
def deepest : Nat := 250

/-- The text is a pattern. -/
def isValid (text : List Char) : Bool :=
  (read? (text.length + 1) {} [] [] text).any (· ≤ deepest)

end LSystemExplorer.Pattern
