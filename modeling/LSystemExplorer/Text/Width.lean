import LSystemExplorer.Text.Broad
import LSystemExplorer.Text.Cluster
import LSystemExplorer.Text.Picture

/-!
# The width of a text on a terminal

Most characters take one column.  Ideographs and most pictures take two, marks and
characters that are not drawn take none.  Some characters merge with what follows
them: two letters become one sign, two halves become a flag, and pictures that
are joined become one picture.  A sign behind a pictograph chooses its form, and
with it the width.

The width is therefore counted from the end of the text to its beginning.  On the
way a `Trail` tells what the text that was passed begins with, as far as it
matters for the character before it.
-/

set_option autoImplicit false

namespace LSystemExplorer.Text

/-- What a text begins with, as far as it can merge with a character before it.  A
`joined` letter has a joiner in front of it. -/
inductive Sequel
  | other
  | lineFeed
  | alef
  | lamed (joined : Bool)
  /-- A Khmer letter that can stand below another one. -/
  | khmer
  | ya (joined : Bool)
  | yaWithVowel
  | tifinagh (joined : Bool)
  /-- The Tifinagh sign that joins consonants, with one behind it. -/
  | tifinaghJoiner
  /-- A Lisu tone that merges with another tone. -/
  | lisuTone
  /-- The letter i of Old Turkic in its Orkhon form. -/
  | orkhon (joined : Bool)
  | skinTone
  /-- A half of a flag. -/
  | regional
  | regionals
  | picture
  | joinedPicture
  /-- The frame of a key, a joiner and a picture. -/
  | joinedKeycap
  | joinedRegional
  /-- Halves of flags in pairs, a joiner and a picture. -/
  | joinedFlags
  /-- The same with one half more. -/
  | joinedFlagsAndHalf
  /-- Letters among the tags of a flag, the tag that ends them, a joiner and a picture. -/
  | tagLetters (count : Nat)
  /-- Digits at the beginning of such tags. -/
  | tagDigits (count : Nat)
  deriving Repr, DecidableEq

/-- A sign that chooses the form of the character before it. -/
inductive Selector
  /-- The character is to be a sign of the text. -/
  | text
  | picture
  deriving Repr, DecidableEq

/-- What stands behind a character. -/
structure Trail where
  sequel : Sequel
  selector : Option Selector := none
  deriving Repr, DecidableEq

/-- The character that joins others. -/
def joiner : Char := '\u200d'

/-- The sign that asks for a sign of the text. -/
def textSelector : Char := '\ufe0e'

/-- The sign that asks for a picture. -/
def pictureSelector : Char := '\ufe0f'

/-- A half of a flag. -/
def isRegional (number : Nat) : Bool :=
  between 0x1f1e6 0x1f1ff number

/-- An Arabic alef, whatever marks it has. -/
def isAlef (number : Nat) : Bool :=
  between 0x622 0x623 number || number = 0x625 || number = 0x627 || between 0x671 0x673 number ||
    number = 0x675 || between 0x773 0x774 number || between 0x870 0x882 number

/-- An Arabic lam, whatever marks it has. -/
def isLam (number : Nat) : Bool :=
  number = 0x644 || between 0x6b5 0x6b8 number || number = 0x76a || number = 0x8a6 ||
    number = 0x8c7

/-- A Tifinagh consonant. -/
def isTifinagh (number : Nat) : Bool :=
  between 0x2d31 0x2d65 number || number = 0x2d6f

/-- A Khmer letter that can stand below another one. -/
def isKhmerLetter (number : Nat) : Bool :=
  between 0x1780 0x1782 number || between 0x1784 0x1787 number || between 0x1789 0x178c number ||
    between 0x178e 0x1793 number || between 0x1795 0x1798 number || between 0x179b 0x179d number ||
    number = 0x17a0 || number = 0x17a2 || number = 0x17a7 || between 0x17ab 0x17ac number ||
    number = 0x17af

/-- Letters merge across the character. -/
def isMergedAcross (number : Nat) : Bool :=
  number = 0x34f || between 0x17b4 0x17b5 number || between 0x180b 0x180d number ||
    number = 0x180f || number = 0x200d || between 0xfe00 0xfe0f number ||
    between 0xe0100 0xe01ef number

namespace Sequel

/-- A letter that merges with other letters. -/
def isLetter : Sequel → Bool
  | .alef | .lamed _ | .khmer | .ya _ | .yaWithVowel | .tifinagh _ | .tifinaghJoiner
  | .lisuTone | .orkhon _ => true
  | _ => false

/-- A joined picture, which stays joined when its sign is chosen. -/
def isJoinedPicture : Sequel → Bool
  | .joinedPicture | .joinedKeycap => true
  | _ => false

/-- The letter with a joiner in front of it. -/
def join : Sequel → Sequel
  | .lamed _ => .lamed true
  | .ya _ => .ya true
  | .tifinagh _ => .tifinagh true
  | .orkhon _ => .orkhon true
  | sequel => sequel

/-- What the text begins with when a character merges with it, and the columns that
the character adds. -/
def merge? (sequel : Sequel) (character : Char) : Option (Int × Sequel) :=
  let number := character.toNat
  let when (fits : Bool) (width : Int) (merged : Sequel) : Option (Int × Sequel) :=
    if fits then some (width, merged) else none
  match sequel with
  | .other | .lineFeed | .lamed false | .ya false | .orkhon false => none
  | .alef =>
    when (isLam number) 0 .other <|>
      when (widthless.contains character && !isolating.contains character) 0 .alef
  | .lamed true => when (number = 0x5d0) 0 .other
  | .khmer => when (number = 0x17d2) (-1) .other
  | .ya true => when (number = 0x1a17) 0 .yaWithVowel
  | .yaWithVowel => when (number = 0x1a15) 0 .other
  | .tifinagh joined =>
    when (number = 0x2d7f) 1 .tifinaghJoiner <|> when (joined && isTifinagh number) 0 .other
  | .tifinaghJoiner => when (isTifinagh number) (-1) .other
  | .lisuTone => when (between 0xa4f8 0xa4fb number) 0 .other
  | .orkhon true => when (number = 0x10c32) 0 .other
  | .skinTone =>
    when (skinned.contains character) 0 .picture <|> when (character = joiner) 0 .joinedPicture
  | .regional => when (isRegional number) 1 .regionals
  | .regionals =>
    when (isRegional number) 1 .regionals <|> when (character = joiner) 0 .joinedPicture
  | .picture => when (character = joiner) 0 .joinedPicture
  | .joinedPicture =>
    when (number = 0x20e3) 0 .joinedKeycap <|> when (isRegional number) 1 .joinedRegional <|>
      when (isSkinTone number) 0 .skinTone <|> when (number = 0xe007f) 0 (.tagLetters 0) <|>
        when (pictures.contains character) 0 .picture
  | .joinedKeycap => none
  | .joinedRegional => when (isRegional number) (-1) .joinedFlags
  | .joinedFlags =>
    when (isRegional number) 3 .joinedFlagsAndHalf <|>
      when (character = joiner) 0 .joinedPicture
  | .joinedFlagsAndHalf =>
    when (isRegional number) (-1) .joinedFlags <|> when (character = joiner) 0 .joinedPicture
  | .tagLetters count =>
    when (count < 6 && between 0xe0061 0xe007a number) 0 (.tagLetters (count + 1)) <|>
      when (count ≤ 4 && between 0xe0030 0xe0039 number) 0 (.tagDigits 1) <|>
        when (3 ≤ count && number = 0x1f3f4) 0 .picture
  | .tagDigits count =>
    when (count < 3 && between 0xe0030 0xe0039 number) 0 (.tagDigits (count + 1)) <|>
      when (count = 3 && number = 0x1f3f4) 0 .picture

/-- The columns of a character that merges with nothing, and what it can merge with
itself. -/
def ofChar (character : Char) : Int × Sequel :=
  let number := character.toNat
  if isAlef number then (1, .alef)
  else if number = 0x5dc then (1, .lamed false)
  else if number = 0x17d8 then (3, .other)
  else if isKhmerLetter number then (1, .khmer)
  else if number = 0x1a10 then (1, .ya false)
  else if isTifinagh number then (1, .tifinagh false)
  else if between 0xa4fc 0xa4fd number then (1, .lisuTone)
  else if number = 0x10c03 then (1, .orkhon false)
  else if isRegional number then (1, .regional)
  else if isSkinTone number then (2, .skinTone)
  else if pictures.contains character then (2, .picture)
  else if widthless.contains character then (0, .other)
  else if broad.contains character then (2, .other)
  else (1, .other)

end Sequel

namespace Trail

/-- Behind the end of a text. -/
def none : Trail := ⟨.other, Option.none⟩

/-- The trail when the sign that asks for a picture was not answered. -/
def unanswered (trail : Trail) : Sequel :=
  if trail.selector = some .picture && !trail.sequel.isLetter then .other else trail.sequel

/-- The columns that a basic character adds, and the trail before it.  A line break of
two characters is one sign. -/
def beforeBasic (trail : Trail) (character : Char) : Int × Trail :=
  if character = '\n' then (1, ⟨.lineFeed, Option.none⟩)
  else if character = '\r' && trail.sequel = .lineFeed then (0, none)
  else (1, none)

/-- The columns that any other character adds when no picture was asked for, and the
trail before it. -/
def beforeFurther (sequel : Sequel) (selector : Option Selector) (character : Char) :
    Int × Trail :=
  if character = pictureSelector then
    (0, ⟨if sequel.isLetter || sequel.isJoinedPicture then sequel else .other, some .picture⟩)
  else if character = textSelector then
    (0, ⟨if sequel.isLetter then sequel else .other, some .text⟩)
  else if selector = some .text && textual.contains character then (1, none)
  else if sequel.isLetter && sequel ≠ .alef && isMergedAcross character.toNat then
    (0, ⟨if character = joiner then sequel.join else sequel, Option.none⟩)
  else
    let (width, sequel) := (sequel.merge? character).getD (Sequel.ofChar character)
    (width, ⟨sequel, Option.none⟩)

/-- The columns that a character adds, and the trail before it. -/
def before (trail : Trail) (character : Char) : Int × Trail :=
  if trail.selector = some .picture && picturable.contains character then
    (if trail.sequel.isJoinedPicture then 0 else 2, ⟨.picture, Option.none⟩)
  else if character ≤ '\u00a0' then trail.beforeBasic character
  else beforeFurther trail.unanswered trail.selector character

end Trail

/-- The number of columns that a text takes, and what it begins with. -/
def widthAndTrail (text : List Char) : Int × Trail :=
  text.foldr
    (fun character behind =>
      let (width, trail) := behind.2.before character
      (behind.1 + width, trail))
    (0, Trail.none)

/-- The number of columns that a text takes. -/
def width (text : List Char) : Nat :=
  (widthAndTrail text).1.toNat

end LSystemExplorer.Text
