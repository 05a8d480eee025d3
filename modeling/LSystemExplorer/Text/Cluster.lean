import LSystemExplorer.Text.Breaking
import LSystemExplorer.Text.Combining

/-!
# Clusters

What a reader takes for one sign may be several characters: a letter and its
accents, the parts of a Hangul syllable, a flag, or a family of pictographs.  A
text is taken apart into such clusters, and a terminal puts each of them into a
cell of its own.  In the scripts of India consonants that are linked to one another
stay together, too.

A cluster goes on as long as there is a reason to keep the next character.  The
reasons look at the class of the last character, at the class of the next one,
and at a short memory of what came before, which is the `History`.
-/

set_option autoImplicit false

namespace LSystemExplorer.Text

/-- How a character holds on to its neighbours. -/
inductive Joining
  | carriageReturn
  | lineFeed
  | control
  | mark
  /-- A mark that links two consonants. -/
  | linker
  /-- A mark that keeps consonants apart. -/
  | separator
  | joiner
  /-- It belongs to the character after it. -/
  | forerunner
  /-- A mark that takes up space after its character. -/
  | spacingMark
  /-- Half of a flag. -/
  | regional
  | pictograph
  | leading
  | vowel
  | trailing
  | openSyllable
  | closedSyllable
  /-- A consonant that can be linked to the one before it. -/
  | consonant
  | plain
  deriving Repr, DecidableEq

/-- The number lies between two others, both included. -/
def between (first last number : Nat) : Bool :=
  first ≤ number && number ≤ last

/-- The first part of a Hangul syllable. -/
def isLeading (number : Nat) : Bool :=
  between 0x1100 0x115f number || between 0xa960 0xa97c number

/-- The middle part of a syllable: of a Hangul one, or a vowel of Kirat Rai. -/
def isVowel (number : Nat) : Bool :=
  between 0x1160 0x11a7 number || between 0xd7b0 0xd7c6 number || number = 0x16d63 ||
    between 0x16d67 0x16d6a number

/-- The last part of a Hangul syllable. -/
def isTrailing (number : Nat) : Bool :=
  between 0x11a8 0x11ff number || between 0xd7cb 0xd7fb number

/-- The colour of the skin of the person before it. -/
def isSkinTone (number : Nat) : Bool :=
  between 0x1f3fb 0x1f3ff number

/-- How a character holds on to its neighbours.  Hangul syllables come in groups of
twenty-eight, of which the first has no last part. -/
def Joining.ofChar (character : Char) : Joining :=
  let number := character.toNat
  if between 0x20 0x7e number then .plain
  else if number = 0xd then .carriageReturn
  else if number = 0xa then .lineFeed
  else if number = 0x200c then .separator
  else if number = 0x200d then .joiner
  else if controls.contains character then .control
  else if conjunctLinkers.contains character then .linker
  else if combining.contains character || isSkinTone number then .mark
  else if between 0x1f1e6 0x1f1ff number then .regional
  else if isLeading number then .leading
  else if isVowel number then .vowel
  else if isTrailing number then .trailing
  else if between 0xac00 0xd7a3 number then
    if (number - 0xac00) % 28 = 0 then .openSyllable else .closedSyllable
  else if forerunners.contains character then .forerunner
  else if spacingMarks.contains character then .spacingMark
  else if conjunctConsonants.contains character then .consonant
  else if pictographs.contains character then .pictograph
  else .plain

/-- The character is a mark on the one before it. -/
def Joining.isMark : Joining → Bool
  | .mark | .linker | .separator => true
  | _ => false

/-- How far a group of linked consonants has come. -/
inductive Conjunct
  | none
  /-- A consonant was seen, and since then only marks and joiners. -/
  | begun
  /-- A link to the next consonant was seen as well. -/
  | linked
  deriving Repr, DecidableEq

/-- The group after one more character. -/
def Conjunct.next (conjunct : Conjunct) : Joining → Conjunct
  | .consonant => .begun
  | .linker => if conjunct = .none then .none else .linked
  | .mark | .joiner => conjunct
  | _ => .none

/-- What is remembered of the characters before. -/
structure History where
  last : Joining
  /-- A pictograph was seen, and since then only marks and at most one joiner. -/
  pictured : Bool
  /-- The last character is the first half of a flag. -/
  halfFlag : Bool
  conjunct : Conjunct

namespace History

/-- The history after a first character. -/
def start (joining : Joining) : History :=
  ⟨joining, joining = .pictograph, joining = .regional, Conjunct.none.next joining⟩

/-- The history after one more character. -/
def next (history : History) (joining : Joining) : History where
  last := joining
  pictured :=
    joining = .pictograph ||
      (history.pictured && history.last ≠ .joiner && (joining.isMark || joining = .joiner))
  halfFlag := joining = .regional && !history.halfFlag
  conjunct := history.conjunct.next joining

/-- The next character stays in the cluster. -/
def keeps (history : History) (joining : Joining) : Bool :=
  match history.last, joining with
  | .carriageReturn, .lineFeed => true
  | .carriageReturn, _ | .lineFeed, _ | .control, _ => false
  | _, .carriageReturn | _, .lineFeed | _, .control => false
  | .leading, .leading | .leading, .vowel | .leading, .openSyllable
  | .leading, .closedSyllable => true
  | .openSyllable, .vowel | .openSyllable, .trailing | .vowel, .vowel | .vowel, .trailing => true
  | .closedSyllable, .trailing | .trailing, .trailing => true
  | _, .mark | _, .linker | _, .separator | _, .joiner | _, .spacingMark => true
  | .forerunner, _ => true
  | _, .consonant => history.conjunct = .linked
  | .joiner, .pictograph => history.pictured
  | .regional, .regional => history.halfFlag
  | _, _ => false

end History

/-- Take apart the text after a cluster that has begun; its characters are given
from the last to the first. -/
def clustersAfter (history : History) (begun : List Char) : List Char → List (List Char)
  | [] => [begun.reverse]
  | character :: text =>
    let joining := Joining.ofChar character
    if history.keeps joining then
      clustersAfter (history.next joining) (character :: begun) text
    else
      begun.reverse :: clustersAfter (History.start joining) [character] text

/-- The clusters of a text. -/
def clusters : List Char → List (List Char)
  | [] => []
  | character :: text =>
    clustersAfter (History.start (Joining.ofChar character)) [character] text

end LSystemExplorer.Text
