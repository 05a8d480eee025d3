/-!
# Characters and lines

Some properties of characters are laid down in tables, and a text falls into words and into
lines by the characters that it is made of.
-/

set_option autoImplicit false

namespace LSystemExplorer.Text

/-! ## Ranges of characters

Properties of characters that a standard lays down come as tables.  A table
lists ranges of character numbers, both ends included, in increasing order.
-/

/-- Ranges of character numbers, both ends included. -/
abbrev CharRanges := List (Nat × Nat)

/-- The character numbered `number` lies in one of the ranges.  The search ends at
the first range that begins beyond it. -/
def CharRanges.containsNumber (number : Nat) : CharRanges → Bool
  | [] => false
  | (first, last) :: ranges =>
    if number < first then false
    else if number ≤ last then true
    else containsNumber number ranges

/-- The character lies in one of the ranges. -/
def CharRanges.contains (ranges : CharRanges) (character : Char) : Bool :=
  ranges.containsNumber character.toNat

/-! ## White space

The characters that separate words in all scripts: the property White_Space.
-/

/-- Characters that separate words. -/
def spaces : CharRanges :=
  [(0x9, 0xd), (0x20, 0x20), (0x85, 0x85), (0xa0, 0xa0), (0x1680, 0x1680), (0x2000, 0x200a),
    (0x2028, 0x2029), (0x202f, 0x202f), (0x205f, 0x205f), (0x3000, 0x3000)]

/-- The character separates words. -/
def isSpace (character : Char) : Bool :=
  spaces.contains character

/-- A text without the white space at both ends. -/
def trim (text : List Char) : List Char :=
  ((text.dropWhile isSpace).reverse.dropWhile isSpace).reverse

/-! ## Lines of a text

A line ends with a line feed, which may follow a carriage return.  A text that
ends with a line feed has no further line after it.
-/

/-- The line without a carriage return at its end. -/
def withoutReturn (line : List Char) : List Char :=
  if line.getLast? = some '\r' then line.dropLast else line

/-- The lines of a text, without the characters that end them. -/
def lines (text : List Char) : List (List Char) :=
  let pieces := text.splitOn '\n'
  let ended := pieces.dropLast.map withoutReturn
  match pieces.getLast? with
  | none | some [] => ended
  | some last => ended ++ [last]

end LSystemExplorer.Text
