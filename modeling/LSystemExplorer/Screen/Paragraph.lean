import LSystemExplorer.Screen.Cells
import LSystemExplorer.Screen.Glyph

/-!
# Paragraphs

A paragraph is some lines of text that are drawn in an area, from its first row
down to its last one.  What does not fit is not drawn.
-/

set_option autoImplicit false

namespace LSystemExplorer

/-! ## Fitting lines into a width

A line that is too long for an area is either cut off or broken up into several
lines.  It is broken at spaces: a word that does not fit goes to the next line,
and a word that is longer than a whole line is broken where the line ends.  The
spaces at a break are dropped as far as they would have fitted on the old line.

While a line is broken up, the glyphs that are not yet on a line are kept apart:
the spaces after the last word that was placed, and the word that follows them.
Both go onto the line when the word has ended.  When trimming, the spaces at the
beginning of a line are dropped.
-/

/-- What is done with lines that are too long. -/
inductive Fit
  | cut
  /-- They are broken up, and spaces at the beginning of a line are kept. -/
  | wrap
  /-- They are broken up, and spaces at the beginning of a line are dropped. -/
  | wrapTrimmed
  deriving Repr, DecidableEq

/-- The first glyphs of a line that fit into `room` columns. -/
def cutGlyphs (room : Nat) : List Glyph → List Glyph
  | [] => []
  | glyph :: glyphs =>
    if glyph.width ≤ room then glyph :: cutGlyphs (room - glyph.width) glyphs else []

/-- Drop the first glyphs that fit into `room` columns. -/
def dropGlyphs (room : Nat) : List Glyph → List Glyph
  | [] => []
  | glyph :: glyphs =>
    if glyph.width ≤ room then dropGlyphs (room - glyph.width) glyphs else glyph :: glyphs

/-- A line that is being broken up. -/
structure Breaking where
  done : Array (List Glyph) := #[]
  line : List Glyph := []
  spaces : List Glyph := []
  word : List Glyph := []
  /-- The last glyph belongs to a word. -/
  inWord : Bool := false

namespace Breaking

/-- The line with the spaces and the word on it. -/
def joined (trim : Bool) (breaking : Breaking) : List Glyph :=
  if breaking.line.isEmpty && trim then breaking.word
  else breaking.line ++ breaking.spaces ++ breaking.word

/-- Put the spaces and the word onto the line. -/
def settle (trim : Bool) (breaking : Breaking) : Breaking :=
  { breaking with line := breaking.joined trim, spaces := [], word := [] }

/-- The word has to be put onto the line before the glyph is taken: either it has
ended, or the line is still empty and would be too long otherwise. -/
def mustSettle (trim : Bool) (limit : Nat) (breaking : Breaking) (glyph : Glyph) : Bool :=
  let word := Glyph.totalWidth breaking.word
  let spaces := Glyph.totalWidth breaking.spaces
  (breaking.inWord && glyph.isSpace) ||
    (breaking.line.isEmpty &&
      if trim then limit < word + glyph.width || limit < spaces + glyph.width
      else limit < word + spaces + glyph.width)

/-- The glyph has to go to a new line. -/
def isFull (limit : Nat) (breaking : Breaking) (glyph : Glyph) : Bool :=
  let line := Glyph.totalWidth breaking.line
  limit ≤ line ||
    (0 < glyph.width &&
      limit ≤ line + Glyph.totalWidth breaking.spaces + Glyph.totalWidth breaking.word)

/-- Take a glyph as the next space or as the next part of the word. -/
def take (breaking : Breaking) (glyph : Glyph) : Breaking :=
  if glyph.isSpace then
    { breaking with spaces := breaking.spaces ++ [glyph], inWord := false }
  else { breaking with word := breaking.word ++ [glyph], inWord := true }

/-- End the line, and drop the spaces that would have fitted on it. -/
def endLine (limit : Nat) (breaking : Breaking) : Breaking :=
  { breaking with
    done := breaking.done.push breaking.line
    line := []
    spaces := dropGlyphs (limit - Glyph.totalWidth breaking.line) breaking.spaces }

/-- Go on by one glyph.  A glyph that is wider than a whole line is left out, and so
is the space at which a line ends. -/
def step (trim : Bool) (limit : Nat) (breaking : Breaking) (glyph : Glyph) : Breaking :=
  if limit < glyph.width then breaking
  else
    let breaking :=
      if breaking.mustSettle trim limit glyph then breaking.settle trim else breaking
    if breaking.isFull limit glyph then
      let breaking := breaking.endLine limit
      if glyph.isSpace && breaking.spaces.isEmpty then breaking else breaking.take glyph
    else breaking.take glyph

/-- The lines after the last glyph.  There is one at least. -/
def finish (trim : Bool) (breaking : Breaking) : List (List Glyph) :=
  let onlySpaces :=
    breaking.line.isEmpty && breaking.word.isEmpty && !breaking.spaces.isEmpty
  let done := if onlySpaces then breaking.done.push [] else breaking.done
  let last := breaking.joined trim
  let done := if last.isEmpty then done else done.push last
  if done.isEmpty then [[]] else done.toList

end Breaking

/-- Break a line up into lines of at most `limit` columns. -/
def wrapGlyphs (trim : Bool) (limit : Nat) (glyphs : List Glyph) : List (List Glyph) :=
  (glyphs.foldl (Breaking.step trim limit) {}).finish trim

namespace Fit

/-- The lines that come out of a line in an area of `limit` columns.  Cutting off
leaves glyphs out that are wider than the area. -/
def apply (fit : Fit) (limit : Nat) (glyphs : List Glyph) : List (List Glyph) :=
  match fit with
  | .cut => [cutGlyphs limit (glyphs.filter (·.width ≤ limit))]
  | .wrap => wrapGlyphs false limit glyphs
  | .wrapTrimmed => wrapGlyphs true limit glyphs

end Fit

/-! ## Paragraphs -/

/-- Where a line stands in its row. -/
inductive Alignment
  | left
  | center
  | right
  deriving Repr, DecidableEq

/-- The number of columns before a line of some width in a row of some width. -/
def Alignment.offset (alignment : Alignment) (row line : Nat) : Nat :=
  match alignment with
  | .left => 0
  | .center => row / 2 - line / 2
  | .right => row - line

/-- Lines of text, and how they are to be drawn. -/
structure Paragraph where
  lines : List Line
  alignment : Alignment := .left
  fit : Fit := .cut
  style : Style := .plain

namespace Screen

/-- Draw glyphs in a row, from a column on.  A glyph without width is left out. -/
def writeGlyphs (screen : Screen) (row column : Nat) : List Glyph → Screen
  | [] => screen
  | glyph :: glyphs =>
    let written :=
      if glyph.width = 0 then screen
      else screen.modify column row (Cell.write glyph.sign glyph.style)
    written.writeGlyphs row (column + glyph.width) glyphs

/-- Draw lines one below the other. -/
def writeLines (screen : Screen) (area : Area) (alignment : Alignment) (row : Nat) :
    List (List Glyph) → Screen
  | [] => screen
  | line :: lines =>
    let offset := alignment.offset area.width (Glyph.totalWidth line)
    (screen.writeGlyphs row (area.left + offset) line).writeLines area alignment (row + 1) lines

end Screen

namespace Paragraph

/-- The lines as they come out in an area. -/
def fitted (paragraph : Paragraph) (area : Area) : List (List Glyph) :=
  (paragraph.lines.flatMap fun line => paragraph.fit.apply area.width line.glyphs).take
    area.height

/-- Draw a paragraph in an area. -/
def draw (paragraph : Paragraph) (area : Area) (screen : Screen) : Screen :=
  if area.isEmpty then screen
  else
    (screen.restyle area paragraph.style).writeLines area paragraph.alignment area.top
      (paragraph.fitted area)

end Paragraph

end LSystemExplorer
