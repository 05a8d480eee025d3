import LSystemExplorer.Screen.Cells
import LSystemExplorer.Text.Basic
import LSystemExplorer.Text.Width

/-!
# Styled text

A line of text is made of spans, each in a style of its own.  For drawing it is
taken apart into glyphs, the clusters of its characters with their widths.  A
glyph never runs over the end of a span, and line feeds inside of a line are left
out.
-/

set_option autoImplicit false

namespace LSystemExplorer

/-- A piece of text in one style. -/
structure Span where
  text : String
  style : Style
  deriving Repr, DecidableEq

/-- A line of text. -/
abbrev Line := List Span

/-- A cluster of characters that is drawn as one sign. -/
structure Glyph where
  sign : List Char
  style : Style
  /-- The number of columns it takes. -/
  width : Nat
  deriving Repr, DecidableEq

namespace Glyph

/-- The glyph of a cluster. -/
def ofCluster (style : Style) (cluster : List Char) : Glyph :=
  ⟨cluster, style, Text.width cluster⟩

/-- The space that has no width. -/
def zeroWidthSpace : Char := '\u200b'

/-- The space at which no line may end. -/
def noBreakSpace : Char := '\u00a0'

/-- Words end at the glyph. -/
def isSpace (glyph : Glyph) : Bool :=
  glyph.sign = [zeroWidthSpace] || (glyph.sign.all Text.isSpace && glyph.sign ≠ [noBreakSpace])

/-- The number of columns that some glyphs take. -/
def totalWidth : List Glyph → Nat
  | [] => 0
  | glyph :: glyphs => glyph.width + totalWidth glyphs

end Glyph

/-- The glyphs of a span. -/
def Span.glyphs (span : Span) : List Glyph :=
  ((Text.clusters span.text.toList).filter (· ≠ ['\n'])).map (Glyph.ofCluster span.style)

/-- The number of columns that a span takes when it is measured as a whole. -/
def Span.width (span : Span) : Nat :=
  Text.width span.text.toList

/-- The number of columns that the spans of a line take. -/
def Line.width (line : Line) : Nat :=
  line.foldl (fun columns span => columns + span.width) 0

/-- The glyphs of a line. -/
def Line.glyphs (line : Line) : List Glyph :=
  line.flatMap Span.glyphs

end LSystemExplorer
