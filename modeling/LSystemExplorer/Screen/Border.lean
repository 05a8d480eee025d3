import LSystemExplorer.Screen.Cells
import LSystemExplorer.Screen.Glyph
import LSystemExplorer.Text.Basic

/-!
# Borders

A border runs around an area, and a title may stand in its upper side.  Where the
area is so small that sides and corners meet, what is drawn later stays: first
the sides, then the corners, the upper left one last, then the title.
-/

set_option autoImplicit false

namespace LSystemExplorer

/-- A border with a title. -/
structure Border where
  title : String
  style : Style
  titleStyle : Style := .plain

namespace Screen

/-- Empty `count` cells of a row: the cells that a wide glyph covers. -/
def erase (screen : Screen) (column row count : Nat) : Screen :=
  screen.modifyRow column row count fun _ => Cell.blank

/-- Draw the further glyphs of a span up to the column `right`.  A glyph without width
is put behind the sign before it. -/
def writeFurther (screen : Screen) (start row right column : Nat) : List Glyph → Screen
  | [] => screen
  | glyph :: glyphs =>
    let next := column + glyph.width
    if right < next then screen
    else
      let written :=
        if column = start then screen.modify column row (Cell.extend glyph.sign glyph.style)
        else if glyph.width = 0 then
          screen.modify (column - 1) row (Cell.extend glyph.sign glyph.style)
        else screen.modify column row (Cell.write glyph.sign glyph.style)
      (written.erase (column + 1) row (glyph.width - 1)).writeFurther start row right next glyphs

/-- Draw a span from a column on, up to the column `right`. -/
def writeSpan (screen : Screen) (row column right : Nat) : List Glyph → Screen
  | [] => screen
  | glyph :: glyphs =>
    let next := column + glyph.width
    if right < next then screen
    else
      ((screen.modify column row (Cell.write glyph.sign glyph.style)).erase (column + 1) row
        (glyph.width - 1)).writeFurther column row right next glyphs

/-- Draw spans one behind the other, up to the column `right`.  Each begins where the
one before it ends when that is measured as a whole. -/
def writeSpans (screen : Screen) (row column right : Nat) : List Span → Screen
  | [] => screen
  | span :: spans =>
    if right ≤ column then screen
    else
      (screen.writeSpan row column right span.glyphs).writeSpans row (column + span.width) right
        spans

end Screen

namespace Border

/-- The spans of the title: its lines, one behind the other. -/
def titleSpans (border : Border) : List Span :=
  ((Text.lines border.title.toList).map fun line =>
    (⟨String.ofList line, .plain⟩ : Span)).filter fun span => 0 < span.width

/-- Draw the sides and the corners. -/
def drawFrame (border : Border) (area : Area) (screen : Screen) : Screen :=
  let write (sign : Char) : Cell → Cell := Cell.write [sign] border.style
  let lastColumn := area.right - 1
  let lastRow := area.bottom - 1
  let screen := screen.modifyColumn area.left area.top area.height (write '│')
  let screen := screen.modifyRow area.left area.top area.width (write '─')
  let screen := screen.modifyColumn lastColumn area.top area.height (write '│')
  let screen := screen.modifyRow area.left lastRow area.width (write '─')
  let screen := screen.modify lastColumn lastRow (write '┘')
  let screen := screen.modify lastColumn area.top (write '┐')
  let screen := screen.modify area.left lastRow (write '└')
  screen.modify area.left area.top (write '┌')

/-- The number of columns that the title asks for.  Columns are counted in sixteen
bits. -/
def titleWidth (border : Border) : Nat :=
  Line.width border.titleSpans % 0x10000

/-- Draw the title behind the corner, as far as there is room before the other corner. -/
def drawTitle (border : Border) (area : Area) (screen : Screen) : Screen :=
  let spans := border.titleSpans
  let width := min border.titleWidth (area.width - 2)
  let row : Area := ⟨area.left + 1, area.top, width, 1⟩
  (screen.restyle row border.titleStyle).writeSpans area.top row.left row.right spans

/-- Draw the border around an area, and the title in its upper side. -/
def draw (border : Border) (area : Area) (screen : Screen) : Screen :=
  if area.isEmpty then screen
  else border.drawTitle area (border.drawFrame area screen)

end Border

end LSystemExplorer
