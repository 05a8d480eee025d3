import LSystemExplorer.Text.Width

/-!
# Screens

A screen is a grid of cells.  Each cell has a sign, two colours, and may be in
bold type.  Drawing changes cells; what falls outside of the screen is lost.  A
terminal shows nothing in the cells that a wide sign covers, whatever was drawn
there.
-/

set_option autoImplicit false

namespace LSystemExplorer

/-! ## Areas

A screen is divided into rectangular areas, counted in cells from its upper left
corner.  An area that has no cells is empty; taking more away from an area than
it has leaves an empty one.
-/

/-- A rectangle of cells. -/
structure Area where
  left : Nat
  top : Nat
  width : Nat
  height : Nat
  deriving Repr, DecidableEq

namespace Area

/-- The area has no cells. -/
def isEmpty (area : Area) : Bool :=
  area.width = 0 || area.height = 0

/-- The column behind the last one. -/
def right (area : Area) : Nat :=
  area.left + area.width

/-- The row below the last one. -/
def bottom (area : Area) : Nat :=
  area.top + area.height

/-- What is left without `columns` columns on the left and on the right, and `rows`
rows above and below. -/
def inset (area : Area) (columns rows : Nat) : Area :=
  ⟨area.left + columns, area.top + rows, area.width - 2 * columns, area.height - 2 * rows⟩

/-- What is left inside a border of one cell. -/
def inside (area : Area) : Area :=
  area.inset 1 1

/-- The first columns of an area, and the others. -/
def splitColumns (area : Area) (columns : Nat) : Area × Area :=
  ({ area with width := min columns area.width },
    { area with
      left := area.left + min columns area.width
      width := area.width - columns })

/-- The area without its last row, and the last row. -/
def splitLastRow (area : Area) : Area × Area :=
  ({ area with height := area.height - 1 },
    { area with
      top := area.top + (area.height - 1)
      height := min 1 area.height })

/-- So many percent of the columns, a half counting as a whole. -/
def percentOfColumns (area : Area) (percent : Nat) : Nat :=
  (2 * percent * area.width + 100) / 200

end Area

/-! ## Colours and styles

A style says how cells are to look: in which colour, on which ground, and whether
in bold type.  It may leave a colour open, and a cell then keeps the one it has.
-/

/-- A colour of a terminal. -/
inductive Color
  | standard
  | black
  | rgb (red green blue : UInt8)
  deriving Repr, DecidableEq

/-- How cells are to look. -/
structure Style where
  foreground : Option Color := none
  background : Option Color := none
  bold : Bool := false
  deriving Repr, DecidableEq

namespace Style

/-- A style that leaves everything open. -/
def plain : Style := {}

/-- The style that colours the sign only. -/
def colored (color : Color) : Style := { foreground := some color }

/-- The style that colours the sign and what is behind it. -/
def on (color ground : Color) : Style :=
  { foreground := some color, background := some ground }

/-- The style that colours what is behind the sign only. -/
def ground (color : Color) : Style := { background := some color }

/-- The same style in bold type. -/
def inBold (style : Style) : Style := { style with bold := true }

end Style

/-! ## Cells -/

/-- What one place of a screen shows. -/
structure Cell where
  sign : List Char
  foreground : Color
  background : Color
  bold : Bool
  deriving Repr, DecidableEq

namespace Cell

/-- The cell that shows nothing. -/
def blank : Cell := ⟨[' '], .standard, .standard, false⟩

/-- The cell with the looks that a style asks for. -/
def restyle (style : Style) (cell : Cell) : Cell where
  sign := cell.sign
  foreground := style.foreground.getD cell.foreground
  background := style.background.getD cell.background
  bold := style.bold || cell.bold

/-- The cell with another sign, in the looks that a style asks for. -/
def write (sign : List Char) (style : Style) (cell : Cell) : Cell :=
  { cell with sign }.restyle style

/-- The cell with more signs behind the one it has. -/
def extend (sign : List Char) (style : Style) (cell : Cell) : Cell :=
  { cell with sign := cell.sign ++ sign }.restyle style

end Cell

/-- A grid of cells, row after row. -/
structure Screen where
  width : Nat
  height : Nat
  cells : Array Cell
  size_cells : cells.size = width * height

namespace Screen

/-- The screen of some size that shows nothing. -/
def blank (width height : Nat) : Screen :=
  ⟨width, height, Array.replicate (width * height) Cell.blank, by simp⟩

/-- The area of the whole screen. -/
def area (screen : Screen) : Area :=
  ⟨0, 0, screen.width, screen.height⟩

/-- Change the cell in a column of a row, if it is on the screen. -/
def modify (screen : Screen) (column row : Nat) (change : Cell → Cell) : Screen :=
  if column < screen.width then
    { screen with
      cells := screen.cells.modify (row * screen.width + column) change
      size_cells := by simp [screen.size_cells] }
  else screen

/-- Change `count` cells of a row, from a column on. -/
def modifyRow (screen : Screen) (column row count : Nat) (change : Cell → Cell) : Screen :=
  (List.range count).foldl (fun screen step => screen.modify (column + step) row change) screen

/-- Change `count` cells of a column, from a row on. -/
def modifyColumn (screen : Screen) (column row count : Nat) (change : Cell → Cell) : Screen :=
  (List.range count).foldl (fun screen step => screen.modify column (row + step) change) screen

/-- Change the cells of an area, row by row. -/
def modifyArea (screen : Screen) (area : Area) (change : Cell → Cell) : Screen :=
  (List.range area.height).foldl
    (fun screen step => screen.modifyRow area.left (area.top + step) area.width change) screen

/-- Give the cells of an area the looks that a style asks for. -/
def restyle (screen : Screen) (area : Area) (style : Style) : Screen :=
  screen.modifyArea area (Cell.restyle style)

/-- The cells as a terminal shows them, when the first one is `covered` by the sign
before it.  A covered cell has a sign of its own, which covers the next one all the
same. -/
def uncover (covered : Bool) : List Cell → List Cell
  | [] => []
  | cell :: cells =>
    (if covered then Cell.blank else cell) :: uncover (2 ≤ Text.width cell.sign) cells

/-- Cut a list into `count` pieces of the same length. -/
def pieces {α : Type} (length : Nat) : Nat → List α → List (List α)
  | 0, _ => []
  | count + 1, items => items.take length :: pieces length count (items.drop length)

/-- The cells as a terminal shows them, a list for each row.  A wide sign at the end
of a row covers the first cell of the next one. -/
def rows (screen : Screen) : List (List Cell) :=
  pieces screen.width screen.height (uncover false screen.cells.toList)

end Screen

end LSystemExplorer
