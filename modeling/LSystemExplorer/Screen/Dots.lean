import LSystemExplorer.Drawing.Scene
import LSystemExplorer.Screen.Cells

/-!
# Dots

Every cell of a screen has room for two columns and four rows of braille dots.
An area is thus a finer grid, on which lines are drawn dot by dot.  A line that is
neither upright nor level goes one dot at a time along the direction in which it
is longer, the major one, and now and then one dot along the minor one.
-/

set_option autoImplicit false

namespace LSystemExplorer

/-- A place on the grid of dots, counted from the upper left corner. -/
structure Dot where
  column : Nat
  row : Nat
  deriving Repr, DecidableEq

namespace Dot

/-- The minor coordinates of a line, one for each of its dots.  The line has gone
`excess` too far behind the ideal line; when that is more than nothing it goes one
dot along the minor direction, which is downward in number if `falls`. -/
def minorPath (major minor : Int) (falls : Bool) : Nat → Nat → Int → List Nat
  | 0, _, _ => []
  | steps + 1, place, excess =>
    let moves := 0 < excess
    let after := if moves then (if falls then place - 1 else place + 1) else place
    let excess := (if moves then excess - 2 * major else excess) + 2 * minor
    place :: minorPath major minor falls steps after excess

/-- How far two numbers are apart. -/
def distance (first second : Nat) : Nat :=
  max first second - min first second

/-- A path of minor coordinates that takes `major` steps from `start` to `finish`. -/
def pathBetween (major start finish : Nat) : List Nat :=
  let minor := distance start finish
  minorPath major minor (finish < start) (major + 1) start (2 * minor - major)

/-- The dots of a line whose columns are the major direction, from left to right. -/
def flatLine (first last : Dot) : List Dot :=
  (pathBetween (last.column - first.column) first.row last.row).zipIdx.map fun entry =>
    ⟨first.column + entry.2, entry.1⟩

/-- The dots of a line whose rows are the major direction, from top to bottom. -/
def steepLine (first last : Dot) : List Dot :=
  (pathBetween (last.row - first.row) first.column last.column).zipIdx.map fun entry =>
    ⟨entry.1, first.row + entry.2⟩

/-- The dots of the line from one dot to another, both included. -/
def line (start finish : Dot) : List Dot :=
  let columns := distance start.column finish.column
  let rows := distance start.row finish.row
  if columns = 0 then
    (List.range (rows + 1)).map fun step => ⟨start.column, min start.row finish.row + step⟩
  else if rows = 0 then
    (List.range (columns + 1)).map fun step =>
      ⟨min start.column finish.column + step, start.row⟩
  else if rows < columns then
    if finish.column < start.column then flatLine finish start else flatLine start finish
  else
    if finish.row < start.row then steepLine finish start else steepLine start finish

/-- The bit of a dot among the eight of its cell. -/
def bit (dot : Dot) : Nat :=
  match dot.column % 2, dot.row % 4 with
  | 0, 0 => 0x01
  | 0, 1 => 0x02
  | 0, 2 => 0x04
  | 0, _ => 0x40
  | _, 0 => 0x08
  | _, 1 => 0x10
  | _, 2 => 0x20
  | _, _ => 0x80

end Dot

/-! ## The dots of a scene -/

/-- The dot of a point of a canvas that is `width` wide and `height` high, if the
point is on it.  The canvas has `columns` columns and `rows` rows of dots; a
coordinate that is no number counts as zero. -/
def Point.dot? (width height : Float) (columns rows : Nat) (point : Point Float) : Option Dot :=
  if point.x < 0.0 || width < point.x || point.y < 0.0 || height < point.y then none
  else
    let column := (point.x - 0.0) * (columns.toFloat - 1.0) / width
    let row := (height - point.y) * (rows.toFloat - 1.0) / height
    some ⟨column.toUInt64.toNat, row.toUInt64.toNat⟩

/-- The dots of a segment.  On the canvas the second coordinate points up, and in the
viewport it points down.  A segment that leaves the canvas at one of its ends has
no dots. -/
def Segment.dots (viewport : Viewport Float) (columns rows : Nat) (segment : Segment Float) :
    List Dot :=
  let place (point : Point Float) : Option Dot :=
    Point.dot? viewport.width viewport.height columns rows ⟨point.x, viewport.height - point.y⟩
  match place segment.start, place segment.finish with
  | some start, some finish => Dot.line start finish
  | _, _ => []

/-- The cell of a dot, where the cells of a grid that is `width` cells wide are counted row by
row. -/
def Dot.cell (width : Nat) (dot : Dot) : Nat :=
  dot.row / 4 * width + dot.column / 2

/-- Set a dot in a grid of cells with `width` cells in a row, each of which holds the
sum of the bits of its dots. -/
def Dot.mark (width : Nat) (cells : Array Nat) (dot : Dot) : Array Nat :=
  cells.modify (dot.cell width) (· ||| dot.bit)

/-- The braille character with some of its dots set. -/
def brailleSign (bits : Nat) : Char :=
  Char.ofNat (0x2800 + bits)

namespace Screen

/-- Draw the dots of one cell of an area, the cells counted row by row.  A cell without a dot
stays as it is. -/
def drawDots (area : Area) (color : Color) (screen : Screen) (bits number : Nat) : Screen :=
  if bits = 0 then screen
  else
    screen.modify (area.left + number % area.width) (area.top + number / area.width)
      (Cell.write [brailleSign bits] (.colored color))

/-- Draw the segments of a scene as dots in an area. -/
def drawScene (screen : Screen) (area : Area) (viewport : Viewport Float) (color : Color)
    (scene : Scene Float) : Screen :=
  let marked := scene.segments.foldl
    (fun cells segment =>
      (segment.dots viewport (2 * area.width) (4 * area.height)).foldl
        (Dot.mark area.width) cells)
    (Array.replicate (area.width * area.height) 0)
  marked.toList.zipIdx.foldl (fun screen entry => screen.drawDots area color entry.1 entry.2)
    screen

end Screen

end LSystemExplorer
