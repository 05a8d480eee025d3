import LSystemExplorer.Proofs.Screen.Cells
import LSystemExplorer.Screen.Border
import LSystemExplorer.Screen.Dots
import Mathlib.Data.Nat.Bitwise

/-!
# Dots and borders on a screen

The dots of a scene are marked in a grid of numbers first, one for each cell.  A bit of such a
number is set exactly if it is the bit of one of the dots in that cell (`Dot.testBit_bitsOf`), in
whatever order the dots come.  A cell of the area then has the braille character of its number, and
is as it was if that is zero (`Screen.cell?_drawScene`).

A border is drawn on the outermost cells of its area only (`Border.changes_draw`), so what is
inside stays as it is.
-/

set_option autoImplicit false

namespace LSystemExplorer

/-! ## Marks -/

namespace Dot

/-- The bits of the dots that fall into a cell, the cells counted row by row. -/
def bitsOf (width number : Nat) : List Dot → Nat
  | [] => 0
  | dot :: dots => (if dot.cell width = number then dot.bit else 0) ||| bitsOf width number dots

/-- **A bit is set exactly if a dot of the cell has it.** -/
theorem testBit_bitsOf {width number : Nat} {dots : List Dot} {bit : Nat} :
    (bitsOf width number dots).testBit bit ↔
      ∃ dot ∈ dots, dot.cell width = number ∧ dot.bit.testBit bit := by
  induction dots with
  | nil => simp [bitsOf]
  | cons dot later ih =>
      rw [bitsOf, Nat.testBit_or, Bool.or_eq_true, ih]
      by_cases here : dot.cell width = number
      · simp [here]
      · simp [here]

/-- Dots are added to what their cells have already. -/
theorem getElem?_foldl_mark (width : Nat) (dots : List Dot) (cells : Array Nat) (number : Nat) :
    (dots.foldl (mark width) cells)[number]? =
      cells[number]?.map (· ||| bitsOf width number dots) := by
  induction dots generalizing cells with
  | nil => simp [bitsOf]
  | cons dot later ih =>
      rw [List.foldl_cons, ih, mark, Array.getElem?_modify, bitsOf]
      split
      · cases cells[number]? with
        | none => rfl
        | some bits => exact congrArg some (Nat.or_assoc bits dot.bit _)
      · simp

end Dot

/-- The dots of all segments of a scene. -/
def Scene.dots (scene : Scene Float) (viewport : Viewport Float) (columns rows : Nat) : List Dot :=
  scene.segments.flatMap fun segment => segment.dots viewport columns rows

namespace Screen

variable {screen : Screen} {area : Area} {column row : Nat}

/-! ## Scenes -/

/-- The cell with the braille character of some dots, if there are any. -/
def dotted (color : Color) (bits : Nat) (cell : Cell) : Cell :=
  if bits = 0 then cell else Cell.write [brailleSign bits] (.colored color) cell

theorem map_dotted_zero (color : Color) (cell : Option Cell) :
    cell.map (dotted color 0) = cell := by
  cases cell <;> rfl

/-- The dots of a cell are drawn in this cell and in no other. -/
theorem cell?_drawDots (color : Color) (inside : column < area.width) (screen : Screen)
    (bits number : Nat) :
    (screen.drawDots area color bits number).cell? (area.left + column) (area.top + row) =
      (screen.cell? (area.left + column) (area.top + row)).map
        (dotted color (if number = row * area.width + column then bits else 0)) := by
  have positive : 0 < area.width := Nat.zero_lt_of_lt inside
  have counted : (area.left + number % area.width = area.left + column ∧
      area.top + number / area.width = area.top + row) ↔
        number = row * area.width + column := by
    rw [Nat.add_left_cancel_iff, Nat.add_left_cancel_iff]
    conv => rhs; lhs; rw [← Nat.div_add_mod' number area.width]
    exact (number_inj (Nat.mod_lt _ positive) inside).symm
  unfold drawDots
  split
  · rename_i none
    rw [none, ite_self, map_dotted_zero]
  · rename_i some
    rw [cell?_modify]
    simp only [counted]
    split
    · have marked : dotted color bits = Cell.write [brailleSign bits] (.colored color) := by
        funext cell
        exact if_neg some
      rw [marked]
    · rw [map_dotted_zero]

/-- The numbers of cells are drawn one after the other, the first in the cell counted `start`. -/
theorem cell?_foldl_drawDots (color : Color) (inside : column < area.width) (numbers : List Nat)
    (start : Nat) (screen : Screen) :
    ((numbers.zipIdx start).foldl
        (fun screen entry => screen.drawDots area color entry.1 entry.2) screen).cell?
        (area.left + column) (area.top + row) =
      (screen.cell? (area.left + column) (area.top + row)).map
        (dotted color (if start ≤ row * area.width + column then
          numbers.getD (row * area.width + column - start) 0 else 0)) := by
  induction numbers generalizing start screen with
  | nil =>
      rw [List.getD_nil, ite_self, map_dotted_zero]
      rfl
  | cons bits later ih =>
      rw [List.zipIdx_cons, List.foldl_cons, ih, cell?_drawDots color inside]
      rcases Nat.lt_trichotomy start (row * area.width + column) with before | here | behind
      · have next : row * area.width + column - start =
            row * area.width + column - (start + 1) + 1 := by omega
        rw [if_neg before.ne, map_dotted_zero, if_pos before.le,
          if_pos (Nat.succ_le_of_lt before), next, List.getD_cons_succ]
      · rw [if_pos here, if_neg (by omega), map_dotted_zero, if_pos here.le, here, Nat.sub_self,
          List.getD_cons_zero]
      · rw [if_neg behind.ne', map_dotted_zero, if_neg (by omega), if_neg (by omega)]

/-- **A cell of the area has the braille character of the dots in it**, and is as it was if there
are none. -/
theorem cell?_drawScene (inside : column < area.width) (above : row < area.height)
    (viewport : Viewport Float) (color : Color) (scene : Scene Float) :
    (screen.drawScene area viewport color scene).cell? (area.left + column) (area.top + row) =
      (screen.cell? (area.left + column) (area.top + row)).map
        (dotted color (Dot.bitsOf area.width (row * area.width + column)
          (scene.dots viewport (2 * area.width) (4 * area.height)))) := by
  have within : row * area.width + column < area.width * area.height := number_lt inside above
  unfold drawScene
  dsimp only
  rw [cell?_foldl_drawDots color inside, if_pos (Nat.zero_le _), Nat.sub_zero, ← List.foldl_flatMap,
    List.getD_eq_getElem?_getD, Array.getElem?_toList, Dot.getElem?_foldl_mark,
    Array.getElem?_replicate, if_pos within, Option.map_some, Option.getD_some, Nat.zero_or]
  rfl

/-- Dots are drawn on the screen that there is. -/
theorem changes_drawScene (area : Area) (viewport : Viewport Float) (color : Color)
    (scene : Scene Float) (screen : Screen) :
    Changes (fun _ _ => True) screen (screen.drawScene area viewport color scene) := by
  refine .foldl _ (fun screen entry _ => ?_) screen
  unfold drawDots
  split
  · exact .refl _ screen
  · exact .modify trivial screen _

/-! ## Spans -/

/-- Spans are drawn in their row, and not before the first column. -/
theorem changes_writeFurther {start right : Nat} (row : Nat) (glyphs : List Glyph)
    (behind : start ≤ column) (screen : Screen) :
    Changes (fun column below => start ≤ column ∧ below = row) screen
      (screen.writeFurther start row right column glyphs) := by
  induction glyphs generalizing column screen with
  | nil => exact .refl _ screen
  | cons glyph later ih =>
      unfold writeFurther
      dsimp only
      split
      · exact .refl _ screen
      · refine .trans (.trans ?_ (.modifyRow (fun step _ => ⟨by omega, rfl⟩) _ _))
          (ih (by omega) _)
        split
        · exact .modify ⟨behind, rfl⟩ screen _
        · split
          · exact .modify ⟨by omega, rfl⟩ screen _
          · exact .modify ⟨behind, rfl⟩ screen _

theorem changes_writeSpan {right : Nat} (row : Nat) (glyphs : List Glyph) (screen : Screen) :
    Changes (fun other below => column ≤ other ∧ below = row) screen
      (screen.writeSpan row column right glyphs) := by
  cases glyphs with
  | nil => exact .refl _ screen
  | cons glyph later =>
      unfold writeSpan
      dsimp only
      split
      · exact .refl _ screen
      · exact .trans (.trans (.modify ⟨Nat.le_refl _, rfl⟩ screen _)
            (.modifyRow (fun step _ => ⟨by omega, rfl⟩) _ _))
          (changes_writeFurther row later (Nat.le_add_right ..) _)

theorem changes_writeSpans {first right : Nat} (row : Nat) (spans : List Span)
    (behind : first ≤ column) (screen : Screen) :
    Changes (fun column below => first ≤ column ∧ below = row) screen
      (screen.writeSpans row column right spans) := by
  induction spans generalizing column screen with
  | nil => exact .refl _ screen
  | cons span later ih =>
      unfold writeSpans
      split
      · exact .refl _ screen
      · refine .trans ((changes_writeSpan row span.glyphs screen).mono ?_)
          (ih (Nat.le_add_right_of_le behind) _)
        rintro other below ⟨here, rfl⟩
        exact ⟨behind.trans here, rfl⟩

end Screen

/-! ## Borders -/

/-- The cell is one of the outermost of the area, or it lies on their right in the first or the
last row. -/
def Area.OnBorder (area : Area) (column row : Nat) : Prop :=
  area.left ≤ column ∧ area.top ≤ row ∧ row < area.top + area.height ∧
    (row = area.top ∨ row = area.top + area.height - 1 ∨
      column = area.left ∨ column = area.left + area.width - 1)

/-- No cell inside of a border is on it. -/
theorem Area.not_onBorder_inside {area : Area} {column row : Nat}
    (columns : column < area.inside.width) (rows : row < area.inside.height) :
    ¬ area.OnBorder (area.inside.left + column) (area.inside.top + row) := by
  simp only [Area.inside, Area.inset] at columns rows
  simp only [Area.OnBorder, Area.inside, Area.inset]
  omega

namespace Border

variable {area : Area}

theorem changes_drawFrame (border : Border) (columns : 0 < area.width) (rows : 0 < area.height)
    (screen : Screen) : Screen.Changes area.OnBorder screen (border.drawFrame area screen) := by
  have upright {column : Nat}
      (side : column = area.left ∨ column = area.left + area.width - 1) :
      ∀ step < area.height, area.OnBorder column (area.top + step) := by
    intro step below
    rw [Area.OnBorder]
    omega
  have level {row : Nat} (side : row = area.top ∨ row = area.top + area.height - 1) :
      ∀ step < area.width, area.OnBorder (area.left + step) row := by
    intro step below
    rw [Area.OnBorder]
    omega
  have corner {column row : Nat}
      (upright : column = area.left ∨ column = area.left + area.width - 1)
      (level : row = area.top ∨ row = area.top + area.height - 1) : area.OnBorder column row := by
    rw [Area.OnBorder]
    omega
  unfold drawFrame
  dsimp only
  have sides := (((Screen.Changes.modifyColumn (upright (.inl rfl)) screen
    (Cell.write ['│'] border.style)).trans
      (.modifyRow (level (.inl rfl)) _ (Cell.write ['─'] border.style))).trans
      (.modifyColumn (upright (.inr rfl)) _ (Cell.write ['│'] border.style))).trans
      (.modifyRow (level (.inr rfl)) _ (Cell.write ['─'] border.style))
  exact (((sides.trans (.modify (corner (.inr rfl) (.inr rfl)) _ _)).trans
    (.modify (corner (.inr rfl) (.inl rfl)) _ _)).trans
    (.modify (corner (.inl rfl) (.inr rfl)) _ _)).trans
    (.modify (corner (.inl rfl) (.inl rfl)) _ _)

theorem changes_drawTitle (border : Border) (rows : 0 < area.height) (screen : Screen) :
    Screen.Changes area.OnBorder screen (border.drawTitle area screen) := by
  have upper {column row : Nat} (left : area.left ≤ column) (first : row = area.top) :
      area.OnBorder column row := by
    rw [Area.OnBorder]
    omega
  unfold drawTitle
  dsimp only
  refine .trans (.restyle (fun column row inside => ?_) screen _)
    ((Screen.changes_writeSpans area.top _ (Nat.le_add_right ..) _).mono ?_)
  · exact upper (Nat.le_of_succ_le inside.left)
      (Nat.le_antisymm (Nat.le_of_lt_succ inside.bottom) inside.top)
  · rintro column row ⟨left, first⟩
    exact upper left first

/-- **A border is drawn on the outermost cells of its area only.** -/
theorem changes_draw (border : Border) (area : Area) (screen : Screen) :
    Screen.Changes area.OnBorder screen (border.draw area screen) := by
  unfold draw
  split
  · exact .refl _ screen
  · rename_i some
    simp only [Area.isEmpty, Bool.or_eq_true, decide_eq_true_eq, not_or] at some
    have columns := Nat.pos_of_ne_zero some.1
    have rows := Nat.pos_of_ne_zero some.2
    exact (border.changes_drawFrame columns rows screen).trans (border.changes_drawTitle rows _)

end Border

end LSystemExplorer
