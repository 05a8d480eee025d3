import LSystemExplorer.Screen.Cells
import Mathlib.Data.List.Infix

/-!
# The cells of a screen

Drawing is described by what it does to one cell.  A single cell is read by its column and its row
(`Screen.cell?`), and what changes a row, a column or an area changes each cell of it once and no
other (`Screen.cell?_modifyArea`).

Of most drawing it is enough to know where it takes place.  `Screen.Changes region` relates screens
that differ in the cells of a region at most; it holds of a whole drawing if it holds of its steps,
so cells outside of all the regions stay as they are.

A terminal shows the cells in rows, and leaves those blank that a wide sign covers.  So what it
shows is a blank or what was drawn (`Screen.eq_of_rows`), and it is what was drawn behind a sign
that is not wide (`Screen.rows_behind`).
-/

set_option autoImplicit false

namespace LSystemExplorer

/-- The cell in a column of a row is one of the area. -/
structure Area.Contains (area : Area) (column row : Nat) : Prop where
  left : area.left ≤ column
  right : column < area.right
  top : area.top ≤ row
  bottom : row < area.bottom

namespace Screen

/-- The area is on the screen. -/
def Covers (screen : Screen) (area : Area) : Prop :=
  ∀ column row, area.Contains column row → column < screen.width ∧ row < screen.height

/-- An area that is not empty ends on the screen. -/
theorem Covers.end_le {screen : Screen} {area : Area} (covers : screen.Covers area)
    (columns : 0 < area.width) (rows : 0 < area.height) :
    area.right ≤ screen.width ∧ area.bottom ≤ screen.height := by
  obtain ⟨right, bottom⟩ := covers (area.left + (area.width - 1)) (area.top + (area.height - 1))
    ⟨Nat.le_add_right .., by rw [Area.right]; omega, Nat.le_add_right ..,
      by rw [Area.bottom]; omega⟩
  rw [Area.right, Area.bottom]
  omega

/-! ## Single cells -/

/-- The cell in a column of a row, if it is on the screen. -/
def cell? (screen : Screen) (column row : Nat) : Option Cell :=
  if column < screen.width then screen.cells[row * screen.width + column]? else none

/-- Cells that are counted row by row have the same number only if they are the same. -/
theorem number_inj {width column other row below : Nat} (inside : column < width)
    (within : other < width) :
    row * width + column = below * width + other ↔ column = other ∧ row = below := by
  constructor
  · intro same
    have columns := congrArg (· % width) same
    have rows := congrArg (· / width) same
    have positive : 0 < width := Nat.zero_lt_of_lt inside
    simp only [Nat.mul_add_mod_self_right, Nat.mod_eq_of_lt inside, Nat.mod_eq_of_lt within]
      at columns
    simp only [Nat.mul_comm _ width, Nat.mul_add_div positive, Nat.div_eq_of_lt inside,
      Nat.div_eq_of_lt within, Nat.add_zero] at rows
    exact ⟨columns, rows⟩
  · rintro ⟨rfl, rfl⟩
    rfl

theorem number_lt {width height column row : Nat} (inside : column < width)
    (above : row < height) : row * width + column < width * height := by
  calc
    row * width + column < (row + 1) * width := by
      rw [Nat.succ_mul]
      exact Nat.add_lt_add_left inside _
    _ ≤ height * width := Nat.mul_le_mul_right width above
    _ = width * height := Nat.mul_comm ..

variable {screen : Screen} {column row : Nat}

/-- There is a cell in every column of every row. -/
theorem exists_cell? (inside : column < screen.width) (above : row < screen.height) :
    ∃ cell, screen.cell? column row = some cell := by
  have within : row * screen.width + column < screen.cells.size :=
    screen.size_cells ▸ number_lt inside above
  exact ⟨_, (if_pos inside).trans (Array.getElem?_eq_getElem within)⟩

theorem cell?_of_not_lt (outside : ¬ column < screen.width) : screen.cell? column row = none :=
  if_neg outside

theorem cell?_blank (width height : Nat) (inside : column < width) (above : row < height) :
    (blank width height).cell? column row = some Cell.blank := by
  have within := number_lt inside above
  rw [cell?, blank, if_pos inside, Array.getElem?_replicate, if_pos within]

@[simp]
theorem width_modify (screen : Screen) (column row : Nat) (change : Cell → Cell) :
    (screen.modify column row change).width = screen.width := by
  unfold modify
  split <;> rfl

@[simp]
theorem height_modify (screen : Screen) (column row : Nat) (change : Cell → Cell) :
    (screen.modify column row change).height = screen.height := by
  unfold modify
  split <;> rfl

/-- One cell is changed, and the others are left as they are. -/
theorem cell?_modify (screen : Screen) (column row : Nat) (change : Cell → Cell)
    (other below : Nat) :
    (screen.modify column row change).cell? other below =
      if column = other ∧ row = below then (screen.cell? other below).map change
      else screen.cell? other below := by
  by_cases within : other < screen.width
  · by_cases inside : column < screen.width
    · simp only [modify, if_pos inside, cell?, if_pos within, Array.getElem?_modify,
        number_inj inside within]
    · have apart : ¬ (column = other ∧ row = below) := fun same => inside (same.1 ▸ within)
      rw [modify, if_neg inside, if_neg apart]
  · have outside : ¬ other < (screen.modify column row change).width := by
      rwa [width_modify]
    rw [cell?_of_not_lt outside, cell?_of_not_lt within, Option.map_none, ite_self]

/-! ## Rows, columns and areas -/

theorem modifyRow_succ (screen : Screen) (column row count : Nat) (change : Cell → Cell) :
    screen.modifyRow column row (count + 1) change =
      (screen.modifyRow column row count change).modify (column + count) row change := by
  rw [modifyRow, List.range_succ, List.foldl_append]
  rfl

/-- Each cell of a piece of a row is changed once. -/
theorem cell?_modifyRow (screen : Screen) (column row count : Nat) (change : Cell → Cell)
    (other below : Nat) :
    (screen.modifyRow column row count change).cell? other below =
      if column ≤ other ∧ other < column + count ∧ row = below then
        (screen.cell? other below).map change
      else screen.cell? other below := by
  induction count with
  | zero =>
      have none : ¬ (column ≤ other ∧ other < column + 0 ∧ row = below) := by omega
      rw [if_neg none]
      rfl
  | succ count ih =>
      rw [modifyRow_succ, cell?_modify, ih]
      by_cases last : column + count = other ∧ row = below
      · have before : ¬ (column ≤ other ∧ other < column + count ∧ row = below) := by omega
        have now : column ≤ other ∧ other < column + (count + 1) ∧ row = below := by omega
        rw [if_pos last, if_neg before, if_pos now]
      · have same : (column ≤ other ∧ other < column + (count + 1) ∧ row = below) ↔
            (column ≤ other ∧ other < column + count ∧ row = below) := by omega
        simp only [if_neg last, same]

/-- So is each cell of an area. -/
theorem cell?_modifyArea (screen : Screen) (area : Area) (change : Cell → Cell)
    (column row : Nat) [Decidable (area.Contains column row)] :
    (screen.modifyArea area change).cell? column row =
      if area.Contains column row then (screen.cell? column row).map change
      else screen.cell? column row := by
  have rows (count : Nat) :
      ((List.range count).foldl (fun screen step =>
          screen.modifyRow area.left (area.top + step) area.width change) screen).cell? column row =
        if (area.left ≤ column ∧ column < area.right) ∧ area.top ≤ row ∧ row < area.top + count
        then (screen.cell? column row).map change
        else screen.cell? column row := by
    induction count with
    | zero =>
        have none : ¬ ((area.left ≤ column ∧ column < area.right) ∧
            area.top ≤ row ∧ row < area.top + 0) := by omega
        rw [if_neg none]
        rfl
    | succ count ih =>
        rw [List.range_succ, List.foldl_append, List.foldl_cons, List.foldl_nil, cell?_modifyRow,
          ih, Area.right]
        by_cases last : area.left ≤ column ∧ column < area.left + area.width ∧
            area.top + count = row
        · have before : ¬ ((area.left ≤ column ∧ column < area.left + area.width) ∧
              area.top ≤ row ∧ row < area.top + count) := by omega
          have now : (area.left ≤ column ∧ column < area.left + area.width) ∧
              area.top ≤ row ∧ row < area.top + (count + 1) := by omega
          rw [if_pos last, if_neg before, if_pos now]
        · have same : ((area.left ≤ column ∧ column < area.left + area.width) ∧
                area.top ≤ row ∧ row < area.top + (count + 1)) ↔
              ((area.left ≤ column ∧ column < area.left + area.width) ∧
                area.top ≤ row ∧ row < area.top + count) := by omega
          simp only [if_neg last, same]
  have contained : area.Contains column row ↔
      (area.left ≤ column ∧ column < area.right) ∧
        area.top ≤ row ∧ row < area.top + area.height :=
    ⟨fun inside => ⟨⟨inside.left, inside.right⟩, inside.top, inside.bottom⟩,
      fun inside => ⟨inside.1.1, inside.1.2, inside.2.1, inside.2.2⟩⟩
  rw [modifyArea, rows]
  simp only [contained]

/-! ## Where drawing takes place -/

/-- The screens have the same size and differ in the cells of the region at most. -/
structure Changes (region : Nat → Nat → Prop) (before after : Screen) : Prop where
  width : after.width = before.width
  height : after.height = before.height
  kept : ∀ column row, ¬ region column row → after.cell? column row = before.cell? column row

namespace Changes

variable {region wider : Nat → Nat → Prop} {before between after : Screen}

theorem refl (region : Nat → Nat → Prop) (screen : Screen) : Changes region screen screen :=
  ⟨rfl, rfl, fun _ _ _ => rfl⟩

theorem trans (first : Changes region before between) (second : Changes region between after) :
    Changes region before after :=
  ⟨second.width.trans first.width, second.height.trans first.height, fun column row outside =>
    (second.kept column row outside).trans (first.kept column row outside)⟩

theorem mono (changes : Changes region before after)
    (within : ∀ column row, region column row → wider column row) : Changes wider before after :=
  ⟨changes.width, changes.height, fun column row outside =>
    changes.kept column row fun inside => outside (within column row inside)⟩

/-- Steps in a region stay in the region. -/
theorem foldl {α : Type} {draw : Screen → α → Screen} (items : List α)
    (step : ∀ screen, ∀ item ∈ items, Changes region screen (draw screen item)) (screen : Screen) :
    Changes region screen (items.foldl draw screen) := by
  induction items generalizing screen with
  | nil => exact .refl region screen
  | cons item later ih =>
      have first := step screen item (List.mem_cons_self ..)
      exact first.trans
        (ih (fun screen item member => step screen item (List.mem_cons_of_mem _ member)) _)

theorem modify (inside : region column row) (screen : Screen) (change : Cell → Cell) :
    Changes region screen (screen.modify column row change) := by
  refine ⟨width_modify .., height_modify .., fun other below outside => ?_⟩
  have apart : ¬ (column = other ∧ row = below) := by
    rintro ⟨rfl, rfl⟩
    exact outside inside
  rw [cell?_modify, if_neg apart]

theorem modifyRow {count : Nat} (inside : ∀ step < count, region (column + step) row)
    (screen : Screen) (change : Cell → Cell) :
    Changes region screen (screen.modifyRow column row count change) :=
  .foldl _ (fun screen step member => .modify (inside step (List.mem_range.mp member)) screen _) _

theorem modifyColumn {count : Nat} (inside : ∀ step < count, region column (row + step))
    (screen : Screen) (change : Cell → Cell) :
    Changes region screen (screen.modifyColumn column row count change) :=
  .foldl _ (fun screen step member => .modify (inside step (List.mem_range.mp member)) screen _) _

theorem modifyArea {area : Area}
    (inside : ∀ column row, area.Contains column row → region column row) (screen : Screen)
    (change : Cell → Cell) : Changes region screen (screen.modifyArea area change) := by
  refine .foldl _ (fun screen step member => .modifyRow (fun further less => ?_) screen _) _
  have below := List.mem_range.mp member
  exact inside _ _ ⟨by omega, Nat.add_lt_add_left less _, by omega, Nat.add_lt_add_left below _⟩

theorem restyle {area : Area}
    (inside : ∀ column row, area.Contains column row → region column row) (screen : Screen)
    (style : Style) : Changes region screen (screen.restyle area style) :=
  .modifyArea inside screen _

end Changes

/-- The cells of an area are given other looks. -/
theorem cell?_restyle {area : Area} (inside : area.Contains column row) (screen : Screen)
    (style : Style) :
    (screen.restyle area style).cell? column row =
      (screen.cell? column row).map (Cell.restyle style) := by
  classical
  rw [restyle, cell?_modifyArea, if_pos inside]

/-! ## What a terminal shows -/

theorem getElem?_pieces {α : Type} (length count : Nat) (items : List α) (place : Nat) :
    (pieces length count items)[place]? =
      if place < count then some ((items.drop (place * length)).take length) else none := by
  induction count generalizing items place with
  | zero => rfl
  | succ count ih =>
      cases place with
      | zero => simp [pieces]
      | succ place =>
          rw [pieces, List.getElem?_cons_succ, ih, List.drop_drop, Nat.succ_mul, Nat.add_comm]
          simp only [Nat.add_lt_add_iff_right]

/-- A cell is shown as it is, or not at all. -/
theorem eq_of_uncover {covered : Bool} {cells : List Cell} {place : Nat} {shown : Cell}
    (found : (uncover covered cells)[place]? = some shown) :
    shown = Cell.blank ∨ cells[place]? = some shown := by
  induction cells generalizing covered place with
  | nil => cases found
  | cons cell later ih =>
      cases place with
      | zero =>
          rw [uncover, List.getElem?_cons_zero, Option.some.injEq] at found
          cases covered with
          | true => exact .inl found.symm
          | false => exact .inr (congrArg some found)
      | succ place => exact ih found

/-- A cell is shown as it is if the sign before it is not wide. -/
theorem getElem?_uncover_succ {covered : Bool} {cells : List Cell} {place : Nat}
    {before cell : Cell} (here : cells[place]? = some before)
    (next : cells[place + 1]? = some cell) (narrow : Text.width before.sign < 2) :
    (uncover covered cells)[place + 1]? = some cell := by
  induction cells generalizing covered place with
  | nil => cases here
  | cons first later ih =>
      cases place with
      | succ place => exact ih here next
      | zero =>
          cases later with
          | nil => cases next
          | cons second others =>
              cases here
              cases next
              have bare : decide (2 ≤ Text.width before.sign) = false :=
                decide_eq_false (Nat.not_le.mpr narrow)
              rw [uncover, bare]
              rfl

/-- The row of a number, in the cells as they are shown. -/
theorem getElem?_rows (screen : Screen) (row : Nat) :
    screen.rows[row]? =
      if row < screen.height then
        some (((uncover false screen.cells.toList).drop (row * screen.width)).take screen.width)
      else none :=
  getElem?_pieces ..

/-- The last row, if there is one. -/
theorem getLast?_rows (screen : Screen) :
    screen.rows.getLast? = screen.rows[screen.height - 1]? := by
  have length (count : Nat) (items : List Cell) :
      (pieces screen.width count items).length = count := by
    induction count generalizing items with
    | zero => rfl
    | succ count ih => rw [pieces, List.length_cons, ih]
  rw [List.getLast?_eq_getElem?, rows, length]

variable {shown : List Cell} {cell : Cell}

/-- The cell in a column of a shown row. -/
theorem getElem?_of_rows (found : screen.rows[row]? = some shown) (column : Nat) :
    shown[column]? =
      if column < screen.width then
        (uncover false screen.cells.toList)[row * screen.width + column]?
      else none := by
  rw [getElem?_rows] at found
  split at found
  · cases found
    rw [List.getElem?_take]
    split
    · rw [List.getElem?_drop]
    · rfl
  · cases found

/-- **A terminal shows what was drawn, or a blank.** -/
theorem eq_of_rows (found : screen.rows[row]? = some shown) (here : shown[column]? = some cell) :
    cell = Cell.blank ∨ screen.cell? column row = some cell := by
  rw [getElem?_of_rows found] at here
  split at here
  · rename_i inside
    refine (eq_of_uncover here).imp_right fun drawn => ?_
    rw [cell?, if_pos inside, ← Array.getElem?_toList]
    exact drawn
  · cases here

/-- **It shows what was drawn behind a sign that is not wide.** -/
theorem rows_behind (found : screen.rows[row]? = some shown) {before : Cell}
    (here : screen.cell? column row = some before)
    (next : screen.cell? (column + 1) row = some cell) (narrow : Text.width before.sign < 2) :
    shown[column + 1]? = some cell := by
  have inside : column + 1 < screen.width := by
    by_contra outside
    rw [cell?_of_not_lt outside] at next
    cases next
  rw [cell?, if_pos (Nat.lt_of_succ_lt inside), ← Array.getElem?_toList] at here
  rw [cell?, if_pos inside, ← Array.getElem?_toList] at next
  rw [getElem?_of_rows found, if_pos inside]
  exact getElem?_uncover_succ here next narrow

end Screen

end LSystemExplorer
