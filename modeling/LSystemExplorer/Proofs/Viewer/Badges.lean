import LSystemExplorer.Proofs.Viewer.Display
import LSystemExplorer.Proofs.Viewer.Walls

/-!
# Badges and arrows

**The bar.**  The right half of the status line is drawn from its first column on if it is too
narrow for the keys and a badge, and what does not fit is cut off.  The keys take 58 columns, so
the word of a badge stands on the screen only if half of the columns are enough for it as well
(`Frame.shows_iff`).  Whatever else is drawn in the last row, no word of a badge comes out of it:
no key has a letter of a badge, and what is reported has other colours (`Frame.badge_of_cell`).

**The ends.**  The badge of a frame is worked out from the place of the model and the number of
models (`Frame.badge?_eq_last_iff`, `Frame.badge?_eq_first_iff`).  Where an arrow leads is worked
out from the range of the selection, which knows nothing of the badge.  Both say the same about the
ends: after every history, on a screen that is wide enough, the badge tells which of the arrows
would stay at the model that is shown (`Viewer.badge_tells_arrows`).  The only model of a catalog
is its last one, so there both arrows stay, and the badge of the first model is never seen.
-/

set_option autoImplicit false

namespace LSystemExplorer

/-! ## Badges on a screen -/

/-- A badge as it stands on a screen: a cell for each letter of its word. -/
def Badge.cells (badge : Badge) : List Cell :=
  badge.word.toList.map fun letter => ⟨[letter], .black, badge.color, true⟩

/-- The badge stands on the last row of the screen, letter by letter. -/
def Screen.Shows (screen : Screen) (badge : Badge) : Prop :=
  ∃ row, screen.rows.getLast? = some row ∧ badge.cells <:+: row

namespace Badge

theorem length_cells (badge : Badge) : badge.cells.length = badge.word.length := by
  rw [cells, List.length_map, String.length_toList]

theorem getElem_cells_zero {badge : Badge} (some : 0 < badge.cells.length) :
    badge.cells[0] = ⟨badge.word.toList.take 1, .black, badge.color, true⟩ := by
  cases badge <;> rfl

theorem length_pos (badge : Badge) : 0 < badge.word.length := by
  cases badge <;> decide

theorem color_inj {badge other : Badge} (same : badge.color = other.color) : badge = other := by
  cases badge <;> cases other <;> first | rfl | exact absurd same (by decide)

theorem color_ne_faint (badge : Badge) : badge.color ≠ Palette.faint := by
  cases badge <;> decide

theorem color_ne_ground (badge : Badge) : badge.color ≠ Palette.statusGround := by
  cases badge <;> decide

/-- Letters of a badge are neither in a numeral nor among the signs around the angle. -/
theorem letter_apart {badge : Badge} {letter : Char} (member : letter ∈ badge.word.toList) :
    Decimal.isNumeral letter = false ∧ letter ∉ [' ', '∠', '°', '|'] := by
  have others : badge.word.toList.all fun letter =>
      decide (Decimal.isNumeral letter = false ∧ letter ∉ [' ', '∠', '°', '|']) := by
    cases badge <;> rfl
  exact of_decide_eq_true (List.all_eq_true.mp others letter member)

theorem blank_not_mem_cells (badge : Badge) : Cell.blank ∉ badge.cells := by
  cases badge <;> decide

end Badge

/-! ## The status line on a screen -/

namespace Panes

theorem status_screen (width height : Nat) :
    (ofArea ⟨0, 0, width, height⟩).status = ⟨0, height - 1, (width + 1) / 2, min 1 height⟩ := by
  rw [ofArea_screen]
  simp only [Area.mk.injEq, true_and, and_true]
  omega

theorem keys_screen (width height : Nat) :
    (ofArea ⟨0, 0, width, height⟩).keys =
      ⟨(width + 1) / 2, height - 1, width / 2, min 1 height⟩ := by
  rw [ofArea_screen]
  simp only [Area.mk.injEq, true_and, and_true]
  omega

end Panes

namespace StatusLine

variable {frame : Frame Float} {badge : Badge}

/-- Each character of the help is a sign of one column. -/
theorem glyphs_helpLine (frame : Frame Float) :
    Line.glyphs (helpLine frame) = (helpLine frame).flatMap fun span =>
      span.text.toList.map fun character => ⟨[character], span.style, 1⟩ := by
  have apart (badge? : Option Badge) : Line.glyphs (keyLine ++ badgeLine badge?) =
      (keyLine ++ badgeLine badge?).flatMap fun span =>
        span.text.toList.map fun character => ⟨[character], span.style, 1⟩ := by
    cases badge? with
    | none => decide +kernel
    | some badge => cases badge <;> decide +kernel
  exact apart frame.badge?

theorem width_of_mem_helpLine {glyph : Glyph} (member : glyph ∈ Line.glyphs (helpLine frame)) :
    glyph.width = 1 := by
  rw [glyphs_helpLine] at member
  obtain ⟨span, -, among⟩ := List.mem_flatMap.mp member
  obtain ⟨character, -, rfl⟩ := List.mem_map.mp among
  rfl

theorem width_of_mem_take {count : Nat} {glyph : Glyph}
    (member : glyph ∈ (Line.glyphs (helpLine frame)).take count) : glyph.width = 1 :=
  width_of_mem_helpLine (List.mem_of_mem_take member)

theorem length_helpLine (pointed : frame.badge? = some badge) :
    (Line.glyphs (helpLine frame)).length = 61 + badge.word.length := by
  rw [glyphs_helpLine, helpLine, pointed]
  cases badge <;> rfl

/-- Behind the keys and a line come the letters of the badge, between two blanks. -/
theorem drop_helpLine (pointed : frame.badge? = some badge) :
    (Line.glyphs (helpLine frame)).drop 59 =
      ((' ' :: badge.word.toList) ++ [' ']).map fun letter =>
        ⟨[letter], badge.span.style, 1⟩ := by
  rw [glyphs_helpLine, helpLine, pointed]
  cases badge <;> rfl

theorem getElem?_helpLine (pointed : frame.badge? = some badge) {place : Nat} {character : Char}
    (found : (' ' :: badge.word.toList)[place]? = some character) :
    (Line.glyphs (helpLine frame))[59 + place]? = some ⟨[character], badge.span.style, 1⟩ := by
  rw [← List.getElem?_drop, drop_helpLine pointed, List.getElem?_map,
    List.getElem?_append_left (List.getElem?_eq_some_iff.mp found).1, found]
  rfl

/-- The first letter of the badge is found there only. -/
theorem place_of_first (pointed : frame.badge? = some badge) {place : Nat} {glyph : Glyph}
    (found : (Line.glyphs (helpLine frame))[place]? = some glyph)
    (sign : glyph.sign = badge.word.toList.take 1) : place = 60 := by
  have once : Glyph.placesOf (badge.word.toList.take 1) (Line.glyphs (helpLine frame)) = [60] := by
    rw [glyphs_helpLine, helpLine, pointed]
    cases badge <;> rfl
  have among := Glyph.mem_placesOf.mpr ⟨glyph, found, sign⟩
  rw [once] at among
  exact List.mem_singleton.mp among

/-- The line of a half is cut off, and nothing else is done to it. -/
theorem mem_of_mem_fitted {line : Line} {alignment : Alignment} {area : Area} {row : List Glyph}
    (member : row ∈ (half line alignment).fitted area) {glyph : Glyph} (among : glyph ∈ row) :
    glyph ∈ line.glyphs := by
  have whole : row ∈ [cutGlyphs area.width (line.glyphs.filter (·.width ≤ area.width))] :=
    List.mem_of_mem_take member
  rw [List.mem_singleton.mp whole] at among
  exact List.mem_of_mem_filter ((isPrefix_cutGlyphs _ _).subset among)

/-- The help is cut off behind the last column. -/
theorem fitted_helpLine {area : Area} (columns : 0 < area.width) (single : area.height = 1) :
    (half (helpLine frame) .right).fitted area =
      [(Line.glyphs (helpLine frame)).take area.width] := by
  have widths : ∀ glyph ∈ Line.glyphs (helpLine frame), glyph.width = 1 :=
    fun _ => width_of_mem_helpLine
  have all : ∀ glyph ∈ Line.glyphs (helpLine frame), decide (glyph.width ≤ area.width) :=
    fun glyph member => decide_eq_true (widths glyph member ▸ columns)
  have cut : (half (helpLine frame) .right).fitted area =
      [cutGlyphs area.width
        ((Line.glyphs (helpLine frame)).filter (·.width ≤ area.width))].take area.height := rfl
  rw [cut, single, List.take_of_length_le (Nat.le_refl 1), List.filter_eq_self.mpr all,
    cutGlyphs_eq_take widths]

end StatusLine

namespace Frame

variable {frame : Frame Float} {badge : Badge} {width height : Nat}

/-- The status line is drawn last, on a screen of the size that there is. -/
theorem exists_beneath (frame : Frame Float) (width height : Nat) :
    ∃ canvas : Screen, canvas.width = width ∧ canvas.height = height ∧
      frame.screen width height =
        StatusLine.draw frame ⟨0, height - 1, (width + 1) / 2, min 1 height⟩
          ⟨(width + 1) / 2, height - 1, width / 2, min 1 height⟩ canvas := by
  have size := (DrawingPane.changes_draw frame (Panes.ofArea ⟨0, 0, width, height⟩).drawing
      (Screen.blank width height)).trans
    ((ModelPane.changes_draw frame (Panes.ofArea ⟨0, 0, width, height⟩).model _).mono
      fun _ _ _ => trivial)
  refine ⟨_, size.width, size.height, ?_⟩
  rw [← Panes.status_screen, ← Panes.keys_screen]
  rfl

theorem size_screen (frame : Frame Float) (width height : Nat) :
    (frame.screen width height).width = width ∧ (frame.screen width height).height = height := by
  have size := frame.changes_draw (Screen.blank width height)
  exact ⟨size.width, size.height⟩

/-- **The help stands at the right end of the last row**, as much of it as there is room for. -/
theorem hasGlyphs_helpLine (columns : 0 < width / 2) (rows : 0 < height) :
    (frame.screen width height).HasGlyphs (height - 1)
      (width - min (width / 2) (Line.glyphs (StatusLine.helpLine frame)).length)
      ((Line.glyphs (StatusLine.helpLine frame)).take (width / 2)) := by
  obtain ⟨canvas, right, bottom, drawn⟩ := frame.exists_beneath width height
  rw [StatusLine.draw, Nat.min_eq_left rows] at drawn
  set keys : Area := ⟨(width + 1) / 2, height - 1, width / 2, 1⟩ with area
  have size := Paragraph.changes_draw (StatusLine.half (StatusLine.reportLine frame) .left)
    ⟨0, height - 1, (width + 1) / 2, 1⟩ canvas
  have covers : Screen.Covers ((StatusLine.half (StatusLine.reportLine frame) .left).draw
      ⟨0, height - 1, (width + 1) / 2, 1⟩ canvas) keys := by
    intro column row inside
    obtain ⟨-, before, -, above⟩ := inside
    simp only [area, Area.right, Area.bottom] at before above
    rw [size.width, size.height, right, bottom]
    omega
  have total := Glyph.totalWidth_eq_length fun _ member =>
    @StatusLine.width_of_mem_take frame (width / 2) _ member
  rw [List.length_take] at total
  have found : ((StatusLine.half (StatusLine.helpLine frame) .right).fitted keys)[0]? =
      some ((Line.glyphs (StatusLine.helpLine frame)).take (width / 2)) := by
    rw [StatusLine.fitted_helpLine columns rfl]
    rfl
  have stands := Paragraph.hasGlyphs_draw covers found columns (total ▸ Nat.min_le_left ..)
  have start : keys.left + (StatusLine.half (StatusLine.helpLine frame) .right).alignment.offset
      keys.width (Glyph.totalWidth ((Line.glyphs (StatusLine.helpLine frame)).take (width / 2))) =
        width - min (width / 2) (Line.glyphs (StatusLine.helpLine frame)).length := by
    rw [total]
    show (width + 1) / 2 + (width / 2 - _) = _
    omega
  rw [start] at stands
  rw [drawn]
  exact stands

/-- A cell of the last row has a sign of the report, one of the help if it is in the right half,
or only the ground of the status line. -/
theorem cell?_lastRow (rows : 0 < height) {column : Nat} {cell : Cell}
    (found : (frame.screen width height).cell? column (height - 1) = some cell) :
    (∃ glyph ∈ Line.glyphs (StatusLine.reportLine frame), ∃ old,
        cell = Cell.write glyph.sign glyph.style old) ∨
      ((width + 1) / 2 ≤ column ∧ ∃ glyph ∈ Line.glyphs (StatusLine.helpLine frame), ∃ old,
        cell = Cell.write glyph.sign glyph.style old) ∨
      ∃ old, cell = Cell.restyle (.ground Palette.statusGround) old := by
  have inside : column < width := by
    by_contra outside
    rw [Screen.cell?_of_not_lt ((size_screen frame width height).1.symm ▸ outside)] at found
    cases found
  obtain ⟨canvas, -, -, drawn⟩ := frame.exists_beneath width height
  rw [drawn, StatusLine.draw, Nat.min_eq_left rows] at found
  by_cases right : (width + 1) / 2 ≤ column
  · have within : Area.Contains ⟨(width + 1) / 2, height - 1, width / 2, 1⟩ column (height - 1) :=
      ⟨right, by simp only [Area.right]; omega, Nat.le_refl _, Nat.lt_succ_self _⟩
    rcases Paragraph.cell?_draw within found with ⟨row, member, glyph, among, made⟩ | ground
    · exact .inr (.inl ⟨right, glyph, StatusLine.mem_of_mem_fitted member among, made⟩)
    · exact .inr (.inr ground)
  · rw [(Paragraph.changes_draw _ _ _).kept column (height - 1) fun region => right region.1]
      at found
    have within : Area.Contains ⟨0, height - 1, (width + 1) / 2, 1⟩ column (height - 1) :=
      ⟨Nat.zero_le _, by simp only [Area.right]; omega, Nat.le_refl _, Nat.lt_succ_self _⟩
    rcases Paragraph.cell?_draw within found with ⟨row, member, glyph, among, made⟩ | ground
    · exact .inl ⟨glyph, StatusLine.mem_of_mem_fitted member among, made⟩
    · exact .inr (.inr ground)

/-- Nothing that is reported looks like a letter of a badge. -/
theorem not_reported {letter : Char} (member : letter ∈ badge.word.toList) {glyph : Glyph}
    (drawn : glyph ∈ Line.glyphs (StatusLine.reportLine frame)) (sign : glyph.sign = [letter])
    {old : Color} : badge.color ≠ glyph.style.background.getD old := by
  obtain ⟨span, here, inside⟩ := List.mem_flatMap.mp drawn
  have among : letter ∈ span.text.toList :=
    Span.mem_text_of_mem_sign inside (sign ▸ List.mem_singleton_self _)
  obtain ⟨numeral, others⟩ := Badge.letter_apart member
  have number : letter ∉ (Decimal.fixed 1 frame.angle).toList := by
    intro within
    rw [Decimal.numeral_fixed 1 frame.angle letter within] at numeral
    cases numeral
  rw [Span.style_of_mem_glyphs inside]
  simp only [StatusLine.reportLine, List.mem_cons, List.not_mem_nil, or_false] at here
  rcases here with rfl | rfl | rfl
  · have before : " ∠ ".toList ⊆ [' ', '∠', '°', '|'] := by decide
    have behind : "° ".toList ⊆ [' ', '∠', '°', '|'] := by decide
    refine absurd among ?_
    show letter ∉ (" ∠ " ++ Decimal.fixed 1 frame.angle ++ "° ").toList
    simp only [String.toList_append, List.mem_append, not_or]
    exact ⟨⟨mt (@before letter) others, number⟩, mt (@behind letter) others⟩
  · have between : " | ".toList ⊆ [' ', '∠', '°', '|'] := by decide
    exact absurd (between among) others
  · exact badge.color_ne_ground

/-- No key has the colour of a badge, and neither have the lines between the keys. -/
theorem color_ne_key {span : Span} (key : span ∈ StatusLine.separator :: StatusLine.keyLine)
    {old : Color} : badge.color ≠ span.style.background.getD old := by
  have grounds : ∀ span ∈ StatusLine.separator :: StatusLine.keyLine,
      span.style.background = some Palette.faint ∨
        span.style.background = some Palette.statusGround := by
    decide
  rcases grounds span key with faint | plain
  · rw [faint]
    exact badge.color_ne_faint
  · rw [plain]
    exact badge.color_ne_ground

/-- So what has this colour in the help belongs to the badge that is pointed out. -/
theorem pointed_of_color {glyph : Glyph}
    (drawn : glyph ∈ Line.glyphs (StatusLine.helpLine frame)) {old : Color}
    (ground : badge.color = glyph.style.background.getD old) : frame.badge? = some badge := by
  obtain ⟨span, here, inside⟩ := List.mem_flatMap.mp drawn
  rw [Span.style_of_mem_glyphs inside] at ground
  rcases List.mem_append.mp here with key | behind
  · exact absurd ground (color_ne_key (List.mem_cons_of_mem _ key))
  · generalize frame.badge? = pointed at behind
    cases pointed with
    | none => cases behind
    | some shown =>
        rcases List.mem_pair.mp behind with rfl | rfl
        · exact absurd ground (color_ne_key (List.mem_cons_self ..))
        · rw [Badge.color_inj ground]

/-- **Only the badge that is pointed out looks like one**, and it stands in the right half. -/
theorem badge_of_cell (rows : 0 < height) {column : Nat} {cell : Cell}
    (member : cell ∈ badge.cells)
    (found : (frame.screen width height).cell? column (height - 1) = some cell) :
    frame.badge? = some badge ∧ (width + 1) / 2 ≤ column := by
  obtain ⟨letter, among, rfl⟩ := List.mem_map.mp member
  rcases cell?_lastRow rows found with
    ⟨glyph, drawn, old, made⟩ | ⟨right, glyph, drawn, old, made⟩ | ⟨old, made⟩
  · exact absurd (congrArg Cell.background made)
      (not_reported among drawn (congrArg Cell.sign made).symm)
  · exact ⟨pointed_of_color drawn (congrArg Cell.background made), right⟩
  · exact absurd (congrArg Cell.background made) badge.color_ne_ground

/-- The letters of the badge stand behind a blank, each in its cell. -/
theorem cell?_letter (rows : 0 < height) (room : 2 * (60 + badge.word.length) ≤ width)
    (pointed : frame.badge? = some badge) {place : Nat} {character : Char}
    (found : (' ' :: badge.word.toList)[place]? = some character) :
    (frame.screen width height).cell?
        (width - min (width / 2) (61 + badge.word.length) + (59 + place)) (height - 1) =
      some ⟨[character], .black, badge.color, true⟩ := by
  have columns : 0 < width / 2 := by omega
  have stands := @hasGlyphs_helpLine frame width height columns rows
  have within : place < badge.word.length + 1 := by
    have := (List.getElem?_eq_some_iff.mp found).1
    rwa [List.length_cons, String.length_toList] at this
  have taken : ((Line.glyphs (StatusLine.helpLine frame)).take (width / 2))[59 + place]? =
      some ⟨[character], badge.span.style, 1⟩ := by
    rw [List.getElem?_take_of_lt (by omega), StatusLine.getElem?_helpLine pointed found]
  obtain ⟨old, drawn⟩ := stands.getElem (fun _ => StatusLine.width_of_mem_take) taken
  rw [StatusLine.length_helpLine pointed] at drawn
  exact drawn

/-- A badge that is pointed out stands on the screen if there is room for it. -/
theorem shows_of_room (rows : 0 < height) (room : 2 * (60 + badge.word.length) ≤ width)
    (pointed : frame.badge? = some badge) : (frame.screen width height).Shows badge := by
  have size := (frame.size_screen width height).2
  obtain ⟨row, last⟩ : ∃ row, (frame.screen width height).rows[height - 1]? = some row :=
    ⟨_, (Screen.getElem?_rows _ _).trans (if_pos (size.symm ▸ Nat.sub_one_lt_of_lt rows))⟩
  set start := width - min (width / 2) (61 + badge.word.length) + 60 with atStart
  -- each letter stands behind a sign that is not wide: the blank, or the letter before it
  have letters (place : Nat) (below : place < badge.cells.length) :
      row[place + start]? = some badge.cells[place] := by
    rw [Badge.length_cells, ← String.length_toList] at below
    have here : place < (' ' :: badge.word.toList).length := Nat.lt_succ_of_lt below
    have letter : (' ' :: badge.word.toList)[place + 1]? = some badge.word.toList[place] :=
      (List.getElem?_cons_succ ..).trans (List.getElem?_eq_getElem below)
    have sign := List.getElem?_eq_getElem here
    have before := cell?_letter rows room pointed sign
    have next := cell?_letter rows room pointed letter
    have narrow : Text.width [(' ' :: badge.word.toList)[place]] = 1 :=
      Line.width_sign (List.mem_of_getElem? (StatusLine.getElem?_helpLine pointed sign))
    have found := Screen.rows_behind last before next (narrow.trans_lt Nat.one_lt_two)
    have column : place + start =
        width - min (width / 2) (61 + badge.word.length) + (59 + place) + 1 := by omega
    rw [column, found, Option.some.injEq]
    simp only [Badge.cells, List.getElem_map]
  refine ⟨row, ?_, List.infix_iff_getElem?.mpr ⟨start, ?_, letters⟩⟩
  · rw [Screen.getLast?_rows, size, last]
  · have positive : 0 < badge.cells.length := badge.length_cells ▸ badge.length_pos
    have within := (List.getElem?_eq_some_iff.mp
      (letters (badge.cells.length - 1) (Nat.sub_one_lt_of_lt positive))).1
    omega

/-- Where its first letter is drawn there is room for the others, or they are cut off. -/
theorem room_of_cells (rows : 0 < height) (pointed : frame.badge? = some badge) {column : Nat}
    (right : (width + 1) / 2 ≤ column)
    (found : (frame.screen width height).cell? column (height - 1) =
      some ⟨badge.word.toList.take 1, .black, badge.color, true⟩)
    (whole : column + badge.word.length ≤ width) :
    2 * (60 + badge.word.length) ≤ width := by
  by_contra narrow
  have positive := badge.length_pos
  have columns : 0 < width / 2 := by omega
  have length := StatusLine.length_helpLine pointed
  have stands := @hasGlyphs_helpLine frame width height columns rows
  have cut : min (width / 2) (61 + badge.word.length) = width / 2 := by omega
  rw [length, cut] at stands
  obtain ⟨place, rfl⟩ : ∃ place, column = width - width / 2 + place :=
    Nat.exists_eq_add_of_le (by omega)
  have below : place < (Line.glyphs (StatusLine.helpLine frame)).length := by omega
  obtain ⟨glyph, here⟩ : ∃ glyph, (Line.glyphs (StatusLine.helpLine frame))[place]? = some glyph :=
    ⟨_, List.getElem?_eq_getElem below⟩
  have taken : ((Line.glyphs (StatusLine.helpLine frame)).take (width / 2))[place]? =
      some glyph := (List.getElem?_take_of_lt (by omega)).trans here
  obtain ⟨old, drawn⟩ := stands.getElem (fun _ => StatusLine.width_of_mem_take) taken
  rw [found, Option.some.injEq] at drawn
  have sixty := StatusLine.place_of_first pointed here (congrArg Cell.sign drawn).symm
  omega

/-- **A badge stands on the screen if it is pointed out and there is room for it.** -/
theorem shows_iff : (frame.screen width height).Shows badge ↔
    0 < height ∧ 2 * (60 + badge.word.length) ≤ width ∧ frame.badge? = some badge := by
  refine ⟨?_, fun ⟨rows, room, pointed⟩ => shows_of_room rows room pointed⟩
  rintro ⟨row, last, stands⟩
  obtain ⟨columns, lines⟩ := frame.size_screen width height
  rw [Screen.getLast?_rows, lines] at last
  have rows : 0 < height := by
    by_contra none
    rw [Screen.getElem?_rows, lines, if_neg (by omega)] at last
    cases last
  obtain ⟨start, -, letters⟩ := List.infix_iff_getElem?.mp stands
  have drawn (place : Nat) (below : place < badge.cells.length) :
      (frame.screen width height).cell? (place + start) (height - 1) =
        some badge.cells[place] := by
    rcases Screen.eq_of_rows last (letters place below) with blank | drawn
    · exact absurd (blank ▸ List.getElem_mem below) badge.blank_not_mem_cells
    · exact drawn
  have positive := badge.length_pos
  have length := badge.length_cells
  have first : 0 < badge.cells.length := length.symm ▸ positive
  obtain ⟨pointed, right⟩ := badge_of_cell rows (List.getElem_mem first) (drawn 0 first)
  have whole : start + badge.word.length ≤ width := by
    by_contra beyond
    have last := drawn (badge.word.length - 1) (by omega)
    rw [Screen.cell?_of_not_lt (by omega)] at last
    cases last
  have here := drawn 0 first
  rw [Badge.getElem_cells_zero, Nat.zero_add] at here
  exact ⟨rows, room_of_cells rows pointed (Nat.zero_add start ▸ right) here whole, pointed⟩

end Frame

/-! ## What a frame points out -/

namespace Frame

section Places

variable {α : Type} {frame : Frame α}

/-- A frame that was drawn points out the ends, the last model before the first. -/
theorem badge?_of_drawn (drawn : frame.hasFailed = false) :
    frame.badge? =
      if frame.wraps then none
      else if frame.total ≤ frame.place + 1 then some .last
      else if frame.place = 0 then some .first
      else none :=
  if_neg (Bool.eq_false_iff.mp drawn)

/-- It has the badge of the last model at the end of the catalog, if there is one. -/
theorem badge?_eq_last_iff (drawn : frame.hasFailed = false) :
    frame.badge? = some .last ↔ frame.wraps = false ∧ frame.total ≤ frame.place + 1 := by
  rw [badge?_of_drawn drawn]
  split_ifs with circle atEnd atStart
  · simp [circle]
  · simp [circle, atEnd]
  · simp [atEnd]
  · simp [atEnd]

/-- It has the badge of the first model at the start, unless the end is there as well. -/
theorem badge?_eq_first_iff (drawn : frame.hasFailed = false) :
    frame.badge? = some .first ↔
      frame.wraps = false ∧ frame.place = 0 ∧ frame.place + 1 < frame.total := by
  rw [badge?_of_drawn drawn]
  split_ifs with circle atEnd atStart
  · simp [circle]
  · simp [Nat.not_lt.mpr atEnd]
  · simp [circle, atStart, atStart ▸ Nat.not_le.mp atEnd]
  · simp [atStart]

/-- A frame that has failed says so, wherever it stands. -/
theorem badge?_of_failed (failed : frame.hasFailed = true) : frame.badge? = some .failure :=
  if_pos failed

end Places

end Frame

/-! ## What the arrows do -/

namespace Viewer

/-- An arrow would leave the viewer at the model that it shows. -/
def Stays (viewer : Viewer Float) (arrow : Keystroke) : Prop :=
  (viewer.press arrow).selection.value = viewer.selection.value

instance (viewer : Viewer Float) (arrow : Keystroke) : Decidable (viewer.Stays arrow) :=
  inferInstanceAs (Decidable (_ = _))

section Arrows

variable {catalog : Catalog Float} {viewer : Viewer Float}
  (selecting : Selecting catalog .clamp viewer)

include selecting

theorem Selecting.stays_shift_iff (delta : Int) :
    (viewer.shift delta).selection.value = viewer.selection.value ↔
      (viewer.shift delta).place = viewer.place := by
  rw [(selecting.of_step (.shift delta)).value_eq, selecting.value_eq, Int.natCast_inj]

/-- Between walls the arrow to the right stays at the last model. -/
theorem Selecting.stays_right_iff (control : Bool) :
    viewer.Stays ⟨.right, control⟩ ↔ viewer.place + 1 = catalog.size := by
  have within := selecting.place_lt
  have stays := (selecting.stays_shift_iff 1).trans (selecting.stays_iff 1)
  refine stays.trans ?_
  omega

/-- The arrow to the left stays at the first one. -/
theorem Selecting.stays_left_iff (control : Bool) :
    viewer.Stays ⟨.left, control⟩ ↔ viewer.place = 0 := by
  have stays := (selecting.stays_shift_iff (-1)).trans (selecting.stays_iff (-1))
  refine stays.trans ?_
  omega

end Arrows

/-- **The badge tells what the arrows do.**  After any history let a frame be shown on a screen
that has a row.  If its scene was drawn and the selection stops at the ends, and the screen has 128
columns, the badge of the last model stands on it exactly if the arrow to the right would stay at
the model; if it has 130 columns, the badge of the first model stands on it exactly if the arrow to
the left would stay and the one to the right would not.  With fewer columns there is no room for
them.  A selection that goes round in a circle has neither badge.  If the scene could not be drawn,
the badge of a failure is the only one, and it takes 130 columns as well. -/
theorem badge_tells_arrows (catalog : Catalog Float) (mode : BoundMode) (first : Nat)
    (history : List (Action Float)) (width height : Nat) (control : Bool) :
    let shown := ((Viewer.start catalog mode first).performAll history).present
      ⟨0, 0, width, height⟩
    let screen := shown.1.screen width height
    (shown.1.hasFailed = false →
        (mode = .clamp →
          (screen.Shows .last ↔
            0 < height ∧ 128 ≤ width ∧ shown.2.Stays ⟨.right, control⟩) ∧
            (screen.Shows .first ↔
              0 < height ∧ 130 ≤ width ∧
                shown.2.Stays ⟨.left, control⟩ ∧ ¬ shown.2.Stays ⟨.right, control⟩)) ∧
          (mode = .wrap → ∀ badge, ¬ screen.Shows badge)) ∧
      (shown.1.hasFailed = true → ∀ badge,
        (screen.Shows badge ↔ 0 < height ∧ 130 ≤ width ∧ badge = .failure)) := by
  intro shown screen
  have selecting : Selecting catalog mode shown.2 :=
    ((selecting_start catalog mode first).performAll history).of_step (.refresh _)
  have total : shown.1.total = catalog.size := congrArg Catalog.size selecting.unchanged
  have place : shown.1.place = shown.2.place := rfl
  have wraps : shown.1.wraps = decide (mode = .wrap) := selecting.wraps_eq
  refine ⟨fun drawn => ⟨?_, ?_⟩, fun failed badge => ?_⟩
  · rintro rfl
    have within := selecting.place_lt
    have walls : shown.1.wraps = false := wraps
    have last : shown.1.badge? = some .last ↔ shown.2.Stays ⟨.right, control⟩ := by
      rw [Frame.badge?_eq_last_iff drawn, selecting.stays_right_iff, total, place]
      exact ⟨fun ⟨_, atEnd⟩ => by omega, fun atEnd => ⟨walls, by omega⟩⟩
    have first : shown.1.badge? = some .first ↔
        shown.2.Stays ⟨.left, control⟩ ∧ ¬ shown.2.Stays ⟨.right, control⟩ := by
      rw [Frame.badge?_eq_first_iff drawn, selecting.stays_right_iff, selecting.stays_left_iff,
        total, place]
      exact ⟨fun ⟨_, atStart, before⟩ => ⟨atStart, by omega⟩,
        fun ⟨atStart, before⟩ => ⟨walls, atStart, by omega⟩⟩
    exact ⟨Frame.shows_iff.trans (and_congr_right' (and_congr_right' last)),
      Frame.shows_iff.trans (and_congr_right' (and_congr_right' first))⟩
  · rintro rfl badge shows
    have circle : shown.1.wraps = true := wraps
    have none : shown.1.badge? = none := by
      rw [Frame.badge?_of_drawn drawn, circle]
      rfl
    have pointed := (Frame.shows_iff.mp shows).2.2
    rw [none] at pointed
    cases pointed
  · rw [Frame.shows_iff, Frame.badge?_of_failed failed, Option.some.injEq]
    constructor
    · rintro ⟨rows, room, rfl⟩
      exact ⟨rows, room, rfl⟩
    · rintro ⟨rows, room, rfl⟩
      exact ⟨rows, room, rfl⟩

/-- Of three models the second has no badge, and the arrows lead to those that have one.  The
only model of a catalog has the badge of the last, and round a circle of three there is none. -/
theorem badge_tells_arrows_of_three :
    let model (name : String) : Model Float :=
      { Model.blank name with iterations := 0, segments := 2.0 }
    let three : Catalog Float :=
      ⟨[model "Left", model "Middle", model "Right"], List.cons_ne_nil _ _⟩
    let one : Catalog Float := ⟨[model "Only"], List.cons_ne_nil _ _⟩
    let area : Area := ⟨0, 0, 160, 40⟩
    let shown (catalog : Catalog Float) (mode : BoundMode) (history : List (Action Float)) :=
      ((Viewer.start catalog mode 1).performAll history).present area
    let screen (shown : Frame Float × Viewer Float) := shown.1.screen 160 40
    let left := shown three .clamp [.present area, .press ⟨.left, false⟩]
    let right := shown three .clamp [.press ⟨.up, true⟩, .shift 7]
    let only := shown one .clamp [.shift (-1)]
    let circle := shown three .wrap [.press ⟨.right, false⟩]
    left.1.hasFailed = false ∧ (screen left).Shows .first ∧ left.2.Stays ⟨.left, true⟩ ∧
      ¬ left.2.Stays ⟨.right, true⟩ ∧
      (screen right).Shows .last ∧ right.2.Stays ⟨.right, false⟩ ∧
      (screen only).Shows .last ∧ only.2.Stays ⟨.right, false⟩ ∧ ¬ (screen only).Shows .first ∧
      ¬ (screen circle).Shows .last := by
  intro model three one area shown screen left right only circle
  have drawn : left.1.hasFailed = false := by decide +kernel
  obtain ⟨leftDrawn, -⟩ := badge_tells_arrows three .clamp 1
    [.present area, .press ⟨.left, false⟩] 160 40 true
  obtain ⟨rightDrawn, -⟩ := badge_tells_arrows three .clamp 1
    [.press ⟨.up, true⟩, .shift 7] 160 40 false
  obtain ⟨onlyDrawn, -⟩ := badge_tells_arrows one .clamp 1 [.shift (-1)] 160 40 false
  obtain ⟨circleDrawn, -⟩ := badge_tells_arrows three .wrap 1
    [.press ⟨.right, false⟩] 160 40 false
  obtain ⟨-, leftFirst⟩ := (leftDrawn drawn).1 rfl
  obtain ⟨rightLast, -⟩ := (rightDrawn (by decide +kernel)).1 rfl
  obtain ⟨onlyLast, onlyFirst⟩ := (onlyDrawn (by decide +kernel)).1 rfl
  have leftStays : left.2.Stays ⟨.left, true⟩ ∧ ¬ left.2.Stays ⟨.right, true⟩ := by
    decide +kernel
  have rightStays : right.2.Stays ⟨.right, false⟩ := by decide +kernel
  have onlyStays : only.2.Stays ⟨.right, false⟩ := by decide +kernel
  have rows : 0 < 40 := by decide
  have wide : 128 ≤ 160 := by decide
  refine ⟨drawn, leftFirst.mpr ⟨rows, by decide, leftStays⟩, leftStays.1, leftStays.2,
    rightLast.mpr ⟨rows, wide, rightStays⟩, rightStays, onlyLast.mpr ⟨rows, wide, onlyStays⟩,
    onlyStays, ?_, (circleDrawn (by decide +kernel)).2 rfl .last⟩
  intro shows
  exact (onlyFirst.mp shows).2.2.2 onlyStays

/-- On a screen of eighty columns the badge is cut off: there is none at the only model of a
catalog, although the arrow to the right stays. -/
theorem badge_cut_off :
    let model : Model Float := { Model.blank "Only" with iterations := 0, segments := 2.0 }
    let one : Catalog Float := ⟨[model], List.cons_ne_nil _ _⟩
    let shown := (Viewer.start one .clamp 0).present ⟨0, 0, 80, 24⟩
    shown.1.hasFailed = false ∧ shown.2.Stays ⟨.right, false⟩ ∧
      ¬ (shown.1.screen 80 24).Shows .last := by
  intro model one shown
  refine ⟨by decide +kernel, by decide +kernel, fun shows => ?_⟩
  obtain ⟨-, room, -⟩ := Frame.shows_iff.mp shows
  exact absurd room (by decide +kernel)

end Viewer

end LSystemExplorer
