import LSystemExplorer.Proofs.Screen.Cells
import LSystemExplorer.Screen.Paragraph

/-!
# Lines of text on a screen

A text that is drawn is taken apart three times: a line into glyphs, the glyphs of a line into the
rows that it takes, and a row into cells.

**Glyphs.** The signs of a line make up its text (`Line.flatMap_sign_glyphs`).

**Rows.** A line that is not too long is neither cut off nor broken up.  Breaking up goes glyph by
glyph, and as long as there is room nothing is done but that glyphs wait for their word to end
(`Breaking.Holds`); so they all come out on one row (`wrapGlyphs_of_fits`).

**Cells.** The glyphs of a row stand one behind the other, each as wide as it is
(`Screen.HasGlyphs`), wherever a paragraph is drawn (`Paragraph.hasGlyphs_draw`).  A paragraph
changes nothing above or below its area, and nothing on its left (`Paragraph.changes_draw`).  Every
cell of the area has a sign of the paragraph or at least its looks (`Paragraph.cell?_draw`).
-/

set_option autoImplicit false

namespace LSystemExplorer

/-! ## Glyphs -/

theorem Text.flatten_clustersAfter (history : History) (begun text : List Char) :
    (clustersAfter history begun text).flatten = begun.reverse ++ text := by
  induction text generalizing history begun with
  | nil => simp [clustersAfter]
  | cons character later ih =>
      rw [clustersAfter]
      split
      · rw [ih, List.reverse_cons, List.append_assoc]
        rfl
      · rw [List.flatten_cons, ih]
        rfl

/-- Clusters make up the text that was taken apart. -/
theorem Text.flatten_clusters (text : List Char) : (clusters text).flatten = text := by
  cases text with
  | nil => rfl
  | cons character later => exact flatten_clustersAfter _ [character] later

theorem Span.exists_cluster {span : Span} {glyph : Glyph} (member : glyph ∈ span.glyphs) :
    ∃ cluster ∈ Text.clusters span.text.toList, Glyph.ofCluster span.style cluster = glyph := by
  obtain ⟨cluster, kept, made⟩ := List.mem_map.mp member
  exact ⟨cluster, List.mem_of_mem_filter kept, made⟩

theorem Span.style_of_mem_glyphs {span : Span} {glyph : Glyph} (member : glyph ∈ span.glyphs) :
    glyph.style = span.style := by
  obtain ⟨cluster, -, rfl⟩ := span.exists_cluster member
  rfl

/-- A glyph is as wide as its sign. -/
theorem Line.width_sign {line : Line} {glyph : Glyph} (member : glyph ∈ line.glyphs) :
    Text.width glyph.sign = glyph.width := by
  obtain ⟨span, -, among⟩ := List.mem_flatMap.mp member
  obtain ⟨cluster, -, rfl⟩ := span.exists_cluster among
  rfl

/-- A sign is made of characters of the text. -/
theorem Span.mem_text_of_mem_sign {span : Span} {glyph : Glyph} (member : glyph ∈ span.glyphs)
    {character : Char} (among : character ∈ glyph.sign) : character ∈ span.text.toList := by
  obtain ⟨cluster, kept, rfl⟩ := span.exists_cluster member
  rw [← Text.flatten_clusters span.text.toList]
  exact List.mem_flatten_of_mem kept among

/-- The signs of a text without line feeds make up the text. -/
theorem Span.flatMap_sign_glyphs {span : Span} (whole : '\n' ∉ span.text.toList) :
    span.glyphs.flatMap Glyph.sign = span.text.toList := by
  have kept : ∀ cluster ∈ Text.clusters span.text.toList, decide (cluster ≠ ['\n']) := by
    intro cluster member
    refine decide_eq_true fun feed => whole ?_
    rw [← Text.flatten_clusters span.text.toList]
    exact List.mem_flatten_of_mem member (feed ▸ List.mem_singleton_self _)
  have sign : Glyph.sign ∘ Glyph.ofCluster span.style = id := rfl
  rw [Span.glyphs, List.filter_eq_self.mpr kept, List.flatMap_def, List.map_map, sign, List.map_id,
    Text.flatten_clusters]

/-- The signs of a line make up its text. -/
theorem Line.flatMap_sign_glyphs {line : Line} (whole : ∀ span ∈ line, '\n' ∉ span.text.toList) :
    line.glyphs.flatMap Glyph.sign = line.flatMap fun span => span.text.toList := by
  rw [Line.glyphs, List.flatMap_assoc]
  exact List.flatMap_congr fun span member => Span.flatMap_sign_glyphs (whole span member)

namespace Glyph

theorem totalWidth_append (first second : List Glyph) :
    totalWidth (first ++ second) = totalWidth first + totalWidth second := by
  induction first with
  | nil => exact (Nat.zero_add _).symm
  | cons glyph later ih => rw [List.cons_append, totalWidth, totalWidth, ih, Nat.add_assoc]

/-- The places at which a sign stands among some glyphs. -/
def placesOf (sign : List Char) (glyphs : List Glyph) : List Nat :=
  (glyphs.zipIdx.filter fun entry => entry.1.sign = sign).map Prod.snd

theorem mem_placesOf {sign : List Char} {glyphs : List Glyph} {place : Nat} :
    place ∈ placesOf sign glyphs ↔ ∃ glyph, glyphs[place]? = some glyph ∧ glyph.sign = sign := by
  simp [placesOf, List.mem_zipIdx_iff_getElem?]

theorem totalWidth_eq_length {glyphs : List Glyph} (single : ∀ glyph ∈ glyphs, glyph.width = 1) :
    totalWidth glyphs = glyphs.length := by
  induction glyphs with
  | nil => rfl
  | cons glyph later ih =>
      have here : glyph.width = 1 := single glyph (List.mem_cons_self ..)
      have rest := ih fun other member => single other (List.mem_cons_of_mem _ member)
      rw [totalWidth, here, rest, List.length_cons, Nat.add_comm]

end Glyph

/-! ## Rows -/

theorem isPrefix_cutGlyphs (room : Nat) (glyphs : List Glyph) :
    cutGlyphs room glyphs <+: glyphs := by
  induction glyphs generalizing room with
  | nil => exact List.prefix_rfl
  | cons glyph later ih =>
      rw [cutGlyphs]
      split
      · exact List.prefix_cons_inj glyph |>.mpr (ih _)
      · exact List.nil_prefix

/-- Glyphs of a single column are cut off by their number. -/
theorem cutGlyphs_eq_take {glyphs : List Glyph} (single : ∀ glyph ∈ glyphs, glyph.width = 1)
    (room : Nat) : cutGlyphs room glyphs = glyphs.take room := by
  induction glyphs generalizing room with
  | nil => rw [List.take_nil, cutGlyphs]
  | cons glyph later ih =>
      have here : glyph.width = 1 := single glyph (List.mem_cons_self ..)
      rw [cutGlyphs, here]
      cases room with
      | zero => rfl
      | succ room =>
          have rest := ih (fun other member => single other (List.mem_cons_of_mem _ member)) room
          rw [if_pos (Nat.le_add_left ..), Nat.add_sub_cancel, rest, List.take_succ_cons]

/-- The line takes up columns in each of its glyphs, but not too many, and there is a word on
it. -/
structure Line.Fits (line : Line) (columns : Nat) : Prop where
  visible : ∀ glyph ∈ line.glyphs, 0 < glyph.width
  word : ∃ glyph ∈ line.glyphs, glyph.isSpace = false
  total : Glyph.totalWidth line.glyphs ≤ columns

instance (line : Line) (columns : Nat) : Decidable (line.Fits columns) :=
  decidable_of_iff
    ((∀ glyph ∈ line.glyphs, 0 < glyph.width) ∧ (∃ glyph ∈ line.glyphs, glyph.isSpace = false) ∧
      Glyph.totalWidth line.glyphs ≤ columns)
    ⟨fun fits => ⟨fits.1, fits.2.1, fits.2.2⟩, fun fits => ⟨fits.visible, fits.word, fits.total⟩⟩

/-- Nothing fits where there are no columns. -/
theorem Line.Fits.columns_pos {line : Line} {columns : Nat} (fits : line.Fits columns) :
    0 < columns := by
  obtain ⟨glyph, here, -⟩ := fits.word
  obtain ⟨before, after, split⟩ := List.append_of_mem here
  have visible := fits.visible glyph here
  have total := fits.total
  rw [split, Glyph.totalWidth_append, Glyph.totalWidth] at total
  omega

/-- No line has ended yet: the glyphs that were taken are on the line, or wait for it as spaces or
as a word. -/
structure Breaking.Holds (breaking : Breaking) (taken : List Glyph) : Prop where
  done : breaking.done = #[]
  glyphs : breaking.line ++ breaking.spaces ++ breaking.word = taken
  spaces : ∀ glyph ∈ breaking.spaces, glyph.isSpace
  word : breaking.inWord = false → breaking.word = []

namespace Breaking.Holds

variable {breaking : Breaking} {taken : List Glyph} {glyph : Glyph} {limit : Nat}

theorem settle (holds : breaking.Holds taken) : (breaking.settle false).Holds taken := by
  refine ⟨holds.done, ?_, nofun, fun _ => rfl⟩
  rw [← holds.glyphs, Breaking.settle, joined, Bool.and_false]
  simp

/-- A space is taken when no word waits. -/
theorem take (holds : breaking.Holds taken) (ended : glyph.isSpace → breaking.word = []) :
    (breaking.take glyph).Holds (taken ++ [glyph]) := by
  unfold Breaking.take
  split
  · rename_i space
    have none := ended space
    refine ⟨holds.done, ?_, fun other member => ?_, fun _ => none⟩
    · simp [← holds.glyphs, none]
    · rcases List.mem_append.mp member with before | last
      · exact holds.spaces other before
      · rwa [List.mem_singleton.mp last]
  · exact ⟨holds.done, by simp [← holds.glyphs], holds.spaces, nofun⟩

theorem not_isFull (holds : breaking.Holds taken)
    (fits : Glyph.totalWidth taken < limit) : breaking.isFull limit glyph = false := by
  rw [← holds.glyphs, Glyph.totalWidth_append, Glyph.totalWidth_append] at fits
  unfold isFull
  simp only [Bool.or_eq_false_iff, Bool.and_eq_false_iff, decide_eq_false_iff_not]
  exact ⟨by omega, .inr (by omega)⟩

/-- A glyph for which there is room ends no line. -/
theorem step (holds : breaking.Holds taken) (visible : 0 < glyph.width)
    (fits : Glyph.totalWidth (taken ++ [glyph]) ≤ limit) :
    (breaking.step false limit glyph).Holds (taken ++ [glyph]) := by
  rw [Glyph.totalWidth_append, Glyph.totalWidth, Glyph.totalWidth] at fits
  have narrow : ¬ limit < glyph.width := by omega
  have room : Glyph.totalWidth taken < limit := by omega
  unfold Breaking.step
  rw [if_neg narrow]
  dsimp only
  by_cases settles : breaking.mustSettle false limit glyph
  · rw [if_pos settles, holds.settle.not_isFull room]
    exact holds.settle.take fun _ => rfl
  · rw [if_neg settles, holds.not_isFull room]
    refine holds.take fun space => holds.word ?_
    simp only [mustSettle, space, Bool.and_true, Bool.or_eq_true, not_or] at settles
    exact Bool.eq_false_iff.mpr settles.1

theorem foldl (holds : breaking.Holds taken) {glyphs : List Glyph}
    (visible : ∀ glyph ∈ glyphs, 0 < glyph.width)
    (fits : Glyph.totalWidth (taken ++ glyphs) ≤ limit) :
    (glyphs.foldl (Breaking.step false limit) breaking).Holds (taken ++ glyphs) := by
  induction glyphs generalizing breaking taken with
  | nil =>
      rw [List.append_nil]
      exact holds
  | cons glyph later ih =>
      have here : Glyph.totalWidth (taken ++ [glyph]) ≤ limit := by
        rw [Glyph.totalWidth_append, Glyph.totalWidth] at fits ⊢
        rw [Glyph.totalWidth]
        omega
      rw [List.append_cons] at fits ⊢
      exact ih (holds.step (visible glyph (List.mem_cons_self ..)) here)
        (fun other member => visible other (List.mem_cons_of_mem _ member)) fits

/-- At the end the glyphs are all on one line, if a word is among them. -/
theorem finish (holds : breaking.Holds taken) (word : ∃ glyph ∈ taken, glyph.isSpace = false) :
    breaking.finish false = [taken] := by
  have joined : breaking.joined false = taken := by
    rw [← holds.glyphs, Breaking.joined, Bool.and_false]
    rfl
  have some : taken.isEmpty = false := by
    obtain ⟨glyph, member, -⟩ := word
    exact List.isEmpty_eq_false_iff.mpr (List.ne_nil_of_mem member)
  have mixed : (breaking.line.isEmpty && breaking.word.isEmpty && !breaking.spaces.isEmpty) =
      false := by
    rw [Bool.eq_false_iff]
    intro only
    simp only [Bool.and_eq_true, List.isEmpty_iff] at only
    obtain ⟨glyph, member, dark⟩ := word
    rw [← holds.glyphs, only.1.1, only.1.2, List.nil_append, List.append_nil] at member
    rw [holds.spaces glyph member] at dark
    cases dark
  unfold Breaking.finish
  simp [joined, some, mixed, holds.done]

end Breaking.Holds

/-- **A line that fits is not broken up.** -/
theorem wrapGlyphs_of_fits {line : Line} {limit : Nat} (fits : line.Fits limit) :
    wrapGlyphs false limit line.glyphs = [line.glyphs] := by
  have start : Breaking.Holds {} [] := ⟨rfl, rfl, nofun, fun _ => rfl⟩
  exact (start.foldl fits.visible fits.total).finish fits.word

/-! ## Cells -/

namespace Screen

variable {screen : Screen} {row column : Nat}

/-- The glyphs stand in a row from a column on, one behind the other and each in its looks. -/
def HasGlyphs (screen : Screen) (row : Nat) : Nat → List Glyph → Prop
  | _, [] => True
  | column, glyph :: glyphs =>
    (0 < glyph.width →
      ∃ old, screen.cell? column row = some (Cell.write glyph.sign glyph.style old)) ∧
      screen.HasGlyphs row (column + glyph.width) glyphs

theorem HasGlyphs.append {first second : List Glyph}
    (has : screen.HasGlyphs row column (first ++ second)) :
    screen.HasGlyphs row column first ∧
      screen.HasGlyphs row (column + Glyph.totalWidth first) second := by
  induction first generalizing column with
  | nil => exact ⟨trivial, has⟩
  | cons glyph later ih =>
      obtain ⟨here, rest⟩ := has
      obtain ⟨before, behind⟩ := ih rest
      rw [Nat.add_assoc] at behind
      exact ⟨⟨here, before⟩, behind⟩

/-- Glyphs of a single column stand in the columns of their numbers. -/
theorem HasGlyphs.getElem {glyphs : List Glyph} (has : screen.HasGlyphs row column glyphs)
    (single : ∀ glyph ∈ glyphs, glyph.width = 1) {place : Nat} {glyph : Glyph}
    (found : glyphs[place]? = some glyph) :
    ∃ old, screen.cell? (column + place) row = some (Cell.write glyph.sign glyph.style old) := by
  induction glyphs generalizing column place with
  | nil => cases found
  | cons first later ih =>
      have here : first.width = 1 := single first (List.mem_cons_self ..)
      cases place with
      | zero =>
          cases found
          exact has.1 (here ▸ Nat.one_pos)
      | succ place =>
          have rest := ih has.2 (fun other member => single other (List.mem_cons_of_mem _ member))
            found
          rwa [here, Nat.add_assoc, Nat.add_comm 1] at rest

/-- What is drawn in other rows leaves the glyphs where they are. -/
theorem HasGlyphs.of_changes {region : Nat → Nat → Prop} {after : Screen} {glyphs : List Glyph}
    (has : screen.HasGlyphs row column glyphs) (changes : Changes region screen after)
    (apart : ∀ column, ¬ region column row) : after.HasGlyphs row column glyphs := by
  induction glyphs generalizing column with
  | nil => trivial
  | cons glyph later ih =>
      refine ⟨fun visible => ?_, ih has.2⟩
      rw [changes.kept column row (apart column)]
      exact has.1 visible

/-- Glyphs are drawn in their row, and not before the first column. -/
theorem changes_writeGlyphs {first : Nat} (behind : first ≤ column) (row : Nat)
    (glyphs : List Glyph) (screen : Screen) :
    Changes (fun column below => first ≤ column ∧ below = row) screen
      (screen.writeGlyphs row column glyphs) := by
  induction glyphs generalizing column screen with
  | nil => exact .refl _ screen
  | cons glyph later ih =>
      refine .trans ?_ (ih (Nat.le_add_right_of_le behind) _)
      split
      · exact .refl _ screen
      · exact .modify ⟨behind, rfl⟩ screen _

/-- **Glyphs that are drawn stand in their row**, if the row is on the screen. -/
theorem hasGlyphs_writeGlyphs {glyphs : List Glyph} (above : row < screen.height)
    (fits : column + Glyph.totalWidth glyphs ≤ screen.width) :
    (screen.writeGlyphs row column glyphs).HasGlyphs row column glyphs := by
  induction glyphs generalizing column screen with
  | nil => trivial
  | cons glyph later ih =>
      rw [Glyph.totalWidth] at fits
      rw [writeGlyphs]
      constructor
      · intro visible
        have inside : column < screen.width := by omega
        obtain ⟨old, here⟩ := exists_cell? inside above
        -- the glyphs that follow begin behind this one
        have kept := (changes_writeGlyphs (Nat.le_refl (column + glyph.width)) row later
          (screen.modify column row (Cell.write glyph.sign glyph.style))).kept column row (by omega)
        refine ⟨old, ?_⟩
        rw [if_neg (Nat.ne_of_gt visible), kept, cell?_modify, if_pos ⟨rfl, rfl⟩, here]
        rfl
      · have size : Changes (fun _ _ => True) screen
            (if glyph.width = 0 then screen
              else screen.modify column row (Cell.write glyph.sign glyph.style)) := by
          split
          · exact .refl _ screen
          · exact .modify trivial screen _
        refine ih ?_ ?_
        · rw [size.height]
          exact above
        · rw [size.width]
          omega

/-- A cell has the sign of a glyph that was drawn, or it is as it was. -/
theorem cell?_writeGlyphs (glyphs : List Glyph) {other below : Nat} {cell : Cell}
    (found : (screen.writeGlyphs row column glyphs).cell? other below = some cell) :
    screen.cell? other below = some cell ∨
      ∃ glyph ∈ glyphs, ∃ old, cell = Cell.write glyph.sign glyph.style old := by
  induction glyphs generalizing column screen with
  | nil => exact .inl found
  | cons glyph later ih =>
      rcases ih found with before | ⟨drawn, member, made⟩
      · split at before
        · exact .inl before
        · rw [cell?_modify] at before
          split at before
          · obtain ⟨old, -, rfl⟩ := Option.map_eq_some_iff.mp before
            exact .inr ⟨glyph, List.mem_cons_self .., old, rfl⟩
          · exact .inl before
      · exact .inr ⟨drawn, List.mem_cons_of_mem _ member, made⟩

/-! ### Lines one below the other -/

section Lines

variable {area : Area} {alignment : Alignment}

/-- Lines are drawn in the rows of their numbers, and not before the first column. -/
theorem changes_writeLines (lines : List (List Glyph)) (screen : Screen) :
    Changes (fun column below => area.left ≤ column ∧ row ≤ below ∧ below < row + lines.length)
      screen (screen.writeLines area alignment row lines) := by
  induction lines generalizing row screen with
  | nil => exact .refl _ screen
  | cons line later ih =>
      refine .trans ((changes_writeGlyphs (Nat.le_add_right ..) row line screen).mono ?_)
        ((ih _).mono ?_)
      · rintro other below ⟨left, rfl⟩
        exact ⟨left, Nat.le_refl _, Nat.lt_add_of_pos_right (Nat.zero_lt_succ _)⟩
      · rintro other below ⟨left, least, most⟩
        rw [List.length_cons]
        exact ⟨left, by omega, by omega⟩

theorem hasGlyphs_writeLines {lines : List (List Glyph)} {place : Nat} {line : List Glyph}
    (found : lines[place]? = some line) (above : row + place < screen.height)
    (fits : area.left + alignment.offset area.width (Glyph.totalWidth line) +
      Glyph.totalWidth line ≤ screen.width) :
    (screen.writeLines area alignment row lines).HasGlyphs (row + place)
      (area.left + alignment.offset area.width (Glyph.totalWidth line)) line := by
  induction lines generalizing row place screen with
  | nil => cases found
  | cons first later ih =>
      cases place with
      | zero =>
          cases found
          refine (hasGlyphs_writeGlyphs above fits).of_changes (changes_writeLines later _) ?_
          rintro column ⟨-, below, -⟩
          omega
      | succ place =>
          have size := changes_writeGlyphs
            (Nat.le_refl (area.left + alignment.offset area.width (Glyph.totalWidth first))) row
            first screen
          have next : row + (place + 1) = row + 1 + place := by omega
          rw [next] at above ⊢
          exact ih found (size.height ▸ above) (size.width ▸ fits)

theorem cell?_writeLines (lines : List (List Glyph)) {other below : Nat} {cell : Cell}
    (found : (screen.writeLines area alignment row lines).cell? other below = some cell) :
    screen.cell? other below = some cell ∨
      ∃ line ∈ lines, ∃ glyph ∈ line, ∃ old, cell = Cell.write glyph.sign glyph.style old := by
  induction lines generalizing row screen with
  | nil => exact .inl found
  | cons line later ih =>
      rcases ih found with before | ⟨drawn, member, made⟩
      · exact (cell?_writeGlyphs line before).imp_right fun made =>
          ⟨line, List.mem_cons_self .., made⟩
      · exact .inr ⟨drawn, List.mem_cons_of_mem _ member, made⟩

end Lines

end Screen

/-! ### Paragraphs -/

namespace Paragraph

variable {paragraph : Paragraph} {area : Area} {screen : Screen}

/-- How many rows the paragraph takes in an area of so many columns. -/
def rowsNeeded (paragraph : Paragraph) (columns : Nat) : Nat :=
  (paragraph.lines.flatMap fun line => paragraph.fit.apply columns line.glyphs).length

theorem length_fitted_le (paragraph : Paragraph) (area : Area) :
    (paragraph.fitted area).length ≤ area.height :=
  List.length_take_le ..

/-- A paragraph is drawn in the rows of its area, and not on its left. -/
theorem changes_draw (paragraph : Paragraph) (area : Area) (screen : Screen) :
    Screen.Changes (fun column row => area.left ≤ column ∧ area.top ≤ row ∧ row < area.bottom)
      screen (paragraph.draw area screen) := by
  unfold draw
  split
  · exact .refl _ screen
  · refine .trans (.restyle (fun column row inside => ?_) screen _)
      ((Screen.changes_writeLines _ _).mono ?_)
    · exact ⟨inside.left, inside.top, inside.bottom⟩
    · rintro column row ⟨left, top, below⟩
      have least := paragraph.length_fitted_le area
      exact ⟨left, top, Nat.lt_of_lt_of_le below (Nat.add_le_add_left least _)⟩

/-- **The rows of a paragraph stand in its area**, if they are not wider and the area is on the
screen. -/
theorem hasGlyphs_draw (covers : screen.Covers area) {place : Nat} {line : List Glyph}
    (found : (paragraph.fitted area)[place]? = some line) (nonempty : 0 < area.width)
    (fits : Glyph.totalWidth line ≤ area.width) :
    (paragraph.draw area screen).HasGlyphs (area.top + place)
      (area.left + paragraph.alignment.offset area.width (Glyph.totalWidth line)) line := by
  have below : place < area.height :=
    (List.getElem?_eq_some_iff.mp found).1.trans_le (paragraph.length_fitted_le area)
  obtain ⟨right, bottom⟩ := covers.end_le nonempty (Nat.zero_lt_of_lt below)
  have some : ¬ area.isEmpty := by
    simp only [Area.isEmpty, Bool.or_eq_true, decide_eq_true_eq]
    omega
  have within : paragraph.alignment.offset area.width (Glyph.totalWidth line) +
      Glyph.totalWidth line ≤ area.width := by
    cases paragraph.alignment <;> simp only [Alignment.offset] <;> omega
  have size : Screen.Changes (fun _ _ => True) screen (screen.restyle area paragraph.style) :=
    .restyle (fun _ _ _ => trivial) screen _
  rw [draw, if_neg some]
  refine Screen.hasGlyphs_writeLines found ?_ ?_
  · rw [size.height]
    exact Nat.lt_of_lt_of_le (Nat.add_lt_add_left below _) bottom
  · rw [size.width, Nat.add_assoc]
    exact (Nat.add_le_add_left within _).trans right

/-- A line that fits stands in the area, if the area is high enough for all lines. -/
theorem hasGlyphs_draw_line (covers : screen.Covers area) (wraps : paragraph.fit = .wrap)
    {line : Line} (member : line ∈ paragraph.lines) (fits : line.Fits area.width)
    (room : paragraph.rowsNeeded area.width ≤ area.height) :
    ∃ row, area.top ≤ row ∧ row < area.bottom ∧
      (paragraph.draw area screen).HasGlyphs row
        (area.left + paragraph.alignment.offset area.width (Glyph.totalWidth line.glyphs))
        line.glyphs := by
  have rows : paragraph.fit.apply area.width line.glyphs = [line.glyphs] := by
    rw [wraps]
    exact wrapGlyphs_of_fits fits
  have among : line.glyphs ∈ paragraph.fitted area := by
    rw [fitted, List.take_of_length_le room]
    exact List.mem_flatMap.mpr ⟨line, member, rows ▸ List.mem_singleton_self _⟩
  obtain ⟨place, found⟩ := List.mem_iff_getElem?.mp among
  have below : place < area.height :=
    (List.getElem?_eq_some_iff.mp found).1.trans_le (paragraph.length_fitted_le area)
  exact ⟨area.top + place, Nat.le_add_right .., Nat.add_lt_add_left below _,
    hasGlyphs_draw covers found fits.columns_pos fits.total⟩

/-- Every cell of the area has a sign of the paragraph, or at least its looks. -/
theorem cell?_draw {column row : Nat} (inside : area.Contains column row) {cell : Cell}
    (found : (paragraph.draw area screen).cell? column row = some cell) :
    (∃ line ∈ paragraph.fitted area, ∃ glyph ∈ line, ∃ old,
        cell = Cell.write glyph.sign glyph.style old) ∨
      ∃ old, cell = Cell.restyle paragraph.style old := by
  have some : ¬ area.isEmpty := by
    have columns := inside.left.trans_lt inside.right
    have rows := inside.top.trans_lt inside.bottom
    simp only [Area.right, Area.bottom] at columns rows
    simp only [Area.isEmpty, Bool.or_eq_true, decide_eq_true_eq]
    omega
  rw [draw, if_neg some] at found
  rcases Screen.cell?_writeLines _ found with ground | drawn
  · rw [Screen.cell?_restyle inside] at ground
    obtain ⟨old, -, made⟩ := Option.map_eq_some_iff.mp ground
    exact .inr ⟨old, made.symm⟩
  · exact .inl drawn

end Paragraph

end LSystemExplorer
