import LSystemExplorer.Proofs.CommandLine.Rows
import LSystemExplorer.Proofs.Drawing.Resemblance
import LSystemExplorer.Proofs.Screen.Dots
import LSystemExplorer.Proofs.Screen.Lines
import LSystemExplorer.Proofs.Screen.Paragraphs
import LSystemExplorer.Viewer.Display

/-!
# Frames on the screen

A frame is drawn from what it holds and from nothing else.  Its scene is drawn as dots,
counted, and asked whether it failed, and none of this depends on the sign of a zero.  So
a scene can be put in the place of one that counts as the same, and the frame looks the
same on every screen (`Frame.draw_eq`).

What is seen of a frame is the dots in one pane and the numbers in the other.  The pane with the
model has a line for the place of the model, one for the angle, and two that say how large the
drawing is, or one that says why there is none (`Frame.facts`).  They stand in the pane row by
row, and the dots of the segments are set in the other pane, in a line for each of them
(`Frame.shownOn_screen`): the panes lie side by side and the status line below them, so what is
drawn later touches neither.
-/

set_option autoImplicit false

namespace LSystemExplorer

variable {frame : Frame Float} {scene : Except Underflow (Scene Float)}

/-! ## Scenes that count as the same -/

/-- The pane with the drawing shows the same dots, or the same reason for having none. -/
theorem DrawingPane.draw_eq (same : SameScene frame.scene scene) (area : Area)
    (screen : Screen) :
    DrawingPane.draw frame area screen = DrawingPane.draw { frame with scene } area screen := by
  obtain ⟨model, place, total, angle, viewport, shown, status, wraps⟩ := frame
  cases same with
  | ok scenes => exact Screen.drawScene_eq _ _ _ _ scenes
  | error underflow => rfl

/-- The lines about the drawing are the same. -/
theorem ModelPane.sceneLines_eq {shown : Except Underflow (Scene Float)}
    (same : SameScene shown scene) : ModelPane.sceneLines shown = ModelPane.sceneLines scene := by
  cases same with
  | ok scenes =>
      rw [ModelPane.sceneLines, ModelPane.sceneLines, scenes.patternLength,
        scenes.segments.length_eq]
  | error underflow => rfl

theorem ModelPane.lines_eq (same : SameScene frame.scene scene) :
    ModelPane.lines frame = ModelPane.lines { frame with scene } := by
  rw [ModelPane.lines, ModelPane.lines, ModelPane.sceneLines_eq same]
  rfl

theorem ModelPane.draw_eq (same : SameScene frame.scene scene) (area : Area)
    (screen : Screen) :
    ModelPane.draw frame area screen = ModelPane.draw { frame with scene } area screen := by
  rw [ModelPane.draw, ModelPane.draw, ModelPane.paragraph, ModelPane.paragraph,
    ModelPane.lines_eq same]

theorem StatusLine.draw_eq (same : SameScene frame.scene scene) (status keys : Area)
    (screen : Screen) :
    StatusLine.draw frame status keys screen =
      StatusLine.draw { frame with scene } status keys screen := by
  obtain ⟨model, place, total, angle, viewport, shown, reported, wraps⟩ := frame
  cases same with
  | ok scenes => rfl
  | error underflow => rfl

/-- **Frames look the same if their scenes count as the same.** -/
theorem Frame.draw_eq (same : SameScene frame.scene scene) (screen : Screen) :
    frame.draw screen = Frame.draw { frame with scene } screen := by
  rw [Frame.draw, Frame.draw, DrawingPane.draw_eq same, ModelPane.draw_eq same,
    StatusLine.draw_eq same]

/-! ## Where the panes are drawn -/

namespace Panes

variable {width height : Nat}

/-- The panes of a screen in numbers. -/
theorem ofArea_screen (width height : Nat) :
    ofArea ⟨0, 0, width, height⟩ =
      let drawn := min ((144 * width + 100) / 200) width
      let half := min ((100 * width + 100) / 200) width
      ⟨⟨0, 0, drawn, height - 1⟩, ⟨drawn, 0, width - (144 * width + 100) / 200, height - 1⟩,
        ⟨0, height - 1, half, min 1 height⟩,
        ⟨half, height - 1, width - (100 * width + 100) / 200, min 1 height⟩⟩ := by
  simp [ofArea, Area.splitLastRow, Area.splitColumns, Area.percentOfColumns]

end Panes

/-- The pane with the model is drawn in its rows, and not on its left. -/
theorem ModelPane.changes_draw (frame : Frame Float) (area : Area) (screen : Screen) :
    Screen.Changes (fun column row => area.left ≤ column ∧ row < area.bottom) screen
      (ModelPane.draw frame area screen) := by
  refine .trans ((border.changes_draw area screen).mono ?_)
    ((Paragraph.changes_draw (paragraph frame) (textArea area) _).mono ?_)
  · rintro column row ⟨left, -, bottom, -⟩
    exact ⟨left, bottom⟩
  · rintro column row ⟨left, top, bottom⟩
    simp only [textArea, Area.inside, Area.inset, Area.bottom] at left top bottom ⊢
    omega

/-- The halves of the status line are drawn in their rows. -/
theorem StatusLine.changes_draw (frame : Frame Float) (status keys : Area) (screen : Screen) :
    Screen.Changes (fun _ row => status.top ≤ row ∨ keys.top ≤ row) screen
      (StatusLine.draw frame status keys screen) := by
  refine .trans ((Paragraph.changes_draw _ status screen).mono ?_)
    ((Paragraph.changes_draw _ keys _).mono ?_)
  · rintro column row ⟨-, top, -⟩
    exact .inl top
  · rintro column row ⟨-, top, -⟩
    exact .inr top

/-- The pane with the drawing is drawn on the screen that there is. -/
theorem DrawingPane.changes_draw (frame : Frame Float) (area : Area) (screen : Screen) :
    Screen.Changes (fun _ _ => True) screen (DrawingPane.draw frame area screen) := by
  have outline (screen : Screen) :
      Screen.Changes (fun _ _ => True) screen ((border frame.model.name).draw area screen) :=
    ((border _).changes_draw area screen).mono fun _ _ _ => trivial
  unfold DrawingPane.draw
  dsimp only
  split
  · exact (outline screen).trans (Screen.changes_drawScene ..)
  · rename_i underflow _
    have ground : Screen.Changes (fun _ _ => True) screen
        (screen.restyle area (explanation underflow).style) :=
      .restyle (fun _ _ _ => trivial) screen _
    exact (ground.trans (outline _)).trans
      ((Paragraph.changes_draw (explanation underflow) area.inside _).mono fun _ _ _ => trivial)

/-! ## What a frame shows -/

/-- What is said of a scene: how long its word is and how many segments it has, or why there is
none. -/
def sceneFacts : Except Underflow (Scene Float) → List (List String)
  | .ok scene =>
    [["Symbols   ", toString scene.patternLength],
      ["Segments  ", toString scene.segments.length]]
  | .error underflow => [[underflow.message]]

/-- What is said of a frame with some scene: the place of its model, its angle, and what was drawn.
These are the texts of lines, piece by piece. -/
def Frame.facts (frame : Frame Float) (scene : Except Underflow (Scene Float)) :
    List (List String) :=
  let degrees (angle : Float) : String := s!"{Decimal.fixed 1 angle}°"
  ["Model     ", s!"{frame.place + 1}/{frame.total}"] ::
    ["Angle     ", s!"{degrees frame.angle} (default {degrees frame.model.angleStep})"] ::
    sceneFacts scene

/-- The lines of the pane with the model have these texts among them. -/
theorem Frame.exists_line_of_mem_facts {fact : List String}
    (member : fact ∈ frame.facts frame.scene) :
    ∃ line ∈ ModelPane.lines frame, line.map Span.text = fact := by
  have number {line : Line} (among : line ∈ ModelPane.numberLines frame) :
      line ∈ ModelPane.lines frame := by
    simp only [ModelPane.lines, List.append_assoc]
    exact List.mem_append_left _ among
  have drawn {line : Line} (among : line ∈ ModelPane.sceneLines frame.scene) :
      line ∈ ModelPane.lines frame :=
    List.mem_append_right _ (List.mem_cons_of_mem _ among)
  rw [facts, List.mem_cons, List.mem_cons] at member
  rcases member with rfl | rfl | member
  · exact ⟨_, number (List.mem_cons_self ..), rfl⟩
  · exact ⟨_, number (List.mem_cons_of_mem _ (List.mem_cons_of_mem _ (List.mem_cons_self ..))),
      rfl⟩
  · generalize shown : frame.scene = scene at member drawn
    cases scene with
    | ok scene =>
        rcases List.mem_cons.mp member with rfl | last
        · exact ⟨_, drawn (List.mem_cons_self ..), rfl⟩
        · rw [List.mem_singleton.mp last]
          exact ⟨_, drawn (List.mem_cons_of_mem _ (List.mem_cons_self ..)), rfl⟩
    | error underflow =>
        rw [List.mem_singleton.mp member]
        exact ⟨_, drawn (List.mem_cons_self ..), rfl⟩

/-- No line feeds are among these texts. -/
theorem Frame.not_mem_of_mem_facts {fact : List String} (member : fact ∈ frame.facts scene)
    {text : String} (among : text ∈ fact) : '\n' ∉ text.toList := by
  have count (number : Nat) : '\n' ∉ (toString number).toList :=
    (Decimal.Numeral.repr number).not_mem (by decide)
  have degrees (number : Float) : '\n' ∉ (Decimal.fixed 1 number).toList :=
    (Decimal.numeral_fixed 1 number).not_mem (by decide)
  have join {first second : String} (left : '\n' ∉ first.toList) (right : '\n' ∉ second.toList) :
      '\n' ∉ (first ++ second).toList := by
    rw [String.toList_append, List.mem_append]
    exact not_or.mpr ⟨left, right⟩
  have named {name value : String} (plain : '\n' ∉ name.toList) (here : '\n' ∉ value.toList)
      (among : text ∈ [name, value]) : '\n' ∉ text.toList := by
    rcases List.mem_pair.mp among with rfl | rfl
    · exact plain
    · exact here
  rw [facts, List.mem_cons, List.mem_cons] at member
  rcases member with rfl | rfl | member
  · exact named (by decide) (join (join (count _) (by decide)) (count _)) among
  · have angle (number : Float) : '\n' ∉ s!"{Decimal.fixed 1 number}°".toList :=
      join (degrees number) (by decide)
    exact named (by decide)
      (join (join (join (angle _) (by decide)) (angle _)) (by decide)) among
  · cases scene with
    | ok scene =>
        rcases List.mem_pair.mp member with rfl | rfl
        · exact named (by decide) (count _) among
        · exact named (by decide) (count _) among
    | error underflow =>
        rw [List.mem_singleton.mp member, List.mem_singleton] at among
        rw [among]
        exact join (by decide) (count _)

/-- A text stands in a row of the area, from its first column on: sign by sign, with none that
takes up no column. -/
def Screen.ShowsText (screen : Screen) (area : Area) (text : List Char) : Prop :=
  ∃ row glyphs, area.top ≤ row ∧ row < area.bottom ∧ glyphs.flatMap Glyph.sign = text ∧
    (∀ glyph ∈ glyphs, 0 < glyph.width) ∧ screen.HasGlyphs row area.left glyphs

/-- The dots of a scene are set in an area that was blank: a cell is blank if there is no dot in
it, and otherwise it has the braille character of the dots in it. -/
def Screen.ShowsDots (screen : Screen) (area : Area) (viewport : Viewport Float)
    (scene : Scene Float) : Prop :=
  ∀ column < area.width, ∀ row < area.height, ∃ bits : Nat,
    screen.cell? (area.left + column) (area.top + row) =
        some (if bits = 0 then Cell.blank
          else Cell.write [brailleSign bits] (.colored Palette.stroke) Cell.blank) ∧
      ∀ bit, bits.testBit bit ↔
        ∃ dot ∈ scene.dots viewport (2 * area.width) (4 * area.height),
          dot.cell area.width = row * area.width + column ∧ dot.bit.testBit bit

/-- What a screen shows of a frame, if the scene of the frame is this one. -/
structure Frame.ShownOn (frame : Frame Float) (scene : Except Underflow (Scene Float))
    (screen : Screen) : Prop where
  /-- Each of the facts has a line, and the line stands in the pane with the model, if the pane is
  wide enough for it and high enough for all lines. -/
  facts : ∀ fact ∈ frame.facts scene, ∃ line ∈ ModelPane.lines frame, line.map Span.text = fact ∧
    let area := ModelPane.textArea (Panes.ofArea screen.area).model
    (line.Fits area.width → (ModelPane.paragraph frame).rowsNeeded area.width ≤ area.height →
      screen.ShowsText area (fact.flatMap String.toList))
  /-- In any case the rows that the lines come out in stand in it, as far as there is room. -/
  rows : let area := ModelPane.textArea (Panes.ofArea screen.area).model
    ∀ place row, ((ModelPane.paragraph frame).fitted area)[place]? = some row →
      0 < area.width → Glyph.totalWidth row ≤ area.width →
        screen.HasGlyphs (area.top + place) area.left row
  /-- The dots are those of the scene. -/
  dots : ∀ drawn, scene = .ok drawn →
    screen.ShowsDots (Panes.ofArea screen.area).drawing.inside frame.viewport drawn
  /-- They make up a line for each segment. -/
  lines : ∀ drawn, scene = .ok drawn →
    let area := (Panes.ofArea screen.area).drawing.inside
    ∀ segment ∈ drawn.segments,
      segment.IsLine frame.viewport (2 * area.width) (4 * area.height)

/-! ## A frame on a screen -/

/-- A frame is drawn on the screen that there is. -/
theorem Frame.changes_draw (frame : Frame Float) (screen : Screen) :
    Screen.Changes (fun _ _ => True) screen (frame.draw screen) :=
  ((DrawingPane.changes_draw frame _ screen).trans
    ((ModelPane.changes_draw frame _ _).mono fun _ _ _ => trivial)).trans
    ((StatusLine.changes_draw frame _ _ _).mono fun _ _ _ => trivial)

theorem Frame.area_draw (frame : Frame Float) (screen : Screen) :
    (frame.draw screen).area = screen.area := by
  have size := frame.changes_draw screen
  rw [Screen.area, size.width, size.height, Screen.area]

/-- The text of the pane with the model is on the screen, above the status line. -/
theorem Panes.covers_text (screen : Screen) {column row : Nat}
    (inside : (ModelPane.textArea (ofArea screen.area).model).Contains column row) :
    column < screen.width ∧ row < screen.height ∧
      ¬ ((ofArea screen.area).status.top ≤ row ∨ (ofArea screen.area).keys.top ≤ row) := by
  obtain ⟨left, right, top, bottom⟩ := inside
  rw [Screen.area, ofArea_screen] at *
  simp only [ModelPane.textArea, Area.inside, Area.inset, Area.right, Area.bottom] at *
  omega

/-- The text of the pane with the model is drawn on the screen, and only the status line after
it. -/
theorem Frame.exists_canvas (frame : Frame Float) (screen : Screen) :
    ∃ canvas : Screen, canvas.Covers (ModelPane.textArea (Panes.ofArea screen.area).model) ∧
      Screen.Changes (fun _ row => (Panes.ofArea screen.area).status.top ≤ row ∨
          (Panes.ofArea screen.area).keys.top ≤ row)
        ((ModelPane.paragraph frame).draw (ModelPane.textArea (Panes.ofArea screen.area).model)
          canvas)
        (frame.draw screen) := by
  have size := (DrawingPane.changes_draw frame (Panes.ofArea screen.area).drawing screen).trans
    ((ModelPane.border.changes_draw (Panes.ofArea screen.area).model _).mono
      fun _ _ _ => trivial)
  refine ⟨_, fun column row inside => ?_, StatusLine.changes_draw frame _ _ _⟩
  obtain ⟨right, bottom, -⟩ := Panes.covers_text screen inside
  rw [size.width, size.height]
  exact ⟨right, bottom⟩

/-- Every row of the text that is not too wide stands in the pane. -/
theorem Frame.hasGlyphs_draw (frame : Frame Float) (screen : Screen) {place : Nat}
    {row : List Glyph}
    (found : ((ModelPane.paragraph frame).fitted
      (ModelPane.textArea (Panes.ofArea screen.area).model))[place]? = some row)
    (columns : 0 < (ModelPane.textArea (Panes.ofArea screen.area).model).width)
    (fits : Glyph.totalWidth row ≤
      (ModelPane.textArea (Panes.ofArea screen.area).model).width) :
    (frame.draw screen).HasGlyphs
      ((ModelPane.textArea (Panes.ofArea screen.area).model).top + place)
      (ModelPane.textArea (Panes.ofArea screen.area).model).left row := by
  obtain ⟨canvas, covers, later⟩ := frame.exists_canvas screen
  have below : place < (ModelPane.textArea (Panes.ofArea screen.area).model).height :=
    (List.getElem?_eq_some_iff.mp found).1.trans_le (Paragraph.length_fitted_le ..)
  refine (Paragraph.hasGlyphs_draw covers found columns fits).of_changes later fun column => ?_
  exact (Panes.covers_text screen
    ⟨Nat.le_refl _, Nat.lt_add_of_pos_right columns, Nat.le_add_right ..,
      Nat.add_lt_add_left below _⟩).2.2

/-- A fact whose line fits stands in the pane, if the pane is high enough for all lines. -/
theorem Frame.showsText_draw (frame : Frame Float) (screen : Screen) {fact : List String}
    (member : fact ∈ frame.facts frame.scene) {line : Line}
    (among : line ∈ ModelPane.lines frame) (texts : line.map Span.text = fact)
    (fits : line.Fits (ModelPane.textArea (Panes.ofArea screen.area).model).width)
    (room : (ModelPane.paragraph frame).rowsNeeded
        (ModelPane.textArea (Panes.ofArea screen.area).model).width ≤
      (ModelPane.textArea (Panes.ofArea screen.area).model).height) :
    (frame.draw screen).ShowsText (ModelPane.textArea (Panes.ofArea screen.area).model)
      (fact.flatMap String.toList) := by
  obtain ⟨canvas, covers, later⟩ := frame.exists_canvas screen
  have wraps : (ModelPane.paragraph frame).fit = .wrap := rfl
  obtain ⟨row, top, bottom, stands⟩ :=
    Paragraph.hasGlyphs_draw_line covers wraps among fits room
  have whole : ∀ span ∈ line, '\n' ∉ span.text.toList := fun span here =>
    not_mem_of_mem_facts member (texts ▸ List.mem_map_of_mem here)
  refine ⟨row, line.glyphs, top, bottom, ?_, fits.visible, ?_⟩
  · rw [Line.flatMap_sign_glyphs whole, ← texts, List.flatMap_map]
  · refine stands.of_changes later fun column => ?_
    exact (Panes.covers_text screen
      ⟨Nat.le_refl _, Nat.lt_add_of_pos_right fits.columns_pos, top, bottom⟩).2.2

/-- A cell inside of the pane with the drawing is on the screen, to the left of the pane with the
model and above the status line. -/
theorem Panes.drawing_apart (width height : Nat) {column row : Nat}
    (inside : column < (ofArea ⟨0, 0, width, height⟩).drawing.inside.width)
    (above : row < (ofArea ⟨0, 0, width, height⟩).drawing.inside.height) :
    let panes := ofArea ⟨0, 0, width, height⟩
    (panes.drawing.inside.left + column < width ∧ panes.drawing.inside.top + row < height) ∧
      ¬ (panes.model.left ≤ panes.drawing.inside.left + column ∧
        panes.drawing.inside.top + row < panes.model.bottom) ∧
      ¬ (panes.status.top ≤ panes.drawing.inside.top + row ∨
        panes.keys.top ≤ panes.drawing.inside.top + row) := by
  rw [ofArea_screen] at *
  simp only [Area.inside, Area.inset, Area.bottom] at *
  omega

/-- Inside of its border the pane with the drawing has the dots of the scene. -/
theorem DrawingPane.cell?_draw {drawn : Scene Float} (ok : frame.scene = .ok drawn) {area : Area}
    {column row : Nat} (inside : column < area.inside.width) (above : row < area.inside.height)
    (screen : Screen) :
    (DrawingPane.draw frame area screen).cell? (area.inside.left + column)
        (area.inside.top + row) =
      (screen.cell? (area.inside.left + column) (area.inside.top + row)).map
        (Screen.dotted Palette.stroke (Dot.bitsOf area.inside.width
          (row * area.inside.width + column)
          (drawn.dots frame.viewport (2 * area.inside.width) (4 * area.inside.height)))) := by
  have outline := (border frame.model.name).changes_draw area screen
  unfold DrawingPane.draw
  rw [ok]
  dsimp only
  rw [Screen.cell?_drawScene inside above,
    outline.kept _ _ (Area.not_onBorder_inside inside above)]

/-- The dots of a scene that was drawn stand in the other pane. -/
theorem Frame.showsDots_screen {drawn : Scene Float} (ok : frame.scene = .ok drawn)
    (width height : Nat) :
    (frame.screen width height).ShowsDots
      (Panes.ofArea ⟨0, 0, width, height⟩).drawing.inside frame.viewport drawn := by
  intro column inside row above
  obtain ⟨⟨right, bottom⟩, beside, higher⟩ := Panes.drawing_apart width height inside above
  have size : (Screen.blank width height).area = ⟨0, 0, width, height⟩ := rfl
  refine ⟨_, ?_, fun bit => Dot.testBit_bitsOf⟩
  rw [Frame.screen, Frame.draw, size, (StatusLine.changes_draw frame _ _ _).kept _ _ higher,
    (ModelPane.changes_draw frame _ _).kept _ _ beside,
    DrawingPane.cell?_draw ok inside above, Screen.cell?_blank _ _ right bottom]
  rfl

/-- **A frame is shown on the screen that it is drawn on.** -/
theorem Frame.shownOn_screen (frame : Frame Float) (width height : Nat) :
    frame.ShownOn frame.scene (frame.screen width height) := by
  have area : (frame.screen width height).area = (Screen.blank width height).area :=
    frame.area_draw _
  refine ⟨fun fact member => ?_, ?_, fun drawn ok => ?_, fun _ _ segment _ => segment.isLine _ _ _⟩
  · obtain ⟨line, among, texts⟩ := exists_line_of_mem_facts member
    refine ⟨line, among, texts, ?_⟩
    rw [area]
    intro pane fits room
    exact frame.showsText_draw _ member among texts fits room
  · rw [area]
    intro pane place row found columns fits
    exact frame.hasGlyphs_draw _ found columns fits
  · rw [area]
    exact frame.showsDots_screen ok width height

/-- It shows any scene that counts as the same as its own. -/
theorem Frame.shownOn_of_same (same : SameScene frame.scene scene) (width height : Nat) :
    frame.ShownOn scene (frame.screen width height) := by
  obtain ⟨facts, rows, dots, lines⟩ := Frame.shownOn_screen { frame with scene } width height
  have screen : Frame.screen { frame with scene } width height = frame.screen width height :=
    (Frame.draw_eq same _).symm
  have text : ModelPane.lines { frame with scene } = ModelPane.lines frame :=
    (ModelPane.lines_eq same).symm
  have paragraph : ModelPane.paragraph { frame with scene } = ModelPane.paragraph frame := by
    rw [ModelPane.paragraph, ModelPane.paragraph, text]
  rw [screen] at facts rows dots lines
  rw [paragraph] at facts rows
  rw [text] at facts
  exact ⟨facts, rows, dots, lines⟩

end LSystemExplorer
