import LSystemExplorer.Screen.Border
import LSystemExplorer.Screen.Cells
import LSystemExplorer.Screen.Dots
import LSystemExplorer.Screen.Paragraph
import LSystemExplorer.Viewer.Frame
import LSystemExplorer.Viewer.Session

/-!
# The viewer on a screen

A frame is drawn pane by pane on a screen: the drawing, the model, and the status
line.
-/

set_option autoImplicit false

namespace LSystemExplorer.Palette

/-! ## Colours

All colours that the viewer uses, named for what they are used for.
-/

/-- Text. -/
def text : Color := .rgb 205 214 244

/-- Headings and the angle: blue. -/
def primary : Color := .rgb 137 180 250

/-- The last model: orange. -/
def secondary : Color := .rgb 250 179 135

/-- Labels and separators: grey. -/
def faint : Color := .rgb 108 112 134

/-- The first model: green. -/
def success : Color := .rgb 166 227 161

/-- What went wrong: red. -/
def failure : Color := .rgb 243 139 168

/-- Borders: grey. -/
def border : Color := .rgb 108 112 134

/-- Behind the status line. -/
def statusGround : Color := .rgb 50 50 70

/-- The lines of the drawing: teal. -/
def stroke : Color := .rgb 148 226 213

/-- The symbols that rules replace: yellow. -/
def symbol : Color := .rgb 249 226 175

end LSystemExplorer.Palette

namespace LSystemExplorer.DrawingPane

/-! ## The pane with the drawing

The pane has the name of the model in its border.  Inside of it is the drawing, or
the reason why there is none.
-/

/-- The border of the pane, with the name of the model. -/
def border (name : String) : Border where
  title := s!" {name} "
  style := .colored Palette.border
  titleStyle := (Style.colored Palette.primary).inBold

/-- What is shown instead of a drawing. -/
def explanation (underflow : Underflow) : Paragraph where
  lines := [[⟨"Cannot draw this model:", .plain⟩], [⟨underflow.message, .plain⟩]]
  alignment := .center
  fit := .wrapTrimmed
  style := .colored Palette.failure

/-- Draw the pane: a border, and inside of it the drawing, or the reason for having none. -/
def draw (frame : Frame Float) (area : Area) (screen : Screen) : Screen :=
  let border := border frame.model.name
  match frame.scene with
  | .ok scene =>
    (border.draw area screen).drawScene area.inside frame.viewport Palette.stroke scene
  | .error underflow =>
    let explanation := explanation underflow
    explanation.draw area.inside (border.draw area (screen.restyle area explanation.style))

end LSystemExplorer.DrawingPane

namespace LSystemExplorer.ModelPane

/-! ## The pane with the model

The pane lists what makes up the model: its numbers, the word it starts from, its
rules in the order of their symbols, and how large the drawing has become.
-/

/-- The number of columns for the names of the numbers. -/
def labelWidth : Nat := 10

/-- A name with blanks behind it, so that the values stand below each other. -/
def padded (name : String) : String :=
  String.ofList (name.toList ++ List.replicate (labelWidth - name.length) ' ')

/-- The line about a number: its name and its value. -/
def field (name value : String) : Line :=
  [⟨padded name, .colored Palette.faint⟩, ⟨value, .colored Palette.text⟩]

/-- The line above a part of the pane. -/
def heading (text : String) : Line :=
  [⟨text, (Style.colored Palette.primary).inBold⟩]

/-- The line between two parts of the pane. -/
def emptyLine : Line := []

/-- The text of a replacement; the empty word has a sign of its own. -/
def replacementText (replacement : Word) : String :=
  if replacement.isEmpty then "ε" else String.ofList replacement

/-- The line about a rule: the symbol, an arrow, and its replacement. -/
def ruleLine (rule : Char × Word) : Line :=
  [⟨"  ", .plain⟩,
    ⟨String.singleton rule.1, (Style.colored Palette.symbol).inBold⟩,
    ⟨" → ", .colored Palette.faint⟩,
    ⟨replacementText rule.2, .colored Palette.text⟩]

/-- The lines of some rules, one for each, in the order of the symbols. -/
def ruleLines (rules : Rules) : List Line :=
  rules.entries.map ruleLine

/-- The lines about rules of the pass after the last, if there are any. -/
def finalRuleLines (rules : Rules) : List Line :=
  if rules.entries.isEmpty then []
  else emptyLine :: heading "Final rules" :: ruleLines rules

/-- The lines about a scene: how long the word is and how many segments were drawn, or why the
model cannot be drawn. -/
def sceneLines {α : Type} : Except Underflow (Scene α) → List Line
  | .ok scene =>
    [field "Symbols" (toString scene.patternLength),
      field "Segments" (toString scene.segments.length)]
  | .error underflow => [[⟨underflow.message, .colored Palette.failure⟩]]

/-- The lines about the numbers of a model, its place in the catalog and the present angle among
them. -/
def numberLines (frame : Frame Float) : List Line :=
  let model := frame.model
  let degrees (angle : Float) : String := s!"{Decimal.fixed 1 angle}°"
  let coordinate := Decimal.fixed 3
  [field "Model" s!"{frame.place + 1}/{frame.total}",
    field "Iter" (toString model.iterations),
    field "Angle" s!"{degrees frame.angle} (default {degrees model.angleStep})",
    field "Heading" (degrees model.heading),
    field "Start" s!"({coordinate model.position.x}, {coordinate model.position.y})",
    field "Shrink" s!"÷{Decimal.plain model.segments}"]

/-- The lines of the pane, from top to bottom. -/
def lines (frame : Frame Float) : List Line :=
  let model := frame.model
  numberLines frame ++
    [emptyLine, heading "Axiom",
      [⟨s!"  {String.ofList model.seed}", .colored Palette.text⟩],
      emptyLine, heading "Rules"] ++
    ruleLines model.rules ++ finalRuleLines model.finalRules ++
    emptyLine :: sceneLines frame.scene

/-- The border of the pane. -/
def border : Border where
  title := " Model "
  style := .colored Palette.border

/-- The text of the pane. -/
def paragraph (frame : Frame Float) : Paragraph where
  lines := lines frame
  fit := .wrap

/-- Where the text stands in the pane: inside of the border, with a blank column on each side. -/
def textArea (area : Area) : Area :=
  area.inside.inset 1 0

/-- Draw the pane: a border, and inside of it the text. -/
def draw (frame : Frame Float) (area : Area) (screen : Screen) : Screen :=
  (paragraph frame).draw (textArea area) (border.draw area screen)

end LSystemExplorer.ModelPane

namespace LSystemExplorer

/-! ## The status line

On the left are the angle and what was reported last, on the right the keys and,
if there is something to point out, a badge.
-/

/-- The wording of a status. -/
def Status.message : Status Float → String
  | .ready => "Ready!"
  | .showing name => s!"Model: {name}"
  | .turned angle => s!"Angle {Decimal.fixed 1 angle}°"
  | .angleReset angle => s!"Angle reset to {Decimal.fixed 1 angle}°"
  | .atFirst => "Already at the first model"
  | .atLast => "Already at the last model"
  | .failed underflow => underflow.message

namespace Badge

/-- What a badge says. -/
def word : Badge → String
  | .failure => "ERROR"
  | .last => "LAST"
  | .first => "FIRST"

/-- The text of a badge, with a blank on either side. -/
def label (badge : Badge) : String :=
  s!" {badge.word} "

/-- The colour of a badge. -/
def color : Badge → Color
  | .failure => Palette.failure
  | .last => Palette.secondary
  | .first => Palette.success

/-- A badge as it is drawn. -/
def span (badge : Badge) : Span :=
  ⟨badge.label, (Style.on .black badge.color).inBold⟩

end Badge

namespace StatusLine

/-- The left half of the status line: the angle, and what was reported last. -/
def reportLine (frame : Frame Float) : Line :=
  let failed := frame.hasFailed
  let angleGround := if failed then Palette.failure else Palette.primary
  let messageColor := if failed then Palette.failure else Palette.text
  [⟨s!" ∠ {Decimal.fixed 1 frame.angle}° ", (Style.on .black angleGround).inBold⟩,
    ⟨" | ", .on Palette.faint Palette.statusGround⟩,
    ⟨s!" {frame.status.message} ", .on messageColor Palette.statusGround⟩]

/-- A key as it is printed on the keyboard. -/
def key (label : String) : Span :=
  ⟨label, .on .black Palette.faint⟩

/-- What a key is for. -/
def purpose (text : String) : Span :=
  ⟨text, .on Palette.text Palette.statusGround⟩

/-- A line between two keys. -/
def separator : Span :=
  ⟨"│", .on Palette.faint Palette.statusGround⟩

/-- The keys, and what they are for. -/
def keyLine : Line :=
  [key " ←/→ ", purpose " model ", separator, purpose " ",
    key " ↑/↓ ", purpose " angle (ctrl ×10) ", separator, purpose " ",
    key " r ", purpose " reset ", separator, purpose " ",
    key "q", purpose " quit "]

/-- What stands behind the keys, if there is something to point out. -/
def badgeLine : Option Badge → Line
  | none => []
  | some badge => [separator, badge.span]

/-- The right half of the status line: the keys, and what there is to point out. -/
def helpLine (frame : Frame Float) : Line :=
  keyLine ++ badgeLine frame.badge?

/-- A line that stands in one half of the status line. -/
def half (line : Line) (alignment : Alignment) : Paragraph where
  lines := [line]
  alignment
  style := .ground Palette.statusGround

/-- Draw both halves of the status line. -/
def draw (frame : Frame Float) (status keys : Area) (screen : Screen) : Screen :=
  (half (helpLine frame) .right).draw keys ((half (reportLine frame) .left).draw status screen)

end StatusLine

/-! ## The whole frame -/

/-- Draw a frame on a screen, the panes first and the status line last. -/
def Frame.draw (frame : Frame Float) (screen : Screen) : Screen :=
  let panes := Panes.ofArea screen.area
  let screen := DrawingPane.draw frame panes.drawing screen
  let screen := ModelPane.draw frame panes.model screen
  StatusLine.draw frame panes.status panes.keys screen

/-- The screen of some size on which only the frame was drawn. -/
def Frame.screen (frame : Frame Float) (width height : Nat) : Screen :=
  frame.draw (Screen.blank width height)

/-- Show the present frame on an empty screen of some size. -/
def Viewer.display (viewer : Viewer Float) (width height : Nat) : Screen × Viewer Float :=
  let shown := viewer.present ⟨0, 0, width, height⟩
  (shown.1.screen width height, shown.2)

end LSystemExplorer
