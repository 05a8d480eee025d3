import LSystemExplorer.Catalog.Load
import LSystemExplorer.CommandLine.Words
import LSystemExplorer.CommandLine.Log
import LSystemExplorer.Drawing.Scene

/-!
# Subcommands that print

A subcommand that prints something works on a catalog and makes a report: the
text that was written, the events that were noted, and the failure if there was
one.  The angle of a traced drawing is held in the range of the viewer, so that
both draw the same.
-/

set_option autoImplicit false

namespace LSystemExplorer

/-- Why a subcommand fails. -/
inductive CommandError
  | unknownModel (name : String)
  | invalidAngle (angle : Float)
  | invalidExtent (extent : Float)
  | underflow (fault : Underflow)
  deriving DecidableEq

/-- The wording of such a failure. -/
def CommandError.message : CommandError → String
  | .unknownModel name => s!"No model named '{name}' in the catalog"
  | .invalidAngle angle =>
    s!"Angle must be a finite number of degrees, got {Decimal.plain angle}"
  | .invalidExtent extent =>
    s!"Extent must be a positive finite number, got {Decimal.plain extent}"
  | .underflow fault => fault.message

/-- The outcome of a subcommand: what it writes, what it notes in the log, and why it failed, if
it did. -/
structure Report where
  written : String
  events : List LogEvent
  failure : Option CommandError

namespace Report

/-- The subcommand writes a text, and that is all. -/
def writing (text : String) : Report := ⟨text, [], none⟩

/-- The subcommand fails before it writes or notes anything. -/
def failing (error : CommandError) : Report := ⟨"", [], some error⟩

/-- The text with blanks before it, up to a width. -/
def padLeft (width : Nat) (text : String) : String :=
  "".pushn ' ' (width - text.length) ++ text

/-- The text with blanks behind it, up to a width. -/
def padRight (width : Nat) (text : String) : String :=
  text.pushn ' ' (width - text.length)

/-- The line about a model: its place, its name, its number of passes, and its angle. -/
def modelLine (place : Nat) (model : Model Float) : String :=
  padLeft 2 (toString place) ++ "  " ++ padRight 16 model.name ++
    s!" iterations={model.iterations} angle={Decimal.plain model.angleStep}°\n"

/-- List the models, a line for each. -/
def list (catalog : Catalog Float) : Report :=
  writing (String.join (catalog.models.zipIdx.map fun entry => modelLine entry.2 entry.1))

/-- Write the word of a model. -/
def generate (model : Model Float) : Report :=
  writing (String.ofList (model.generate ++ ['\n']))

/-- The line about a segment: the two coordinates of its start and of its end, with three places
each and blanks between them. -/
def segmentLine (segment : Segment Float) : String :=
  String.intercalate " "
    ([segment.start.x, segment.start.y, segment.finish.x, segment.finish.y].map
      (Decimal.fixed 3)) ++ "\n"

/-- The angle of a traced drawing: the one that is asked for or the model's own, held
in the range of the viewer. -/
def traceAngle (model : Model Float) (requested : Option Float) : Except CommandError Float :=
  let angle := requested.getD model.angleStep
  if angle.isFinite then .ok (AngleRange.fit angle) else .error (.invalidAngle angle)

/-- The square in which a drawing is traced. -/
def square (extent : Float) : Viewport Float := ⟨extent, extent, 0⟩

/-- The segments of a model, one on each line. -/
def trace (model : Model Float) (requested : Option Float) (extent : Float) : Report :=
  if extent.isFinite && 0 < extent then
    match traceAngle model requested with
    | .error error => failing error
    | .ok angle =>
      match Scene.render model angle (square extent) with
      | .error fault => failing (.underflow fault)
      | .ok scene =>
        { written := String.join (scene.segments.map segmentLine)
          events :=
            [LogEvent.renderedScene model.name angle scene.patternLength scene.segments.length]
          failure := none }
  else failing (.invalidExtent extent)

/-- Look a model up and report about it. -/
def about (catalog : Catalog Float) (name : String) (report : Model Float → Report) : Report :=
  match catalog.find? name with
  | some (_, model) => report model
  | none => failing (.unknownModel name)

/-- Carry out a subcommand; the viewer prints nothing. -/
def run (catalog : Catalog Float) : Subcommand → Report
  | .view _ => writing ""
  | .list => list catalog
  | .generate name => about catalog name generate
  | .trace name angle extent => about catalog name fun model => trace model angle extent

end Report

end LSystemExplorer
