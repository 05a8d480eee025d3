import LSystemExplorer.Decimal.Text
import LSystemExplorer.Text.Pattern
import LSystemExplorer.Text.Quoted

/-!
# The log

While it works the program notes events.  Each has a level, says which part of
the program it comes from, and carries a message and named values.  A filter decides
which of them are written.
-/

set_option autoImplicit false

namespace LSystemExplorer

/-! ## Events -/

/-- How much an event matters. -/
inductive LogLevel
  | error
  | warn
  | info
  | debug
  | trace
  deriving Repr, DecidableEq

namespace LogLevel

/-- The number of levels that matter at least as much. -/
def rank : LogLevel → Nat
  | .error => 1
  | .warn => 2
  | .info => 3
  | .debug => 4
  | .trace => 5

/-- How a line of the log names the level. -/
def label : LogLevel → String
  | .error => "ERROR"
  | .warn => "WARN"
  | .info => "INFO"
  | .debug => "DEBUG"
  | .trace => "TRACE"

end LogLevel

/-- Something that the program notes while it works. -/
structure LogEvent where
  level : LogLevel
  target : String
  message : String
  fields : List (String × String)
  deriving Repr, DecidableEq

namespace LogEvent

/-- A line of the log, without the time and the blanks in front of it. -/
def line (event : LogEvent) : String :=
  let fields := event.fields.map fun field => s!" {field.1}={field.2}"
  s!"{event.level.label} {event.target}: {event.message}{String.join fields}\n"

/-- The event carries something of that name. -/
def carries (event : LogEvent) (name : String) : Bool :=
  name = "message" || (event.fields.lookup name).isSome

/-- A model was taken from the catalog. -/
def loadedModel (name : String) (iterations rules : Nat) : LogEvent :=
  ⟨.debug, "fractty::catalog", "loaded model",
    [("model", Text.quoted name.toList), ("iterations", toString iterations),
      ("rules", toString rules)]⟩

/-- A catalog was read from a file. -/
def loadedCatalog (path : String) (models : Nat) : LogEvent :=
  ⟨.info, "fractty::catalog", "loaded catalog", [("path", path), ("models", toString models)]⟩

/-- The catalog is complete, wherever it came from. -/
def catalogReady (models : Nat) : LogEvent :=
  ⟨.info, "fractty", "catalog ready", [("models", toString models)]⟩

/-- A model was drawn. -/
def renderedScene (name : String) (angle : Float) (patternLength segments : Nat) : LogEvent :=
  ⟨.debug, "fractty::scene", "rendered scene",
    [("model", Text.quoted name.toList), ("angle_step", Decimal.tagged angle),
      ("pattern_len", toString patternLength), ("segments", toString segments)]⟩

end LogEvent

/-! ## Filters

A filter decides which events are written.  It is a list of directives; for an event
the most specific directive that is about it decides, by comparing levels.

A directive is written as a level, or as `target[span]=level`, of which all but one
part may be left out.  The span is a name and, in curly brackets, a field that has to be
there, which may be asked to have a value.  Nothing of what the program notes happens
within a span, so a directive with the name of a span, or with a value, is about no
event.
-/

/-- One part of a filter: events of some target, with some field, are written up to
a level.  The level is given by its rank, and zero stands for none. -/
structure LogDirective where
  /-- The beginning of the targets. -/
  target : Option String := none
  /-- A field that an event has to carry. -/
  field : Option String := none
  /-- The rank of the highest level that is written. -/
  rank : Nat := LogLevel.trace.rank
  /-- It is only about what happens within spans. -/
  withinSpan : Bool := false
  deriving Repr, DecidableEq

namespace LogDirective

/-- The directive about all events, up to a level. -/
def upTo (rank : Nat) : LogDirective := { rank }

/-- The directive is about the event: its target begins as the directive says, and it carries
the field. -/
def concerns (directive : LogDirective) (event : LogEvent) : Bool :=
  !directive.withinSpan &&
    (directive.target.all fun target => target.toList.isPrefixOf event.target.toList) &&
    directive.field.all event.carries

/-- The length of the target, where an absent one is shorter than all others. -/
def reach (directive : LogDirective) : Nat :=
  match directive.target with
  | none => 0
  | some target => target.utf8ByteSize + 1

/-- The directive is at least as specific as another one about the same event: its
target is longer, or it asks for a field, which is the last one in the order of
texts. -/
def covers (directive other : LogDirective) : Bool :=
  other.reach < directive.reach ||
    (other.reach = directive.reach &&
      match other.field, directive.field with
      | none, _ => true
      | some _, none => false
      | some otherName, some name => !decide (name < otherName))

/-! ### Reading -/

/-- The rank of a level, given by its number, or by its name in any mixture of
cases. -/
def rank? (text : List Char) : Option Nat :=
  let digits := if text.head? = some '+' then text.drop 1 else text
  if !digits.isEmpty && digits.all Char.isDigit then
    let number := Decimal.digitsValue digits
    if number ≤ LogLevel.trace.rank then some number else none
  else
    [("off", 0), ("error", 1), ("warn", 2), ("info", 3), ("debug", 4), ("trace", 5)].lookup
      (String.ofList (text.map Char.toLower))

/-- What comes next in a directive.  Where a part has begun, its first octet is
given. -/
inductive Stage
  | start
  | name (first : Nat)
  | span (first : Nat)
  | field (first : Nat)
  | spanEnd
  /-- The sign between the span and the level. -/
  | equals
  | level (first : Nat)
  deriving Repr, DecidableEq

/-- The octets of a text from `first` on and before `last`, if they are a text. -/
def slice? (text : String) (first last : Nat) : Option String :=
  String.fromUTF8? (text.toUTF8.extract first last)

/-- The character may stand at the beginning of a target. -/
def beginsTarget (character : Char) : Bool :=
  character ∈ ['-', ':', '_'] || Text.isAlphanumeric character

/-- Take a field, which may be asked to have a value: a number or a pattern for
texts. -/
def takeField? (directive : LogDirective) (text : String) : Option LogDirective :=
  if text = "" then none
  else
    match text.splitOn "=" with
    | name :: value :: _ =>
      if (Decimal.read? value.toList).isSome || Pattern.isValid value.toList then
        some { directive with field := some name, withinSpan := true }
      else none
    | _ => some { directive with field := some text }

/-- Go on by the character whose first octet is at `place`. -/
def step? (text : String) (directive : LogDirective) (stage : Stage) (place : Nat)
    (character : Char) : Option (LogDirective × Stage) :=
  match stage, character with
  | .start, '[' => some (directive, .span (place + 1))
  | .start, character => if beginsTarget character then some (directive, .name place) else none
  | .name first, '=' =>
    (slice? text first place).map fun target =>
      ({ directive with target := some target }, .level (place + 1))
  | .name first, '[' =>
    (slice? text first place).map fun target =>
      ({ directive with target := some target }, .span (place + 1))
  | .span first, ']' =>
    (slice? text first place).map fun _ => ({ directive with withinSpan := true }, .equals)
  | .span first, '\x7b' =>
    (slice? text first place).map fun name =>
      ({ directive with withinSpan := name ≠ "" }, .field (place + 1))
  | .field first, '\x7d' =>
    ((slice? text first place).bind directive.takeField?).map (·, .spanEnd)
  | .spanEnd, ']' => some (directive, .equals)
  | .equals, '=' => some (directive, .level (place + 1))
  | .spanEnd, _ | .equals, _ => none
  | stage, _ => some (directive, stage)

/-- The directive after its last character.  A level that is left out is the highest,
and what stands alone is a target if it is no level. -/
def finish? (text : String) (directive : LogDirective) (stage : Stage) :
    Option LogDirective :=
  match stage with
  | .name first =>
    (slice? text first text.utf8ByteSize).map fun name =>
      match rank? name.toList with
      | some rank => { directive with rank }
      | none => { directive with target := some name }
  | .level first =>
    (slice? text first text.utf8ByteSize).bind fun level =>
      if level = "" then some directive
      else (rank? level.toList).map fun rank => { directive with rank }
  | .equals => some directive
  | .start | .span _ | .field _ | .spanEnd => none

/-- Read the characters of a directive, of which the first begins at octet `place`. -/
def readFrom? (text : String) (directive : LogDirective) (stage : Stage) (place : Nat) :
    List Char → Option LogDirective
  | [] => directive.finish? text stage
  | character :: rest =>
    (directive.step? text stage place character).bind fun (directive, stage) =>
      readFrom? text directive stage (place + character.utf8Size) rest

/-- Read a directive.  White space at both ends is not looked at, but places are
counted from where the text without it begins, and the last part goes on to the end of
the text. -/
def read? (text : String) : Option LogDirective :=
  readFrom? text {} .start 0 (Text.trim text.toList)

end LogDirective

/-- The directives of a filter. -/
abbrev LogFilter := List LogDirective

namespace LogFilter

/-- The filter that counts when none is given or the given one is wrong. -/
def fallback : LogFilter := [LogDirective.upTo LogLevel.info.rank]

/-- Read a filter, whose directives are separated by commas.  A filter without any
writes errors alone. -/
def read (text : Option String) : LogFilter :=
  match text with
  | none => fallback
  | some text =>
    match ((text.splitOn ",").filter (· ≠ "")).mapM LogDirective.read? with
    | none => fallback
    | some [] => [LogDirective.upTo LogLevel.error.rank]
    | some directives => directives

/-- The most specific directive about an event; of several the last one counts. -/
def deciding (filter : LogFilter) (event : LogEvent) : Option LogDirective :=
  filter.foldl
    (fun best? directive =>
      if directive.concerns event && best?.all directive.covers then some directive else best?)
    none

/-- The filter lets the event through: a directive decides about it, and its level is not beyond
the one of the directive. -/
def passes (filter : LogFilter) (event : LogEvent) : Bool :=
  (filter.deciding event).any fun directive => event.level.rank ≤ directive.rank

end LogFilter

end LSystemExplorer
