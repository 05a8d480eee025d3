import LSystemExplorer.Decimal.Text

/-!
# Reading the command line

The words of a command line are read from left to right on two levels, before
and after the subcommand.  Each level knows some options.  An option is written
out behind two dashes or as a letter behind one, where letters may follow each
other; its value follows an equals sign, the letter, or as the next word, which
then must not look like an option.  Behind two dashes alone all words are taken
as they are.

The value of an option is examined when the next option comes or the level ends,
and the outer level ends after the inner one.  This decides which of several
errors is met first.
-/

set_option autoImplicit false

namespace LSystemExplorer

/-! ## What the command line asks for

The program is started with a subcommand or without any.  Without one it opens
the viewer, as the subcommand `view` does; the others print something and end.
Three options may be given with or without a subcommand.
-/

/-- What the program is to do.  Models are given by their names. -/
inductive Subcommand
  | view (model : Option String)
  | list
  | generate (model : String)
  /-- Print the segments of a model, turning by some angle, in a square. -/
  | trace (model : String) (angle : Option Float) (extent : Float)

/-- A command line that makes sense. -/
structure Arguments where
  catalog : Option String
  logFile : Option String
  wrap : Bool
  command : Option Subcommand

/-- The viewer takes over the terminal. -/
def Arguments.isInteractive (arguments : Arguments) : Bool :=
  match arguments.command with
  | none => true
  | some (.view _) => true
  | some _ => false

/-- Why a command line leads to nothing else. -/
inductive UsageError
  | displayHelp
  | displayVersion
  | unknownArgument
  | invalidSubcommand
  | missingRequiredArgument
  /-- An option has no value, or an empty one where that will not do. -/
  | invalidValue
  | valueValidation
  | tooManyValues
  | argumentConflict
  deriving Repr, DecidableEq

end LSystemExplorer

namespace LSystemExplorer.CommandLine

/-! ## Words -/

/-- What a value on the command line is for. -/
inductive Slot
  | catalog
  | logFile
  | wrap
  | model
  | angle
  | extent
  deriving Repr, DecidableEq

/-- What an option does. -/
inductive OptionKind
  | flag (slot : Slot)
  | valued (slot : Slot)
  | help
  | version
  deriving Repr, DecidableEq

/-- The words that are known on a level. -/
structure Level where
  long : List (String × OptionKind)
  short : List (Char × OptionKind)
  /-- What a word that is no option is for. -/
  word : Option Slot
  subcommands : List String

/-- The long options of both levels. -/
def sharedOptions : List (String × OptionKind) :=
  [("catalog", .valued .catalog), ("log-file", .valued .logFile), ("wrap", .flag .wrap),
    ("help", .help)]

/-- The level before the subcommand. -/
def outerLevel : Level where
  long := sharedOptions ++ [("version", .version)]
  short := [('h', .help), ('V', .version)]
  word := none
  subcommands := ["view", "list", "generate", "trace", "help"]

/-- The level behind a subcommand. -/
def innerLevel : String → Level
  | "view" =>
    { long := sharedOptions ++ [("model", .valued .model)]
      short := [('h', .help), ('m', .valued .model)]
      word := none
      subcommands := [] }
  | "generate" =>
    { long := sharedOptions, short := [('h', .help)], word := some .model, subcommands := [] }
  | "trace" =>
    { long := sharedOptions ++ [("angle", .valued .angle), ("extent", .valued .extent)]
      short := [('h', .help)]
      word := some .model
      subcommands := [] }
  | _ => { long := sharedOptions, short := [('h', .help)], word := none, subcommands := [] }

/-- An option whose value was not examined yet. -/
structure Pending where
  slot : Slot
  value : Option String

/-- What was read on a level. -/
structure Reading where
  given : List (Slot × String)
  /-- The option that was met last, unless it was examined. -/
  pending : Option Pending

namespace Reading

/-- Nothing was read yet. -/
def empty : Reading := ⟨[], none⟩

/-- The value that was given for a slot. -/
def value? (reading : Reading) (slot : Slot) : Option String :=
  reading.given.lookup slot

/-- The next word may be a value. -/
def awaitsValue (reading : Reading) : Bool :=
  reading.pending.any fun pending => pending.value.isNone

/-- What is wrong with a value, if anything is: files need names and numbers
digits. -/
def valueError? (slot : Slot) (value : String) : Option UsageError :=
  match slot with
  | .catalog => if value.isEmpty then some .invalidValue else none
  | .logFile => if value.isEmpty then some .invalidValue else none
  | .angle => if (Decimal.read? value.toList).isNone then some .valueValidation else none
  | .extent => if (Decimal.read? value.toList).isNone then some .valueValidation else none
  | .model => none
  | .wrap => none

/-- Take a value for a slot, which must not have one, if the value will do. -/
def give (reading : Reading) (slot : Slot) (value : String) : Except UsageError Reading :=
  if (reading.value? slot).isSome then .error .argumentConflict
  else
    match valueError? slot value with
    | some error => .error error
    | none => .ok { reading with given := (slot, value) :: reading.given }

/-- Examine the option that was met last. -/
def settle (reading : Reading) : Except UsageError Reading :=
  match reading.pending with
  | none => .ok reading
  | some ⟨_, none⟩ => .error .invalidValue
  | some ⟨slot, some value⟩ => { reading with pending := none }.give slot value

/-- An option without a value, or with one that is written right behind it. -/
def giveAtOnce (reading : Reading) (slot : Slot) (value : String) : Except UsageError Reading := do
  (← reading.settle).give slot value

/-- An option whose value is the next word. -/
def await (reading : Reading) (slot : Slot) : Except UsageError Reading := do
  return { ← reading.settle with pending := some ⟨slot, none⟩ }

/-- End with an error, unless a pending option ends with one of its own. -/
def finish (reading : Reading) (error : UsageError) : Except UsageError Reading := do
  let _ ← reading.settle
  throw error

end Reading

/-- Read an option that is written out, with its value if one is attached. -/
def readLong (level : Level) (option : List Char) (reading : Reading) :
    Except UsageError Reading :=
  let name := String.ofList (option.takeWhile (· ≠ '='))
  let attached :=
    match option.dropWhile (· ≠ '=') with
    | [] => none
    | _ :: value => some (String.ofList value)
  match level.long.lookup name, attached with
  | none, _ => .error .unknownArgument
  | some (.valued slot), some value => reading.giveAtOnce slot value
  | some (.valued slot), none => reading.await slot
  | some _, some _ => .error .tooManyValues
  | some (.flag slot), none => reading.giveAtOnce slot "true"
  | some .help, none => reading.finish .displayHelp
  | some .version, none => reading.finish .displayVersion

/-- Read options that are letters, one after the other. -/
def readShort (level : Level) : List Char → Reading → Except UsageError Reading
  | [], reading => .ok reading
  | letter :: rest, reading =>
    match level.short.lookup letter with
    | none => .error .unknownArgument
    | some .help => reading.finish .displayHelp
    | some .version => reading.finish .displayVersion
    | some (.flag slot) => do readShort level rest (← reading.giveAtOnce slot "true")
    | some (.valued slot) =>
      match rest with
      | [] => reading.await slot
      | '=' :: value => reading.giveAtOnce slot (String.ofList value)
      | value => reading.giveAtOnce slot (String.ofList value)

/-- Read a word that is no option: the value of the level, or a subcommand. -/
def readWord (level : Level) (literal : Bool) (word : String) (reading : Reading) :
    Except UsageError Reading :=
  match level.word with
  | some slot =>
    if (reading.value? slot).isSome then .error .unknownArgument
    else reading.giveAtOnce slot word
  | none =>
    if level.subcommands.isEmpty then .error .unknownArgument
    else if literal && level.subcommands.contains word then .error .unknownArgument
    else .error .invalidSubcommand

/-- The outcome of asking for help about some subcommands. -/
def helpAbout (level : Level) : List String → UsageError
  | [] => .displayHelp
  | [name] => if level.subcommands.contains name then .displayHelp else .invalidSubcommand
  | _ => .invalidSubcommand

/-- Read the words of a level, up to a subcommand if there is one, which is given
together with the words behind it.  Literal words are those behind two dashes. -/
def readLevel (level : Level) :
    List String → Bool → Reading → Except UsageError (Reading × Option (String × List String))
  | [], _, reading => .ok (reading, none)
  | word :: rest, true, reading => do
    readLevel level rest true (← readWord level true word reading)
  | word :: rest, false, reading => do
    if !reading.awaitsValue && level.subcommands.contains word then
      if word = "help" then throw (helpAbout level rest)
      return (reading, some (word, rest))
    match word.toList with
    | ['-', '-'] => readLevel level rest true reading
    | '-' :: '-' :: option => readLevel level rest false (← readLong level option reading)
    | '-' :: letter :: letters =>
      readLevel level rest false (← readShort level (letter :: letters) reading)
    | _ =>
      match reading.pending with
      | some ⟨slot, none⟩ =>
        readLevel level rest false { reading with pending := some ⟨slot, some word⟩ }
      | _ => readLevel level rest false (← readWord level false word reading)

/-- The number that was given for a slot. -/
def Reading.number? (reading : Reading) (slot : Slot) : Option Float :=
  (reading.value? slot).bind fun value => Decimal.read? value.toList

/-- The subcommand of a name, from what was read behind it. -/
def subcommand (name : String) (reading : Reading) : Except UsageError Subcommand :=
  match name, reading.value? .model with
  | "view", model => .ok (.view model)
  | "list", _ => .ok .list
  | _, none => .error .missingRequiredArgument
  | "generate", some model => .ok (.generate model)
  | _, some model =>
    .ok (.trace model (reading.number? .angle) ((reading.number? .extent).getD 1000))

/-- Read a command line, without the name of the program.  An option that is given
on both levels counts as it is given behind the subcommand. -/
def read (words : List String) : Except UsageError Arguments := do
  let (outer, rest) ← readLevel outerLevel words false Reading.empty
  let (inner, command) ←
    match rest with
    | none => pure (Reading.empty, none)
    | some (name, words) => do
      let (inner, _) ← readLevel (innerLevel name) words false Reading.empty
      let inner ← inner.settle
      let command ← subcommand name inner
      pure (inner, some command)
  let outer ← outer.settle
  let value? (slot : Slot) : Option String := inner.value? slot <|> outer.value? slot
  return ⟨value? .catalog, value? .logFile, (value? .wrap).isSome, command⟩

end LSystemExplorer.CommandLine
