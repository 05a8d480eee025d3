import LSystemExplorer.Catalog.Directory
import LSystemExplorer.CommandLine.Log
import LSystemExplorer.CommandLine.Report
import LSystemExplorer.CommandLine.Words

/-!
# A run of the program

A run reads the command line, makes the log file, loads the catalog and carries
out the subcommand.  What lies outside of the program, the files and the
terminal, is given by a host, and a run is written for any host: the disk, or a
directory that is a value.
-/

set_option autoImplicit false

namespace LSystemExplorer

/-- What a run needs from outside. -/
structure Host (m : Type → Type) where
  /-- Make a file, or empty it if it is there. -/
  create : String → m (Except FileFault Unit)
  read : String → m (Except FileFault ByteArray)

/-- What a run leaves behind. -/
structure Ending where
  exitCode : Nat
  output : String
  complaint : String
  /-- The events that pass the filter. -/
  events : List LogEvent
  logFile : Option String

namespace Ending

/-- The log of a run, a line for each event. -/
def logText (ending : Ending) : String :=
  String.join (ending.events.map LogEvent.line)

/-- What is written to the standard error stream.  Events go there only when there
is no log file. -/
def errorText (ending : Ending) : String :=
  if ending.logFile.isNone then ending.logText ++ ending.complaint else ending.complaint

end Ending

namespace Program

/-- What the option for the version prints. -/
def version : String := "fractty 0.1.0\n"

/-- How the program reports an error. -/
def complain (message : String) : String := s!"Error: {message}\n"

/-- How the program ends when the command line leads to nothing else. -/
def usageEnding : UsageError → Ending
  | .displayHelp => ⟨0, "", "", [], none⟩
  | .displayVersion => ⟨0, version, "", [], none⟩
  | _ => ⟨2, "", "", [], none⟩

/-- The catalog that is named on the command line, or the one that is always
there. -/
def loadCatalog {m : Type → Type} [Monad m] (host : Host m) (arguments : Arguments) :
    m (Except (CatalogError Float) (Catalog Float)) :=
  match arguments.catalog with
  | none => return Catalog.builtin
  | some path => return Catalog.ofFile path (← host.read path)

/-- What is noted while the catalog is loaded: each model, the file if there is one, and the
whole. -/
def loadEvents (arguments : Arguments) (catalog : Catalog Float) : List LogEvent :=
  (catalog.models.map fun model =>
    LogEvent.loadedModel model.name model.iterations model.rules.size) ++
    (arguments.catalog.toList.map fun path => LogEvent.loadedCatalog path catalog.size) ++
    [LogEvent.catalogReady catalog.size]

/-- What the program does with a catalog.  The viewer needs a terminal, and gets as
far as looking for one. -/
def reportOn (arguments : Arguments) (catalog : Catalog Float) :
    String × List LogEvent × Option String :=
  let noTerminal := some FileFault.noDevice.report
  match arguments.command with
  | none => ("", [], noTerminal)
  | some (.view none) => ("", [], noTerminal)
  | some (.view (some name)) =>
    match catalog.find? name with
    | some _ => ("", [], noTerminal)
    | none => ("", [], some (CommandError.unknownModel name).message)
  | some command =>
    let report := Report.run catalog command
    (report.written, report.events, report.failure.map CommandError.message)

/-- A run after the log file was made. -/
def runWithLog {m : Type → Type} [Monad m] (host : Host m) (filter : LogFilter)
    (arguments : Arguments) : m Ending := do
  let logs := arguments.logFile.isSome || !arguments.isInteractive
  let written (events : List LogEvent) : List LogEvent :=
    if logs then events.filter filter.passes else []
  match ← loadCatalog host arguments with
  | .error error => return ⟨1, "", complain error.message, [], arguments.logFile⟩
  | .ok catalog =>
    let (output, events, failure) := reportOn arguments catalog
    return {
      exitCode := if failure.isSome then 1 else 0
      output
      complaint := (failure.map complain).getD ""
      events := written (loadEvents arguments catalog ++ events)
      logFile := arguments.logFile }

/-- A run with the words of a command line, without the name of the program. -/
def run {m : Type → Type} [Monad m] (host : Host m) (filter : LogFilter)
    (words : List String) : m Ending := do
  match CommandLine.read words with
  | .error error => return usageEnding error
  | .ok arguments =>
    match arguments.logFile with
    | none => runWithLog host filter arguments
    | some path =>
      match ← host.create path with
      | .ok () => runWithLog host filter arguments
      | .error fault => return ⟨1, "", complain fault.report, [], some path⟩

end Program

/-! ## A directory as host -/

namespace Directory

/-- The host that works on a directory which is a value. -/
def host : Host (StateM Directory) where
  create path := do
    match (← get).write path ByteArray.empty with
    | .ok directory => set directory; return .ok ()
    | .error fault => return .error fault
  read path := return (← get).read path

/-- A run in a directory, and the directory afterwards. -/
def run (directory : Directory) (filter : LogFilter) (words : List String) :
    Ending × Directory :=
  let (ending, after) := (Program.run host filter words).run directory
  match ending.logFile with
  | none => (ending, after)
  | some path =>
    match after.write path ending.logText.toUTF8 with
    | .ok final => (ending, final)
    | .error _ => (ending, after)

end Directory

end LSystemExplorer
