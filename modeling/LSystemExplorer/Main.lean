import LSystemExplorer.CommandLine.Program
import Std.Time.DateTime.PlainDateTime
import Std.Time.DateTime.Timestamp

/-!
# The program

The outermost layer: files, the environment, the clock and the streams.  What the
program does with them is said elsewhere, for any host.
-/

set_option autoImplicit false

namespace LSystemExplorer

/-- The variable of the environment that holds the filter of the log. -/
def logVariable : String := "FRACTTY_LOG"

/-- What the system reports, as a fault. -/
def FileFault.ofError : IO.Error → FileFault
  | .noFileOrDirectory .. => .notFound
  | .inappropriateType _ code _ => if code = 20 then .notDirectory else .isDirectory
  | .invalidArgument _ code details => if code = 36 then .nameTooLong else .other details
  | error => .other (toString error)

/-- The files of the disk. -/
def diskHost : Host IO where
  create path := do
    try
      IO.FS.writeFile path ""
      return .ok ()
    catch error => return .error (.ofError error)
  read path := do
    try
      return .ok (← IO.FS.readBinFile path)
    catch error => return .error (.ofError error)

/-- A number in decimal digits, with zeros before it up to a width. -/
def paddedDigits (width : Nat) (number : Int) : String :=
  let digits := (toString number).toList
  String.ofList (List.replicate (width - digits.length) '0' ++ digits)

/-- The present time, as it stands at the beginning of a line of the log. -/
def timeStamp : IO String := do
  let now ← Std.Time.Timestamp.now
  let time := Std.Time.PlainDateTime.ofWallTime
    (Std.Time.WallTime.ofNanoseconds now.toNanosecondsSinceUnixEpoch)
  let pair (number : Int) : String := paddedDigits 2 number
  let date := s!"{paddedDigits 4 time.year}-{pair time.month.val}-{pair time.day.val}"
  let clock := s!"{pair time.hour.val}:{pair time.minute.val}:{pair time.second.val}"
  return s!"{date}T{clock}.{paddedDigits 6 (time.nanosecond.val / 1000)}Z"

/-- The lines of the log with the time in front of them.  Levels are aligned on the
right. -/
def stampedLog (events : List LogEvent) : IO String := do
  let stamp ← timeStamp
  return String.join (events.map fun event =>
    let blanks := String.ofList (List.replicate (6 - event.level.label.length) ' ')
    stamp ++ blanks ++ event.line)

end LSystemExplorer

open LSystemExplorer in
/-- Run the program with the words of its command line, write its log where it asks for, print
what it prints, and end with its exit code. -/
def main (words : List String) : IO UInt32 := do
  let filter := LogFilter.read (← IO.getEnv logVariable)
  let ending ← Program.run diskHost filter words
  let log ← stampedLog ending.events
  match ending.logFile with
  | some path => if !log.isEmpty then IO.FS.writeFile path log
  | none => IO.eprint log
  IO.print ending.output
  IO.eprint ending.complaint
  return ending.exitCode.toUInt32
