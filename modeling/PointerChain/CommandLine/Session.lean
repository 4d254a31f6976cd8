import PointerChain.CommandLine.Crash
import PointerChain.CommandLine.Invocation
import PointerChain.Host.Path
import PointerChain.Log
import PointerChain.Trace

/-!
# Sessions

A session is a run as it unfolds: it prints, reports, keeps records and ends by itself, with an exit
status, or in a crash. The console shows the records that are important enough at their time; a log
file, once there is one, takes all records from then on.

* `Session` is a run; `Session.transcript` is what it leaves behind.
-/

namespace PointerChain.CommandLine

/-- Something that happens in a run. -/
inductive Note where
  /-- A text is printed. -/
  | printed (text : String)
  /-- A text is written to the console. -/
  | reported (text : String)
  /-- A record is kept. -/
  | recorded (record : LogRecord)
  /-- From now on the console shows the records of a level and those above. -/
  | threshold (level : Level)
  /-- From now on records are also appended to a file. -/
  | logFile (path : Host.Path)
  deriving DecidableEq, Repr

/-- What ends a run early. -/
inductive Stop where
  /-- The run ends with a status. -/
  | exit (status : Nat)
  /-- The run crashes. -/
  | crash (crash : Crash)

/-- A record of the doings of the program itself. -/
def ownRecord (level : Level) (text : String) : LogRecord := ⟨level, "ptrchain.cli", text⟩

/-- A run. -/
abbrev Session := Trace Note Stop

/-- The text that notes print. -/
def printedText : List Note → String
  | [] => ""
  | .printed text :: notes => text ++ printedText notes
  | _ :: notes => printedText notes

/-- What notes show on the console, from a threshold on. -/
def consoleText : Level → List Note → String
  | _, [] => ""
  | level, .reported text :: notes => text ++ consoleText level notes
  | level, .recorded record :: notes =>
    (if level.toNat ≤ record.level.toNat then record.consoleLine else "") ++
      consoleText level notes
  | _, .threshold level :: notes => consoleText level notes
  | level, _ :: notes => consoleText level notes

/-- The records that notes keep. -/
def recordsOf (notes : List Note) : List LogRecord :=
  notes.filterMap fun
    | .recorded record => some record
    | _ => none

/-- The log file of a run, if there is one, with the records that it takes. -/
def logFileOf : List Note → Option (Host.Path × List LogRecord)
  | [] => none
  | .logFile path :: notes => some (path, recordsOf notes)
  | _ :: notes => logFileOf notes

/-- What a run leaves behind. -/
structure Transcript where
  /-- What was printed. -/
  printed : String
  /-- What the console showed. -/
  console : String
  /-- The log file with what was appended to it. -/
  logFile : Option (Host.Path × List LogRecord)
  /-- The exit status, or the crash. -/
  ending : Except Crash Nat

namespace Session

variable {α : Type}

/-- What a run leaves behind. The console shows warnings only until it is told otherwise. -/
def transcript (x : Session Unit) : Transcript where
  printed := printedText x.events
  console := consoleText .warning x.events
  logFile := logFileOf x.events
  ending :=
    match x.result with
    | .ok () => .ok 0
    | .error (.exit status) => .ok status
    | .error (.crash c) => .error c

/-- Prints a text. -/
def print (text : String) : Session Unit := Trace.note (.printed text)

/-- Writes a text to the console. -/
def report (text : String) : Session Unit := Trace.note (.reported text)

/-- Keeps records. -/
def recordAll (records : List LogRecord) : Session Unit :=
  Trace.notes (records.map .recorded)

/-- Crashes. -/
def crash (c : Crash) : Session α := Trace.stop (.crash c)

/-- Ends the run with the report that it was used wrongly. -/
def refuse (program message : String) : Session α := do
  report (program ++ ": error: " ++ message ++ "\n")
  Trace.stop (.exit 2)

/-- Ends the run with the report of a failure. -/
def fail (failure : Failure) : Session α := do
  report failure.report
  Trace.stop (.exit 1)

/-- Goes on with a value, or crashes. -/
def orCrash (x : Except Crash α) : Session α :=
  match x with
  | .ok a => return a
  | .error c => crash c

/-- Goes on with an invocation, or ends as its fault demands. -/
def ofParse (x : Except InvocationFault Invocation) : Session Invocation :=
  match x with
  | .ok invocation => return invocation
  | .error (.usage program fault) => refuse program fault.message
  | .error (.count fault) => crash (.count fault)
  | .error .noShell => crash (.nameKind (Json.array []).kindName)
  | .error .finished => Trace.stop (.exit 0)

/-- The value of a setting; a run crashes without it. -/
def setting (settings : Settings) (key : String) : Session Json :=
  match settings.find? key with
  | some value => return value
  | none => crash (.missingSetting key)

end Session

end PointerChain.CommandLine
