import PointerChain.CommandLine.Run
import Std.Time.Format

/-!
# The program

The program gathers the files that its command line may consult, lets the run unfold as a value, and
then prints what the run leaves behind. This layer has no system call that copies memory of other
processes, and its reader of that name says so; nor can it read files from a position on, so that
memory files of processes are not among the files. It has no library that decodes code either.
-/

namespace PointerChain.CommandLine

/-- The paths in the settings that stand for files. -/
def pathsOf (settings : Settings) : List Host.Path :=
  ["config", "log", "modules", "file"].filterMap fun (key : String) =>
    match settings.find? key with
    | some (.string path) => some path
    | _ => none

/-- The paths in the settings of an invocation. -/
def Invocation.paths (invocation : Invocation) : List Host.Path :=
  pathsOf invocation.general ++
    match invocation.command with
    | some (_, settings) => pathsOf settings
    | none => []

/-- The paths that a run may consult, as far as the files that are there tell. -/
def consulted (env : Environment) (line : List String) : List Host.Path :=
  let before :=
    match loadDefaults env with
    | .ok (_, defaults) =>
      match Invocation.parse env.edition [defaults] line with
      | .ok invocation => invocation.paths
      | .error _ => []
    | .error _ => []
  match (invocationOf env line).result with
  | .ok (_, invocation) => before ++ invocation.paths
  | .error _ => before

/-- The length from which on no buffer can be had, as a process has no more addresses. -/
def bufferRoom : Nat := 0x800000000000

/-- The sources of memory that this layer offers. -/
def systemSources (files : Host.FileStore) : List (String × Source) :=
  [("vm", .unavailable { room := bufferRoom }),
    ("procfs", .ofProcessFiles { room := bufferRoom } files)]

/-- What was found under paths. -/
structure Findings where
  /-- The files that could be read. -/
  files : List (Host.Path × Host.Contents) := []
  /-- The directories. -/
  directories : List Host.Path := []

/-- The files and directories that were found, seen from a working directory. -/
def Findings.store (found : Findings) (working : Host.Path) : Host.FileStore :=
  let place := Host.Place.ofPath [] working
  let store : Host.FileStore :=
    { workingPlace := place, directories := found.directories.map place.ofPath }
  store.putAll found.files

/-- The paths that lead to the places on a path, with that path at the end. -/
def waypoints (path : Host.Path) : List Host.Path :=
  (List.range path.names.length).map fun n =>
    ⟨List.intercalate [Host.slash] (path.names.take (n + 1))⟩

/-- Adds what is found on a path: directories, and files that stand in the place of one. -/
def Findings.lookOn (found : Findings) (path : Host.Path) : IO Findings := do
  let place := (← IO.currentDir) / path.text
  let name := Text.Raw.ofString place.toString
  if ← place.isDir then return { found with directories := name :: found.directories }
  else if ← place.pathExists then return { found with files := (name, []) :: found.files }
  else return found

/-- Adds what is found under a path and on it. -/
def Findings.look (found : Findings) (path : Host.Path) : IO Findings := do
  let found ← (waypoints path).foldlM Findings.lookOn found
  try
    let bytes ← IO.FS.readBinFile path.text
    return { found with files := found.files ++ [(path, bytes.toList)] }
  catch _ => return found

/-- Appends records to a log file, each behind the time. -/
def appendRecords (stamp : String) (path : Host.Path) (records : List LogRecord) : IO Unit := do
  let handle ← IO.FS.Handle.mk path.text .append
  handle.putStr (logText stamp records)

/-- Prints what a run leaves behind, and gives the exit status. -/
def publish (stamp : String) (t : Transcript) : IO UInt32 := do
  (← IO.getStdout).putStr t.printed
  (← IO.getStderr).putStr t.console
  if let some (path, records) := t.logFile then appendRecords stamp path records
  match t.ending with
  | .ok status => return UInt32.ofNat status
  | .error c =>
    (← IO.getStderr).putStr (c.message ++ "\n")
    return 1

/-- Runs the program. Consulting one file may tell of further ones, twice at most. -/
def runProgram (line : List String) : IO UInt32 := do
  let home := (← IO.getEnv "HOME").getD "/"
  let defaultsPath := Host.Path.join home ".config/ptrchain/ptrchain.json"
  let working := toString (← IO.currentDir)
  let stamp := (← Std.Time.PlainDateTime.now).format "uu-MM-dd HH:mm:ss" ++ " "
  let environment (found : Findings) : Environment :=
    { files := found.store working, sources := systemSources, defaultsPath, stamp
      edition := .current, configurationDepth := 980, documentDepth := 980
      validator := Json.Bundle.validate
      disassembler := fun _ _ _ _ => .error "there is no disassembler" }
  let mut found : Findings ← ({} : Findings).look defaultsPath
  for _ in [0, 1, 2] do
    for path in consulted (environment found) line do
      found ← found.look path
  publish stamp (run (environment found) line).transcript

end PointerChain.CommandLine

/-- Runs the program on its arguments. -/
def main (arguments : List String) : IO UInt32 :=
  PointerChain.CommandLine.runProgram arguments
