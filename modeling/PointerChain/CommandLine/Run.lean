import PointerChain.CommandLine.Configuration
import PointerChain.CommandLine.Target
import PointerChain.Disassembly
import PointerChain.Listing.Forest
import PointerChain.Release

/-!
# Runs of the program

A run loads the default configuration, reads the command line over it, loads a configuration that is
asked for and then reads the command line again, this time over both. It greets the user, starts the
log and runs the command.

* `runCommand` runs one command with its settings.
* `run` is a whole run.
-/

namespace PointerChain.CommandLine

/-- Resolves an expression and prints its address. -/
def runResolve (env : Environment) (settings : Settings) : Session Unit := do
  let process ← targetProcess .resolve settings
  let expression ← Session.setting settings "expression"
  let modules ← loadModules env settings
  let (_, source) ← selectSource env settings
  let bits ← Session.setting settings "bits"
  let strict ← Session.setting settings "strict"
  let target (modules : ModuleTable) : Target :=
    { process, modules, reader := source.reader, strict := strict.holds }
  let address ← Session.ofTraced process
    (resolveWith (.ok modules) target bits expression.shown)
  Session.print (Text.hexText address.toNat ++ "\n")

/-- Resolves an expression and disassembles the code at its address. -/
def runDisassemble (env : Environment) (settings : Settings) : Session Unit := do
  let process ← targetProcess .disassemble settings
  let (env, source) ← selectSource env settings
  let expression ← Session.setting settings "expression"
  let modules ← loadModules env settings
  let target : Target := { process, modules, reader := source.reader }
  let address ← Session.ofTraced process (resolve target 64 expression.shown)
  match source.readAmount process address.toNat (settings.get "length") with
  | .error (.read error) => Session.failRead error
  | .error (.crash c) => Session.crash c
  | .ok bytes =>
    let arch ← Session.orCrash
      ((Architecture.ofJson (settings.get "arch")).mapError .architecture)
    match disassemble env.disassembler arch bytes address.toNat with
    | .error fault => Session.fail (.ofDisassemblyFault fault)
    | .ok text =>
      Session.recordAll
        [⟨.detail3, "ptrchain.framework.disassembly",
          "Disassembled " ++ toString bytes.length ++ " bytes of " ++ arch.name ++ " at " ++
            Text.hexText address.toNat⟩]
      Session.print text

/-- Writes a listing as a document. -/
def runTree (env : Environment) (settings : Settings) : Session Unit := do
  let file ← Session.setting settings "file"
  match env.contents file with
  | .error (.refused fault) =>
    Session.refuse programName ("Unable to read listing " ++ file.shown ++ ": " ++ fault.message)
  | .error (.crash c) => Session.crash c
  | .ok contents =>
    let text ← Session.orCrash (decoded contents)
    let reading := Listing.Reading.ofText (String.ofList text)
    Session.recordAll (reading.skipped.map fun line =>
      ⟨.detail4, "ptrchain.framework.filetree",
        "Skipping listing line: " ++ Text.quoted line⟩)
    match reading.rows with
    | .error fault => Session.crash (.tooManyDigits fault.digits)
    | .ok rows =>
      Session.print ((Listing.forestDocument (Listing.forestOfRows rows)).pretty ++ "\n")

/-- Runs a command. -/
def runCommand (env : Environment) (command : Command) (settings : Settings) : Session Unit :=
  match command with
  | .resolve => runResolve env settings
  | .disassemble => runDisassemble env settings
  | .tree => runTree env settings

/-- Starts a log file, if one is set. -/
def startLog (env : Environment) (file : Json) : Session Environment := do
  if !file.holds then return env
  match file with
  | .string path =>
    let env ← Session.orCrash (env.openLog path)
    env.log.forM fun path => Trace.note (.logFile path)
    env.record [ownRecord .info "Logging started"]
  | j => Session.crash (.pathKind j.kindName)

/-- The command that a run is for, with its settings. A command that only a configuration names has
no settings. -/
def selectCommand (invocation : Invocation) : Session (Command × Settings) :=
  match invocation.command with
  | some command => return command
  | none => do
    match invocation.general.get mainGrammar.operand.key with
    | .null => Session.refuse programName "Please select a command to run"
    | name =>
      let command ← Session.orCrash (lookUp (Command.all.map fun c => (c.name, c)) name)
      return (command, [])

/-- Reads the command line over the configurations, with what is to be recorded about them. -/
def invocationOf (env : Environment) (line : List String) :
    Session (List LogRecord × Invocation) := do
  let (delayed, defaults) ← Session.orCrash (loadDefaults env)
  let invocation ← Session.ofParse (Invocation.parse env.edition [defaults] line)
  let file := invocation.general.get "config"
  if file.holds then
    -- The configuration may change what the command line means, so the line is read again.
    let configuration ← loadConfiguration env file
    let invocation ← Session.ofParse (Invocation.parse env.edition [defaults, configuration] line)
    return (delayed ++ [ownRecord .info ("Loading configuration from " ++ file.shown)], invocation)
  else return (delayed, invocation)

/-- A run of the program. -/
def run (env : Environment) (line : List String) : Session Unit := do
  let (delayed, invocation) ← invocationOf env line
  let general := invocation.general
  if !(general.get "quiet").holds then
    Session.report (programName ++ " " ++ Release.current.text ++ "\n")
  let env ← startLog env (general.get "log")
  let level := Level.ofVerbosity (general.get "verbosity")
  Trace.note (.threshold (← Session.orCrash (level.mapError .verbosity)))
  -- What there is to say about configurations had to wait for the log file.
  let env ← env.record delayed
  let (command, settings) ← selectCommand invocation
  runCommand env command settings

end PointerChain.CommandLine
