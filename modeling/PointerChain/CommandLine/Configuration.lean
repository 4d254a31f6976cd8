import PointerChain.CommandLine.Environment
import PointerChain.CommandLine.Session
import PointerChain.Json.Writer
import PointerChain.Text.Encoding

/-!
# Configurations

A configuration is a JSON object whose fields override settings. The default configuration is loaded
whenever it is there, and one that is no object is ignored; a configuration that the user asks for
must be an object in a file that can be read.

* `loadDefaults` loads the default configuration, with what is to be recorded about it.
* `loadConfiguration` loads a configuration that is asked for.
-/

namespace PointerChain.CommandLine

/-- Why a configuration that is asked for cannot be used. -/
inductive ConfigurationFault where
  /-- The file cannot be opened. -/
  | refused (fault : Host.Fault)
  /-- The file is no JSON document. -/
  | malformed (fault : Json.Fault) (place : Json.Place)
  /-- The document is no object. -/
  | notObject

/-- The report of a configuration that cannot be used. -/
def ConfigurationFault.message (shown : String) : ConfigurationFault → String
  | refused fault => "Unable to load configuration " ++ shown ++ ": " ++ fault.message
  | malformed fault place =>
    "Unable to load configuration " ++ shown ++ ": " ++
      (Json.ReadError.malformed fault place).message
  | notObject => "Configuration file " ++ shown ++ " does not contain a dictionary"

/-- The document in the bytes of the default configuration. -/
def readDefaults (depth : Nat) (contents : Host.Contents) : Except Crash Json := do
  let text ← (Text.decodeDetected contents).mapError .undecodable
  match Json.read depth text with
  | .ok j => return j
  | .error (.malformed fault place) => throw (.malformed fault place)
  | .error (.tooManyDigits digits) => throw (.tooManyDigits digits)
  | .error (.tooDeep kind) => throw (.tooDeep kind)

/-- The default configuration that a document is, with what is to be recorded about it. -/
def defaultsOf (path : Host.Path) : Json → List LogRecord × Settings
  | .object fields =>
    ([ownRecord .info ("Loading default configuration options from " ++ path.text),
        ownRecord .debug ("Loaded configuration: " ++ (Json.object fields).sorted.pretty)],
      fields)
  | _ =>
    ([ownRecord .info
        ("Default configuration file " ++ path.text ++ " does not contain a dictionary")], [])

/-- Loads the default configuration, if it is there. -/
def loadDefaults (env : Environment) : Except Crash (List LogRecord × Settings) := do
  if env.files.holds env.defaultsPath then
    let contents ← (env.files.read env.defaultsPath).mapError .file
    return defaultsOf env.defaultsPath (← readDefaults env.configurationDepth contents)
  else return ([], [])

/-- The configuration that the bytes of a file are. -/
def readConfiguration (depth : Nat) (contents : Host.Contents) :
    Except Crash (Except ConfigurationFault Settings) := do
  match Json.readUnmarked depth (Text.marksOf (← decoded contents)) with
  | .ok (.object fields) => return .ok fields
  | .ok _ => return .error .notObject
  | .error (.malformed fault place) => return .error (.malformed fault place)
  | .error (.tooManyDigits digits) => throw (.tooManyDigits digits)
  | .error (.tooDeep kind) => throw (.tooDeep kind)

/-- Loads the configuration that is asked for. -/
def loadConfiguration (env : Environment) (file : Json) : Session Settings :=
  let refuse (fault : ConfigurationFault) : Session Settings :=
    Session.refuse programName (fault.message file.shown)
  match env.contents file with
  | .error (.refused fault) => refuse (.refused fault)
  | .error (.crash c) => Session.crash c
  | .ok contents => do
    match ← Session.orCrash (readConfiguration env.configurationDepth contents) with
    | .ok configuration => return configuration
    | .error fault => refuse fault

end PointerChain.CommandLine
