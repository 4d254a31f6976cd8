import PointerChain.CommandLine.Environment
import PointerChain.CommandLine.Session
import PointerChain.Module.Document
import PointerChain.Resolution.Resolve

/-!
# Targets of commands

A command that looks into a process works on a process, a module table and a source of memory, all
of which its settings tell. The values of settings may come from a configuration and then be of any
kind.

* `targetProcess`, `loadModules` and `selectSource` read the settings.
* `Session.ofTraced` makes a resolution part of a run.
-/

namespace PointerChain.CommandLine

/-- The process that a command works on. -/
def targetProcess (command : Command) (settings : Settings) : Session ProcessId := do
  match ← Session.setting settings "pid" with
  | .null =>
    Session.refuse programName
      ("The " ++ command.name ++ " command requires a process (--pid)")
  | value => return ⟨value⟩

/-- The records about a module document that was read. -/
def documentRecords (x : Except DocumentError ModuleTable) : List LogRecord :=
  let schema (text : String) : LogRecord := ⟨.debug, "ptrchain.schemas", text⟩
  let checking := schema "Validating JSON against schema..."
  let valid := schema "JSON validated against schema"
  match x with
  | .ok table =>
    [checking, valid,
      ⟨.debug, "ptrchain.framework.modules",
        "Loaded module table with " ++ toString table.modules.length ++ " entries"⟩]
  | .error (.table _) | .error .noList => [checking, valid]
  | .error .mismatch => [checking, schema "JSON failed schema validation"]
  | .error (.unchecked _) => [checking]
  | .error _ => []

/-- Ends the run for a module table that cannot be built. -/
def Session.failTable {α : Type} : TableError → Session α
  | .entry fault => Session.fail (.ofEntryFault fault)
  | error => Session.crash (.table error)

/-- Ends the run for a module document that gives no table. -/
def Session.failDocument {α : Type} : DocumentError → Session α
  | .table error => Session.failTable error
  | .tooManyDigits digits => Session.crash (.tooManyDigits digits)
  | .undecodable fault => Session.crash (.undecodable fault)
  | .tooDeep kind => Session.crash (.tooDeep kind)
  | .unchecked fault => Session.crash (.library fault)
  | .noList => Session.crash (.unknownName (.string listField))
  | error => Session.fail (.moduleTable [.string error.message])

/-- Loads the module table, which is empty when no file is set. -/
def loadModules (env : Environment) (settings : Settings) : Session ModuleTable := do
  match ← Session.setting settings "modules" with
  | .null =>
    Session.recordAll
      [ownRecord .info "No module table provided, only numeric operands will resolve"]
    return ∅
  | file =>
    match env.contents file with
    | .error (.refused fault) =>
      Session.refuse programName
        ("Unable to read module table " ++ file.shown ++ ": " ++ fault.message)
    | .error (.crash c) => Session.crash c
    | .ok contents => do
      let loaded := ModuleTable.ofFile env.validator env.documentDepth file.shown contents
      Session.recordAll (documentRecords loaded)
      match loaded with
      | .ok table => return table
      | .error error => Session.failDocument error

/-- The value that stands under a name. A name that consists of other values cannot be looked up. -/
def lookUp {α : Type} (entries : List (String × α)) (name : Json) : Except Crash α :=
  match name with
  | .array _ | .object _ => .error (.nameKind name.kindName)
  | .string s =>
    match entries.find? fun entry => s = entry.1 with
    | some (_, value) => .ok value
    | none => .error (.unknownName name)
  | _ => .error (.unknownName name)

/-- Keeps records, which a log file then shows. -/
def Environment.record (env : Environment) (records : List LogRecord) : Session Environment := do
  Session.recordAll records
  return env.keep records

/-- The source of memory that a command uses. -/
def selectSource (env : Environment) (settings : Settings) : Session (Environment × Source) := do
  let name ← Session.setting settings "reader"
  let env ← env.record [ownRecord .debug ("Using " ++ name.shown ++ " memory reader")]
  let source ← Session.orCrash (lookUp (env.sources env.files) name)
  return (env, source)

/-- Ends the run for a read that failed. -/
def Session.failReport {α : Type} (report : ReadReport) : Session α := do
  Session.recordAll report.record?.toList
  Session.fail (.ofReadReport report)

/-- Ends the run for a read that gives no bytes. -/
def Session.failRead {α : Type} : ReadError → Session α
  | .failed report => failReport report
  | .refused fault => Session.crash (.request fault)

/-- Ends the run for an expression that cannot be resolved. -/
def Session.failResolution {α : Type} : ResolveError → Session α
  | .operand error => Session.fail (.ofOperandError error)
  | .brackets error => Session.fail (.ofBracketError error)
  | .read error => Session.failRead error
  | .table error => Session.failTable error
  | .width fault => Session.crash (.width fault)
  | .unwritable => Session.crash .unwritable

/-- A resolution for a process as a part of a run. -/
def Session.ofTraced {α : Type} (process : ProcessId) (x : Traced α) : Session α := do
  Session.recordAll (x.events.filterMap (Event.record? process))
  match x.result with
  | .ok a => return a
  | .error error => Session.failResolution error

end PointerChain.CommandLine
