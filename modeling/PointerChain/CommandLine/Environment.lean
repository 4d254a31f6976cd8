import PointerChain.CommandLine.Grammar
import PointerChain.CommandLine.Source
import PointerChain.Host.FileStore
import PointerChain.Json.Schema
import PointerChain.Range
import PointerChain.Text.Lines
import PointerChain.Text.Utf8

/-!
# The environment of a run

A run sees files, sources of memory by their names, and where its default configuration is kept. It
relies on libraries that read command lines, check documents and decode code, and reads documents
that are nested as deep as there is room for when it comes to them.

What stands for a file is the value of a setting: a path, or the number of a handle. No handles are
open when a run starts. The records of a run show in its log file while it goes on.

* `Environment.contents` gives the contents of a file, `decoded` reads them as text.
* `Environment.openLog` starts a log file, `Environment.keep` appends records to it.
-/

namespace PointerChain.CommandLine

/-- What a run sees. -/
structure Environment where
  /-- The files. -/
  files : Host.FileStore
  /-- The sources of memory, by name, as far as files matter to them. -/
  sources : Host.FileStore → List (String × Source)
  /-- The path of the default configuration. -/
  defaultsPath : Host.Path
  /-- The edition of the library that reads command lines. -/
  edition : Edition
  /-- How deep values may be nested in a configuration. -/
  configurationDepth : Nat
  /-- How deep values may be nested in a module document. -/
  documentDepth : Nat
  /-- What checks module documents. -/
  validator : Json.Validator
  /-- What decodes code. -/
  disassembler : Disassembler
  /-- The time as lines of a log file begin with it. -/
  stamp : String
  /-- The path of the log file, if there is one. -/
  log : Option Host.Path := none

/-- Why a file gives no contents. -/
inductive OpenFault where
  /-- The system refuses to open it. -/
  | refused (fault : Host.Fault)
  /-- What stands for it makes no sense. -/
  | crash (crash : Crash)

/-- Makes sure that a path can be the name of a file. -/
def checkPath (path : Host.Path) : Except Crash Unit :=
  match path.encodeFault? with
  | some fault => .error (.unencodable fault)
  | none => if path.holdsZero then .error .zeroInPath else .ok ()

/-- The text that records make in a log file. -/
def logText (stamp : String) (records : List LogRecord) : String :=
  String.join (records.map fun record => stamp ++ record.fileLine)

namespace Environment

/-- The contents of the file with a path. -/
def contentsOfPath (env : Environment) (path : Host.Path) : Except OpenFault Host.Contents := do
  (checkPath path).mapError .crash
  (env.files.read path).mapError .refused

/-- The contents of the file that a value stands for. -/
def contents (env : Environment) : Json → Except OpenFault Host.Contents
  | .string path => env.contentsOfPath path
  | .bool _ => .error (.refused { number := Host.badHandle })
  | .integer n =>
    if ¬FitsInt32 n then .error (.crash (.pathKind (Json.integer n).kindName))
    else if n < 0 then .error (.crash .negativeHandle)
    else .error (.refused { number := Host.badHandle })
  | j => .error (.crash (.pathKind j.kindName))

/-- The environment in which a log file is kept. The file need not be there before. -/
def openLog (env : Environment) (path : Host.Path) : Except Crash Environment := do
  let path := env.files.absolute path
  checkPath path
  let fault (number : Nat) : Crash := .file { number, path := some path }
  match env.files.locate path with
  | .ok (.file _) => .ok { env with log := some path }
  | .ok .missing => .ok { env with log := some path, files := env.files.put path [] }
  | .ok .directory => .error (fault Host.isDirectory)
  | .error number => .error (fault number)

/-- The environment after the log file took records. -/
def keep (env : Environment) (records : List LogRecord) : Environment :=
  match env.log with
  | some path =>
    { env with files := env.files.append path (logText env.stamp records).toUTF8.toList }
  | none => env

end Environment

/-- The text of a file, with all newlines made one. -/
def decoded (contents : Host.Contents) : Except Crash (List Char) :=
  ((Text.decodeUtf8 contents).map Text.joinNewlines).mapError .undecodable

end PointerChain.CommandLine
