import PointerChain.Disassembly
import PointerChain.Json.Inspect
import PointerChain.Module.Document
import PointerChain.Resolution.Resolve

/-!
# Failures

A failure is fatal to a run and is reported to the user: what happened in general, the details, and
what may have caused it. Every failure has a message made of details: none, one that stands for
itself, or several that are shown as a row.

* `Failure.message` is the message, `Failure.report` the whole report.
* `Failure.ofOperandError` and its neighbours say which failure an error is.
* `FailureKind.build` makes a failure from the values of its fields.
-/

namespace PointerChain

/-- The details that a message is made of. -/
abbrev Details := List Json

/-- The text of a message. -/
def Details.text : Details → String
  | [] => ""
  | [detail] => detail.shown
  | details => Json.inRoundBrackets (Json.inspectItems details)

/-- What made a read fail: what a reader found, or any value given in its place. -/
inductive Cause where
  /-- What a reader found. -/
  | read (cause : ReadCause)
  /-- Any value. -/
  | value (value : Json)

/-- The text of a cause. -/
def Cause.text : Cause → String
  | read cause => cause.message
  | value j => j.shown

/-- A failure of a run. What it concerns is named by values, which as a rule are texts and numbers.
-/
inductive Failure where
  /-- A failure of no particular kind. -/
  | general (details : Details)
  /-- An expression cannot be evaluated. -/
  | expression (expression : Json) (details : Details)
  /-- An operand has no value. -/
  | operand (expression operand : Json) (details : Details)
  /-- The brackets of an expression are wrong. -/
  | brackets (expression position : Json) (details : Details)
  /-- A reader does not work. -/
  | reader (name : Json) (details : Details)
  /-- Memory could not be read. -/
  | memory (reader : Json) (process : ProcessId) (address : Int) (cause : Cause)
      (details : Details)
  /-- There is no module table. -/
  | moduleTable (details : Details)
  /-- Code cannot be disassembled. -/
  | disassembly (architecture : Json) (details : Details)

namespace Failure

/-- The message of a read that failed, when no other is given. -/
def memoryText (process : ProcessId) (address : Int) (cause : Cause) : String :=
  "Failed to read memory of process " ++ process.label ++ " at address " ++
    Text.signedHexText address ++ ": " ++ cause.text

/-- The message of a failure. -/
def message : Failure → String
  | general details | expression _ details | operand _ _ details | brackets _ _ details
  | reader _ details | moduleTable details | disassembly _ details => details.text
  | memory _ process address cause details =>
    if details.isEmpty then memoryText process address cause else details.text

/-- The failure of an operand without a value. -/
def ofOperandError (e : OperandError) : Failure :=
  operand (.string e.expression) (.string e.operand) [.string e.message]

/-- The failure of an expression whose brackets are wrong. -/
def ofBracketError (e : BracketError) : Failure :=
  brackets (.string e.expression) (.integer e.position) [.string e.message]

/-- The failure of a read. -/
def ofReadReport (r : ReadReport) : Failure :=
  memory (.string r.reader) r.process r.address (.read r.cause) []

/-- The failure of code that cannot be decoded. -/
def ofDisassemblyFault (f : DisassemblyFault) : Failure :=
  disassembly (.string f.architecture.name) [.string f.message]

/-- The failure of a table with an entry that describes no module. -/
def ofEntryFault (e : EntryFault) : Failure :=
  moduleTable [.string e.message]

/-- What happened in general. -/
def summary : Failure → String
  | memory _ process _ _ _ =>
    "ptrchain was unable to read the memory of process " ++ process.label ++ ":"
  | operand _ _ _ => "ptrchain could not evaluate an operand:"
  | brackets _ _ _ => "ptrchain rejected a malformed expression:"
  | moduleTable _ => "ptrchain could not load the module table:"
  | disassembly architecture _ =>
    "ptrchain could not disassemble " ++ architecture.shown ++ " code:"
  | reader name _ => "ptrchain experienced a reader-related issue: " ++ name.shown
  | general _ | expression _ _ => "ptrchain encountered an unexpected situation."

/-- What happened in detail. -/
def detail : Failure → String
  | memory name _ address cause _ =>
    Text.signedHexText address ++ " using reader " ++ name.shown ++ " (" ++ cause.text ++ ")"
  | operand text name details =>
    name.shown ++ " in " ++ text.inspect ++ " (" ++ details.text ++ ")"
  | brackets text position details =>
    text.inspect ++ " at position " ++ position.shown ++ " (" ++ details.text ++ ")"
  | failure => failure.message

/-- What may have caused it. -/
def suggestions : Failure → List String
  | memory _ _ _ _ _ =>
    ["The process does not exist or has already exited",
      "A pointer in the chain leads to an unmapped address (check the offsets)",
      "Insufficient privileges to read the process (run as the same user or check ptrace_scope)"]
  | operand _ _ _ =>
    ["A module name missing from the module table (check --modules)",
      "A number containing non-hexadecimal digits"]
  | brackets _ _ _ => ["Unbalanced brackets", "A bracket group with nothing to dereference"]
  | moduleTable _ =>
    ["Module entries missing the modulename or base keys",
      "Base addresses that are negative or wider than 64 bits"]
  | disassembly _ _ => ["The installed capstone does not support the architecture"]
  | reader _ _ => ["A faulty reader implementation (re-run with -vvv)"]
  | general _ | expression _ _ => ["Please re-run using with -vvv and report the output"]

/-- The whole report. -/
def report (f : Failure) : String :=
  f.summary ++ "\n" ++ f.detail ++ "\n\n" ++
    String.join (f.suggestions.map fun s => "\t* " ++ s ++ "\n") ++
    "\nNo further results will be produced\n"

end Failure

/-- The kinds of failures. -/
inductive FailureKind where
  /-- A failure of no particular kind. -/
  | general
  /-- An expression cannot be evaluated. -/
  | expression
  /-- An operand has no value. -/
  | operand
  /-- The brackets of an expression are wrong. -/
  | brackets
  /-- A reader does not work. -/
  | reader
  /-- Memory could not be read. -/
  | memory
  /-- There is no module table. -/
  | moduleTable
  /-- Code cannot be disassembled. -/
  | disassembly
  deriving DecidableEq, Repr

/-- Why values do not make a failure. -/
inductive BuildFault where
  /-- Fields are missing. -/
  | missing (names : List String)
  /-- The address is of a kind that is not written in hexadecimal. -/
  | noHex (kind : String)
  /-- The address is of a kind that is not written in any form. -/
  | noFormat (kind : String)
  /-- The address is of a kind that is no integer. -/
  | notInteger (kind : String)
  deriving DecidableEq, Repr

/-- Names between quotes, the last one behind a word. -/
def quotedNames : List String → String
  | [] => ""
  | [a] => Text.quoted a
  | [a, b] => Text.quoted a ++ " and " ++ Text.quoted b
  | names =>
    ", ".intercalate (names.dropLast.map Text.quoted) ++ ", and " ++
      Text.quoted (names.getLast?.getD "")

/-- The report of values that do not make what has a name. -/
def BuildFault.message (name : String) : BuildFault → String
  | missing names =>
    name ++ ".__init__() missing " ++ toString names.length ++ " required positional argument" ++
      (if names.length = 1 then "" else "s") ++ ": " ++ quotedNames names
  | noHex kind => "Unknown format code \x27x\x27 for object of type " ++ inQuotes kind
  | noFormat kind => "unsupported format string passed to " ++ kind ++ ".__format__"
  | notInteger kind => inQuotes kind ++ " object cannot be interpreted as an integer"

namespace FailureKind

/-- The names of the fields that a failure of a kind must have, in front of its details. -/
def fields : FailureKind → List String
  | general | moduleTable => []
  | expression => ["expression"]
  | operand => ["expression", "operand"]
  | brackets => ["expression", "position"]
  | reader => ["layer_name"]
  | memory => ["layer_name", "pid", "invalid_address", "cause"]
  | disassembly => ["architecture"]

/-- The address that a value is, given whether the failure has a message of its own; otherwise the
address is written into the message first. -/
def addressOf (hasMessage : Bool) : Json → Except BuildFault Int
  | .integer n => .ok n
  | .bool b => .ok (if b then 1 else 0)
  | j =>
    if hasMessage then .error (.notInteger j.kindName)
    else
      match j with
      | .real _ | .string _ => .error (.noHex j.kindName)
      | _ => .error (.noFormat j.kindName)

/-- A failure from the values of its fields and its details. -/
def build (kind : FailureKind) (values : List Json) : Except BuildFault Failure :=
  match kind, values with
  | general, details => .ok (.general details)
  | moduleTable, details => .ok (.moduleTable details)
  | expression, e :: details => .ok (.expression e details)
  | operand, e :: o :: details => .ok (.operand e o details)
  | brackets, e :: p :: details => .ok (.brackets e p details)
  | reader, name :: details => .ok (.reader name details)
  | memory, name :: p :: a :: c :: details =>
    (addressOf (!details.isEmpty) a).map fun address =>
      .memory name ⟨p⟩ address (.value c) details
  | disassembly, a :: details => .ok (.disassembly a details)
  | kind, values => .error (.missing (kind.fields.drop values.length))

end FailureKind

end PointerChain
