import PointerChain.CommandLine.Settings
import PointerChain.Disassembly
import PointerChain.Text.Numeral

/-!
# The grammar of the command line

The command line consists of general switches, the name of a command, and the switches and the
operand of that command. A switch either takes an argument, which is converted to a value and may
have to be one of several choices, or does something on its own.

* `Conversion.read` converts arguments.
* `Grammar` lists the switches of the program or of one command; `Grammar.defaults` gives their
  built-in values.
* `mainGrammar` and `Command.grammar` are the grammars of this program.
* `Edition` tells apart the editions of the library that reads command lines.
-/

namespace PointerChain.CommandLine

/-- The library that reads command lines comes in two editions. They differ in what they make of a
text that shares its word with a switch. -/
inductive Edition where
  /-- Two dashes are no argument. An equals sign behind a short switch is passed over, and letters
  that stand for no switch are a fault. -/
  | former
  /-- Two dashes are an argument. An equals sign is followed by an argument, and letters that stand
  for no switch are left over. -/
  | current
  deriving DecidableEq, Repr

/-- How the argument of a switch is converted to a value. -/
inductive Conversion where
  /-- The argument is taken as it is. -/
  | text
  /-- The argument is a decimal number. -/
  | decimal
  /-- The argument is the literal of an integer. -/
  | literal
  deriving DecidableEq, Repr

/-- The name of a conversion in reports. -/
def Conversion.name : Conversion → String
  | text => "str"
  | decimal => "int"
  | literal => "_integer"

/-- The value of an argument, if it has one. -/
def Conversion.read : Conversion → Text.Raw → Option Json
  | text, s => some (.string s)
  | decimal, s => (Text.readDecimal s.text).toOption.map .integer
  | literal, s => (Text.readLiteral s.text).toOption.map .integer

/-- What a switch does. -/
inductive Action where
  /-- Its argument becomes the value of the setting. If there are choices, it must be one of them.
  -/
  | store (conversion : Conversion) (choices : List Json)
  /-- The setting becomes true. -/
  | enable
  /-- The setting is counted up. -/
  | count
  /-- The run ends with a description of the switches. -/
  | help
  /-- The run ends with a script for the shell that the argument names. -/
  | script (shells : List Json)

/-- Whether a switch needs an argument to do what it does. -/
def Action.takesArgument : Action → Bool
  | store _ _ | script _ => true
  | enable | count | help => false

/-- A switch. -/
structure Switch where
  /-- The words that stand for it, each starting with one or two dashes. -/
  flags : List String
  /-- The setting that it changes. -/
  key : String
  /-- What it does. -/
  action : Action
  /-- The built-in value of the setting. -/
  default : Json := .null

/-- The name of a switch in reports. -/
def Switch.title (s : Switch) : String := "/".intercalate s.flags

/-- What the words that are no switches stand for. -/
inductive Operand where
  /-- One word is the value of a setting and must be given. -/
  | single (key : String)
  /-- The first word is the name of a command and all words behind it are for the command. -/
  | command (key : String)
  deriving DecidableEq, Repr

/-- The setting that holds an operand. -/
def Operand.key : Operand → String
  | single key | command key => key

/-- The switches and the operand of the program or of a command. -/
structure Grammar where
  /-- How reports call the program or command. -/
  program : String
  /-- The switches, in the order in which they are listed. -/
  switches : List Switch
  /-- The operand. -/
  operand : Operand

namespace Grammar

/-- The words that stand for switches, with the switches. -/
def flags (g : Grammar) : List (String × Switch) :=
  g.switches.flatMap fun s => s.flags.map (·, s)

/-- The switch that a word stands for. -/
def switch? (g : Grammar) (flag : String) : Option Switch :=
  (g.flags.find? (·.1 = flag)).map (·.2)

/-- The built-in values of all settings. -/
def defaults (g : Grammar) : Settings :=
  g.switches.map (fun s => ((s.key : Text.Raw), s.default)) ++
    [((g.operand.key : Text.Raw), Json.null)]

end Grammar

/-- A command. -/
inductive Command where
  /-- Resolves an expression to an address. -/
  | resolve
  /-- Disassembles the code at a resolved address. -/
  | disassemble
  /-- Writes a listing as a document. -/
  | tree
  deriving DecidableEq, Repr

/-- The name of the program. -/
def programName : String := "ptrchain"

/-- The switch that asks for a description. -/
def helpSwitch : Switch := ⟨["-h", "--help"], "help", .help, .null⟩

/-- The switches that describe the process. -/
def targetSwitches : List Switch :=
  [⟨["-p", "--pid"], "pid", .store .literal [], .null⟩,
    ⟨["-m", "--modules"], "modules", .store .text [], .null⟩,
    ⟨["--reader"], "reader", .store .text [.string "vm", .string "procfs"], .string "vm"⟩]

namespace Command

/-- All commands, in the order in which they are listed. -/
def all : List Command := [resolve, disassemble, tree]

/-- The name of a command. -/
def name : Command → String
  | resolve => "resolve"
  | disassemble => "disassemble"
  | tree => "tree"

/-- The command with a name. -/
def ofName? (s : String) : Option Command :=
  all.find? (·.name = s)

/-- The switches of a command. -/
def switches : Command → List Switch
  | resolve =>
    targetSwitches ++
      [⟨["--bits"], "bits",
          .store .decimal [.integer 8, .integer 16, .integer 32, .integer 64], .integer 64⟩,
        ⟨["--strict"], "strict", .enable, .bool false⟩]
  | disassemble =>
    targetSwitches ++
      [⟨["--arch"], "arch",
          .store .text (Architecture.all.map fun arch => .string arch.name), .string "arm64"⟩,
        ⟨["--length"], "length", .store .literal [], .integer 64⟩]
  | tree => []

/-- The setting that holds the operand of a command. -/
def operandKey : Command → String
  | resolve | disassemble => "expression"
  | tree => "file"

/-- The grammar of a command. -/
def grammar (c : Command) : Grammar where
  program := programName ++ " " ++ c.name
  switches := helpSwitch :: c.switches
  operand := .single c.operandKey

end Command

/-- The grammar of the program. -/
def mainGrammar : Grammar where
  program := programName
  switches :=
    [helpSwitch,
      ⟨["-c", "--config"], "config", .store .text [], .null⟩,
      ⟨["-v", "--verbosity"], "verbosity", .count, .integer 0⟩,
      ⟨["-l", "--log"], "log", .store .text [], .null⟩,
      ⟨["-q", "--quiet"], "quiet", .enable, .bool false⟩,
      ⟨["--print-completion"], "print_completion",
        .script [.string "bash", .string "zsh", .string "tcsh"], .null⟩]
  operand := .command "command"

end PointerChain.CommandLine
