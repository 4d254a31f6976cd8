import PointerChain.CommandLine.Arguments

/-!
# Invocations

A command line is read over configurations: the general part by the grammar of the program, the
words behind the name of a command by the grammar of that command, each over its own settings. Words
that neither understands are reported together, once all else is well.

* `Grammar.layered` are the settings under configurations, the last one on top.
* `Invocation.parse` reads a command line.
-/

namespace PointerChain.CommandLine

/-- The settings of a grammar under configurations, of which later ones win. -/
def Grammar.layered (g : Grammar) (configurations : List Settings) : Settings :=
  configurations.foldl Settings.override g.defaults

/-- What a command line asks for. -/
structure Invocation where
  /-- The settings of the program. -/
  general : Settings
  /-- The command with its settings, if one is named. -/
  command : Option (Command × Settings)

/-- Why a command line asks for nothing. -/
inductive InvocationFault where
  /-- The arguments of the program or of a command cannot be used. -/
  | usage (program : String) (fault : ArgumentFault)
  /-- A setting cannot be counted up. -/
  | count (fault : CountFault)
  /-- A switch that needs the name of a shell has no argument. -/
  | noShell
  /-- A switch ends the run. -/
  | finished

/-- What a fault of reading under a grammar is for the whole command line. -/
def ReadingFault.under (g : Grammar) : ReadingFault → InvocationFault
  | usage fault => .usage g.program fault
  | count fault => .count fault
  | noShell => .noShell
  | finished => .finished

namespace Invocation

/-- Makes sure that no words are left over. -/
def refuseLeftovers (words : List String) : Except InvocationFault Unit :=
  if words.isEmpty then .ok () else .error (.usage mainGrammar.program (.unrecognized words))

/-- The command with a name. -/
def commandOf (name : String) : Except InvocationFault Command :=
  match Command.ofName? name with
  | some command => .ok command
  | none =>
    .error (.usage mainGrammar.program
      (.invalidChoice mainGrammar.operand.key (.string name)
        (Command.all.map fun c => .string c.name)))

/-- Reads a command line over configurations. -/
def parse (edition : Edition) (configurations : List Settings) (line : List String) :
    Except InvocationFault Invocation := do
  let general ← (mainGrammar.read edition (mainGrammar.layered configurations) line).mapError
    (·.under mainGrammar)
  match general.command with
  | [] =>
    refuseLeftovers general.leftovers
    return ⟨general.settings, none⟩
  | name :: words =>
    let command ← commandOf name
    let g := command.grammar
    let special ← (g.read edition (g.layered configurations) words).mapError (·.under g)
    refuseLeftovers (general.leftovers ++ special.leftovers)
    return ⟨general.settings, some (command, special.settings)⟩

end Invocation

end PointerChain.CommandLine
