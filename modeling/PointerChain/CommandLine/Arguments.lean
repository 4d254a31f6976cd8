import PointerChain.CommandLine.Word

/-!
# What a command line asks for

Words are read from left to right into steps: switches with their arguments, the operand, the words
that belong to a command, and words that are left over. Several short switches may share a word;
then none of them counts if the word as a whole is faulty. Reading ends at the first fault.

What the steps do to settings is a matter of its own: `Settings.follow` takes steps in order,
`Settings.convert` gives the built-in or configured texts of untouched settings their values.

* `Grammar.read` is a whole reading.
* `find?_take_of_ne` says that a switch changes no setting but its own.
-/

namespace PointerChain.CommandLine

/-- A step of reading a command line. -/
inductive Step where
  /-- A switch, with its argument if it has one. -/
  | take (switch : Switch) (argument : Option String)
  /-- The operand. -/
  | operand (text : String)
  /-- The words of a command, its name first. -/
  | command (words : List String)
  /-- A word that is left over. -/
  | leave (text : String)
  /-- A fault, which ends the reading. -/
  | fail (fault : ArgumentFault)

/-- The steps of a word of switches, with the switch that still waits for its argument. -/
abbrev Cluster := List Step × Option Switch

/-- The steps of a switch that is followed by a word of its own, if it takes an argument. -/
def bareSteps (s : Switch) : Cluster :=
  if s.action.takesArgument then ([], some s) else ([.take s none], none)

/-- A switch that takes no argument, in front of further steps of its word. -/
def Switch.inFrontOf (s : Switch) (others : Except ArgumentFault Cluster) :
    Except ArgumentFault Cluster :=
  others.map fun (steps, waiting) => (.take s none :: steps, waiting)

namespace Edition

/-- The argument that a text in the word of a switch is. -/
def argument? : Edition → List Char → Option String
  | former, ['-', '-'] => none
  | _, text => some (String.ofList text)

/-- The steps of a switch with a text that can only be its argument. -/
def assignedSteps (edition : Edition) (s : Switch) (text : List Char) :
    Except ArgumentFault Cluster :=
  if s.action.takesArgument then .ok ([.take s (edition.argument? text)], none)
  else .error (.ignoredArgument s.title (String.ofList text))

/-- The steps of a long switch. -/
def longSteps (edition : Edition) (s : Switch) : Option (List Char) → Except ArgumentFault Cluster
  | none => .ok (bareSteps s)
  | some text => edition.assignedSteps s text

/-- The steps of letters that stand for no switch, behind a switch that takes no argument. -/
def straySteps (edition : Edition) (s : Switch) (letters : List Char) :
    Except ArgumentFault Cluster :=
  match edition with
  | former => .error (.ignoredArgument s.title (String.ofList letters))
  | current => .ok ([.take s none, .leave (String.ofList ('-' :: letters))], none)

end Edition

/-- The steps of a short switch and the text that follows it directly in its word, which is its
argument or the letters of further short switches. -/
def Grammar.cluster (g : Grammar) (edition : Edition) (s : Switch) :
    List Char → Except ArgumentFault Cluster
  | [] => .ok (bareSteps s)
  | c :: text =>
    if s.action.takesArgument ∨ c = '-' then edition.assignedSteps s (c :: text)
    else
      match g.switch? (String.ofList ['-', c]), edition, text with
      | none, _, _ => edition.straySteps s (c :: text)
      | some t, .current, '=' :: text => s.inFrontOf (edition.assignedSteps t text)
      | some t, _, text => s.inFrontOf (g.cluster edition t text)

/-- The steps of a short switch. -/
def Grammar.shortSteps (g : Grammar) (edition : Edition) (s : Switch) :
    Option SharedText → Except ArgumentFault Cluster
  | none => .ok (bareSteps s)
  | some ⟨isAssigned, text⟩ =>
    if isAssigned ∧ (edition = .current ∨ text = []) then edition.assignedSteps s text
    else g.cluster edition s text

/-- How far the operand is. -/
inductive OperandState where
  /-- It has not been read. -/
  | missing
  /-- It was the last word. -/
  | last
  /-- It was an earlier word. -/
  | earlier
  deriving DecidableEq, Repr

/-- How far the operand is one word later. -/
def OperandState.next : OperandState → OperandState
  | missing => missing
  | last | earlier => earlier

/-- The steps of words. Before them, a switch may wait for its argument, behind steps that count
once the argument is there. Dashes that end the switches are left over unless they are next to the
operand. -/
def Grammar.steps (g : Grammar) (edition : Edition) (operand : OperandState) :
    Option (List Step × Switch) → List Word → List Step
  | some (before, s), w :: ws =>
    match w.kind with
    | .argument => before ++ .take s (some w.text) :: g.steps edition operand none ws
    | _ => [.fail (.missingArgument s.title)]
  | some (_, s), [] => [.fail (.missingArgument s.title)]
  | none, [] => []
  | none, w :: ws =>
    let proceed (cluster : Except ArgumentFault Cluster) : List Step :=
      match cluster with
      | .error fault => [.fail fault]
      | .ok (steps, none) => steps ++ g.steps edition operand.next none ws
      | .ok (steps, some s) => g.steps edition operand.next (some (steps, s)) ws
    match w.kind, operand, g.operand with
    | .long s text, _, _ => proceed (edition.longSteps s text)
    | .short s text, _, _ => proceed (g.shortSteps edition s text)
    | .unknown, _, _ => .leave w.text :: g.steps edition operand.next none ws
    -- A command takes all that is left, whatever its words look like.
    | .argument, .missing, .command _ => [.command (w.text :: ws.map (·.text))]
    | .argument, .missing, .single _ => .operand w.text :: g.steps edition .last none ws
    | .argument, _, _ => .leave w.text :: g.steps edition .earlier none ws
    -- The dashes belong to the operand behind them, if there is one.
    | .ending, .missing, place =>
      match place, ws.isEmpty with
      | _, true => [.leave w.text]
      | .command _, false => [.command (w.text :: ws.map (·.text))]
      | .single _, false => g.steps edition .missing none ws
    | .ending, .last, _ => g.steps edition .earlier none ws
    | .ending, .earlier, _ => .leave w.text :: g.steps edition .earlier none ws

/-- Why there are no settings. -/
inductive ReadingFault where
  /-- The arguments cannot be used. -/
  | usage (fault : ArgumentFault)
  /-- A setting cannot be counted up. -/
  | count (fault : CountFault)
  /-- A switch that needs the name of a shell has no argument. -/
  | noShell
  /-- A switch ends the run. -/
  | finished

/-- Makes sure that a value is one of the choices, if there are any. -/
def checkChoice (title : String) (choices : List Json) (value : Json) :
    Except ReadingFault Unit :=
  if choices.isEmpty || choices.any (·.inspect == value.inspect) then .ok ()
  else .error (.usage (.invalidChoice title value choices))

/-- The value of the argument of a switch under a conversion. -/
def Switch.convert (s : Switch) (conversion : Conversion) (text : Text.Raw) :
    Except ReadingFault Json :=
  match conversion.read text with
  | some value => .ok value
  | none => .error (.usage (.invalidValue s.title conversion text))

namespace Settings

/-- The settings after a switch. What is left without an argument has an empty list for it. -/
def take (settings : Settings) (s : Switch) (argument : Option String) :
    Except ReadingFault Settings :=
  match s.action, argument with
  | .store conversion choices, some text => do
    let value ← s.convert conversion text
    checkChoice s.title choices value
    return settings.put s.key value
  | .store _ _, none => return settings.put s.key (.array [])
  | .enable, _ => return settings.put s.key (.bool true)
  | .count, _ => do
    let value ← (countUp (settings.get s.key)).mapError .count
    return settings.put s.key value
  | .help, _ => .error .finished
  | .script shells, some text => do
    checkChoice s.title shells (.string text)
    throw .finished
  | .script _, none => .error .noShell

/-- The settings after a step. -/
def step (operand : Operand) (settings : Settings) : Step → Except ReadingFault Settings
  | .take s argument => settings.take s argument
  | .operand text => .ok (settings.put operand.key (.string text))
  | .command words => .ok (settings.put operand.key (.string (words.headD "")))
  | .leave _ => .ok settings
  | .fail fault => .error (.usage fault)

/-- The settings after steps. -/
def follow (operand : Operand) (settings : Settings) (steps : List Step) :
    Except ReadingFault Settings :=
  steps.foldlM (step operand) settings

/-- The settings in which the text of a switch that was not given is converted like an argument; it
need not be one of the choices. -/
def convert (settings : Settings) (s : Switch) : Except ReadingFault Settings :=
  match s.action, settings.get s.key with
  | .store conversion _, .string text => do
    return settings.put s.key (← s.convert conversion text)
  | _, _ => .ok settings

/-- A switch changes no setting but its own. -/
theorem find?_take_of_ne {settings after : Settings} {s : Switch} {argument : Option String}
    {key : Text.Raw} (h : settings.take s argument = .ok after) (hne : key ≠ s.key) :
    after.find? key = settings.find? key := by
  unfold take at h
  -- Whatever a switch does, it puts a value at its own setting, or the run goes no further.
  split at h
  · rename_i conversion choices text _
    cases hv : s.convert conversion text with
    | error e => rw [hv] at h; cases h
    | ok value =>
      rw [hv] at h
      change (checkChoice _ _ _ >>= _) = _ at h
      cases hc : checkChoice s.title choices value with
      | error e => rw [hc] at h; cases h
      | ok u =>
        rw [hc] at h
        cases h
        exact find?_put_of_ne settings value hne
  · cases h
    exact find?_put_of_ne settings _ hne
  · cases h
    exact find?_put_of_ne settings _ hne
  · cases hc : countUp (settings.get s.key) with
    | error e => rw [hc] at h; cases h
    | ok value =>
      rw [hc] at h
      cases h
      exact find?_put_of_ne settings value hne
  · cases h
  · rename_i shells text _
    cases hc : checkChoice s.title shells (.string text) with
    | error e => rw [hc] at h; cases h
    | ok u => rw [hc] at h; cases h
  · cases h

end Settings

/-- What a command line says to a grammar. -/
structure Reading where
  /-- The settings. -/
  settings : Settings
  /-- The words of a command, its name first. -/
  command : List String
  /-- The words that are left over. -/
  leftovers : List String

namespace Step

/-- The word that a step leaves over. -/
def leftover? : Step → Option String
  | leave text => some text
  | _ => none

/-- The words that a step leaves to a command. -/
def commandWords? : Step → Option (List String)
  | command words => some words
  | _ => none

/-- Whether a step takes a switch that changes a setting. -/
def takes (key : String) : Step → Bool
  | take s _ => s.key == key
  | _ => false

/-- Whether a step takes an operand. -/
def isOperand : Step → Bool
  | operand _ => true
  | _ => false

end Step

namespace Grammar

/-- The settings in which the texts of all switches that were not given are converted. -/
def convertOthers (g : Grammar) (steps : List Step) (settings : Settings) :
    Except ReadingFault Settings :=
  (g.switches.filter fun s => !steps.any (·.takes s.key)).foldlM Settings.convert settings

/-- Makes sure that an operand that must be given is. -/
def requireOperand (g : Grammar) (steps : List Step) : Except ReadingFault Unit :=
  match g.operand with
  | .single key =>
    if steps.any Step.isOperand then .ok () else .error (.usage (.missingOperand key))
  | .command _ => .ok ()

/-- The steps of a command line. -/
def stepsOf (g : Grammar) (edition : Edition) (line : List String) :
    Except ReadingFault (List Step) :=
  ((g.words line).map (g.steps edition .missing none)).mapError .usage

/-- Reads a command line over settings. -/
def read (g : Grammar) (edition : Edition) (settings : Settings) (line : List String) :
    Except ReadingFault Reading := do
  let steps ← g.stepsOf edition line
  let taken ← settings.follow g.operand steps
  let settings ← g.convertOthers steps taken
  g.requireOperand steps
  return {
    settings
    command := (steps.findSome? Step.commandWords?).getD []
    leftovers := steps.filterMap Step.leftover? }

end Grammar

end PointerChain.CommandLine
