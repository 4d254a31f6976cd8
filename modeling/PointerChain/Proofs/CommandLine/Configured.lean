import PointerChain.Proofs.CommandLine.Insertion
import PointerChain.Proofs.CommandLine.Loading
import PointerChain.Proofs.CommandLine.Unread
import PointerChain.Proofs.CommandLine.Unusable

/-!
# Arguments in configurations

A text in the configuration that is asked for is converted like the argument of a switch, but it is
not compared with the choices. As long as the switch accepts the text as its argument, it makes no
difference to a run of a command which of the two gives it.

* `Invocation.combine` makes an invocation of a reading by the program and one by a command, and
  `parse_words` says what it does with a word that gives an argument to a switch.
* `Environment.Asks` and `Environment.Spares` say what a file with a configuration is used for.
* `run_of_accepts` is about texts that the switch accepts, `endsUnused_of_unreadable` about those
  that cannot be converted, and `run_configured` about both.
* `run_configured_apart` lists what a text does where this is not so.
-/

namespace PointerChain.CommandLine

variable {command : Command} {edition : Edition} {s : Switch} {conversion : Conversion}
variable {choices : List Json} {argument : String} {front words line : List String}
variable {configurations : List Settings}

/-! ### Invocations -/

/-- The program itself makes nothing of a word that gives an argument to a switch of a command. -/
theorem exists_word_option (hs : s ∈ command.grammar.switches)
    (haction : s.action = .store conversion choices) (argument : String) :
    ∃ w, mainGrammar.word (s.option argument) = .ok w := by
  obtain ⟨-, hkey, hcompletions, hswitch⟩ :=
    flags_of_command command s hs (key_ne_help hs haction)
  rw [Grammar.word, Grammar.kind_option, Grammar.longKind, String.ofList_toList,
    Grammar.switch?_option plain_mainGrammar, splitEquals_option hkey]
  dsimp only
  rw [String.ofList_toList, Option.isNone_iff_eq_none.mp hswitch, List.isEmpty_iff.mp hcompletions]
  exact ⟨_, rfl⟩

theorem word_name (command : Command) :
    mainGrammar.word command.name = .ok ⟨command.name, .argument⟩ := by
  cases command <;> rfl

theorem name_ne_dashes (command : Command) : command.name ≠ "--" := by
  cases command <;> decide

theorem commandOf_name (command : Command) :
    Invocation.commandOf command.name = .ok command := by
  cases command <;> rfl

/-- The invocation of a command that the readings of the whole line and of the words of the command
come to. -/
def Invocation.combine (command : Command) (general special : Except ReadingFault Reading) :
    Except InvocationFault Invocation := do
  let general ← general.mapError (·.under mainGrammar)
  let special ← special.mapError (·.under command.grammar)
  refuseLeftovers (general.leftovers ++ special.leftovers)
  return ⟨general.settings, some (command, special.settings)⟩

theorem parse_eq_combine {reading : Except ReadingFault Reading}
    (hreading : mainGrammar.read edition (mainGrammar.layered configurations) line =
      (fun reading : Reading => { reading with command := command.name :: words }) <$> reading) :
    Invocation.parse edition configurations line = Invocation.combine command reading
      (command.grammar.read edition (command.grammar.layered configurations) words) := by
  rw [Invocation.parse, hreading]
  cases reading with
  | error fault => rfl
  | ok general =>
    change (Invocation.commandOf command.name >>= _) = _
    rw [commandOf_name]
    rfl

section Lines

variable (hleads : mainGrammar.Leads edition front command.name) (hs : s ∈ command.grammar.switches)
  (haction : s.action = .store conversion choices)

include hleads hs haction

theorem parse_words (configurations : List Settings) (argument : String) (words : List String) :
    Invocation.parse edition configurations (front ++ command.name :: words) =
        Invocation.combine command
          (mainGrammar.read edition (mainGrammar.layered configurations)
            (front ++ command.name :: words))
          (command.grammar.read edition (command.grammar.layered configurations) words) ∧
      Invocation.parse edition configurations
          (front ++ command.name :: s.option argument :: words) =
        Invocation.combine command
          (mainGrammar.read edition (mainGrammar.layered configurations)
            (front ++ command.name :: words))
          (command.grammar.read edition (command.grammar.layered configurations)
            (s.option argument :: words)) := by
  obtain ⟨w, hw⟩ := exists_word_option hs haction argument
  obtain ⟨hcommand, hinsert⟩ := Grammar.read_insert rfl (name_ne_dashes command) (word_name command)
    hleads (option_ne_dashes s argument) hw (mainGrammar.layered configurations) words
  refine ⟨parse_eq_combine ?_, parse_eq_combine hinsert⟩
  cases hreading : mainGrammar.read edition (mainGrammar.layered configurations)
    (front ++ command.name :: words) with
  | error fault => rfl
  | ok reading =>
    rw [← hcommand reading hreading]
    rfl

end Lines

/-- Readings of the program and a command give an invocation unless words are left over. -/
theorem combine_ok (command : Command) (general special : Reading) :
    (∃ usage, Invocation.combine command (.ok general) (.ok special) =
        .error (.usage mainGrammar.program usage)) ∨
      Invocation.combine command (.ok general) (.ok special) =
        .ok ⟨general.settings, some (command, special.settings)⟩ := by
  change (∃ usage,
      (Invocation.refuseLeftovers (general.leftovers ++ special.leftovers) >>= _) = _) ∨
    (Invocation.refuseLeftovers (general.leftovers ++ special.leftovers) >>= _) = _
  unfold Invocation.refuseLeftovers
  split
  · exact .inr rfl
  · exact .inl ⟨_, rfl⟩

/-- Two readings of a command that differ in one setting fail alike, or both give an invocation with
the same settings of the program. -/
theorem combine_put (command : Command) (general : Reading) (special : Except ReadingFault Reading)
    (key : Text.Raw) (value value' : Json) :
    (∃ fault, Invocation.combine command (.ok general) ((·.put key value) <$> special) =
        .error fault ∧
      Invocation.combine command (.ok general) ((·.put key value') <$> special) = .error fault) ∨
    ∃ first first', Invocation.combine command (.ok general) ((·.put key value) <$> special) =
        .ok first ∧
      Invocation.combine command (.ok general) ((·.put key value') <$> special) = .ok first' ∧
      first.general = general.settings ∧ first'.general = general.settings := by
  cases special with
  | error fault => exact .inl ⟨_, rfl, rfl⟩
  | ok reading =>
    change (∃ fault, (Invocation.refuseLeftovers (general.leftovers ++ reading.leftovers) >>= _) =
        _ ∧ (Invocation.refuseLeftovers (general.leftovers ++ reading.leftovers) >>= _) = _) ∨
      ∃ first first', (Invocation.refuseLeftovers (general.leftovers ++ reading.leftovers) >>= _) =
        _ ∧ (Invocation.refuseLeftovers (general.leftovers ++ reading.leftovers) >>= _) = _ ∧ _
    cases Invocation.refuseLeftovers (general.leftovers ++ reading.leftovers) with
    | error fault => exact .inl ⟨_, rfl, rfl⟩
    | ok u => exact .inr ⟨_, _, rfl, rfl, rfl, rfl⟩

/-- Readings that fail at most because arguments cannot be used, of which the second one does fail,
give no invocation for this reason. -/
theorem combine_of_failsByUsage {general special : Except ReadingFault Reading}
    (hgeneral : FailsByUsage general) (hspecial : FailsByUsage special)
    (hfails : ∀ reading, special ≠ .ok reading) :
    ∃ program usage, Invocation.combine command general special =
      .error (.usage program usage) := by
  cases general with
  | error fault =>
    obtain ⟨usage, rfl⟩ := hgeneral fault rfl
    exact ⟨mainGrammar.program, usage, rfl⟩
  | ok reading =>
    cases special with
    | ok special => exact absurd rfl (hfails special)
    | error fault =>
      obtain ⟨usage, rfl⟩ := hspecial fault rfl
      exact ⟨command.grammar.program, usage, rfl⟩

/-! ### Files with a configuration -/

/-- A configuration with one more value, which replaces another one if there is one. -/
structure Settings.Adds (configuration configuration' : Settings) (key : Text.Raw) (value : Json) :
    Prop where
  /-- The value is there. -/
  value : configuration'.find? key = some value
  /-- All else is the same. -/
  others : ∀ other ≠ key, configuration'.find? other = configuration.find? other

namespace Environment

/-- The same with other contents of a file. -/
def write (env : Environment) (path : Host.Path) (contents : Host.Contents) : Environment :=
  { env with files := env.files.put path contents }

/-- A command line that asks for the configuration in a file, as far as it can be read over the
default configuration. -/
structure Asks (env : Environment) (line : List String) (path : Host.Path)
    (defaults configuration : Settings) : Prop where
  /-- No other default configuration comes out. -/
  loads : ∀ records found, env.Defaults records found → found = defaults
  /-- If the grammar of the program can read the line, then the line or the default configuration
  gives the path. -/
  reads : ∀ reading,
    mainGrammar.read env.edition (mainGrammar.layered [defaults]) line = .ok reading →
    reading.settings.get "config" = .string path
  /-- The path is not empty. -/
  named : (Json.string path).holds = true
  /-- The file holds the configuration. -/
  holds : env.Configuration (.string path) configuration

/-- A file that is neither the default configuration, nor what the sources of memory see, nor the
module table of the invocation. -/
structure Spares (env : Environment) (path : Host.Path)
    (invocation : Except InvocationFault Invocation) : Prop where
  /-- The default configuration is another file. -/
  defaults : env.files.workingPlace.ofPath env.defaultsPath ≠ env.files.workingPlace.ofPath path
  /-- The sources of memory do not depend on the file. -/
  sources : ∀ fs gs : Host.FileStore, fs.AgreeOff (env.files.workingPlace.ofPath path) gs →
    env.sources fs = env.sources gs
  /-- The module table is another file. -/
  modules : ∀ general command settings modules,
    invocation = .ok ⟨general, some (command, settings)⟩ →
    settings.get "modules" = .string modules →
      env.files.workingPlace.ofPath modules ≠ env.files.workingPlace.ofPath path

variable {env : Environment} {path : Host.Path} {contents contents' : Host.Contents}

@[simp]
theorem edition_write : (env.write path contents).edition = env.edition := rfl

theorem agreeOff_write (env : Environment) (path : Host.Path)
    (contents contents' : Host.Contents) :
    (env.write path contents).files.AgreeOff (env.files.workingPlace.ofPath path)
      (env.write path contents').files :=
  (Host.FileStore.AgreeOff.refl _ env.files).put fun h => absurd rfl h

theorem Spares.unread {invocation : Except InvocationFault Invocation} {general settings : Settings}
    (h : env.Spares path invocation)
    (hinvocation : invocation = .ok ⟨general, some (command, settings)⟩) :
    (env.write path contents').Unread (env.files.workingPlace.ofPath path) (settings.get "modules")
      (env.write path contents) where
  files := agreeOff_write env path contents' contents
  others := rfl
  unseen := h.sources
  elsewhere := fun modules => h.modules general command settings modules hinvocation

end Environment

/-! ### Runs -/

section Runs

variable {env : Environment} {path : Host.Path} {contents contents' : Host.Contents}
variable {records : List LogRecord} {defaults configuration configuration' : Settings}
variable {reading : Reading}

theorem result_of_ofParse {x : Except InvocationFault Invocation} {invocation : Invocation}
    (h : (Session.ofParse x).result = .ok invocation) : x = .ok invocation := by
  cases x with
  | ok found => rw [Except.ok.inj h]
  | error fault => cases fault <;> cases h

theorem command_of_combine {general special : Except ReadingFault Reading}
    {invocation : Invocation} (h : Invocation.combine command general special = .ok invocation) :
    ∃ settings, invocation.command = some (command, settings) := by
  obtain ⟨general, -, h⟩ := exists_of_bind_eq_ok h
  obtain ⟨special, -, h⟩ := exists_of_bind_eq_ok h
  obtain ⟨-, -, h⟩ := exists_of_bind_eq_ok h
  exact ⟨special.settings, by rw [← Except.ok.inj h]⟩

theorem invocationOf_of_fault {fault : InvocationFault}
    (h : loadDefaults env = .ok (records, defaults))
    (hfirst : Invocation.parse env.edition [defaults] line = .error fault) :
    invocationOf env line =
      Session.ofParse (.error fault) >>= fun first => pure (records, first) := by
  rw [invocationOf, h]
  change (Session.ofParse (Invocation.parse env.edition [defaults] line) >>= _) = _
  rw [hfirst]
  cases fault <;> rfl

/-- A configuration counts for the program by other keys than that of a switch of a command. -/
theorem layered_mainGrammar {value : Json} (hs : s ∈ command.grammar.switches)
    (haction : s.action = .store conversion choices)
    (hadds : configuration.Adds configuration' s.key value) :
    mainGrammar.layered [defaults, configuration'] =
      mainGrammar.layered [defaults, configuration] := by
  refine Grammar.layered_congr (.cons (fun _ _ => rfl) (.cons (fun key hkey => ?_) .nil))
  refine hadds.others key fun heq => key_ne_help hs haction ?_
  obtain rfl := Text.Raw.ofString_inj.mp heq
  refine key_eq_help_of_mem_keys command s.key hkey ?_
  exact List.mem_append_left _ (List.mem_map_of_mem hs)

/-- The default configuration is what it is if another file has other contents. -/
theorem loadDefaults_write (contents contents' : Host.Contents)
    {invocation : Except InvocationFault Invocation} (hspares : env.Spares path invocation) :
    loadDefaults (env.write path contents') = loadDefaults (env.write path contents) :=
  loadDefaults_congr (Environment.agreeOff_write env path contents' contents) rfl hspares.defaults

/-- A run ends right there if the default configuration is not loaded. -/
theorem run_of_crash {c : Crash} (h : loadDefaults env = .error c) :
    run env line = Session.crash c := by
  refine run_of_invocationOf ?_
  rw [invocationOf, h]
  rfl

/-- A run ends right there if the line is not read over the default configuration. -/
theorem run_of_fault {fault : InvocationFault} (h : loadDefaults env = .ok (records, defaults))
    (hfirst : Invocation.parse env.edition [defaults] line = .error fault) :
    run env line = Session.ofParse (.error fault) >>= fun _ => pure () := by
  have hinvocation := invocationOf_of_fault h hfirst
  cases fault <;> exact run_of_invocationOf hinvocation

section Accepted

variable (hs : s ∈ command.grammar.switches) (haction : s.action = .store conversion choices)
  (hleads : mainGrammar.Leads env.edition front command.name)
  (hgiven : command.grammar.NotGiven env.edition s.key words)
  (hdashes : env.edition = .current ∨ argument ≠ "--") {value : Json}
  (haccepts : s.Accepts conversion choices argument value)

include hs haction hleads hgiven hdashes haccepts

/-- Over a configuration with the text, the line comes to what it comes to with the argument. -/
theorem parse_configured (hadds : configuration.Adds configuration' s.key (.string argument)) :
    Invocation.parse env.edition [defaults, configuration'] (front ++ command.name :: words) =
      Invocation.parse env.edition [defaults, configuration]
        (front ++ command.name :: s.option argument :: words) := by
  obtain ⟨-, hkey, -⟩ := flags_of_command command s hs (key_ne_help hs haction)
  rw [(parse_words hleads hs haction _ argument words).1,
    (parse_words hleads hs haction _ argument words).2, layered_mainGrammar hs haction hadds,
    Grammar.read_put_eq_read_option (proper_grammar command) (plain_grammar command) hs hkey
      (switch?_of_command hs haction) haction hgiven hdashes haccepts hadds.value hadds.others]

/-- Over the default configuration alone, the line fails with the argument and without it alike, or
it comes to the same settings of the program. -/
theorem parse_defaults {converted : Json}
    (hdefault : conversion.apply (s.configured [defaults]) = some converted)
    (hmain : mainGrammar.read env.edition (mainGrammar.layered [defaults])
      (front ++ command.name :: words) = .ok reading) :
    (∃ fault,
      Invocation.parse env.edition [defaults] (front ++ command.name :: words) = .error fault ∧
      Invocation.parse env.edition [defaults]
        (front ++ command.name :: s.option argument :: words) = .error fault) ∨
    ∃ first first',
      Invocation.parse env.edition [defaults] (front ++ command.name :: words) = .ok first ∧
      Invocation.parse env.edition [defaults]
        (front ++ command.name :: s.option argument :: words) = .ok first' ∧
      first.general = reading.settings ∧ first'.general = reading.settings := by
  have hg := proper_grammar command
  obtain ⟨-, hkey, -⟩ := flags_of_command command s hs (key_ne_help hs haction)
  rw [(parse_words hleads hs haction _ argument words).1,
    (parse_words hleads hs haction _ argument words).2, hmain,
    -- Both are the reading without the switch, with different values put in behind it.
    Grammar.read_eq hg hs haction hgiven (Grammar.find?_layered hg hs _) hdefault,
    Grammar.read_option (plain_grammar command) hkey (switch?_of_command hs haction) haction hdashes
      haccepts,
    Grammar.readWithout_put hg hs hgiven (Grammar.has_layered hg hs _)]
  exact combine_put _ _ _ _ _ _

/-- What a run comes to with the text in its configuration and with the argument is the same. If it
is an invocation, it comes of the second reading. -/
theorem invocationOf_configured {converted : Json}
    (hdefault : conversion.apply (s.configured [defaults]) = some converted)
    (hload : loadDefaults (env.write path contents) = .ok (records, defaults))
    (hmain : mainGrammar.read env.edition (mainGrammar.layered [defaults])
      (front ++ command.name :: words) = .ok reading)
    (hasks : (env.write path contents).Asks (front ++ command.name :: words) path defaults
      configuration)
    (hconfiguration' : (env.write path contents').Configuration (.string path) configuration')
    (hadds : configuration.Adds configuration' s.key (.string argument))
    (hspares : env.Spares path (Invocation.parse env.edition [defaults, configuration]
      (front ++ command.name :: s.option argument :: words))) :
    invocationOf (env.write path contents') (front ++ command.name :: words) =
        invocationOf (env.write path contents)
          (front ++ command.name :: s.option argument :: words) ∧
      ∀ found, (invocationOf (env.write path contents)
          (front ++ command.name :: s.option argument :: words)).result = .ok found →
        Invocation.parse env.edition [defaults, configuration]
          (front ++ command.name :: s.option argument :: words) = .ok found.2 := by
  have hload' := (loadDefaults_write contents contents' hspares).trans hload
  have hparse : Invocation.parse env.edition [defaults, configuration']
      (front ++ command.name :: words) = _ :=
    parse_configured hs haction hleads hgiven hdashes haccepts hadds
  -- The first reading only decides whether the configuration is asked for. The text in it and the
  -- argument meet in the second one.
  rcases parse_defaults hs haction hleads hgiven hdashes haccepts hdefault hmain with
    ⟨fault, hfirst, hfirst'⟩ | ⟨first, first', hfirst, hfirst', hgeneral, hgeneral'⟩
  · rw [invocationOf_of_fault hload' hfirst, invocationOf_of_fault hload hfirst']
    refine ⟨rfl, fun found hfound => ?_⟩
    cases fault <;> cases hfound
  · have hpath := hasks.reads reading hmain
    rw [invocationOf_of_configuration hload' hfirst (hgeneral ▸ hpath) hasks.named hconfiguration',
      invocationOf_of_configuration hload hfirst' (hgeneral' ▸ hpath) hasks.named hasks.holds,
      Environment.edition_write, Environment.edition_write, hparse]
    refine ⟨rfl, fun found hfound => ?_⟩
    obtain ⟨invocation, hinvocation, hfound⟩ := Trace.result_bind_eq_ok_iff.mp hfound
    rw [← Except.ok.inj hfound]
    exact result_of_ofParse hinvocation

/-- A run in which a text in the configuration takes the place of an argument is the same run. -/
theorem run_of_accepts {converted : Json}
    (hdefault : conversion.apply (s.configured [defaults]) = some converted)
    (hload : loadDefaults (env.write path contents) = .ok (records, defaults))
    (hmain : mainGrammar.read env.edition (mainGrammar.layered [defaults])
      (front ++ command.name :: words) = .ok reading)
    (hasks : (env.write path contents).Asks (front ++ command.name :: words) path defaults
      configuration)
    (hconfiguration' : (env.write path contents').Configuration (.string path) configuration')
    (hadds : configuration.Adds configuration' s.key (.string argument))
    (hspares : env.Spares path (Invocation.parse env.edition [defaults, configuration]
      (front ++ command.name :: s.option argument :: words))) :
    run (env.write path contents') (front ++ command.name :: words) =
      run (env.write path contents) (front ++ command.name :: s.option argument :: words) := by
  obtain ⟨hinvocation, hsecond⟩ := invocationOf_configured hs haction hleads hgiven hdashes haccepts
    hdefault hload hmain hasks hconfiguration' hadds hspares
  -- The switches of the other commands take arguments; that of listings has none but help.
  have hcommand : command ≠ .tree := by
    rintro rfl
    obtain rfl := List.mem_singleton.mp hs
    cases haction
  refine run_congr (env.files.workingPlace.ofPath path) hinvocation fun records found hfound => ?_
  have hparse := hsecond _ hfound
  obtain ⟨settings, hselected⟩ := command_of_combine
    ((parse_words hleads hs haction [defaults, configuration] argument words).2.symm.trans hparse)
  have hinvocation : Invocation.parse env.edition [defaults, configuration]
      (front ++ command.name :: s.option argument :: words) =
        .ok ⟨found.general, some (command, settings)⟩ := by rw [hparse, ← hselected]
  exact ⟨command, settings, hselected, hcommand, hspares.unread hinvocation⟩

end Accepted

section Unreadable

/-- A run that prints nothing and ends with the status of wrong use. -/
def EndsUnused (x : Session Unit) : Prop :=
  x.transcript.printed = "" ∧ x.transcript.ending = .ok 2

instance (x : Session Unit) : Decidable (EndsUnused x) := inferInstanceAs (Decidable (_ ∧ _))

theorem endsUnused_of_refused {x : Session Unit} {program message : String}
    (h : x.transcript = .refused program message) : EndsUnused x := by
  rw [EndsUnused, h]
  exact ⟨rfl, rfl⟩

theorem endsUnused_of_first {program : String} {usage : ArgumentFault}
    (h : loadDefaults env = .ok (records, defaults))
    (hfirst : Invocation.parse env.edition [defaults] line = .error (.usage program usage)) :
    EndsUnused (run env line) := by
  have hinvocation := invocationOf_of_fault h hfirst
  exact endsUnused_of_refused (transcript_of_refuse (run_of_invocationOf hinvocation))

theorem endsUnused_of_second {program : String} {usage : ArgumentFault} {first : Invocation}
    (h : loadDefaults env = .ok (records, defaults))
    (hfirst : Invocation.parse env.edition [defaults] line = .ok first)
    (hpath : first.general.get "config" = .string path) (hnamed : (Json.string path).holds = true)
    (hconfiguration : env.Configuration (.string path) configuration)
    (hsecond : Invocation.parse env.edition [defaults, configuration] line =
      .error (.usage program usage)) :
    EndsUnused (run env line) := by
  have hinvocation := invocationOf_of_configuration h hfirst hpath hnamed hconfiguration
  rw [hsecond] at hinvocation
  exact endsUnused_of_refused (transcript_of_refuse (run_of_invocationOf hinvocation))

/-- A text that cannot be converted ends a run in the configuration as well as on the line, unless
the line without it fails for another reason than that arguments cannot be used. -/
theorem endsUnused_of_unreadable (hs : s ∈ command.grammar.switches)
    (haction : s.action = .store conversion choices)
    (hleads : mainGrammar.Leads env.edition front command.name)
    (hgiven : command.grammar.NotGiven env.edition s.key words)
    (hdashes : env.edition = .current ∨ argument ≠ "--") (hread : conversion.read argument = none)
    (hload : loadDefaults (env.write path contents) = .ok (records, defaults))
    (hmain : mainGrammar.read env.edition (mainGrammar.layered [defaults])
      (front ++ command.name :: words) = .ok reading)
    (hasks : (env.write path contents).Asks (front ++ command.name :: words) path defaults
      configuration)
    (hconfiguration' : (env.write path contents').Configuration (.string path) configuration')
    (hadds : configuration.Adds configuration' s.key (.string argument))
    (hspares : env.Spares path (Invocation.parse env.edition [defaults, configuration]
      (front ++ command.name :: s.option argument :: words)))
    (hfirst : FailsByUsage
      (command.grammar.read env.edition (command.grammar.layered [defaults]) words))
    (hagain : FailsByUsage
      (mainGrammar.read env.edition (mainGrammar.layered [defaults, configuration])
        (front ++ command.name :: words))) :
    EndsUnused (run (env.write path contents') (front ++ command.name :: words)) ∧
      EndsUnused (run (env.write path contents)
        (front ++ command.name :: s.option argument :: words)) := by
  have hload' := (loadDefaults_write contents contents' hspares).trans hload
  obtain ⟨hline, hgivenLine⟩ := parse_words hleads hs haction [defaults] argument words
  rw [hmain] at hline hgivenLine
  constructor
  · -- The words fail over the default configuration alone, or they do so over the text.
    cases hspecial : command.grammar.read env.edition (command.grammar.layered [defaults])
      words with
    | error fault =>
      obtain ⟨usage, rfl⟩ := hfirst fault hspecial
      rw [hspecial] at hline
      exact endsUnused_of_first hload' hline
    | ok special =>
      rw [hspecial] at hline
      rcases combine_ok command reading special with ⟨usage, hcombine⟩ | hcombine
      · exact endsUnused_of_first hload' (hline.trans hcombine)
      · obtain ⟨program, usage, hsecond⟩ : ∃ program usage,
            Invocation.parse env.edition [defaults, configuration']
              (front ++ command.name :: words) = .error (.usage program usage) := by
          rw [(parse_words hleads hs haction [defaults, configuration'] argument words).1,
            layered_mainGrammar hs haction hadds]
          have hvalue : (command.grammar.layered [defaults, configuration']).find? s.key =
              some (.string argument) := by
            rw [Grammar.layered_put (proper_grammar command) hs hadds.value hadds.others,
              Settings.find?_put_self]
          exact combine_of_failsByUsage hagain (failsByUsage_read (notGiven_help_of_read hspecial))
            (read_ne_ok_of_unreadable hs haction hread hgiven hvalue)
        exact endsUnused_of_second hload' (hline.trans hcombine) (hasks.reads reading hmain)
          hasks.named hconfiguration' hsecond
  · obtain ⟨usage, husage⟩ := read_option_of_unreadable hs haction hread hdashes
      (command.grammar.layered [defaults]) words
    rw [husage] at hgivenLine
    exact endsUnused_of_first hload hgivenLine

end Unreadable

end Runs

/-- A text that is added to the configuration that a command line asks for does to the output and to
the end of a run what the same text does as the argument of its switch, if the line does not give
the switch. The text is either one that the switch accepts, and the default configuration has none
for it that cannot be converted; or it cannot be converted itself, and the line without it fails at
most because arguments cannot be used, and not by a request for help. The file with the
configuration is used for nothing else. -/
theorem run_configured {env : Environment} {path : Host.Path} {contents contents' : Host.Contents}
    {defaults configuration configuration' : Settings}
    (hs : s ∈ command.grammar.switches) (haction : s.action = .store conversion choices)
    (hleads : mainGrammar.Leads env.edition front command.name)
    (hgiven : command.grammar.NotGiven env.edition s.key words)
    (hdashes : env.edition = .current ∨ argument ≠ "--")
    (hasks : (env.write path contents).Asks (front ++ command.name :: words) path defaults
      configuration)
    (hconfiguration' : (env.write path contents').Configuration (.string path) configuration')
    (hadds : configuration.Adds configuration' s.key (.string argument))
    (hspares : env.Spares path (Invocation.parse env.edition [defaults, configuration]
      (front ++ command.name :: s.option argument :: words)))
    (hargument : (∃ value, s.Accepts conversion choices argument value ∧
        ∃ converted, conversion.apply (s.configured [defaults]) = some converted) ∨
      (conversion.read argument = none ∧
        FailsByUsage (command.grammar.read env.edition (command.grammar.layered [defaults]) words) ∧
        FailsByUsage (mainGrammar.read env.edition (mainGrammar.layered [defaults, configuration])
          (front ++ command.name :: words)))) :
    let configured := run (env.write path contents') (front ++ command.name :: words)
    let given := run (env.write path contents)
      (front ++ command.name :: s.option argument :: words)
    configured.transcript.printed = given.transcript.printed ∧
      configured.transcript.ending = given.transcript.ending := by
  intro configured given
  have hwrite := loadDefaults_write contents contents' hspares
  -- Runs that end before the configuration is asked for are the same, whatever the text is.
  have alike (hrun : configured = given) :
      configured.transcript.printed = given.transcript.printed ∧
        configured.transcript.ending = given.transcript.ending := by
    rw [hrun]
    exact ⟨rfl, rfl⟩
  rcases (env.write path contents).defaults_or_crash with ⟨c, hcrash⟩ | ⟨records, found, hdefaults⟩
  case inl =>
    have hload := hcrash.loadDefaults
    exact alike ((run_of_crash (hwrite.trans hload)).trans (run_of_crash hload).symm)
  case inr =>
  obtain rfl := hasks.loads records found hdefaults
  have hload := hdefaults.loadDefaults
  cases hmain : mainGrammar.read env.edition (mainGrammar.layered [found])
    (front ++ command.name :: words) with
  | error fault =>
    obtain ⟨hline, hgivenLine⟩ := parse_words hleads hs haction [found] argument words
    rw [hmain] at hline hgivenLine
    exact alike ((run_of_fault (hwrite.trans hload) hline).trans
      (run_of_fault hload hgivenLine).symm)
  | ok reading =>
    rcases hargument with ⟨value, haccepts, converted, hdefault⟩ | ⟨hread, hfirst, hagain⟩
    · exact alike (run_of_accepts hs haction hleads hgiven hdashes haccepts hdefault hload hmain
        hasks hconfiguration' hadds hspares)
    · have hunused : EndsUnused configured ∧ EndsUnused given :=
        endsUnused_of_unreadable hs haction hleads hgiven hdashes hread hload hmain hasks
          hconfiguration' hadds hspares hfirst hagain
      obtain ⟨⟨hprinted, hending⟩, hprinted', hending'⟩ := hunused
      exact ⟨hprinted.trans hprinted'.symm, hending.trans hending'.symm⟩

/-- The bytes of a configuration with one text. -/
def textBytes (key value : String) : Host.Contents :=
  ("\x7b\"" ++ key ++ "\":\"" ++ value ++ "\"\x7d").toUTF8.toList

/-- The bytes of a configuration with nothing in it. -/
def noBytes : Host.Contents := "\x7b\x7d".toUTF8.toList

/-- The switch for the width of addresses. -/
def bitsSwitch : Switch :=
  ⟨["--bits"], "bits", .store .decimal [.integer 8, .integer 16, .integer 32, .integer 64],
    .integer 64⟩

/-- Sixteen bits of an address are printed whether the configuration or the line asks for them. -/
theorem run_configured_sample :
    let env := configuredEnvironment []
    let configured := run (env.write "c" (textBytes "bits" "16"))
      ["-c", "c", "resolve", "-p1", "0x12345"]
    let given := run (env.write "c" noBytes) ["-c", "c", "resolve", "--bits=16", "-p1", "0x12345"]
    given.transcript.printed = "0x2345\n" ∧
      configured.transcript.printed = given.transcript.printed ∧
      configured.transcript.ending = given.transcript.ending := by
  intro env configured given
  have hnone : (env.write "c" noBytes).Defaults [] [] := .absent (by decide +kernel)
  have hempty : (env.write "c" noBytes).Configuration (.string "c") [] :=
    ⟨_, ⟨noBytes, "\x7b\x7d".toList, rfl, by decide +kernel, rfl⟩, by decide +kernel⟩
  have hprinted : given.transcript.printed = "0x2345\n" := by decide +kernel
  have hs : bitsSwitch ∈ Command.resolve.grammar.switches := by
    simp [bitsSwitch, Command.grammar, Command.switches]
  have hleads : mainGrammar.Leads .current ["-c", "c"] Command.resolve.name := by
    unfold Grammar.Leads
    decide +kernel
  have hgiven : Command.resolve.grammar.NotGiven .current "bits" ["-p1", "0x12345"] := by
    intro steps hsteps
    have htakes : (Command.resolve.grammar.stepsOf .current ["-p1", "0x12345"]).toOption.map
        (·.any (·.takes "bits")) = some false := by decide +kernel
    rw [hsteps] at htakes
    exact Option.some.inj htakes
  have hasks : (env.write "c" noBytes).Asks ["-c", "c", "resolve", "-p1", "0x12345"] "c" []
      [] := by
    refine ⟨fun records found h => ?loads, fun reading hreading => ?reads, rfl, hempty⟩
    case loads =>
      have hload := h.loadDefaults.symm.trans hnone.loadDefaults
      exact (Prod.ext_iff.mp (Except.ok.inj hload)).2
    case reads =>
      have hpath : (mainGrammar.read (env.write "c" noBytes).edition (mainGrammar.layered [[]])
          ["-c", "c", "resolve", "-p1", "0x12345"]).toOption.map (·.settings.get "config") =
            some (.string "c") := by decide +kernel
      rw [hreading] at hpath
      exact Option.some.inj hpath
  have hconfiguration' : (env.write "c" (textBytes "bits" "16")).Configuration (.string "c")
      [("bits", .string "16")] :=
    ⟨_, ⟨textBytes "bits" "16", "\x7b\"bits\":\"16\"\x7d".toList, rfl, by decide +kernel, rfl⟩,
      by decide +kernel⟩
  have hadds : Settings.Adds [] [("bits", .string "16")] "bits" (.string "16") :=
    ⟨by decide +kernel, fun other hne => by simp [Settings.find?, Json.field?, hne.symm]⟩
  have hoption : bitsSwitch.option "16" = "--bits=16" := by decide
  -- The file is no table of modules, and no memory is read from it.
  have hspares : env.Spares "c" (Invocation.parse .current [[], []]
      (["-c", "c"] ++ Command.resolve.name :: bitsSwitch.option "16" :: ["-p1", "0x12345"])) := by
    refine ⟨by decide +kernel, fun _ _ h => Origin.sources_congr h (by simp),
      fun general command settings modules h hm => ?_⟩
    have hnull : (Invocation.parse .current [[], []] (["-c", "c"] ++ Command.resolve.name ::
        bitsSwitch.option "16" :: ["-p1", "0x12345"])).toOption.map
          (·.command.map (·.2.get "modules")) = some (some .null) := by decide +kernel
    rw [h] at hnull
    cases hm.symm.trans (Option.some.inj (Option.some.inj hnull))
  have halike := run_configured hs rfl hleads hgiven (by decide) hasks hconfiguration' hadds hspares
    (.inl ⟨.integer 16, ⟨by decide +kernel, rfl⟩, .integer 64, by decide +kernel⟩)
  rw [hoption] at halike
  exact ⟨hprinted, halike⟩

/-- What a text in the configuration does need not be what it does as an argument: if the text is
not one of the choices, if it is for another command, if help is asked for, if the text is two
dashes that are read by the former edition, and if the default configuration holds a text for the
same switch that cannot be converted. -/
theorem run_configured_apart :
    let line := ["-c", "c", "resolve", "-p1", "0x12345"]
    let empty := configuredEnvironment [("c", noBytes)]
    let configured (key value : String) := configuredEnvironment [("c", textBytes key value)]
    let spoilt (bytes : Host.Contents) :=
      configuredEnvironment [("d", textBytes "bits" "x"), ("c", bytes)]
    ((run (configured "bits" "24") ["-c", "c", "resolve", "-p1", "0x12345678"]).transcript.printed =
        "0x345678\n" ∧
      EndsUnused (run empty ["-c", "c", "resolve", "--bits=24", "-p1", "0x12345678"])) ∧
    ((run (configured "arch" "arm") line).transcript.printed = "0x12345\n" ∧
      EndsUnused (run empty ["-c", "c", "resolve", "--arch=arm", "-p1", "0x12345"])) ∧
    ((run (configured "bits" "x") ["-c", "c", "resolve", "-h"]).transcript.ending = .ok 0 ∧
      EndsUnused (run empty ["-c", "c", "resolve", "--bits=x", "-h"])) ∧
    ((run { configured "modules" "--" with edition := .former } line).transcript.ending = .ok 2 ∧
      (run { empty with edition := .former }
        ["-c", "c", "resolve", "--modules=--", "-p1", "0x12345"]).transcript.ending =
          .error (.pathKind "list")) ∧
    (EndsUnused (run (spoilt (textBytes "bits" "16")) line) ∧
      (run (spoilt noBytes)
        ["-c", "c", "resolve", "--bits=16", "-p1", "0x12345"]).transcript.printed =
          "0x2345\n") := by
  intro line empty configured spoilt
  refine ⟨⟨?_, ?_⟩, ⟨?_, ?_⟩, ⟨?_, ?_⟩, ⟨?_, ?_⟩, ⟨?_, ?_⟩⟩
  all_goals decide +kernel

end PointerChain.CommandLine
