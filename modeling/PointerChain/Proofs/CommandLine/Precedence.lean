import Mathlib.Data.List.Nodup
import PointerChain.Proofs.CommandLine.Loading
import PointerChain.Proofs.CommandLine.Steps

/-!
# Which value a setting has

A setting with a switch that takes an argument may be given on the command line, in one
configuration or several, or not at all. The last argument wins over all configurations, a
configuration over those before it, and each of them over the built-in value.

* `Switch.settledValue?` is the value that comes out, and `Grammar.Settles` says that settings have
  this value for all switches of a grammar.
* `Settings.find?_follow` and `Settings.find?_convertOthers` say what a setting is behind the steps
  of a command line and behind the conversion of what was not given.
* `settles_of_read` puts this together for one grammar.
* `Grammar.layered_congr` says that a configuration counts only for the keys of a grammar.
* `settles_of_invocationOf` is about a run with a default configuration and one that is asked for.
-/

namespace PointerChain.CommandLine

/-- What becomes of a value that no argument replaces: a text is converted like an argument. -/
def Conversion.apply (conversion : Conversion) : Json → Option Json
  | .string s => conversion.read s
  | value => some value

/-- What becomes of what a switch was given. Without an argument it is an empty list. -/
def Conversion.ofArgument (conversion : Conversion) : Option String → Option Json
  | .some argument => conversion.read argument
  | .none => some (.array [])

/-- What a step gives to the switch of a setting, if it takes the switch. -/
def Step.argumentFor? (key : String) : Step → Option (Option String)
  | .take s argument => if s.key = key then some argument else none
  | _ => none

/-- What steps give last to the switch of a setting. -/
def lastArgument? (key : String) (steps : List Step) : Option (Option String) :=
  (steps.filterMap (Step.argumentFor? key)).getLast?

/-- What configurations, the last one first, or else the program itself say on a setting. -/
def Switch.configured (s : Switch) (configurations : List Settings) : Json :=
  configurations.foldl (fun value configuration => (configuration.find? s.key).getD value)
    s.default

/-- The value on which a switch settles: what it was given last, or else what the configurations or
the program say. -/
def Switch.settledValue? (s : Switch) (conversion : Conversion) (configurations : List Settings)
    (steps : List Step) : Option Json :=
  (lastArgument? s.key steps).elim (conversion.apply (s.configured configurations))
    conversion.ofArgument

namespace Grammar

/-- The settings of a grammar. -/
def keys (g : Grammar) : List String :=
  g.switches.map (·.key) ++ [g.operand.key]

/-- No two switches share a setting, and none has that of the operand. -/
def Proper (g : Grammar) : Prop := g.keys.Nodup

instance (g : Grammar) : Decidable g.Proper := inferInstanceAs (Decidable g.keys.Nodup)

/-- The settings have the right value for each switch that takes an argument. -/
def Settles (g : Grammar) (edition : Edition) (configurations : List Settings)
    (line : List String) (settings : Settings) : Prop :=
  ∃ steps, g.stepsOf edition line = .ok steps ∧
    ∀ s ∈ g.switches, ∀ conversion choices, s.action = .store conversion choices →
      settings.find? s.key = s.settledValue? conversion configurations steps

/-- The words that a command line leaves to a command, its name first. -/
def commandWords (g : Grammar) (edition : Edition) (line : List String) : List String :=
  match g.stepsOf edition line with
  | .ok steps => (steps.findSome? Step.commandWords?).getD []
  | .error _ => []

end Grammar

/-! ### Arguments of steps -/

variable {g : Grammar} {edition : Edition} {s : Switch} {conversion : Conversion}
variable {choices : List Json} {key : String}
variable {steps : List Step} {settings after : Settings} {configurations : List Settings}

theorem lastArgument?_cons (key : String) (step : Step) (steps : List Step) :
    lastArgument? key (step :: steps) =
      (lastArgument? key steps).or (step.argumentFor? key) := by
  cases h : step.argumentFor? key with
  | none => rw [lastArgument?, List.filterMap_cons_none h, Option.or_none, lastArgument?]
  | some argument =>
    rw [lastArgument?, List.filterMap_cons_some h, List.getLast?_cons, lastArgument?]
    cases (steps.filterMap (Step.argumentFor? key)).getLast? <;> rfl

theorem takes_eq_isSome_argumentFor? (key : String) (step : Step) :
    step.takes key = (step.argumentFor? key).isSome := by
  cases step with
  | take s argument =>
    by_cases h : s.key = key <;> simp [Step.takes, Step.argumentFor?, h]
  | _ => rfl

theorem any_takes_eq (key : String) (steps : List Step) :
    steps.any (·.takes key) = (lastArgument? key steps).isSome := by
  induction steps with
  | nil => rfl
  | cons step steps ih =>
    rw [List.any_cons, lastArgument?_cons, ih, takes_eq_isSome_argumentFor?, Option.isSome_or,
      Bool.or_comm]

namespace Grammar.Proper

theorem eq_of_key_eq {t : Switch} (hg : g.Proper) (hs : s ∈ g.switches) (ht : t ∈ g.switches)
    (h : s.key = t.key) : s = t :=
  List.inj_on_of_nodup_map (List.nodup_append.mp hg).1 hs ht h

theorem key_ne_operand (hg : g.Proper) (hs : s ∈ g.switches) : s.key ≠ g.operand.key :=
  (List.nodup_append.mp hg).2.2 _ (List.mem_map_of_mem hs) _ (List.mem_singleton_self _)

end Grammar.Proper

theorem proper_mainGrammar : mainGrammar.Proper := by decide

theorem proper_grammar (command : Command) : command.grammar.Proper := by
  cases command <;> decide

/-! ### Settings behind steps -/

namespace Settings

theorem key_ne {key other : String} (h : key ≠ other) : (key : Text.Raw) ≠ (other : Text.Raw) :=
  fun heq => h (Text.Raw.ofString_inj.mp heq)

/-- A switch with an argument stores what becomes of the argument. -/
theorem find?_take_self {argument : Option String} (hs : s.action = .store conversion choices)
    (h : settings.take s argument = .ok after) :
    after.find? s.key = conversion.ofArgument argument := by
  unfold take at h
  rw [hs] at h
  cases argument with
  | none =>
    obtain rfl := Except.ok.inj h
    exact find?_put_self settings _ _
  | some text =>
    -- The choices may refuse a value, but they do not change it.
    obtain ⟨value, hvalue, h⟩ := exists_of_bind_eq_ok h
    obtain ⟨-, -, h⟩ := exists_of_bind_eq_ok h
    obtain rfl := Except.ok.inj h
    rw [find?_put_self, Conversion.ofArgument]
    unfold Switch.convert at hvalue
    split at hvalue
    next hread => rw [hread, Except.ok.inj hvalue]
    next => cases hvalue

/-- What one step leaves of a setting. -/
theorem find?_step (hg : g.Proper) (hs : s ∈ g.switches)
    (haction : s.action = .store conversion choices) {step : Step} (hstep : step.IsOf g)
    (h : settings.step g.operand step = .ok after) :
    after.find? s.key =
      (step.argumentFor? s.key).elim (settings.find? s.key) conversion.ofArgument := by
  have hoperand := key_ne (hg.key_ne_operand hs)
  cases step with
  | take t argument =>
    by_cases hkey : t.key = s.key
    · -- Two switches of one grammar with one setting are the same switch.
      obtain rfl := hg.eq_of_key_eq hstep hs hkey
      rw [find?_take_self haction h, Step.argumentFor?, if_pos rfl]
      rfl
    · rw [find?_take_of_ne h (key_ne (Ne.symm hkey)), Step.argumentFor?, if_neg hkey]
      rfl
  | operand text =>
    obtain rfl := Except.ok.inj h
    exact find?_put_of_ne settings _ hoperand
  | command words =>
    obtain rfl := Except.ok.inj h
    exact find?_put_of_ne settings _ hoperand
  | leave text =>
    obtain rfl := Except.ok.inj h
    rfl
  | fail fault => cases h

/-- What all steps leave of a setting: the last argument for it, or what it was before. -/
theorem find?_follow (hg : g.Proper) (hs : s ∈ g.switches)
    (haction : s.action = .store conversion choices) (hsteps : ∀ step ∈ steps, step.IsOf g)
    (h : settings.follow g.operand steps = .ok after) :
    after.find? s.key =
      (lastArgument? s.key steps).elim (settings.find? s.key) conversion.ofArgument := by
  induction steps generalizing settings with
  | nil =>
    obtain rfl := Except.ok.inj h
    rfl
  | cons step steps ih =>
    obtain ⟨hstep, hsteps⟩ := List.forall_mem_cons.mp hsteps
    rw [follow, List.foldlM_cons] at h
    obtain ⟨between, hbetween, h⟩ := exists_of_bind_eq_ok h
    -- What the later steps give wins over what this one gives.
    rw [ih hsteps h, find?_step hg hs haction hstep hbetween, lastArgument?_cons]
    cases lastArgument? s.key steps <;> rfl

/-! ### Settings that were not given -/

theorem find?_convert_self {value : Json} (haction : s.action = .store conversion choices)
    (hvalue : settings.find? s.key = some value) (h : settings.convert s = .ok after) :
    after.find? s.key = conversion.apply value := by
  have hget : settings.get s.key = value := by rw [Settings.get, hvalue, Option.getD_some]
  unfold convert at h
  rw [haction, hget] at h
  -- Only texts are converted; any other value stays as it was configured.
  cases value with
  | string text =>
    obtain ⟨converted, hconverted, h⟩ := exists_of_bind_eq_ok h
    obtain rfl := Except.ok.inj h
    rw [find?_put_self, Conversion.apply]
    unfold Switch.convert at hconverted
    split at hconverted
    next hread => rw [hread, Except.ok.inj hconverted]
    next => cases hconverted
  | null | bool _ | integer _ | real _ | array _ | object _ =>
    obtain rfl := Except.ok.inj h
    exact hvalue

theorem find?_convert_of_ne {key : Text.Raw} (h : settings.convert s = .ok after)
    (hne : key ≠ s.key) : after.find? key = settings.find? key := by
  unfold convert at h
  split at h
  next =>
    obtain ⟨converted, -, h⟩ := exists_of_bind_eq_ok h
    obtain rfl := Except.ok.inj h
    exact find?_put_of_ne settings _ hne
  next =>
    obtain rfl := Except.ok.inj h
    rfl

theorem find?_foldlM_convert_of_ne {switches : List Switch} {key : Text.Raw}
    (hne : ∀ t ∈ switches, key ≠ t.key) (h : switches.foldlM convert settings = .ok after) :
    after.find? key = settings.find? key := by
  induction switches generalizing settings with
  | nil =>
    obtain rfl := Except.ok.inj h
    rfl
  | cons t switches ih =>
    obtain ⟨ht, hne⟩ := List.forall_mem_cons.mp hne
    rw [List.foldlM_cons] at h
    obtain ⟨between, hbetween, h⟩ := exists_of_bind_eq_ok h
    rw [ih hne h, find?_convert_of_ne hbetween ht]

theorem find?_foldlM_convert {switches : List Switch} {value : Json}
    (hnodup : (switches.map (·.key)).Nodup) (hs : s ∈ switches)
    (haction : s.action = .store conversion choices)
    (hvalue : settings.find? s.key = some value)
    (h : switches.foldlM convert settings = .ok after) :
    after.find? s.key = conversion.apply value := by
  induction switches generalizing settings with
  | nil => cases hs
  | cons t switches ih =>
    obtain ⟨ht, hnodup⟩ := List.nodup_cons.mp hnodup
    have hne {u : Switch} (hu : u ∈ switches) : u.key ≠ t.key := fun heq =>
      ht (List.mem_map.mpr ⟨u, hu, heq⟩)
    rw [List.foldlM_cons] at h
    obtain ⟨between, hbetween, hrest⟩ := exists_of_bind_eq_ok h
    rcases List.mem_cons.mp hs with rfl | hs
    · -- The switches behind it have other settings, so the value that is converted here stays.
      have hothers : ∀ u ∈ switches, (s.key : Text.Raw) ≠ u.key := fun u hu =>
        key_ne (hne hu).symm
      rw [find?_foldlM_convert_of_ne hothers hrest, find?_convert_self haction hvalue hbetween]
    · refine ih hnodup hs ?_ hrest
      rw [find?_convert_of_ne hbetween (key_ne (hne hs)), hvalue]

/-- What was not given is converted, and what was given stays. -/
theorem find?_convertOthers {value : Json} (hg : g.Proper) (hs : s ∈ g.switches)
    (haction : s.action = .store conversion choices)
    (hvalue : lastArgument? s.key steps = none → settings.find? s.key = some value)
    (h : g.convertOthers steps settings = .ok after) :
    after.find? s.key =
      (lastArgument? s.key steps).elim (conversion.apply value)
        fun _ => settings.find? s.key := by
  unfold Grammar.convertOthers at h
  cases hlast : lastArgument? s.key steps with
  | none =>
    -- The switch is among those that are converted.
    refine find?_foldlM_convert ?_ ?_ haction (hvalue hlast) h
    · exact (List.nodup_append.mp hg).1.sublist (List.filter_sublist.map _)
    · simp [hs, any_takes_eq, hlast]
  | some argument =>
    -- Only other switches are converted.
    refine find?_foldlM_convert_of_ne ?_ h
    intro t ht
    obtain ⟨-, htakes⟩ := List.mem_filter.mp ht
    refine key_ne ?_
    intro heq
    rw [← heq, any_takes_eq, hlast] at htakes
    cases htakes

end Settings

/-! ### Layers -/

/-- The settings of a grammar in order, whatever the configurations hold. -/
theorem map_fst_override (settings configuration : Settings) :
    (settings.override configuration).map Prod.fst = settings.map Prod.fst := by
  rw [Settings.override, List.map_map]
  rfl

theorem override_congr {c c' : Settings}
    (h : ∀ key ∈ settings.map Prod.fst, c.find? key = c'.find? key) :
    settings.override c = settings.override c' := by
  refine List.map_congr_left fun setting hmem => ?_
  dsimp only
  rw [h setting.1 (List.mem_map_of_mem hmem)]

namespace Grammar

theorem map_fst_defaults (g : Grammar) :
    g.defaults.map Prod.fst = g.keys.map Text.Raw.ofString := by
  rw [defaults, keys, List.map_append, List.map_append, List.map_map, List.map_map]
  rfl

/-- What a configuration says on other keys does not matter. -/
theorem layered_congr {configurations' : List Settings}
    (h : List.Forall₂ (fun c c' => ∀ key ∈ g.keys, c.find? key = c'.find? key)
      configurations configurations') :
    g.layered configurations = g.layered configurations' := by
  -- Every layer has the keys of the grammar again, and only these are looked up in the next one.
  have hfoldl : ∀ settings : Settings, settings.map Prod.fst = g.keys.map Text.Raw.ofString →
      configurations.foldl Settings.override settings =
        configurations'.foldl Settings.override settings := by
    induction h with
    | nil => exact fun _ _ => rfl
    | @cons c c' _ _ hc _ ih =>
      intro settings hkeys
      have hoverride : settings.override c = settings.override c' := by
        refine override_congr fun key hkey => ?_
        rw [hkeys] at hkey
        obtain ⟨name, hname, rfl⟩ := List.mem_map.mp hkey
        exact hc name hname
      rw [List.foldl_cons, List.foldl_cons, hoverride]
      exact ih _ ((map_fst_override settings c').trans hkeys)
  exact hfoldl g.defaults g.map_fst_defaults

theorem find?_defaults (hg : g.Proper) (hs : s ∈ g.switches) :
    g.defaults.find? s.key = some s.default := by
  refine Json.field?_of_mem ?_ (List.mem_append_left _ (List.mem_map.mpr ⟨s, hs, rfl⟩))
  rw [map_fst_defaults]
  exact hg.map fun _ _ => Text.Raw.ofString_inj.mp

theorem find?_layered (hg : g.Proper) (hs : s ∈ g.switches) (configurations : List Settings) :
    (g.layered configurations).find? s.key = some (s.configured configurations) := by
  have hfoldl : ∀ (settings : Settings) (value : Json), settings.find? s.key = some value →
      (configurations.foldl Settings.override settings).find? s.key =
        some (configurations.foldl (fun value c => (c.find? s.key).getD value) value) := by
    induction configurations with
    | nil => exact fun _ _ hvalue => hvalue
    | cons c configurations ih =>
      intro settings value hvalue
      refine ih _ _ ?_
      rw [Settings.find?_override, hvalue]
      rfl
  exact hfoldl g.defaults s.default (find?_defaults hg hs)

end Grammar

/-! ### Readings -/

/-- The settings that come of a command line over configurations have the right values. -/
theorem settles_of_read {line : List String} {reading : Reading} (hg : g.Proper)
    (h : g.read edition (g.layered configurations) line = .ok reading) :
    g.Settles edition configurations line reading.settings := by
  obtain ⟨steps, hsteps, h⟩ := exists_of_bind_eq_ok h
  obtain ⟨taken, htaken, h⟩ := exists_of_bind_eq_ok h
  obtain ⟨settled, hsettled, h⟩ := exists_of_bind_eq_ok h
  obtain ⟨-, -, h⟩ := exists_of_bind_eq_ok h
  obtain rfl := Except.ok.inj h
  refine ⟨steps, hsteps, ?_⟩
  intro s hs conversion choices haction
  -- First the steps of the line, then the conversion of what they did not give.
  have hfollow := Settings.find?_follow hg hs haction (Grammar.isOf_of_mem_stepsOf hsteps) htaken
  rw [Grammar.find?_layered hg hs] at hfollow
  have hothers := Settings.find?_convertOthers hg hs haction
    (fun hnone => by rw [hfollow, hnone, Option.elim_none]) hsettled
  rw [hothers, Switch.settledValue?, hfollow]
  cases lastArgument? s.key steps <;> rfl

theorem commandWords_of_read {line : List String} {reading : Reading}
    (h : g.read edition settings line = .ok reading) :
    g.commandWords edition line = reading.command := by
  obtain ⟨steps, hsteps, h⟩ := exists_of_bind_eq_ok h
  obtain ⟨taken, -, h⟩ := exists_of_bind_eq_ok h
  obtain ⟨settled, -, h⟩ := exists_of_bind_eq_ok h
  obtain ⟨-, -, h⟩ := exists_of_bind_eq_ok h
  obtain rfl := Except.ok.inj h
  rw [Grammar.commandWords, hsteps]

theorem name_of_commandOf {name : String} {command : Command}
    (h : Invocation.commandOf name = .ok command) : command.name = name := by
  unfold Invocation.commandOf at h
  split at h
  next c hc =>
    obtain rfl := Except.ok.inj h
    simpa using List.find?_some hc
  next => cases h

/-- An invocation of a command comes from two readings, of the whole line by the grammar of the
program and of the words behind the name of the command by the grammar of the command. -/
theorem exists_readings_of_parse {line : List String} {general settings : Settings}
    {command : Command}
    (h : Invocation.parse edition configurations line = .ok ⟨general, some (command, settings)⟩) :
    ∃ reading words special,
      mainGrammar.read edition (mainGrammar.layered configurations) line = .ok reading ∧
      reading.command = command.name :: words ∧ reading.settings = general ∧
      command.grammar.read edition (command.grammar.layered configurations) words = .ok special ∧
      special.settings = settings := by
  obtain ⟨reading, hreading, h⟩ := exists_of_bind_eq_ok h
  dsimp only at h
  -- An invocation for which no command is named has none.
  split at h
  next =>
    obtain ⟨-, -, h⟩ := exists_of_bind_eq_ok h
    cases h
  next name words hcommand =>
    obtain ⟨command', hname, h⟩ := exists_of_bind_eq_ok h
    obtain ⟨special, hspecial, h⟩ := exists_of_bind_eq_ok h
    obtain ⟨-, -, h⟩ := exists_of_bind_eq_ok h
    obtain ⟨hgeneral, hsome⟩ := Invocation.mk.inj (Except.ok.inj h)
    obtain ⟨rfl, hsettings⟩ := Prod.mk.inj (Option.some.inj hsome)
    refine ⟨reading, words, special, eq_ok_of_mapError_eq_ok hreading, ?_, hgeneral,
      eq_ok_of_mapError_eq_ok hspecial, hsettings⟩
    rw [hcommand, name_of_commandOf hname]

/-! ### Runs -/

/-- A general setting that a command has as well is the request for help. -/
theorem key_eq_help_of_mem_keys (command : Command) :
    ∀ key ∈ mainGrammar.keys, key ∈ command.grammar.keys → key = "help" := by
  cases command <;> decide

/-- A run whose configuration is found goes on with what the second reading gives. -/
theorem result_invocationOf {env : Environment} {line : List String} {delayed : List LogRecord}
    {defaults configuration : Settings} {first second : Invocation}
    (hdefaults : loadDefaults env = .ok (delayed, defaults))
    (hfirst : Invocation.parse env.edition [defaults] line = .ok first)
    (hfile : (first.general.get "config").holds = true)
    (hconfiguration : (loadConfiguration env (first.general.get "config")).result =
      .ok configuration)
    (hsecond : Invocation.parse env.edition [defaults, configuration] line = .ok second) :
    ∃ records, (invocationOf env line).result = .ok (records, second) := by
  let file := first.general.get "config"
  refine ⟨delayed ++ [ownRecord .info ("Loading configuration from " ++ file.shown)], ?_⟩
  rw [invocationOf_of_asked hdefaults hfirst rfl hfile, Trace.result_bind_eq_ok_iff]
  refine ⟨configuration, hconfiguration, ?_⟩
  rw [hsecond]
  rfl

/-- In a run of a command, with a default configuration and one that is asked for, every setting
with an argument has the value that the line, the second configuration, the first one and the
program say, in this order. The words behind the name of the command count for the command and the
others for the program; no setting but that of the request for help is shared; and configurations
count for a grammar by its own settings only. -/
theorem settles_of_invocationOf {env : Environment} {line : List String}
    {delayed : List LogRecord} {defaults configuration general settings : Settings}
    {first : Invocation} {command : Command}
    (hdefaults : loadDefaults env = .ok (delayed, defaults))
    (hfirst : Invocation.parse env.edition [defaults] line = .ok first)
    (hfile : (first.general.get "config").holds = true)
    (hconfiguration : (loadConfiguration env (first.general.get "config")).result =
      .ok configuration)
    (hsecond : Invocation.parse env.edition [defaults, configuration] line =
      .ok ⟨general, some (command, settings)⟩) :
    (∃ records, (invocationOf env line).result =
        .ok (records, ⟨general, some (command, settings)⟩)) ∧
      mainGrammar.Settles env.edition [defaults, configuration] line general ∧
      (∃ words, mainGrammar.commandWords env.edition line = command.name :: words ∧
        command.grammar.Settles env.edition [defaults, configuration] words settings) ∧
      (∀ key ∈ mainGrammar.keys, key ∈ command.grammar.keys → key = "help") ∧
      ∀ (g : Grammar) (defaults' configuration' : Settings),
        (∀ key ∈ g.keys, defaults'.find? key = defaults.find? key ∧
          configuration'.find? key = configuration.find? key) →
        ∀ words, g.read env.edition (g.layered [defaults', configuration']) words =
          g.read env.edition (g.layered [defaults, configuration]) words := by
  obtain ⟨reading, words, special, hreading, hcommand, rfl, hspecial, rfl⟩ :=
    exists_readings_of_parse hsecond
  refine ⟨result_invocationOf hdefaults hfirst hfile hconfiguration hsecond, ?_, ?_, ?_, ?_⟩
  · exact settles_of_read proper_mainGrammar hreading
  · refine ⟨words, ?_, settles_of_read (proper_grammar command) hspecial⟩
    rw [commandWords_of_read hreading, hcommand]
  · exact key_eq_help_of_mem_keys command
  · intro g defaults' configuration' hagree words
    rw [Grammar.layered_congr (.cons (fun key hkey => (hagree key hkey).1)
      (.cons (fun key hkey => (hagree key hkey).2) .nil))]

/-- The text of a default configuration. -/
def defaultsText : String := "\x7b\"bits\":\"16\",\"pid\":1\x7d"

/-- Files with a default configuration and another one. -/
def layeredEnvironment : Environment where
  files := ({ workingPlace := [] } : Host.FileStore).putAll
    [("d", defaultsText.toUTF8.toList), ("c", "\x7b\"bits\":\"8\"\x7d".toUTF8.toList)]
  sources _ := []
  defaultsPath := "d"
  edition := .current
  configurationDepth := 10
  documentDepth := 10
  validator := Json.Bundle.validate
  disassembler _ _ _ _ := .ok []
  stamp := ""

/-- The last argument for the process wins, the width comes from the second configuration. -/
theorem settles_of_invocationOf_sample :
    ∃ records general settings,
      (invocationOf layeredEnvironment ["-cc", "resolve", "-p", "3", "-p7", "x"]).result =
        .ok (records, ⟨general, some (.resolve, settings)⟩) ∧
      settings.find? "pid" = some (.integer 7) ∧ settings.find? "bits" = some (.integer 8) := by
  let defaults : Settings := [(("bits" : Text.Raw), .string "16"), (("pid" : Text.Raw), .integer 1)]
  let configuration : Settings := [(("bits" : Text.Raw), .string "8")]
  let line := ["-cc", "resolve", "-p", "3", "-p7", "x"]
  have hholds : layeredEnvironment.files.holds "d" = true := by decide +kernel
  have hfile : (layeredEnvironment.files.read "d").toOption = some defaultsText.toUTF8.toList := by
    decide +kernel
  have hmarks : (Text.decodeDetected defaultsText.toUTF8.toList).toOption =
      some (Text.marksOf defaultsText.toList) := by decide +kernel
  have hread : (Json.read 10 (Text.marksOf defaultsText.toList)).toOption =
      some (.object defaults) := by decide +kernel
  have hdefaults : loadDefaults layeredEnvironment = .ok (defaultsOf "d" (.object defaults)) :=
    Environment.Defaults.loadDefaults (.object ⟨hholds, eq_ok_of_toOption_eq_some hfile⟩
      (eq_ok_of_toOption_eq_some hmarks) (eq_ok_of_toOption_eq_some hread))
  -- Of each reading only the settings in question are computed.
  have hfirst : (Invocation.parse .current [defaults] line).toOption.map (·.general.get "config") =
      some (.string "c") := by decide +kernel
  have hconfiguration : (loadConfiguration layeredEnvironment (.string "c")).result.toOption =
      some configuration := by decide +kernel
  have hsecond : (Invocation.parse .current [defaults, configuration] line).toOption.map
      (·.command.map fun c => (c.1, c.2.find? "pid", c.2.find? "bits")) =
        some (some (.resolve, some (.integer 7), some (.integer 8))) := by decide +kernel
  obtain ⟨first, hparsed, hconfig⟩ := Option.map_eq_some_iff.mp hfirst
  obtain ⟨⟨general, command⟩, hsettled, hcommand⟩ := Option.map_eq_some_iff.mp hsecond
  obtain ⟨⟨_, settings⟩, rfl, hvalues⟩ := Option.map_eq_some_iff.mp hcommand
  obtain ⟨rfl, hpid, hbits⟩ : _ ∧ _ ∧ _ := by simpa using hvalues
  have hrun := settles_of_invocationOf hdefaults (eq_ok_of_toOption_eq_some hparsed)
    (by rw [hconfig]; rfl) (by rw [hconfig]; exact eq_ok_of_toOption_eq_some hconfiguration)
    (eq_ok_of_toOption_eq_some hsettled)
  obtain ⟨records, hresult⟩ := hrun.1
  exact ⟨records, general, settings, hresult, hpid, hbits⟩

end PointerChain.CommandLine
