import PointerChain.Proofs.CommandLine.Argument

/-!
# Texts that cannot be used

The words of a command either come to something, or they ask for help, or arguments cannot be used.
A text that cannot be converted is of the last kind, on the line as well as in a configuration.

* `flags_of_command` says what the program and a command make of the long flags of the command.
* `failsByUsage_read` and `notGiven_help_of_read` are about words that do not ask for help.
* `read_ne_ok_of_unreadable` and `read_option_of_unreadable` are about a text that cannot be
  converted, in the settings and as an argument.
-/

namespace PointerChain.CommandLine

variable {command : Command} {edition : Edition} {s : Switch} {conversion : Conversion}
variable {choices : List Json} {argument : String} {words : List String}

/-! ### Switches of commands -/

theorem plain_mainGrammar : mainGrammar.Plain := by decide

theorem plain_grammar (command : Command) : command.grammar.Plain := by
  cases command <;> decide

theorem key_ne_help (hs : s ∈ command.grammar.switches)
    (haction : s.action = .store conversion choices) : s.key ≠ "help" := by
  intro hkey
  have hhelp : helpSwitch ∈ command.grammar.switches := List.mem_cons_self
  have heq : s = helpSwitch := (proper_grammar command).eq_of_key_eq hs hhelp hkey
  rw [heq] at haction
  cases haction

/-- Every switch of a command but that for help has a long flag named after its setting, and no
switch of the program starts like this flag. -/
theorem flags_of_command (command : Command) : ∀ s ∈ command.grammar.switches, s.key ≠ "help" →
    (command.grammar.switch? ("--" ++ s.key)).map (·.key) = some s.key ∧
      '=' ∉ ("--" ++ s.key).toList ∧
      (mainGrammar.completions ("--" ++ s.key).toList).isEmpty = true ∧
      (mainGrammar.switch? ("--" ++ s.key)).isNone = true := by
  cases command <;> decide

theorem switch?_of_command (hs : s ∈ command.grammar.switches)
    (haction : s.action = .store conversion choices) :
    command.grammar.switch? ("--" ++ s.key) = some s := by
  obtain ⟨hflag, -⟩ := flags_of_command command s hs (key_ne_help hs haction)
  obtain ⟨t, ht, hkey⟩ := Option.map_eq_some_iff.mp hflag
  have hmem := Grammar.mem_switches_of_switch? ht
  rw [ht, (proper_grammar command).eq_of_key_eq hmem hs hkey]

/-! ### Faults of commands -/

/-- A part of a reading that fails at most because arguments cannot be used. -/
def FailsByUsage {α : Type} (x : Except ReadingFault α) : Prop :=
  ∀ fault, x = .error fault → ∃ usage, fault = .usage usage

section Faults

variable {α β : Type} {x : Except ReadingFault α} {f : α → Except ReadingFault β}

theorem failsByUsage_ok (a : α) : FailsByUsage (.ok a : Except ReadingFault α) := nofun

theorem failsByUsage_error (usage : ArgumentFault) :
    FailsByUsage (.error (.usage usage) : Except ReadingFault α) := by
  rintro _ ⟨⟩
  exact ⟨usage, rfl⟩

theorem FailsByUsage.bind (hx : FailsByUsage x) (hf : ∀ a, x = .ok a → FailsByUsage (f a)) :
    FailsByUsage (x >>= f) := by
  cases x with
  | ok a => exact hf a rfl
  | error fault =>
    obtain ⟨usage, rfl⟩ := hx fault rfl
    exact failsByUsage_error usage

theorem failsByUsage_foldlM {f : β → α → Except ReadingFault β} {as : List α}
    (hf : ∀ a ∈ as, ∀ b, FailsByUsage (f b a)) (b : β) : FailsByUsage (as.foldlM f b) := by
  induction as generalizing b with
  | nil => exact failsByUsage_ok b
  | cons a as ih =>
    obtain ⟨ha, has⟩ := List.forall_mem_cons.mp hf
    rw [List.foldlM_cons]
    exact (ha b).bind fun b' _ => ih has b'

theorem failsByUsage_convert (s : Switch) (conversion : Conversion) (text : Text.Raw) :
    FailsByUsage (s.convert conversion text) := by
  unfold Switch.convert
  split
  · exact failsByUsage_ok _
  · exact failsByUsage_error _

theorem failsByUsage_checkChoice (title : String) (choices : List Json) (value : Json) :
    FailsByUsage (checkChoice title choices value) := by
  unfold checkChoice
  split
  · exact failsByUsage_ok _
  · exact failsByUsage_error _

variable {g : Grammar} {settings : Settings}

theorem failsByUsage_stepsOf (g : Grammar) (edition : Edition) (words : List String) :
    FailsByUsage (g.stepsOf edition words) := by
  unfold Grammar.stepsOf
  cases (g.words words).map (g.steps edition .missing none) with
  | ok steps => exact failsByUsage_ok steps
  | error usage => exact failsByUsage_error usage

/-- A switch of a command that is not the one for help stores an argument or is turned on. -/
theorem action_of_command (command : Command) : ∀ t ∈ command.grammar.switches, t.key ≠ "help" →
    (∃ conversion choices, t.action = .store conversion choices) ∨ t.action = .enable := by
  cases command <;> simp [Command.grammar, Command.switches, targetSwitches, helpSwitch]

theorem failsByUsage_step {step : Step} (operand : Operand) (hstep : step.IsOf command.grammar)
    (hhelp : step.takes "help" = false) : FailsByUsage (settings.step operand step) := by
  cases step with
  | take t argument =>
    have hkey : t.key ≠ "help" := fun heq => by simp [Step.takes, heq] at hhelp
    change FailsByUsage (settings.take t argument)
    unfold Settings.take
    -- Apart from the one for help, the switches of a command store something or set a flag.
    rcases action_of_command command t hstep hkey with ⟨conversion, choices, haction⟩ | haction
    · rw [haction]
      cases argument with
      | none => exact failsByUsage_ok _
      | some text =>
        refine (failsByUsage_convert _ _ _).bind fun value _ => ?_
        exact (failsByUsage_checkChoice _ _ _).bind fun _ _ => failsByUsage_ok _
    · rw [haction]
      exact failsByUsage_ok _
  | operand text | command words | leave text => exact failsByUsage_ok _
  | fail usage => exact failsByUsage_error usage

theorem failsByUsage_convertOthers (g : Grammar) (steps : List Step) (settings : Settings) :
    FailsByUsage (g.convertOthers steps settings) := by
  refine failsByUsage_foldlM (fun t _ settings => ?_) settings
  unfold Settings.convert
  split
  · exact (failsByUsage_convert _ _ _).bind fun _ _ => failsByUsage_ok _
  · exact failsByUsage_ok _

theorem failsByUsage_requireOperand (g : Grammar) (steps : List Step) :
    FailsByUsage (g.requireOperand steps) := by
  unfold Grammar.requireOperand
  split
  · split
    · exact failsByUsage_ok _
    · exact failsByUsage_error _
  · exact failsByUsage_ok _

/-- Words that do not ask for help come to something unless arguments cannot be used. -/
theorem failsByUsage_read (hhelp : command.grammar.NotGiven edition "help" words) :
    FailsByUsage (command.grammar.read edition settings words) := by
  refine (failsByUsage_stepsOf _ _ _).bind fun steps hsteps => ?_
  refine FailsByUsage.bind (failsByUsage_foldlM (fun step hstep settings => ?_) settings)
    fun taken _ => ?_
  · have hany := hhelp steps hsteps
    rw [List.any_eq_false] at hany
    exact failsByUsage_step _ (Grammar.isOf_of_mem_stepsOf hsteps step hstep)
      (by simpa using hany step hstep)
  · refine (failsByUsage_convertOthers _ _ _).bind fun settled _ => ?_
    exact (failsByUsage_requireOperand _ _).bind fun _ _ => failsByUsage_ok _

/-- Every step that is followed to the end comes to something. -/
theorem exists_of_foldlM_eq_ok {f : β → α → Except ReadingFault β} {as : List α} {b last : β}
    (h : as.foldlM f b = .ok last) : ∀ a ∈ as, ∃ before after, f before a = .ok after := by
  induction as generalizing b with
  | nil => nofun
  | cons a as ih =>
    rw [List.foldlM_cons] at h
    obtain ⟨next, hnext, h⟩ := exists_of_bind_eq_ok h
    exact List.forall_mem_cons.mpr ⟨⟨b, next, hnext⟩, ih h⟩

/-- Words that come to something do not ask for help. -/
theorem notGiven_help_of_read {reading : Reading}
    (h : command.grammar.read edition settings words = .ok reading) :
    command.grammar.NotGiven edition "help" words := by
  obtain ⟨steps, hsteps, h⟩ := exists_of_bind_eq_ok h
  obtain ⟨taken, hfollow, -⟩ := exists_of_bind_eq_ok h
  intro steps' hsteps'
  obtain rfl := Except.ok.inj (hsteps.symm.trans hsteps')
  rw [List.any_eq_false]
  intro step hstep htakes
  obtain ⟨before, after, hafter⟩ := exists_of_foldlM_eq_ok hfollow step hstep
  -- A switch for help would have ended the reading at its step.
  cases step with
  | take t argument =>
    have ht : t ∈ command.grammar.switches := Grammar.isOf_of_mem_stepsOf hsteps _ hstep
    have hhelp : helpSwitch ∈ command.grammar.switches := List.mem_cons_self
    obtain rfl := (proper_grammar command).eq_of_key_eq ht hhelp (beq_iff_eq.mp htakes)
    cases hafter
  | operand text | command words | leave text | fail usage => cases htakes

end Faults

/-! ### Texts that cannot be converted -/

section Unreadable

variable (hs : s ∈ command.grammar.switches) (haction : s.action = .store conversion choices)
  (hread : conversion.read argument = none)

include hs haction hread

/-- A text in a configuration that cannot be converted spoils every reading. -/
theorem read_ne_ok_of_unreadable {settings : Settings}
    (hgiven : command.grammar.NotGiven edition s.key words)
    (hvalue : settings.find? s.key = some (.string argument)) (reading : Reading) :
    command.grammar.read edition settings words ≠ .ok reading := by
  intro h
  obtain ⟨steps, hsteps, h⟩ := exists_of_bind_eq_ok h
  obtain ⟨taken, hfollow, h⟩ := exists_of_bind_eq_ok h
  obtain ⟨settled, hsettled, -⟩ := exists_of_bind_eq_ok h
  have hg := proper_grammar command
  have hlast := hgiven.lastArgument? hsteps
  have htaken := Settings.find?_follow hg hs haction (Grammar.isOf_of_mem_stepsOf hsteps) hfollow
  rw [hlast, Option.elim_none, hvalue] at htaken
  have hfound := Settings.find?_convertOthers hg hs haction (fun _ => htaken) hsettled
  rw [hlast, Option.elim_none, show conversion.apply (.string argument) = none from hread] at hfound
  -- But no conversion takes a setting away.
  have hhas : taken.Has s.key := by
    rw [Settings.Has, htaken]
    rfl
  have hkept : settled.Has s.key := hhas.foldlM_convert hsettled
  rw [Settings.Has, hfound] at hkept
  cases hkept

/-- An argument that cannot be converted ends every reading. -/
theorem read_option_of_unreadable (hdashes : edition = .current ∨ argument ≠ "--")
    (settings : Settings) (words : List String) :
    ∃ usage,
      command.grammar.read edition settings (s.option argument :: words) =
        .error (.usage usage) := by
  obtain ⟨-, hkey, -⟩ := flags_of_command command s hs (key_ne_help hs haction)
  rw [Grammar.read, Grammar.stepsOf_option (plain_grammar command) hkey
    (switch?_of_command hs haction) haction hdashes, bind_map_left]
  -- The words are all turned into steps before the first of them is taken.
  cases hsteps : command.grammar.stepsOf edition words with
  | error fault =>
    obtain ⟨usage, rfl⟩ := failsByUsage_stepsOf _ _ _ fault hsteps
    exact ⟨usage, rfl⟩
  | ok steps =>
    have htake : settings.take s (some argument) =
        .error (.usage (.invalidValue s.title conversion argument)) := by
      unfold Settings.take
      rw [haction]
      dsimp only
      rw [Switch.convert, hread]
      rfl
    refine ⟨.invalidValue s.title conversion argument, ?_⟩
    change (((settings.take s (some argument)) >>= _) >>= _) = _
    rw [htake]
    rfl

end Unreadable

end PointerChain.CommandLine
