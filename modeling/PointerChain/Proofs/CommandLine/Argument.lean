import PointerChain.Proofs.CommandLine.Precedence

/-!
# Arguments in front of others

An argument for a switch that the other words leave alone changes the setting of the switch and
nothing else of what the words come to. The same goes for a value of this setting in a
configuration, once it has been converted.

* `Switch.option` is the word that gives an argument to a switch.
* `Grammar.readWithout` is a reading in which one switch is left alone.
* `Grammar.read_eq` and `Grammar.read_option` say what becomes of the setting without the word and
  with it, and `Grammar.read_put_eq_read_option` that a value in a configuration does the same.
-/

namespace PointerChain

/-! ### Fields -/

namespace Json

variable {name other : Text.Raw} {value value' : Json} {fields : List (Text.Raw × Json)}

theorem putField_of_field? (h : field? name fields = some value) :
    putField name value fields = fields := by
  induction fields with
  | nil => cases h
  | cons field fields ih =>
    obtain ⟨key, old⟩ := field
    rw [field?_cons] at h
    by_cases hkey : key = name
    · rw [if_pos hkey] at h
      obtain rfl := Option.some.inj h
      simp [putField, hkey]
    · rw [if_neg hkey] at h
      simp [putField, hkey, ih h]

theorem putField_putField_self (name : Text.Raw) (value value' : Json)
    (fields : List (Text.Raw × Json)) :
    putField name value' (putField name value fields) = putField name value' fields := by
  induction fields with
  | nil => simp [putField]
  | cons field fields ih =>
    by_cases hkey : field.1 = name
    · simp [putField, hkey]
    · simp [putField, hkey, ih]

/-- A field that is there keeps its place, so others may be stored before or after. -/
theorem putField_comm (hne : name ≠ other) (h : (field? name fields).isSome = true) :
    putField other value' (putField name value fields) =
      putField name value (putField other value' fields) := by
  induction fields with
  | nil => cases h
  | cons field fields ih =>
    obtain ⟨key, old⟩ := field
    rw [field?_cons] at h
    by_cases hkey : key = name
    · subst hkey
      simp [putField, hne]
    · rw [if_neg hkey] at h
      by_cases hother : key = other
      · subst hother
        simp [putField, hkey]
      · simp [putField, hkey, hother, ih h]

end Json

namespace CommandLine

/-! ### Settings -/

variable {g : Grammar} {edition : Edition} {s t : Switch} {conversion : Conversion}
variable {choices : List Json}
variable {steps : List Step} {settings after : Settings} {key : Text.Raw} {value : Json}
variable {line words : List String}

namespace Settings

/-- Whether there is a setting. -/
def Has (settings : Settings) (key : Text.Raw) : Prop := (settings.find? key).isSome = true

theorem Has.put (h : settings.Has key) (other : Text.Raw) (value : Json) :
    (settings.put other value).Has key := by
  unfold Has at h ⊢
  by_cases hkey : key = other
  · rw [hkey, find?_put_self]
    rfl
  · rwa [find?_put_of_ne _ _ hkey]

theorem put_comm {other : Text.Raw} (hne : key ≠ other) (h : settings.Has key)
    (value value' : Json) :
    (settings.put key value).put other value' = (settings.put other value').put key value :=
  Json.putField_comm hne h

theorem get_put_of_ne {other : Text.Raw} (hne : other ≠ key) :
    (settings.put key value).get other = settings.get other := by
  rw [get, get, find?_put_of_ne _ _ hne]

/-! ### Steps and other settings -/

/-- Taking another switch does not depend on a setting and keeps it. -/
theorem take_put {argument : Option String} (hne : key ≠ t.key) (h : settings.Has key) :
    (settings.put key value).take t argument = (·.put key value) <$> settings.take t argument := by
  -- Only counting looks at a setting first, and that is the switch's own one.
  unfold take
  split
  next conversion choices text _ =>
    simp only [map_bind, map_pure, put_comm hne h]
  next => exact congrArg Except.ok (put_comm hne h _ _)
  next => exact congrArg Except.ok (put_comm hne h _ _)
  next =>
    rw [get_put_of_ne hne.symm]
    cases countUp (settings.get t.key) with
    | error fault => rfl
    | ok counted => exact congrArg Except.ok (put_comm hne h _ _)
  next => rfl
  next shells text _ =>
    cases checkChoice t.title shells (.string text) with
    | error fault => rfl
    | ok u => rfl
  next => rfl

theorem Has.take {argument : Option String} (h : settings.Has key) (hne : key ≠ t.key)
    (htake : settings.take t argument = .ok after) : after.Has key := by
  rw [Has, find?_take_of_ne htake hne]
  exact h

section Steps

variable {name : String} {operand : Operand}

theorem key_ne_of_takes {argument : Option String}
    (h : (Step.take t argument).takes name = false) : (name : Text.Raw) ≠ t.key :=
  key_ne fun heq => by simp [Step.takes, heq] at h

theorem step_put {step : Step} (hoperand : (name : Text.Raw) ≠ operand.key)
    (hstep : step.takes name = false)
    (h : settings.Has name) :
    (settings.put name value).step operand step =
      (·.put name value) <$> settings.step operand step := by
  cases step with
  | take t argument => exact take_put (key_ne_of_takes hstep) h
  | operand text => exact congrArg Except.ok (put_comm hoperand h _ _)
  | command words => exact congrArg Except.ok (put_comm hoperand h _ _)
  | leave text => rfl
  | fail fault => rfl

theorem Has.step {step : Step} (h : settings.Has name) (hstep : step.takes name = false)
    (hafter : settings.step operand step = .ok after) : after.Has name := by
  cases step with
  | take t argument => exact h.take (key_ne_of_takes hstep) hafter
  | operand text | command words =>
    obtain rfl := Except.ok.inj hafter
    exact h.put _ _
  | leave text =>
    obtain rfl := Except.ok.inj hafter
    exact h
  | fail fault => cases hafter

/-- Steps that do not take a switch leave its setting alone and do not depend on it. -/
theorem follow_put (hoperand : (name : Text.Raw) ≠ operand.key)
    (hsteps : steps.any (·.takes name) = false) (h : settings.Has name) :
    (settings.put name value).follow operand steps =
      (·.put name value) <$> settings.follow operand steps := by
  induction steps generalizing settings with
  | nil => rfl
  | cons step steps ih =>
    rw [List.any_cons, Bool.or_eq_false_iff] at hsteps
    rw [follow, List.foldlM_cons, step_put hoperand hsteps.1 h, follow, List.foldlM_cons]
    cases hstep : settings.step operand step with
    | error fault => rfl
    | ok between => exact ih hsteps.2 (h.step hsteps.1 hstep)

theorem Has.follow (h : settings.Has name) (hsteps : steps.any (·.takes name) = false)
    (hafter : settings.follow operand steps = .ok after) : after.Has name := by
  induction steps generalizing settings with
  | nil =>
    obtain rfl := Except.ok.inj hafter
    exact h
  | cons step steps ih =>
    rw [List.any_cons, Bool.or_eq_false_iff] at hsteps
    obtain ⟨between, hbetween, hafter⟩ := exists_of_bind_eq_ok hafter
    exact ih (h.step hsteps.1 hbetween) hsteps.2 hafter

end Steps

/-! ### Conversions of other settings -/

/-- Converting another switch does not depend on a setting and keeps it. -/
theorem convert_put (hne : key ≠ t.key) (h : settings.Has key) :
    (settings.put key value).convert t = (·.put key value) <$> settings.convert t := by
  unfold convert
  rw [get_put_of_ne hne.symm]
  split
  next =>
    simp only [map_bind, map_pure, put_comm hne h]
  next => rfl

theorem Has.convert (h : settings.Has key) (hafter : settings.convert t = .ok after) :
    after.Has key := by
  unfold Settings.convert at hafter
  split at hafter
  · obtain ⟨converted, -, hafter⟩ := exists_of_bind_eq_ok hafter
    obtain rfl := Except.ok.inj hafter
    exact h.put _ _
  · obtain rfl := Except.ok.inj hafter
    exact h

/-- Conversions take no setting away. -/
theorem Has.foldlM_convert {switches : List Switch} (h : settings.Has key)
    (hafter : switches.foldlM Settings.convert settings = .ok after) : after.Has key := by
  induction switches generalizing settings with
  | nil =>
    obtain rfl := Except.ok.inj hafter
    exact h
  | cons t switches ih =>
    rw [List.foldlM_cons] at hafter
    obtain ⟨between, hbetween, hafter⟩ := exists_of_bind_eq_ok hafter
    exact ih (h.convert hbetween) hafter

theorem foldlM_convert_put {switches : List Switch} (hne : ∀ t ∈ switches, key ≠ t.key)
    (h : settings.Has key) :
    switches.foldlM Settings.convert (settings.put key value) =
      (·.put key value) <$> switches.foldlM Settings.convert settings := by
  induction switches generalizing settings with
  | nil => rfl
  | cons t switches ih =>
    obtain ⟨ht, hne⟩ := List.forall_mem_cons.mp hne
    rw [List.foldlM_cons, convert_put ht h, List.foldlM_cons]
    cases hconvert : settings.convert t with
    | error fault => rfl
    | ok between => exact ih hne (h.convert hconvert)

/-- The conversion of a switch whose value is known comes to putting what it is converted to. -/
theorem convert_eq {converted : Json} (haction : s.action = .store conversion choices)
    (hvalue : settings.find? s.key = some value)
    (hconverted : conversion.apply value = some converted) :
    settings.convert s = .ok (settings.put s.key converted) := by
  have hget : settings.get s.key = value := by rw [Settings.get, hvalue, Option.getD_some]
  unfold Settings.convert
  rw [haction, hget]
  cases value with
  | string text =>
    have hread : s.convert conversion text = .ok converted := by
      rw [Switch.convert, show conversion.read text = some converted from hconverted]
    dsimp only
    rw [hread]
    rfl
  | null | bool _ | integer _ | real _ | array _ | object _ =>
    -- What is no text stays, and putting it once more changes nothing.
    obtain rfl := Option.some.inj hconverted
    exact congrArg Except.ok (Json.putField_of_field? hvalue).symm

/-- One switch may as well be converted behind all others. -/
theorem foldlM_convert_eq {switches : List Switch} {converted : Json}
    (hnodup : (switches.map (·.key)).Nodup) (hs : s ∈ switches)
    (haction : s.action = .store conversion choices) (hvalue : settings.find? s.key = some value)
    (hconverted : conversion.apply value = some converted) :
    switches.foldlM Settings.convert settings =
      (·.put s.key converted) <$>
        (switches.filter fun t => t.key ≠ s.key).foldlM Settings.convert settings := by
  induction switches generalizing settings with
  | nil => cases hs
  | cons t switches ih =>
    obtain ⟨ht, hnodup⟩ := List.nodup_cons.mp hnodup
    have hne {u : Switch} (hu : u ∈ switches) : u.key ≠ t.key := fun heq =>
      ht (List.mem_map.mpr ⟨u, hu, heq⟩)
    -- A switch is converted where it stands, but those behind it do not look at its setting.
    rcases List.mem_cons.mp hs with rfl | hs
    · have hfilter : ((s :: switches).filter fun t => t.key ≠ s.key) = switches := by
        rw [List.filter_cons_of_neg (by simp), List.filter_eq_self]
        exact fun u hu => by simpa using hne hu
      rw [hfilter, List.foldlM_cons, convert_eq haction hvalue hconverted]
      refine foldlM_convert_put (fun u hu => key_ne (hne hu).symm) ?_
      rw [Has, hvalue]
      rfl
    · have hts : t.key ≠ s.key := (hne hs).symm
      rw [List.filter_cons_of_pos (by simpa using hts), List.foldlM_cons, List.foldlM_cons]
      cases hconvert : settings.convert t with
      | error fault => rfl
      | ok between =>
        refine ih hnodup hs ?_
        rw [find?_convert_of_ne hconvert (key_ne hts.symm), hvalue]

end Settings

/-! ### Readings without a switch -/

/-- A reading with a setting put anew. -/
def Reading.put (reading : Reading) (key : Text.Raw) (value : Json) : Reading :=
  { reading with settings := reading.settings.put key value }

namespace Grammar

/-- Words that do not give a switch. Words that cannot be taken apart give none. -/
def NotGiven (g : Grammar) (edition : Edition) (key : String) (words : List String) : Prop :=
  ∀ steps, g.stepsOf edition words = .ok steps → steps.any (·.takes key) = false

theorem NotGiven.lastArgument? {key : String} {steps : List Step}
    (h : g.NotGiven edition key words) (hsteps : g.stepsOf edition words = .ok steps) :
    lastArgument? key steps = none := by
  have htakes := h steps hsteps
  rwa [any_takes_eq, Option.isSome_eq_false_iff, Option.isNone_iff_eq_none] at htakes

/-- A reading of words in which the setting of a switch is not converted. -/
def readWithout (g : Grammar) (edition : Edition) (s : Switch) (settings : Settings)
    (words : List String) : Except ReadingFault Reading := do
  let steps ← g.stepsOf edition words
  let taken ← settings.follow g.operand steps
  let others := g.switches.filter fun t => !steps.any (·.takes t.key)
  let settings ← (others.filter fun t => t.key ≠ s.key).foldlM Settings.convert taken
  g.requireOperand steps
  return {
    settings
    command := (steps.findSome? Step.commandWords?).getD []
    leftovers := steps.filterMap Step.leftover? }

/-- Where words do not give a switch, what its setting is converted to may be put in at the end. -/
theorem read_eq {converted : Json} (hg : g.Proper) (hs : s ∈ g.switches)
    (haction : s.action = .store conversion choices) (hgiven : g.NotGiven edition s.key words)
    (hvalue : settings.find? s.key = some value)
    (hconverted : conversion.apply value = some converted) :
    g.read edition settings words =
      (·.put s.key converted) <$> g.readWithout edition s settings words := by
  simp only [read, readWithout, map_bind, map_pure]
  refine bind_congr_of_eq_ok fun steps hsteps => ?_
  refine bind_congr_of_eq_ok fun taken hfollow => ?_
  have htakes := hgiven steps hsteps
  have htaken := Settings.find?_follow hg hs haction (isOf_of_mem_stepsOf hsteps) hfollow
  rw [hgiven.lastArgument? hsteps, Option.elim_none, hvalue] at htaken
  rw [convertOthers, Settings.foldlM_convert_eq
    ((List.nodup_append.mp hg).1.sublist (List.filter_sublist.map _))
    (List.mem_filter.mpr ⟨hs, by rw [htakes]; rfl⟩) haction htaken hconverted, bind_map_left]
  rfl

/-- A reading without a switch does not depend on the setting of the switch. -/
theorem readWithout_put (hg : g.Proper) (hs : s ∈ g.switches)
    (hgiven : g.NotGiven edition s.key words) (h : settings.Has s.key) :
    g.readWithout edition s (settings.put s.key value) words =
      (·.put s.key value) <$> g.readWithout edition s settings words := by
  simp only [readWithout, map_bind, map_pure]
  refine bind_congr_of_eq_ok fun steps hsteps => ?_
  have htakes := hgiven steps hsteps
  rw [Settings.follow_put (Settings.key_ne (hg.key_ne_operand hs)) htakes h, bind_map_left]
  refine bind_congr_of_eq_ok fun taken hfollow => ?_
  rw [Settings.foldlM_convert_put _ (h.follow htakes hfollow), bind_map_left]
  · rfl
  · intro t ht
    have hne : t.key ≠ s.key := by simpa using (List.mem_filter.mp ht).2
    exact Settings.key_ne hne.symm

end Grammar

/-! ### Words that give an argument -/

/-- The word that gives an argument to a switch. -/
def Switch.option (s : Switch) (argument : String) : String :=
  "--" ++ s.key ++ "=" ++ argument

/-- A value to which an argument of a switch is converted, and which is one of the choices. -/
structure Switch.Accepts (s : Switch) (conversion : Conversion) (choices : List Json)
    (argument : String) (value : Json) : Prop where
  /-- The argument is converted to the value. -/
  read : conversion.read argument = some value
  /-- The value may be chosen. -/
  choice : checkChoice s.title choices value = .ok ()

variable {argument : String}

theorem toList_option (s : Switch) (argument : String) :
    (s.option argument).toList = ("--" ++ s.key).toList ++ '=' :: argument.toList := by
  simp [Switch.option]

theorem option_ne_dashes (s : Switch) (argument : String) : s.option argument ≠ "--" := by
  intro h
  have hlist := toList_option s argument
  rw [h] at hlist
  simp at hlist

/-- The word is cut at its first equals sign, whatever the argument holds. -/
theorem splitEquals_option (hkey : '=' ∉ ("--" ++ s.key).toList) :
    splitEquals (s.option argument).toList = (("--" ++ s.key).toList, some argument.toList) := by
  have hne : ∀ c ∈ ("--" ++ s.key).toList, (c != '=') = true := by
    intro c hc
    rw [bne_iff_ne]
    exact fun heq => hkey (heq ▸ hc)
  rw [toList_option, splitEquals, List.dropWhile_append_of_pos hne,
    List.takeWhile_append_of_pos hne]
  simp

namespace Grammar

/-- Grammars whose switches are told apart in front of equals signs. -/
def Plain (g : Grammar) : Prop := ∀ flag ∈ g.flags, '=' ∉ flag.1.toList

instance (g : Grammar) : Decidable g.Plain :=
  inferInstanceAs (Decidable (∀ flag ∈ g.flags, '=' ∉ flag.1.toList))

/-- No switch stands for a word with an equals sign. -/
theorem switch?_option (hg : g.Plain) : g.switch? (s.option argument) = none := by
  rw [switch?, Option.map_eq_none_iff, List.find?_eq_none]
  intro flag hflag heq
  refine hg flag hflag ?_
  rw [of_decide_eq_true heq, toList_option]
  simp

theorem kind_option (g : Grammar) (s : Switch) (argument : String) :
    g.kind (s.option argument).toList = g.longKind (s.option argument).toList := by
  obtain ⟨cs, hcs⟩ : ∃ cs, (s.option argument).toList = '-' :: '-' :: cs :=
    ⟨s.key.toList ++ '=' :: argument.toList, by simp [toList_option]⟩
  rw [hcs]
  rfl

/-- The word that gives an argument to a switch is taken as that. -/
theorem word_option (hg : g.Plain) (hkey : '=' ∉ ("--" ++ s.key).toList)
    (hs : g.switch? ("--" ++ s.key) = some s) :
    g.word (s.option argument) = .ok ⟨s.option argument, .long s (some argument.toList)⟩ := by
  rw [word, kind_option, longKind, String.ofList_toList, switch?_option hg,
    splitEquals_option hkey]
  dsimp only
  rw [String.ofList_toList, hs]
  rfl

/-- Only to the former edition two dashes are no argument. -/
theorem argument?_toList (hdashes : edition = .current ∨ argument ≠ "--") :
    edition.argument? argument.toList = some argument := by
  unfold Edition.argument?
  split
  next hlist =>
    rcases hdashes with hedition | hdashes
    · cases hedition
    · exact absurd (String.toList_inj.mp hlist) hdashes
  next => rw [String.ofList_toList]

/-- A word that gives an argument to a switch comes to a step in front of the others. -/
theorem stepsOf_option (hg : g.Plain) (hkey : '=' ∉ ("--" ++ s.key).toList)
    (hs : g.switch? ("--" ++ s.key) = some s) (haction : s.action = .store conversion choices)
    (hdashes : edition = .current ∨ argument ≠ "--") :
    g.stepsOf edition (s.option argument :: words) =
      (.take s (some argument) :: ·) <$> g.stepsOf edition words := by
  -- The argument shares its word with the switch, so that nothing waits for the next word.
  have hlong : edition.longSteps s (some argument.toList) =
      .ok ([.take s (some argument)], none) := by
    rw [Edition.longSteps, Edition.assignedSteps, haction, argument?_toList hdashes]
    rfl
  have hsteps (ws : List Word) :
      g.steps edition .missing none (⟨s.option argument, .long s (some argument.toList)⟩ :: ws) =
        .take s (some argument) :: g.steps edition .missing none ws := by
    rw [steps]
    · dsimp only
      rw [hlong]
      rfl
    · rfl
  rw [stepsOf, Grammar.words, if_neg (option_ne_dashes s argument), word_option hg hkey hs, stepsOf]
  cases g.words words with
  | error fault => rfl
  | ok ws => exact congrArg Except.ok (hsteps ws)

/-- An argument that a switch accepts may as well be put into the settings before. -/
theorem read_option (hg : g.Plain) (hkey : '=' ∉ ("--" ++ s.key).toList)
    (hs : g.switch? ("--" ++ s.key) = some s) (haction : s.action = .store conversion choices)
    (hdashes : edition = .current ∨ argument ≠ "--")
    (haccepts : s.Accepts conversion choices argument value) :
    g.read edition settings (s.option argument :: words) =
      g.readWithout edition s (settings.put s.key value) words := by
  have htake : settings.step g.operand (.take s (some argument)) =
      .ok (settings.put s.key value) := by
    have hconvert : s.convert conversion argument = .ok value := by
      rw [Switch.convert, haccepts.read]
    change settings.take s (some argument) = _
    unfold Settings.take
    rw [haction]
    dsimp only
    rw [hconvert]
    change (checkChoice s.title choices value >>= _) = _
    rw [haccepts.choice]
    rfl
  -- The switch is given now, so it is none of those that are converted at the end.
  have hothers (steps : List Step) :
      (g.switches.filter fun t => !(Step.take s (some argument) :: steps).any (·.takes t.key)) =
        (g.switches.filter fun t => !steps.any (·.takes t.key)).filter fun t => t.key ≠ s.key := by
    rw [List.filter_filter]
    refine List.filter_congr fun t _ => ?_
    have hsame : (s.key == t.key) = decide (t.key = s.key) := by
      rw [Bool.beq_comm, Bool.eq_iff_iff, beq_iff_eq, decide_eq_true_iff]
    rw [List.any_cons, Bool.not_or, Step.takes, hsame]
    simp
  rw [read, stepsOf_option hg hkey hs haction hdashes, bind_map_left]
  refine bind_congr_of_eq_ok fun steps _ => ?_
  rw [Settings.follow, List.foldlM_cons, htake]
  refine bind_congr_of_eq_ok fun taken _ => ?_
  rw [convertOthers, hothers]
  refine bind_congr_of_eq_ok fun settled _ => ?_
  rw [requireOperand, requireOperand]
  simp only [List.any_cons, Step.isOperand, Bool.false_or, List.findSome?_cons,
    List.filterMap_cons, Step.commandWords?, Step.leftover?]

end Grammar

/-! ### Values in configurations -/

section Configurations

variable {defaults configuration configuration' : Settings}

/-- A configuration with one more value overrides settings as if the value was put in behind it. -/
theorem override_put (hnodup : (settings.map Prod.fst).Nodup) (hkey : key ∈ settings.map Prod.fst)
    (hvalue : configuration'.find? key = some value)
    (hothers : ∀ other ≠ key, configuration'.find? other = configuration.find? other) :
    settings.override configuration' = (settings.override configuration).put key value := by
  induction settings with
  | nil => cases hkey
  | cons setting settings ih =>
    obtain ⟨name, old⟩ := setting
    obtain ⟨hname, hnodup⟩ := List.nodup_cons.mp hnodup
    change (name, (configuration'.find? name).getD old) ::
        Settings.override settings configuration' =
      Json.putField key value
        ((name, (configuration.find? name).getD old) :: Settings.override settings configuration)
    -- The keys are distinct, so the value is put in at one place only.
    by_cases h : name = key
    · subst h
      have hrest : Settings.override settings configuration' =
          Settings.override settings configuration :=
        override_congr fun other hother => hothers other fun heq => hname (heq ▸ hother)
      rw [hvalue, hrest, Json.putField, if_pos rfl]
      rfl
    · have hmem : key ∈ settings.map Prod.fst :=
        (List.mem_cons.mp hkey).resolve_left (Ne.symm h)
      rw [hothers name h, Json.putField, if_neg h, ih hnodup hmem]
      rfl

namespace Grammar

/-- Settings under a configuration with one more value are those without it and the value put in. -/
theorem layered_put (hg : g.Proper) (hs : s ∈ g.switches)
    (hvalue : configuration'.find? s.key = some value)
    (hothers : ∀ other ≠ (s.key : Text.Raw),
      configuration'.find? other = configuration.find? other) :
    g.layered [defaults, configuration'] =
      (g.layered [defaults, configuration]).put s.key value := by
  have hkeys : (g.defaults.override defaults).map Prod.fst = g.keys.map Text.Raw.ofString :=
    (map_fst_override _ _).trans g.map_fst_defaults
  refine override_put ?_ ?_ hvalue hothers
  · rw [hkeys]
    exact hg.map fun _ _ => Text.Raw.ofString_inj.mp
  · rw [hkeys]
    exact List.mem_map_of_mem (List.mem_append_left _ (List.mem_map_of_mem hs))

theorem has_layered (hg : g.Proper) (hs : s ∈ g.switches) (configurations : List Settings) :
    (g.layered configurations).Has s.key := by
  rw [Settings.Has, find?_layered hg hs]
  rfl

/-- Where a switch is not given, a text in a configuration that the switch accepts does what the
argument does. -/
theorem read_put_eq_read_option (hg : g.Proper) (hplain : g.Plain) (hs : s ∈ g.switches)
    (hkey : '=' ∉ ("--" ++ s.key).toList) (hflag : g.switch? ("--" ++ s.key) = some s)
    (haction : s.action = .store conversion choices) (hgiven : g.NotGiven edition s.key words)
    (hdashes : edition = .current ∨ argument ≠ "--")
    (haccepts : s.Accepts conversion choices argument value)
    (hvalue : configuration'.find? s.key = some (.string argument))
    (hothers : ∀ other ≠ (s.key : Text.Raw),
      configuration'.find? other = configuration.find? other) :
    g.read edition (g.layered [defaults, configuration']) words =
      g.read edition (g.layered [defaults, configuration]) (s.option argument :: words) := by
  have hhas : (g.layered [defaults, configuration]).Has s.key := has_layered hg hs _
  have hconverted : conversion.apply (.string argument) = some value := haccepts.read
  have hput : ((·.put s.key value) ∘ (·.put s.key (.string argument)) : Reading → Reading) =
      (·.put s.key value) := by
    funext reading
    exact congrArg (fun settings => { reading with settings })
      (Json.putField_putField_self _ _ _ _)
  rw [layered_put hg hs hvalue hothers, read_option hplain hkey hflag haction hdashes haccepts,
    read_eq hg hs haction hgiven (Settings.find?_put_self _ _ _) hconverted,
    readWithout_put hg hs hgiven hhas, readWithout_put hg hs hgiven hhas, ← comp_map, hput]

end Grammar

end Configurations

end CommandLine

end PointerChain
