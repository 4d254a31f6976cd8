import PointerChain.Proofs.CommandLine.Argument

/-!
# Words behind the name of a command

The words behind the name of a command are for the command, so one more of them changes nothing
about what the program itself is asked for. It only has to be a word that does not make the program
give up, such as one that abbreviates several of its switches.

* `Grammar.words_append` says how words in front determine how those behind are taken, and `reached`
  how far the words in front are read on their own.
* `Grammar.Leads` says of words in front that a command is named behind them.
* `Grammar.stepsOf_leads` is about the steps of such a line, and `Grammar.read_insert` about what
  they come to with one more word and without it.
-/

namespace PointerChain.CommandLine

variable {g : Grammar} {edition : Edition} {s : Switch} {key name text : String}
variable {front rest : List String}
variable {settings : Settings} {operand : OperandState} {cs : List Char} {cluster : Cluster}

/-! ### Words -/

namespace Grammar

theorem text_of_word {w : Word} (h : g.word text = .ok w) : w.text = text := by
  unfold word at h
  cases hkind : g.kind text.toList with
  | error fault =>
    rw [hkind] at h
    cases h
  | ok kind =>
    rw [hkind] at h
    rw [← Except.ok.inj h]

/-- A way in which words at the end of a line are taken: by their looks, or all as arguments. -/
inductive Tail (g : Grammar) : (List String → Except ArgumentFault (List Word)) → Prop
  /-- The words are taken by their looks. -/
  | looks : Tail g g.words
  /-- All words are arguments. -/
  | arguments : Tail g fun rest => .ok (rest.map fun text => ⟨text, .argument⟩)

/-- Words at the front of a line determine how those behind are taken. -/
theorem words_append (g : Grammar) (front : List String) :
    ∃ first tail, g.Tail tail ∧
      ∀ rest, g.words (front ++ rest) = first >>= fun ws => (ws ++ ·) <$> tail rest := by
  induction front with
  | nil =>
    refine ⟨.ok [], g.words, .looks, fun rest => ?_⟩
    exact (id_map (g.words rest)).symm
  | cons text front ih =>
    -- Two dashes turn all words behind them into arguments, and no other word does.
    by_cases htext : text = "--"
    · refine ⟨.ok (⟨text, .ending⟩ :: front.map fun text => ⟨text, .argument⟩), _, .arguments,
        fun rest => ?_⟩
      rw [List.cons_append, words, if_pos htext, List.map_append]
      rfl
    · obtain ⟨first, tail, htail, hrest⟩ := ih
      refine ⟨g.word text >>= fun w => (w :: ·) <$> first, tail, htail, fun rest => ?_⟩
      rw [List.cons_append, words, if_neg htext, hrest]
      simp only [bind_assoc, map_eq_pure_bind, pure_bind, List.cons_append]

namespace Tail

variable {tail : List String → Except ArgumentFault (List Word)} {ws : List Word}

theorem cons (h : g.Tail tail) {w : Word} (hdashes : text ≠ "--") (hword : g.word text = .ok w)
    (rest : List String) :
    ∃ kind, (w.kind = .argument → kind = .argument) ∧
      tail (text :: rest) = (⟨text, kind⟩ :: ·) <$> tail rest := by
  cases h with
  | looks =>
    have hw : w = ⟨text, w.kind⟩ := by rw [← text_of_word hword]
    refine ⟨w.kind, id, ?_⟩
    rw [words, if_neg hdashes, hword, ← hw]
    cases g.words rest <;> rfl
  | arguments => exact ⟨.argument, fun _ => rfl, rfl⟩

theorem map_text (h : g.Tail tail) (hws : tail rest = .ok ws) : ws.map (·.text) = rest := by
  cases h with
  | arguments =>
    obtain rfl := Except.ok.inj hws
    rw [List.map_map]
    exact List.map_id' rest
  | looks =>
    induction rest generalizing ws with
    | nil =>
      obtain rfl := Except.ok.inj hws
      rfl
    | cons text rest ih =>
      rw [words] at hws
      split at hws
      · obtain rfl := Except.ok.inj hws
        rw [List.map_cons, List.map_map]
        exact congrArg _ (List.map_id' rest)
      · obtain ⟨first, hfirst, hws⟩ := exists_of_bind_eq_ok hws
        obtain ⟨others, hothers, hws⟩ := exists_of_bind_eq_ok hws
        obtain rfl := Except.ok.inj hws
        rw [List.map_cons, ih hothers, text_of_word hfirst]

end Tail

end Grammar

/-! ### Steps -/

/-- Steps none of which leaves words to a command. -/
def NoCommand (steps : List Step) : Prop := ∀ step ∈ steps, step.commandWords? = none

theorem noCommand_nil : NoCommand [] := by simp [NoCommand]

theorem NoCommand.append {steps steps' : List Step} (h : NoCommand steps) (h' : NoCommand steps') :
    NoCommand (steps ++ steps') := fun step hstep =>
  (List.mem_append.mp hstep).elim (h step) (h' step)

theorem noCommand_singleton {step : Step} (h : step.commandWords? = none) : NoCommand [step] := by
  simpa [NoCommand] using h

theorem noCommand_bareSteps (s : Switch) : NoCommand (bareSteps s).1 := by
  unfold bareSteps
  split
  · exact noCommand_nil
  · exact noCommand_singleton rfl

theorem noCommand_assignedSteps (h : edition.assignedSteps s cs = .ok cluster) :
    NoCommand cluster.1 := by
  unfold Edition.assignedSteps at h
  split at h
  · obtain rfl := Except.ok.inj h
    exact noCommand_singleton rfl
  · cases h

theorem noCommand_longSteps {text : Option (List Char)}
    (h : edition.longSteps s text = .ok cluster) : NoCommand cluster.1 := by
  unfold Edition.longSteps at h
  split at h
  · obtain rfl := Except.ok.inj h
    exact noCommand_bareSteps s
  · exact noCommand_assignedSteps h

theorem noCommand_straySteps (h : edition.straySteps s cs = .ok cluster) :
    NoCommand cluster.1 := by
  unfold Edition.straySteps at h
  split at h
  · cases h
  · obtain rfl := Except.ok.inj h
    simp [NoCommand, Step.commandWords?]

theorem noCommand_inFrontOf {others : Except ArgumentFault Cluster}
    (h : s.inFrontOf others = .ok cluster)
    (hothers : ∀ rest, others = .ok rest → NoCommand rest.1) : NoCommand cluster.1 := by
  obtain ⟨rest, hrest, rfl⟩ := exists_of_map_eq_ok h
  exact (noCommand_singleton rfl).append (hothers rest hrest)

theorem noCommand_cluster (h : g.cluster edition s cs = .ok cluster) : NoCommand cluster.1 := by
  fun_induction Grammar.cluster g edition s cs generalizing cluster with
  | case1 s =>
    obtain rfl := Except.ok.inj h
    exact noCommand_bareSteps s
  | case2 => exact noCommand_assignedSteps h
  | case3 => exact noCommand_straySteps h
  | case4 => exact noCommand_inFrontOf h fun _ => noCommand_assignedSteps
  | case5 =>
    rename_i ih
    exact noCommand_inFrontOf h fun _ => ih

theorem noCommand_shortSteps {text : Option SharedText}
    (h : g.shortSteps edition s text = .ok cluster) : NoCommand cluster.1 := by
  unfold Grammar.shortSteps at h
  split at h
  · obtain rfl := Except.ok.inj h
    exact noCommand_bareSteps s
  · split at h
    · exact noCommand_assignedSteps h
    · exact noCommand_cluster h

/-- A switch that waits, behind steps without a command, or none. -/
def Patient (waiting : Option (List Step × Switch)) : Prop :=
  ∀ before s, waiting = some (before, s) → NoCommand before

/-- How far words at the front of a line are read on their own. -/
inductive Reached (g : Grammar) (edition : Edition) (waiting : Option (List Step × Switch))
    (front : List Word) : Prop
  /-- They do not name a command, and the words behind them are read next. -/
  | passed (before : List Step) (waiting' : Option (List Step × Switch))
      (hbefore : NoCommand before) (hwaiting : Patient waiting')
      (h : ∀ ws, g.steps edition .missing waiting (front ++ ws) =
        before ++ g.steps edition .missing waiting' ws)
  /-- Reading ends among them. -/
  | failed (all : List Step) (hall : NoCommand all)
      (h : ∀ ws, g.steps edition .missing waiting (front ++ ws) = all)
  /-- They name a command, which also takes the words behind them. -/
  | started (before : List Step) (name : String) (others : List String)
      (hbefore : NoCommand before)
      (h : ∀ ws, ws ≠ [] → g.steps edition .missing waiting (front ++ ws) =
        before ++ [.command (name :: others ++ ws.map (·.text))])

/-- What a word in front comes to stands in front of what the others come to. -/
theorem Reached.cons {front : List Word} {waiting waiting' : Option (List Step × Switch)} {w : Word}
    (h : Reached g edition waiting' front) (first : List Step) (hfirst : NoCommand first)
    (hw : ∀ ws, g.steps edition .missing waiting (w :: ws) =
      first ++ g.steps edition .missing waiting' ws) :
    Reached g edition waiting (w :: front) := by
  cases h with
  | passed before waiting' hbefore hwaiting h =>
    refine .passed (first ++ before) waiting' (hfirst.append hbefore) hwaiting fun ws => ?_
    rw [List.cons_append, hw, h, List.append_assoc]
  | failed all hall h =>
    refine .failed (first ++ all) (hfirst.append hall) fun ws => ?_
    rw [List.cons_append, hw, h]
  | started before name others hbefore h =>
    refine .started (first ++ before) name others (hfirst.append hbefore) fun ws hws => ?_
    rw [List.cons_append, hw, h ws hws, List.append_assoc]

/-- A word of switches stands in front of what the others come to, or of an argument among them. -/
theorem reached_of_cluster {front : List Word} {w : Word} (word : Except ArgumentFault Cluster)
    (ih : ∀ {waiting}, Patient waiting → Reached g edition waiting front)
    (hw : ∀ ws, g.steps edition .missing none (w :: ws) =
      match word with
      | .error fault => [.fail fault]
      | .ok (steps, none) => steps ++ g.steps edition .missing none ws
      | .ok (steps, some s) => g.steps edition .missing (some (steps, s)) ws)
    (hword : ∀ cluster, word = .ok cluster → NoCommand cluster.1) :
    Reached g edition none (w :: front) := by
  cases word with
  | error fault =>
    exact .failed [.fail fault] (noCommand_singleton rfl) fun ws => hw _
  | ok cluster =>
    obtain ⟨steps, waiting⟩ := cluster
    have hsteps : NoCommand steps := hword _ rfl
    cases waiting with
    | none =>
      have hnone : Reached g edition none front := ih fun _ _ h => nomatch h
      exact hnone.cons steps hsteps hw
    | some s =>
      have hsome : Reached g edition (some (steps, s)) front := ih (by rintro _ _ ⟨⟩; exact hsteps)
      exact hsome.cons [] noCommand_nil hw

/-- Words in front of a command are passed, or reading ends among them, or they name the command.
The cases are those of the next word: it waits for nothing, or it is the argument of a switch. -/
theorem reached (hoperand : g.operand = .command key) (front : List Word)
    {waiting : Option (List Step × Switch)} (hwaiting : Patient waiting) :
    Reached g edition waiting front := by
  induction front generalizing waiting with
  | nil => exact .passed [] waiting noCommand_nil hwaiting fun ws => rfl
  | cons w front ih =>
    have hnone : Reached g edition none front := ih fun _ _ h => nomatch h
    cases waiting with
    | some cluster =>
      obtain ⟨before, s⟩ := cluster
      cases hkind : w.kind with
      | argument =>
        refine hnone.cons (before ++ [.take s (some w.text)])
          ((hwaiting before s rfl).append (noCommand_singleton rfl)) fun ws => ?_
        simp [Grammar.steps, hkind]
      | ending | long _ _ | short _ _ | unknown =>
        refine .failed [.fail (.missingArgument s.title)] (noCommand_singleton rfl) fun ws => ?_
        simp [Grammar.steps, hkind]
    | none =>
      cases hkind : w.kind with
      | long s text =>
        refine reached_of_cluster (edition.longSteps s text) ih (fun ws => ?_)
          fun _ => noCommand_longSteps
        have hsteps := Grammar.steps.eq_def g edition .missing none (w :: ws)
        dsimp only at hsteps
        rw [hkind] at hsteps
        exact hsteps
      | short s text =>
        refine reached_of_cluster (g.shortSteps edition s text) ih (fun ws => ?_)
          fun _ => noCommand_shortSteps
        have hsteps := Grammar.steps.eq_def g edition .missing none (w :: ws)
        dsimp only at hsteps
        rw [hkind] at hsteps
        exact hsteps
      | unknown =>
        refine hnone.cons [.leave w.text] (noCommand_singleton rfl) fun ws => ?_
        simp [Grammar.steps, hkind, OperandState.next]
      | argument =>
        refine .started [] w.text (front.map (·.text)) noCommand_nil fun ws _ => ?_
        simp [Grammar.steps, hkind, hoperand]
      | ending =>
        -- The dashes take what stands behind them for a command, if anything does.
        refine .started [] w.text (front.map (·.text)) noCommand_nil fun ws hws => ?_
        have hbehind : (front ++ ws).isEmpty = false := by simp [hws]
        simp [Grammar.steps, hkind, hoperand, hbehind]

/-! ### Lines -/

theorem findSome?_of_noCommand {steps : List Step} (h : NoCommand steps) :
    steps.findSome? Step.commandWords? = none :=
  List.findSome?_eq_none_iff.mpr h

namespace Grammar

/-- Words of which the last one is read as the name of a command, and which reading leaves nothing
else to. -/
def Leads (g : Grammar) (edition : Edition) (front : List String) (name : String) : Prop :=
  g.commandWords edition (front ++ [name]) = [name]

/-- Steps in front of a command do not depend on the words behind the name. -/
theorem steps_leads {front : List Word} {w : Word}
    (hoperand : g.operand = .command key)
    (h : (g.steps edition .missing none (front ++ [w])).findSome? Step.commandWords? =
      some [w.text])
    (hkind : w.kind = .argument) :
    ∃ before, NoCommand before ∧
      ∀ ws, g.steps edition .missing none (front ++ w :: ws) =
        before ++ [.command (w.text :: ws.map (·.text))] := by
  have hreached : Reached g edition none front := reached hoperand front fun _ _ h => nomatch h
  cases hreached with
  | failed all hall hsteps =>
    rw [hsteps, findSome?_of_noCommand hall] at h
    cases h
  | started before name others hbefore hsteps =>
    -- The command would take more words than the last one.
    rw [hsteps _ (by simp), List.findSome?_append, findSome?_of_noCommand hbefore] at h
    simp [Step.commandWords?] at h
  | passed before waiting hbefore hwaiting hsteps =>
    cases waiting with
    | none =>
      refine ⟨before, hbefore, fun ws => ?_⟩
      rw [hsteps]
      simp [steps, hkind, hoperand]
    | some cluster =>
      -- The last word would be an argument, and nothing would be left for a command.
      obtain ⟨cluster, s⟩ := cluster
      rw [hsteps, List.findSome?_append, findSome?_of_noCommand hbefore] at h
      simp [steps, hkind, List.findSome?_append, Step.commandWords?,
        findSome?_of_noCommand (hwaiting cluster s rfl)] at h

/-- The steps of a line are those in front of the command and the command with all its words, unless
one of these words is of no use. -/
theorem stepsOf_leads (hoperand : g.operand = .command key) (hdashes : name ≠ "--")
    (hname : g.word name = .ok ⟨name, .argument⟩) (hleads : g.Leads edition front name) :
    ∃ tail before, g.Tail tail ∧ NoCommand before ∧ ∀ rest,
      g.stepsOf edition (front ++ name :: rest) =
        ((fun _ => before ++ [.command (name :: rest)]) <$> tail rest).mapError .usage := by
  obtain ⟨first, tail, htail, hwords⟩ := g.words_append front
  have htailName (rest : List String) :
      tail (name :: rest) = (⟨name, .argument⟩ :: ·) <$> tail rest := by
    obtain ⟨kind, hkind, hrest⟩ := htail.cons hdashes hname rest
    rw [hrest, hkind rfl]
  have htailNil : tail [] = .ok [] := by
    cases htail <;> rfl
  rw [Leads, commandWords, stepsOf, hwords, htailName, htailNil] at hleads
  cases first with
  | error fault => cases hleads
  | ok ws =>
    have hfind : (g.steps edition .missing none (ws ++ [⟨name, .argument⟩])).findSome?
        Step.commandWords? = some [name] := by
      change ((g.steps edition .missing none (ws ++ [⟨name, .argument⟩])).findSome?
        Step.commandWords?).getD [] = [name] at hleads
      revert hleads
      cases (g.steps edition .missing none (ws ++ [⟨name, .argument⟩])).findSome?
        Step.commandWords? with
      | none =>
        intro hnil
        cases hnil
      | some words => exact congrArg some
    -- The words in front come to the same steps whatever is behind the name.
    obtain ⟨before, hbefore, hsteps⟩ := steps_leads hoperand hfind rfl
    refine ⟨tail, before, htail, hbefore, fun rest => ?_⟩
    rw [stepsOf, hwords, htailName]
    cases hrest : tail rest with
    | error fault => rfl
    | ok others =>
      rw [← htail.map_text hrest]
      exact congrArg Except.ok (hsteps others)

/-- What steps in front of a command and the command with its words come to. -/
theorem read_of_command {line words : List String} {before : List Step}
    (hoperand : g.operand = .command key) (hbefore : NoCommand before)
    (h : g.stepsOf edition line = .ok (before ++ [.command (name :: words)])) :
    g.read edition settings line =
      (fun settings => ⟨settings, name :: words, before.filterMap Step.leftover?⟩) <$>
        (settings.follow g.operand before >>= fun taken =>
          g.convertOthers before (taken.put g.operand.key (.string name))) := by
  -- The command is the last step, so each pass over the steps ends with it and keeps the others.
  have hfollow : settings.follow g.operand (before ++ [.command (name :: words)]) =
      (·.put g.operand.key (.string name)) <$> settings.follow g.operand before := by
    rw [Settings.follow, List.foldlM_append, Settings.follow]
    cases before.foldlM (Settings.step g.operand) settings <;> rfl
  have hothers : g.convertOthers (before ++ [.command (name :: words)]) =
      g.convertOthers before := by
    funext settings
    simp only [convertOthers, List.any_append, List.any_cons, List.any_nil, Step.takes,
      Bool.or_false]
  have hrequire (steps : List Step) : g.requireOperand steps = .ok () := by
    rw [requireOperand, hoperand]
  have hcommand : (before ++ [Step.command (name :: words)]).findSome? Step.commandWords? =
      some (name :: words) := by
    rw [List.findSome?_append, findSome?_of_noCommand hbefore]
    rfl
  have hleftovers : (before ++ [Step.command (name :: words)]).filterMap Step.leftover? =
      before.filterMap Step.leftover? := by
    rw [List.filterMap_append]
    exact List.append_nil _
  rw [read, h]
  change (settings.follow g.operand (before ++ [.command (name :: words)]) >>= _) = _
  simp only [hfollow, hothers, hrequire, hcommand, hleftovers, bind_map_left, map_bind]
  rfl

/-- A word behind the name of a command changes nothing but the words of the command. -/
theorem read_insert (hoperand : g.operand = .command key) (hdashes : name ≠ "--")
    (hname : g.word name = .ok ⟨name, .argument⟩) (hleads : g.Leads edition front name) {w : Word}
    (htext : text ≠ "--") (hword : g.word text = .ok w) (settings : Settings)
    (rest : List String) :
    (∀ reading, g.read edition settings (front ++ name :: rest) = .ok reading →
      reading.command = name :: rest) ∧
    g.read edition settings (front ++ name :: text :: rest) =
      (fun reading => { reading with command := name :: text :: rest }) <$>
        g.read edition settings (front ++ name :: rest) := by
  obtain ⟨tail, before, htail, hbefore, hsteps⟩ := stepsOf_leads hoperand hdashes hname hleads
  obtain ⟨kind, -, hcons⟩ := htail.cons htext hword rest
  have hshort := hsteps rest
  have hlong := hsteps (text :: rest)
  rw [hcons] at hlong
  cases hrest : tail rest with
  | error fault =>
    -- Some word behind the name is of no use, with the other word as without it.
    rw [hrest] at hshort hlong
    refine ⟨fun reading hreading => ?_, ?_⟩
    · rw [read, hshort] at hreading
      cases hreading
    · rw [read, hlong, read, hshort]
      rfl
  | ok ws =>
    rw [hrest] at hshort hlong
    rw [read_of_command hoperand hbefore hshort, read_of_command hoperand hbefore hlong]
    refine ⟨fun reading hreading => ?_, ?_⟩
    · cases hsettled : settings.follow g.operand before >>= fun taken =>
          g.convertOthers before (taken.put g.operand.key (.string name)) with
      | error fault =>
        rw [hsettled] at hreading
        cases hreading
      | ok settled =>
        rw [hsettled] at hreading
        rw [← Except.ok.inj hreading]
    · rw [← comp_map]
      rfl

end Grammar

end PointerChain.CommandLine
