import PointerChain.CommandLine.Arguments

/-!
# Switches of a grammar

The steps into which a command line is read take no switches but those of the grammar that it is
read by, however the switches are abbreviated, put into one word or made to wait for their
arguments.

* `Step.IsOf` says of a step that it belongs to a grammar, `Cluster.IsOf` says so of the steps of a
  word.
* `Grammar.isOf_of_mem_stepsOf` says so of all steps of a command line.
-/

namespace PointerChain.CommandLine

/-- A step that takes no switch, or one of a grammar. -/
def Step.IsOf (g : Grammar) : Step → Prop
  | .take s _ => s ∈ g.switches
  | _ => True

/-- A word that stands for no switch, or for one of a grammar. -/
def WordKind.IsOf (g : Grammar) : WordKind → Prop
  | .long s _ | .short s _ => s ∈ g.switches
  | _ => True

/-- Steps of a grammar, with a switch of the grammar if one still waits. -/
structure Cluster.IsOf (g : Grammar) (cluster : Cluster) : Prop where
  /-- The steps are of the grammar. -/
  steps : ∀ step ∈ cluster.1, step.IsOf g
  /-- So is the switch that waits. -/
  waiting : ∀ s, cluster.2 = some s → s ∈ g.switches

variable {g : Grammar} {edition : Edition} {s : Switch} {cs : List Char} {cluster : Cluster}

/-! ### Words -/

namespace Grammar

theorem mem_switches_of_mem_flags {flag : String × Switch} (h : flag ∈ g.flags) :
    flag.2 ∈ g.switches := by
  obtain ⟨s, hs, hflag⟩ := List.mem_flatMap.mp h
  obtain ⟨name, -, rfl⟩ := List.mem_map.mp hflag
  exact hs

theorem mem_switches_of_switch? {flag : String} (h : g.switch? flag = some s) :
    s ∈ g.switches := by
  obtain ⟨entry, hentry, rfl⟩ := Option.map_eq_some_iff.mp h
  exact mem_switches_of_mem_flags (List.mem_of_find?_eq_some hentry)

theorem isOf_dashedKind (cs : List Char) : (dashedKind cs).IsOf g := by
  unfold dashedKind
  split <;> trivial

theorem isOf_longKind {kind : WordKind} (h : g.longKind cs = .ok kind) : kind.IsOf g := by
  unfold longKind at h
  split at h
  next s hs =>
    obtain rfl := Except.ok.inj h
    exact mem_switches_of_switch? hs
  next =>
    dsimp only at h
    split at h
    next s _ hs =>
      obtain rfl := Except.ok.inj h
      exact mem_switches_of_switch? hs
    next =>
      split at h
      next =>
        obtain rfl := Except.ok.inj h
        exact isOf_dashedKind cs
      next name s hcompletions =>
        -- The only flag that the word abbreviates is one of the grammar.
        obtain rfl := Except.ok.inj h
        have hmem : (name, s) ∈ g.completions (splitEquals cs).1 := by
          rw [hcompletions]
          exact List.mem_cons_self
        exact mem_switches_of_mem_flags (List.mem_filter.mp hmem).1
      next => cases h

theorem isOf_kind {kind : WordKind} (h : g.kind cs = .ok kind) : kind.IsOf g := by
  unfold Grammar.kind at h
  split at h
  next => exact isOf_longKind h
  next =>
    split at h
    next s hs =>
      obtain rfl := Except.ok.inj h
      exact mem_switches_of_switch? hs
    next =>
      obtain rfl := Except.ok.inj h
      exact isOf_dashedKind _
  next =>
    obtain rfl := Except.ok.inj h
    trivial

theorem isOf_of_mem_words {line : List String} {words : List Word}
    (h : g.words line = .ok words) : ∀ w ∈ words, w.kind.IsOf g := by
  induction line generalizing words with
  | nil =>
    obtain rfl := Except.ok.inj h
    simp
  | cons text rest ih =>
    rw [Grammar.words] at h
    split at h
    next =>
      -- Behind the separator no word is a switch.
      obtain rfl := Except.ok.inj h
      intro w hw
      rcases List.mem_cons.mp hw with rfl | hw
      · trivial
      · obtain ⟨text, -, rfl⟩ := List.mem_map.mp hw
        trivial
    next =>
      cases hfirst : g.kind text.toList with
      | error fault =>
        rw [word, hfirst] at h
        cases h
      | ok kind =>
        cases hrest : g.words rest with
        | error fault =>
          rw [word, hfirst, hrest] at h
          cases h
        | ok others =>
          rw [word, hfirst, hrest] at h
          obtain rfl := Except.ok.inj h
          intro w hw
          rcases List.mem_cons.mp hw with rfl | hw
          · exact isOf_kind hfirst
          · exact ih hrest w hw

end Grammar

/-! ### Steps of a word -/

theorem isOf_bareSteps (hs : s ∈ g.switches) : (bareSteps s).IsOf g := by
  unfold bareSteps
  split
  · exact ⟨by simp, fun t ht => Option.some.inj ht ▸ hs⟩
  · exact ⟨by simpa [Step.IsOf] using hs, by simp⟩

theorem isOf_assignedSteps (hs : s ∈ g.switches)
    (h : edition.assignedSteps s cs = .ok cluster) : cluster.IsOf g := by
  unfold Edition.assignedSteps at h
  split at h
  next =>
    obtain rfl := Except.ok.inj h
    exact ⟨by simpa [Step.IsOf] using hs, by simp⟩
  next => cases h

theorem isOf_longSteps {text : Option (List Char)} (hs : s ∈ g.switches)
    (h : edition.longSteps s text = .ok cluster) : cluster.IsOf g := by
  cases text with
  | none =>
    obtain rfl := Except.ok.inj h
    exact isOf_bareSteps hs
  | some text => exact isOf_assignedSteps hs h

theorem isOf_straySteps (hs : s ∈ g.switches) (h : edition.straySteps s cs = .ok cluster) :
    cluster.IsOf g := by
  cases edition with
  | former => cases h
  | current =>
    obtain rfl := Except.ok.inj h
    exact ⟨by simpa [Step.IsOf] using hs, by simp⟩

/-- A switch in front of a cluster. -/
theorem Cluster.IsOf.take (h : cluster.IsOf g) (hs : s ∈ g.switches) :
    Cluster.IsOf g (.take s none :: cluster.1, cluster.2) :=
  ⟨List.forall_mem_cons.mpr ⟨hs, h.steps⟩, h.waiting⟩

theorem isOf_inFrontOf {others : Except ArgumentFault Cluster} (hs : s ∈ g.switches)
    (hothers : ∀ rest, others = .ok rest → rest.IsOf g) (h : s.inFrontOf others = .ok cluster) :
    cluster.IsOf g := by
  cases others with
  | error fault => cases h
  | ok rest =>
    obtain rfl := Except.ok.inj h
    exact (hothers rest rfl).take hs

theorem isOf_cluster (hs : s ∈ g.switches) (h : g.cluster edition s cs = .ok cluster) :
    cluster.IsOf g := by
  fun_induction Grammar.cluster g edition s cs generalizing cluster with
  | case1 s =>
    obtain rfl := Except.ok.inj h
    exact isOf_bareSteps hs
  | case2 => exact isOf_assignedSteps hs h
  | case3 => exact isOf_straySteps hs h
  | case4 s c _ t text _ ht =>
    have hmem := Grammar.mem_switches_of_switch? ht
    exact isOf_inFrontOf hs (fun _ hrest => isOf_assignedSteps hmem hrest) h
  | case5 s c _ t text ht _ ih =>
    have hmem := Grammar.mem_switches_of_switch? ht
    exact isOf_inFrontOf hs (fun _ hrest => ih hmem hrest) h

theorem isOf_shortSteps {text : Option SharedText} (hs : s ∈ g.switches)
    (h : g.shortSteps edition s text = .ok cluster) : cluster.IsOf g := by
  unfold Grammar.shortSteps at h
  split at h
  next =>
    obtain rfl := Except.ok.inj h
    exact isOf_bareSteps hs
  next =>
    split at h
    next => exact isOf_assignedSteps hs h
    next => exact isOf_cluster hs h

/-! ### Steps of all words -/

namespace Grammar

/-- The word behind a switch that waits is its argument, or the argument is missing. -/
theorem isOf_of_mem_steps_of_waiting {before : List Step} {w : Word} {ws : List Word}
    (h : Cluster.IsOf g (before, some s))
    (hrest : ∀ operand, ∀ step ∈ g.steps edition operand none ws, step.IsOf g)
    (operand : OperandState) :
    ∀ step ∈ g.steps edition operand (some (before, s)) (w :: ws), step.IsOf g := by
  rw [steps]
  split
  next =>
    intro step hstep
    rcases List.mem_append.mp hstep with hstep | hstep
    · exact h.steps step hstep
    · rcases List.mem_cons.mp hstep with rfl | hstep
      · exact h.waiting s rfl
      · exact hrest _ step hstep
  next =>
    intro step hstep
    rw [List.mem_singleton.mp hstep]
    trivial

theorem isOf_of_mem_steps {ws : List Word} (hws : ∀ w ∈ ws, w.kind.IsOf g)
    (operand : OperandState) (waiting : Option (List Step × Switch))
    (hwaiting : ∀ before s, waiting = some (before, s) → Cluster.IsOf g (before, some s)) :
    ∀ step ∈ g.steps edition operand waiting ws, step.IsOf g := by
  -- The steps of a switch that waits come out only with its argument, so what is known of them has
  -- to go along with the induction.
  induction ws generalizing operand waiting with
  | nil =>
    intro step hstep
    cases waiting with
    | none => simp [steps] at hstep
    | some cluster =>
      rw [steps, List.mem_singleton] at hstep
      subst hstep
      trivial
  | cons w ws ih =>
    obtain ⟨hw, hws⟩ := List.forall_mem_cons.mp hws
    have hrest (operand : OperandState) := ih hws operand none (by simp)
    cases waiting with
    | some cluster =>
      obtain ⟨before, s⟩ := cluster
      exact isOf_of_mem_steps_of_waiting (hwaiting before s rfl) hrest operand
    | none =>
      -- The steps of a word of switches come in front of the rest, or wait for an argument there.
      have hsteps (front : List Step) (h : Cluster.IsOf g (front, none)) :
          ∀ step ∈ front ++ g.steps edition operand.next none ws, step.IsOf g := by
        intro step hstep
        rcases List.mem_append.mp hstep with hstep | hstep
        · exact h.steps step hstep
        · exact hrest _ step hstep
      have hwaits (front : List Step) (s : Switch) (h : Cluster.IsOf g (front, some s)) :
          ∀ step ∈ g.steps edition operand.next (some (front, s)) ws, step.IsOf g := by
        refine ih hws _ _ ?_
        rintro _ _ ⟨⟩
        exact h
      unfold steps
      dsimp only
      split
      next s text hkind =>
        rw [hkind] at hw
        split
        next => exact List.forall_mem_cons.mpr ⟨trivial, by simp⟩
        next front h => exact hsteps front (isOf_longSteps hw h)
        next front t h => exact hwaits front t (isOf_longSteps hw h)
      next s text hkind =>
        rw [hkind] at hw
        split
        next => exact List.forall_mem_cons.mpr ⟨trivial, by simp⟩
        next front h => exact hsteps front (isOf_shortSteps hw h)
        next front t h => exact hwaits front t (isOf_shortSteps hw h)
      next => exact List.forall_mem_cons.mpr ⟨trivial, hrest _⟩
      next => exact List.forall_mem_cons.mpr ⟨trivial, by simp⟩
      next => exact List.forall_mem_cons.mpr ⟨trivial, hrest _⟩
      next => exact List.forall_mem_cons.mpr ⟨trivial, hrest _⟩
      next =>
        split
        next => exact List.forall_mem_cons.mpr ⟨trivial, by simp⟩
        next => exact List.forall_mem_cons.mpr ⟨trivial, by simp⟩
        next => exact hrest _
      next => exact hrest _
      next => exact List.forall_mem_cons.mpr ⟨trivial, hrest _⟩

/-- The steps of a command line are of the grammar that it is read by. -/
theorem isOf_of_mem_stepsOf {line : List String} {steps : List Step}
    (h : g.stepsOf edition line = .ok steps) : ∀ step ∈ steps, step.IsOf g := by
  cases hwords : g.words line with
  | error fault =>
    rw [stepsOf, hwords] at h
    cases h
  | ok words =>
    rw [stepsOf, hwords] at h
    obtain rfl := Except.ok.inj h
    exact isOf_of_mem_steps (isOf_of_mem_words hwords) .missing none (by simp)

end Grammar

end PointerChain.CommandLine
