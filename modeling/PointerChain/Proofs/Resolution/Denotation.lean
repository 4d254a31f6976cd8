import PointerChain.Proofs.Expression.Number
import PointerChain.Proofs.Expression.TokenSum
import PointerChain.Proofs.Expression.Tree
import PointerChain.Proofs.Resolution.ReadOrder

/-!
# What an expression tree stands for

An expression that is written from a tree is resolved to the value of the tree: the sum of its parts
modulo `2 ^ 64`, where a group is the pointer at the value of its body. Pointers pass through text
on the way, and nothing is lost as long as no module has one of them, as a number, for its name.

* `Tree.total?` is the sum of a tree, `Tree.total?_eq_none_iff` says when there is none.
* `Tree.yields_flat` is what the flat text of a tree is read as.
* `resolveNested_text` is the resolution of a tree.
-/

namespace PointerChain

mutual

/-- The value of a part: that of the operand, or the pointer at the value of the body. -/
def Term.value? (target : Target) : Term → Option Address
  | .atom a => (Expression.valueOf target.modules a.text).toOption
  | .group body => do
    let n ← body.total? target
    (target.pointer (UInt64.ofInt n)).toOption

/-- The sum of a tree, without a bound. -/
def Tree.total? (target : Target) : Tree → Option Int
  | .single part => do
    let v ← part.value? target
    return v.toNat
  | .extend front sign part => do
    let n ← front.total? target
    let v ← part.value? target
    return sign.apply n v.toNat

end

/-- No module has a pointer that was read, as a number, for its name. -/
def Target.Distinguishes {α : Type} (target : Target) (x : Traced α) : Prop :=
  ∀ a v, Event.dereferenced a v ∈ x.events →
    ∀ m ∈ target.modules.modules, m.name.lower ≠ Text.hexText v.toNat

/-! ### Where there is no value -/

/-- Some of the operands has no value, or there is no pointer at some of the values of the bodies.
-/
def Target.Lacks (target : Target) (atoms : List Atom) (bodies : List Tree) : Prop :=
  (∃ a ∈ atoms, ∃ fault, Expression.valueOf target.modules a.text = .error fault) ∨
    ∃ body ∈ bodies, ∃ n, body.total? target = some n ∧
      ∃ e, target.pointer (UInt64.ofInt n) = .error e

variable {target : Target}

theorem Target.lacks_append {as as' : List Atom} {bodies bodies' : List Tree} :
    target.Lacks (as ++ as') (bodies ++ bodies') ↔
      target.Lacks as bodies ∨ target.Lacks as' bodies' := by
  simp only [Lacks, List.mem_append, or_and_right, exists_or]
  exact or_or_or_comm

mutual

theorem Term.value?_eq_none_iff :
    ∀ t : Term, t.value? target = none ↔ target.Lacks t.atoms t.bodies
  | .atom a => by
    simp [Term.value?, Term.atoms, Term.bodies, Target.Lacks, toOption_eq_none_iff]
  | .group body => by
    have hlacks : target.Lacks (Term.group body).atoms (Term.group body).bodies ↔
        target.Lacks body.atoms body.bodies ∨ target.Lacks [] [body] := by
      rw [← Target.lacks_append, List.append_nil]
      rfl
    rw [hlacks, ← body.total?_eq_none_iff, Term.value?]
    -- Where the body has a sum, the pointer at this value is asked for.
    cases htotal : body.total? target with
    | none => simp
    | some n => simp [Target.Lacks, htotal, toOption_eq_none_iff]

/-- A tree has no sum exactly if some operand has no value or some pointer is not there. -/
theorem Tree.total?_eq_none_iff :
    ∀ t : Tree, t.total? target = none ↔ target.Lacks t.atoms t.bodies
  | .single part => by
    rw [Tree.total?, Tree.atoms, Tree.bodies, ← part.value?_eq_none_iff]
    cases part.value? target <;> simp
  | .extend front sign part => by
    rw [Tree.total?, Tree.atoms, Tree.bodies, Target.lacks_append, ← front.total?_eq_none_iff,
      ← part.value?_eq_none_iff]
    cases front.total? target <;> cases part.value? target <;> simp

end

/-! ### What a computation yields -/

/-- A computation that gives a value with a property, or stops under a condition. -/
def Trace.Yields {σ ε α : Type} (x : Trace σ ε α) (P : α → Prop) (Q : Prop) : Prop :=
  match x.result with
  | .ok a => P a
  | .error _ => Q

namespace Trace.Yields

variable {σ ε α β : Type} {x : Trace σ ε α} {P : α → Prop} {Q : Prop} {a : α} {e : ε}

theorem of_ok (h : x.result = .ok a) (ha : P a) : x.Yields P Q := by
  rw [Yields, h]
  exact ha

theorem of_error (h : x.result = .error e) (hQ : Q) : x.Yields P Q := by
  rw [Yields, h]
  exact hQ

theorem ok (hx : x.Yields P Q) (h : x.result = .ok a) : P a := by
  rwa [Yields, h] at hx

theorem error (hx : x.Yields P Q) (h : x.result = .error e) : Q := by
  rwa [Yields, h] at hx

theorem imp {P' : α → Prop} {Q' : Prop} (hx : x.Yields P Q) (hP : ∀ a, P a → P' a)
    (hQ : Q → Q') : x.Yields P' Q' := by
  cases h : x.result with
  | ok a => exact .of_ok h (hP a (hx.ok h))
  | error e => exact .of_error h (hQ (hx.error h))

/-- A sequence yields what its parts do. -/
theorem bind {f : α → Trace σ ε β} {P' : β → Prop} {Q' : Prop} (hx : x.Yields P Q) (hQ : Q → Q')
    (hf : ∀ a, x.result = .ok a → P a → (f a).Yields P' Q') : (x >>= f).Yields P' Q' := by
  cases h : x.result with
  | ok a =>
    have ha := hf a h (hx.ok h)
    rw [bind_of_ok h]
    exact ha
  | error e =>
    rw [bind_of_error h]
    exact hQ (hx.error h)

end Trace.Yields

namespace Target.Distinguishes

variable {α β : Type} {x : Traced α} {f : α → Traced β}

theorem left (h : target.Distinguishes (x >>= f)) : target.Distinguishes x := by
  intro a v hmem
  refine h a v ?_
  cases hx : x.result with
  | ok b =>
    rw [Trace.bind_of_ok hx]
    exact List.mem_append_left _ hmem
  | error e =>
    rw [Trace.bind_of_error hx]
    exact hmem

theorem right (h : target.Distinguishes (x >>= f)) {b : α} (hx : x.result = .ok b) :
    target.Distinguishes (f b) := by
  intro a v hmem
  refine h a v ?_
  rw [Trace.bind_of_ok hx]
  exact List.mem_append_right _ hmem

end Target.Distinguishes

/-! ### Flat texts -/

/-- A text that is read as one operand with the value of a part. -/
def Term.Flat (target : Target) (t : Term) (flat : String) : Prop :=
  ∃ operand, Expression.SpellsOperand target.modules.hasName flat.toList operand ∧
    (Expression.valueOf target.modules operand).toOption = t.value? target

/-- A text that is read as a row of operands with the sum of a tree. -/
def Tree.Flat (target : Target) (t : Tree) (flat : String) : Prop :=
  ∃ tokens, tokens ≠ [] ∧ Expression.Spells target.modules.hasName flat.toList tokens ∧
    (Expression.sumOf target.modules tokens).toOption = (t.total? target).map UInt64.ofInt

namespace Tree.Flat

variable {t : Tree} {flat : String}

/-- A flat text with an opening bracket in front is still flat. -/
theorem bracket (h : t.Flat target flat) : t.Flat target ("[" ++ flat) := by
  obtain ⟨tokens, hne, hspells, hsum⟩ := h
  refine ⟨tokens, hne, fun more hmore => ?_, hsum⟩
  rw [← hspells more hmore, String.toList_append]
  exact Expression.operands_cons_of_skipped _ _ Expression.isSkipped_opening

/-- The value of a flat text is the sum of the tree, modulo `2 ^ 64`. -/
theorem evaluate (h : t.Flat target flat) :
    (PointerChain.evaluate target.modules flat).toOption =
      (t.total? target).map UInt64.ofInt := by
  obtain ⟨tokens, -, hspells, hsum⟩ := h
  rw [evaluate_eq_sumOf, toOption_mapError, ModuleTable.tokenize, tokenize, hspells.operands_eq,
    hsum]

theorem hasOperands (h : t.Flat target flat) : hasOperands flat = true := by
  obtain ⟨tokens, hne, hspells, -⟩ := h
  exact hasOperands_of_spells hspells hne

/-- A flat text is replaced by the pointer at the sum of the tree. -/
theorem replacement (h : t.Flat target flat)
    (hdistinct : target.Distinguishes (target.replacement flat)) :
    (target.replacement flat).Yields
      (fun replaced => ∃ v : Address, replaced = Text.upperHexText v.toNat ∧
        (Term.group t).value? target = some v ∧
          ∀ m ∈ target.modules.modules, m.name.lower ≠ Text.hexText v.toNat)
      ((Term.group t).value? target = none) := by
  have hvalue := h.evaluate
  -- The text holds an operand, so its value is asked for; the three cases are those of a read.
  rw [Target.replacement, if_pos h.hasOperands] at hdistinct ⊢
  cases heval : PointerChain.evaluate target.modules flat with
  | error e =>
    have hnone : t.total? target = none := by
      rw [heval] at hvalue
      simpa [Except.toOption] using hvalue.symm
    rw [Target.dereference_of_error heval]
    exact .of_error rfl (by rw [Term.value?, hnone]; rfl)
  | ok a =>
    obtain ⟨n, hn, rfl⟩ : ∃ n, t.total? target = some n ∧ UInt64.ofInt n = a := by
      rw [heval] at hvalue
      exact Option.map_eq_some_iff.mp hvalue.symm
    have hgroup : (Term.group t).value? target =
        (target.pointer (UInt64.ofInt n)).toOption := by
      rw [Term.value?, hn]
      rfl
    cases hpointer : target.pointer (UInt64.ofInt n) with
    | error e =>
      rw [Target.dereference_of_pointer_error heval hpointer]
      exact .of_error rfl (by rw [hgroup, hpointer]; rfl)
    | ok v =>
      have hevents := Target.dereference_of_ok heval hpointer
      refine .of_ok (a := Text.upperHexText v.toNat) (by rw [hevents]; rfl) ⟨v, rfl, ?_, ?_⟩
      · rw [hgroup, hpointer]
        rfl
      · refine hdistinct.left (UInt64.ofInt n) v ?_
        rw [hevents]
        simp

end Tree.Flat

/-- The number that is put in place of a group is read as the pointer. -/
theorem Term.flat_upperHexText {t : Term} {v : Address} (hvalue : t.value? target = some v)
    (hname : ∀ m ∈ target.modules.modules, m.name.lower ≠ Text.hexText v.toNat) :
    t.Flat target (Text.upperHexText v.toNat ++ "]") := by
  refine ⟨Text.upperHexText v.toNat, Expression.spellsOperand_upperHexText v.toNat, ?_⟩
  rw [Expression.valueOf_upperHexText hname, hvalue]
  rfl

/-- A part alone is a sum. -/
theorem Term.Flat.single {part : Term} {flat : String} (h : part.Flat target flat) :
    (Tree.single part).Flat target flat := by
  obtain ⟨operand, hspells, hvalue⟩ := h
  refine ⟨[⟨none, operand⟩], by simp, hspells none, ?_⟩
  rw [Expression.sumOf, toOption_bind, toOption_tokenValue, hvalue, Tree.total?]
  cases part.value? target with
  | none => rfl
  | some v => exact congrArg some (ofInt_toNat v).symm

/-- A part behind a sign is added to the sum. -/
theorem Tree.Flat.extend {front : Tree} {part : Term} {flat flat' : String}
    (h : front.Flat target flat) (h' : part.Flat target flat') (sign : Sign) :
    (Tree.extend front sign part).Flat target
      (flat ++ (String.ofList (Expression.leading (some sign)) ++ flat')) := by
  obtain ⟨tokens, hne, hspells, hsum⟩ := h
  obtain ⟨operand, hoperand, hvalue⟩ := h'
  refine ⟨tokens ++ [⟨some sign, operand⟩], by simp, ?_, ?_⟩
  · rw [String.toList_append, String.toList_append, String.toList_ofList]
    exact hspells.append hoperand sign
  · simp only [Expression.sumOf_concat hne, toOption_bind, toOption_tokenValue, hsum, hvalue,
      Tree.total?]
    cases front.total? target with
    | none => rfl
    | some n =>
      cases part.value? target with
      | none => rfl
      | some v => exact congrArg some (apply_ofInt sign n v)

mutual

/-- The flat text of a part is read as one operand with the value of the part. -/
theorem Term.yields_flat : ∀ t : Term,
    (∀ a ∈ t.atoms, '-' ∈ a.chars → target.modules.hasName a.text = true) →
    target.Distinguishes (t.forest.substitute target) →
      (t.forest.substitute target).Yields (t.Flat target) (t.value? target = none)
  | .atom a, hnames, _ => by
    rw [Term.forest, Forest.substitute_plain]
    refine .of_ok (a := a.text) rfl ⟨a.text, ?_, rfl⟩
    rw [Atom.toList_text]
    exact Expression.spellsOperand_atom (hnames a (List.mem_singleton_self a))
  | .group body, hnames, hdistinct => by
    rw [Term.forest, Forest.substitute] at hdistinct ⊢
    refine (body.yields_flat hnames hdistinct.left).bind (fun hnone => ?_)
      fun inner hinner hflat =>
        (hflat.bracket.replacement (hdistinct.right hinner).left).bind id ?_
    · rw [Term.value?, hnone]
      rfl
    · rintro replaced - ⟨v, rfl, hv, hname⟩
      rw [Forest.substitute, pure_bind, String.append_empty]
      exact .of_ok rfl (Term.flat_upperHexText hv hname)

/-- The flat text of a tree is read as a row of operands with the sum of the tree. -/
theorem Tree.yields_flat : ∀ t : Tree,
    (∀ a ∈ t.atoms, '-' ∈ a.chars → target.modules.hasName a.text = true) →
    target.Distinguishes (t.forest.substitute target) →
      (t.forest.substitute target).Yields (t.Flat target) (t.total? target = none)
  | .single part, hnames, hdistinct => by
    have hpart := part.yields_flat hnames hdistinct
    refine hpart.imp (fun flat hflat => hflat.single) fun hnone => ?_
    rw [Tree.total?, hnone]
    rfl
  | .extend front sign part, hnames, hdistinct => by
    have hfront : ∀ a ∈ front.atoms, '-' ∈ a.chars → target.modules.hasName a.text = true :=
      fun a ha => hnames a (List.mem_append_left _ ha)
    have hpart : ∀ a ∈ part.atoms, '-' ∈ a.chars → target.modules.hasName a.text = true :=
      fun a ha => hnames a (List.mem_append_right _ ha)
    -- The sign stands between the flat texts, with a blank that ends the one in front.
    rw [Tree.forest, Forest.substitute_append, Forest.substitute_append,
      Forest.substitute_plain] at hdistinct ⊢
    simp only [bind_assoc, pure_bind] at hdistinct ⊢
    refine (front.yields_flat hfront hdistinct.left).bind (fun hnone => ?_) fun t ht hflat =>
      (part.yields_flat hpart (hdistinct.right ht).left).bind (fun hnone => ?_)
        fun u hu hflat' => .of_ok rfl (hflat.extend hflat' sign)
    · rw [Tree.total?, hnone]
      rfl
    · rw [Tree.total?, hnone]
      cases front.total? target <;> rfl

end

/-! ### Whole expressions -/

/-- The flat text of a tree has the operands of the tree, so its value is the sum of the tree. -/
theorem Tree.yields_resolve (t : Tree)
    (hnames : ∀ a ∈ t.atoms, '-' ∈ a.chars → target.modules.hasName a.text = true)
    (hdistinct : target.Distinguishes (t.forest.resolve target)) :
    (t.forest.resolve target).Yields
      (fun v => ∃ n, t.total? target = some n ∧ (v.toNat : Int) = n % 2 ^ 64)
      (t.total? target = none) := by
  refine (t.yields_flat hnames hdistinct.left).bind id fun flat _ hflat => ?_
  have hvalue := hflat.evaluate
  cases heval : PointerChain.evaluate target.modules flat with
  | ok v =>
    rw [heval] at hvalue
    obtain ⟨n, hn, rfl⟩ := Option.map_eq_some_iff.mp hvalue.symm
    rw [Target.evaluate_of_ok heval]
    exact .of_ok rfl ⟨n, hn, toNat_ofInt n⟩
  | error e =>
    rw [heval] at hvalue
    rw [Target.evaluate_of_error heval]
    exact .of_error rfl (Option.map_eq_none_iff.mp hvalue.symm)

/-- An expression that is written from a tree is resolved to the sum of the tree modulo `2 ^ 64`,
and cannot be resolved exactly if some operand of the tree has no value or some pointer is not
there. The pointers are what the reader gives, as long as the process can be shown. Hyphens must
belong to names of modules, and no module may have a pointer that was read, as a number, for its
name. -/
theorem resolveNested_text (hlenient : target.strict = false) (tree : Tree)
    (hnames : ∀ a ∈ tree.atoms, '-' ∈ a.chars → target.modules.hasName a.text = true)
    (hdistinct : target.Distinguishes (resolveNested target tree.text)) :
    (∀ v : Address, (resolveNested target tree.text).result = .ok v ↔
      ∃ n, tree.total? target = some n ∧ (v.toNat : Int) = n % 2 ^ 64) ∧
    ((∃ e, (resolveNested target tree.text).result = .error e) ↔
      target.Lacks tree.atoms tree.bodies) ∧
    (target.process.isUnwritable = false → ∀ a : Address,
      target.pointer a = (target.reader.readPointer target.process a.toNat).mapError .read) := by
  rw [tree.text_eq, resolveNested_expression (by simp [hlenient])] at hdistinct ⊢
  have hyields := tree.yields_resolve hnames hdistinct
  rw [← tree.total?_eq_none_iff]
  cases hresult : (tree.forest.resolve target).result with
  | ok v =>
    obtain ⟨n, hn, hv⟩ := hyields.ok hresult
    refine ⟨fun w => ?_, by simp [hn], Target.pointer_of_writable⟩
    -- Addresses with one remainder are equal.
    have hunique : v = w ↔ (w.toNat : Int) = n % 2 ^ 64 := by
      rw [← UInt64.toNat_inj, ← hv]
      omega
    simp [hn, hunique]
  | error e =>
    have hnone := hyields.error hresult
    exact ⟨fun w => by simp [hnone], by simp [hnone], Target.pointer_of_writable⟩

/-- The process of the sample with a hyphen in the name of its module. -/
def hyphenTarget : Target :=
  { sampleTarget with modules := ModuleTable.ofList [⟨"lib-c.so", 0x1000⟩] }

/-- The name of its module. -/
def hyphenAtom : Atom where
  first := 'l'
  name := "ib-c".toList
  segments := ["so".toList]
  isWord_first := by decide
  isNameChar_of_mem := List.all_eq_true.mp (by decide)
  isWord_of_mem := by
    intro segment h
    obtain rfl := List.mem_singleton.mp h
    exact ⟨by decide, List.all_eq_true.mp (by decide)⟩

/-- The tree of `lib-c.so + [[1010] + 20] - 8`. -/
def sampleTree : Tree :=
  let pointer : Atom :=
    ⟨'1', "010".toList, [], by decide, List.all_eq_true.mp (by decide), Atom.isWord_of_mem_nil⟩
  let field : Atom :=
    ⟨'2', "0".toList, [], by decide, List.all_eq_true.mp (by decide), Atom.isWord_of_mem_nil⟩
  let offset : Atom := ⟨'8', [], [], by decide, by simp, Atom.isWord_of_mem_nil⟩
  let inner : Tree := .single (.group (.single (.atom pointer)))
  let middle : Term := .group (.extend inner .plus (.atom field))
  .extend (.extend (.single (.atom hyphenAtom)) .plus middle) .minus (.atom offset)

/-- A tree with a hyphenated name and a nested group is resolved to its sum. -/
theorem resolveNested_text_sample :
    hyphenTarget.strict = false ∧
      (∀ a ∈ sampleTree.atoms, '-' ∈ a.chars → hyphenTarget.modules.hasName a.text = true) ∧
      hyphenTarget.Distinguishes (resolveNested hyphenTarget sampleTree.text) ∧
      sampleTree.text = "lib-c.so + [[1010] + 20] - 8" ∧
      (resolveNested hyphenTarget sampleTree.text).result = .ok 0x3ff8 := by
  have hnames : ∀ a ∈ sampleTree.atoms, '-' ∈ a.chars →
      hyphenTarget.modules.hasName a.text = true := by decide
  have hdistinct : hyphenTarget.Distinguishes (resolveNested hyphenTarget sampleTree.text) := by
    -- The pointers that are read are found in the events of the run.
    have hevents : (resolveNested hyphenTarget sampleTree.text).events =
        [.evaluated "[1010" 0x1010, .read 0x1010 8, .dereferenced 0x1010 0x2000,
          .evaluated "[0x2000] + 20" 0x2020, .read 0x2020 8, .dereferenced 0x2020 0x3000,
          .evaluated "lib-c.so + 0x3000] - 8" 0x3ff8] := by decide +kernel
    intro a v hmem
    have hpointer : v = 0x2000 ∨ v = 0x3000 := by
      rw [hevents] at hmem
      simp only [List.mem_cons, Event.dereferenced.injEq, reduceCtorEq, List.not_mem_nil,
        false_or, or_false] at hmem
      exact hmem.imp And.right And.right
    rcases hpointer with rfl | rfl
    · decide
    · decide
  have htotal : sampleTree.total? hyphenTarget = some 0x3ff8 := by rfl
  refine ⟨rfl, hnames, hdistinct, by rfl, ?_⟩
  exact ((resolveNested_text rfl sampleTree hnames hdistinct).1 0x3ff8).mpr
    ⟨0x3ff8, htotal, by decide⟩

/-- The tree of `[8]`. -/
def groupTree : Tree :=
  .single (.group (.single (.atom ⟨'8', [], [], by decide, by simp, Atom.isWord_of_mem_nil⟩)))

/-- The operand of a tree has a value and the pointer there can be read, but the tree is not
resolved, since the read cannot be recorded. -/
theorem resolveNested_text_unshown :
    groupTree.text = "[8]" ∧ Expression.valueOf unshownTarget.modules "8" = .ok 8 ∧
      unshownTarget.reader.readPointer unshownTarget.process 8 = .ok 0x2000 ∧
      unshownTarget.Distinguishes (resolveNested unshownTarget groupTree.text) ∧
      (resolveNested unshownTarget groupTree.text).result = .error .unwritable := by
  have hmodules : unshownTarget.modules = ModuleTable.ofList [] := rfl
  have htext : groupTree.text = "[" ++ "8" ++ "]" := by rfl
  have hvalue : evaluate unshownTarget.modules "8" = .ok 8 := by
    rw [hmodules]
    decide +kernel
  have hresolve := resolveNested_ofGroup_of_error (by simp) (by decide +kernel) hvalue
    (pointer_unshownTarget 8)
  rw [htext, hresolve, hmodules]
  refine ⟨rfl, by decide +kernel, rfl, ?_, rfl⟩
  intro a v _ m hm
  cases hm

end PointerChain
