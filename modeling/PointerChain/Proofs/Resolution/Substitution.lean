import PointerChain.Proofs.Expression.Layout
import PointerChain.Proofs.Expression.Operand
import PointerChain.Proofs.Expression.TokenSum
import PointerChain.Resolution.Resolve

/-!
# Resolution as substitution

What the pass over a balanced expression does, said by recursion on the expression: the texts of
its groups are replaced from the inside out, and what is left is flat.

* `Forest.substitute` is the flat text of a balanced expression, `Forest.resolve` its value.
* `scan_chars_append` says that passing over a balanced text puts its flat text behind the text
  that is being built up, wherever in an expression it stands.
-/

namespace PointerChain

/-- What a text between brackets is replaced by: the pointer at its value, as a number, or the text
itself if it holds no operand. -/
def Target.replacement (target : Target) (enclosed : String) : Traced String :=
  if hasOperands enclosed then do
    let value ← target.dereference enclosed
    return Text.upperHexText value.toNat
  else return enclosed

namespace Forest

/-- The flat text of a balanced expression. Of a replaced group, the closing bracket stays. -/
def substitute (target : Target) : Forest → Traced String
  | nil => return ""
  | text c _ rest => do
    let t ← rest.substitute target
    return String.singleton c ++ t
  | group body rest => do
    let inner ← body.substitute target
    let replaced ← target.replacement ("[" ++ inner)
    let t ← rest.substitute target
    return replaced ++ "]" ++ t

/-- The value of a balanced expression. -/
def resolve (target : Target) (f : Forest) : Traced Address := do
  let flat ← f.substitute target
  target.evaluate flat

end Forest

variable {target : Target} {expression : String}

/-- Strict mode makes no difference to a substitution. -/
theorem Forest.substitute_strict (strict : Bool) (f : Forest) :
    f.substitute { target with strict } = f.substitute target := by
  induction f with
  | nil => rfl
  | text c plain rest ih => rw [substitute, substitute, ih]
  | group body rest ihBody ihRest =>
    rw [substitute, substitute, ihBody, ihRest]
    rfl

/-- A text without brackets is flat. -/
theorem Forest.substitute_plain (cs : List Char) (h : ∀ c ∈ cs, c ≠ '[' ∧ c ≠ ']') :
    (plain cs h).substitute target = return String.ofList cs := by
  induction cs with
  | nil => rfl
  | cons c cs ih => rw [plain, substitute, ih, pure_bind, String.ofList_cons]

/-- Two expressions one behind the other are substituted one after the other. -/
theorem Forest.substitute_append (f g : Forest) :
    (f.append g).substitute target =
      f.substitute target >>= fun t => g.substitute target >>= fun u => return t ++ u := by
  induction f with
  | nil => simp only [append, substitute, pure_bind, String.empty_append, bind_pure]
  | text c plain rest ih =>
    rw [append, substitute, ih, substitute]
    simp only [bind_assoc, pure_bind, String.append_assoc]
  | group body rest _ ih =>
    rw [append, substitute, ih, substitute]
    simp only [bind_assoc, pure_bind, String.append_assoc]

/-! ### Operands survive substitution -/

/-- A replacement holds an operand exactly if what it replaces does. -/
theorem hasOperands_of_replacement {enclosed t : String}
    (h : (target.replacement enclosed).result = .ok t) : hasOperands t = hasOperands enclosed := by
  unfold Target.replacement at h
  split at h
  next hoperands =>
    obtain ⟨value, -, ht⟩ := Trace.result_bind_eq_ok_iff.mp h
    obtain rfl := Except.ok.inj ht
    -- The marker in front of the number is a word character already.
    have hzero : Text.isWord '0' = true := by decide
    rw [hoperands, hasOperands_eq_any, Text.upperHexText, String.toList_append, List.any_append]
    simp [hzero]
  next => rw [Except.ok.inj h]

/-- The flat text of a balanced expression holds an operand exactly if the expression holds a word
character. -/
theorem hasOperands_of_substitute {f : Forest} {t : String}
    (h : (f.substitute target).result = .ok t) : hasOperands t = f.hasWord := by
  have hclose : Text.isWord ']' = false := by decide
  -- A pointer that is written into the text is an operand, and brackets are none.
  induction f generalizing t with
  | nil =>
    obtain rfl := Except.ok.inj h
    rfl
  | text c plain rest ih =>
    obtain ⟨u, hu, ht⟩ := Trace.result_bind_eq_ok_iff.mp h
    obtain rfl := Except.ok.inj ht
    rw [Forest.hasWord_text, ← ih hu, hasOperands_eq_any, hasOperands_eq_any]
    simp
  | group body rest ihBody ihRest =>
    obtain ⟨inner, hinner, h⟩ := Trace.result_bind_eq_ok_iff.mp h
    obtain ⟨replaced, hreplaced, h⟩ := Trace.result_bind_eq_ok_iff.mp h
    obtain ⟨u, hu, ht⟩ := Trace.result_bind_eq_ok_iff.mp h
    obtain rfl := Except.ok.inj ht
    have hbody : hasOperands replaced = body.hasWord := by
      rw [hasOperands_of_replacement hreplaced, ← ihBody hinner, hasOperands_bracket_append]
    rw [Forest.hasWord_group, ← hbody, ← ihRest hu, hasOperands_eq_any, hasOperands_eq_any,
      hasOperands_eq_any]
    simp [hclose]

/-! ### One character -/

namespace Scan

/-- Nothing is parked in front of an empty text. -/
def Tidy (s : Scan) : Prop := s.current = "" → s.pending = []

theorem tidy_start : start.Tidy := fun _ => rfl

/-- Unless a group is refused, its closing bracket puts the replacement of what the group encloses
behind the text that was parked last. -/
theorem closing_eq_replacement (s : Scan) (position : Nat) (hcurrent : s.current ≠ "")
    (h : target.strict = true → hasOperands s.current = true) :
    s.closing target expression position = do
      let t ← target.replacement s.current
      return s.resume t := by
  have hempty : s.current.isEmpty = false := by simpa using hcurrent
  rw [closing, hempty, Target.replacement]
  by_cases hoperands : hasOperands s.current = true
  · simp [hoperands]
  · have hstrict : target.strict = false := by
      rw [Bool.eq_false_iff]
      exact fun hstrict => hoperands (h hstrict)
    simp [hoperands, hstrict]

@[simp]
theorem current_opening (s : Scan) : s.opening.current = "[" := by
  unfold opening
  split <;> rfl

theorem tidy_opening (s : Scan) : s.opening.Tidy := by
  intro h
  exact absurd h (by simp)

theorem Tidy.append {s : Scan} (h : s.Tidy) (t : String) :
    ({ s with current := s.current ++ t } : Scan).Tidy := by
  intro hempty
  exact h (String.append_eq_empty_iff.mp hempty).1

/-- What an opening bracket parked is taken up again behind the group, also where there was nothing
to park. -/
theorem Tidy.resume_opening {s : Scan} (h : s.Tidy) (current t : String) :
    ({ s.opening with current } : Scan).resume t =
      { s with current := s.current ++ (t ++ "]") } := by
  by_cases hcurrent : s.current = ""
  · simp [opening, resume, hcurrent, h hcurrent]
  · simp [opening, resume, hcurrent, String.append_assoc]

theorem step_opening (s : Scan) (position : Nat) :
    s.step target expression position '[' = return s.opening := rfl

theorem step_closing (s : Scan) (position : Nat) :
    s.step target expression position ']' = s.closing target expression position := rfl

theorem step_of_plain {c : Char} (plain : c ≠ '[' ∧ c ≠ ']') (s : Scan) (position : Nat) :
    s.step target expression position c =
      return { s with current := s.current ++ String.singleton c } := by
  rw [step, if_neg plain.1, if_neg plain.2, String.push_eq_append]

end Scan

/-- Passing over a text in two parts is passing over one after the other. -/
theorem scan_append (xs ys : List Char) (position : Nat) (s : Scan) :
    scan target expression position s (xs ++ ys) =
      scan target expression position s xs >>= fun next =>
        scan target expression (position + xs.length) next ys := by
  induction xs generalizing position s with
  | nil => simp [scan]
  | cons c xs ih =>
    rw [List.cons_append, scan, scan, bind_assoc]
    refine bind_congr fun next => ?_
    rw [ih, List.length_cons, Nat.add_right_comm, Nat.add_assoc]

/-! ### A balanced text -/

/-- Passing over a balanced text puts its flat text behind the text that is being built up. In
strict mode, this takes a word character in every group. -/
theorem scan_chars_append {f : Forest}
    (hworded : target.strict = true → f.Worded) (position : Nat) {s : Scan} (hs : s.Tidy)
    (cs : List Char) :
    scan target expression position s (f.chars ++ cs) =
      f.substitute target >>= fun t =>
        scan target expression (position + f.chars.length) { s with current := s.current ++ t }
          cs := by
  -- By induction on the forest, over every state in which nothing is parked in front of an empty
  -- text; this is what makes a group put its pointer behind the text that stood in front of it.
  induction f generalizing position s cs with
  | nil => simp [Forest.substitute]
  | text c plain rest ih =>
    have hrest : target.strict = true → rest.Worded := by simpa using hworded
    rw [Forest.chars_text, List.cons_append, scan, Scan.step_of_plain plain, pure_bind,
      ih hrest (position + 1) (hs.append _) cs, Forest.substitute, bind_assoc]
    refine bind_congr fun t => ?_
    rw [pure_bind, String.append_assoc, List.length_cons, Nat.add_right_comm, Nat.add_assoc]
  | group body rest ihBody ihRest =>
    simp only [Forest.worded_group] at hworded
    have hbody : target.strict = true → body.Worded := fun hstrict => (hworded hstrict).1
    have hgroup : target.strict = true → body.hasWord = true := fun hstrict => (hworded hstrict).2.1
    have hrest : target.strict = true → rest.Worded := fun hstrict => (hworded hstrict).2.2
    rw [Forest.chars_group, List.cons_append, List.append_assoc, scan, Scan.step_opening,
      pure_bind, ihBody hbody (position + 1) s.tidy_opening, Forest.substitute, bind_assoc]
    -- From here on the body has been passed over, and its bracket is met.
    refine Trace.bind_congr_of_ok fun inner hinner => ?_
    have henclosed : target.strict = true → hasOperands ("[" ++ inner) = true := by
      intro hstrict
      rw [← hgroup hstrict, ← hasOperands_of_substitute hinner, hasOperands_bracket_append]
    rw [List.cons_append, scan, Scan.step_closing, Scan.current_opening,
      Scan.closing_eq_replacement ⟨s.opening.pending, "[" ++ inner⟩ _ (by simp) henclosed,
      bind_assoc, bind_assoc]
    refine bind_congr fun replaced => ?_
    rw [pure_bind, hs.resume_opening, ihRest hrest _ (hs.append _), bind_assoc]
    refine bind_congr fun t => ?_
    have hlength : position + (Forest.group body rest).chars.length =
        position + 1 + body.chars.length + 1 + rest.chars.length := by
      simp only [Forest.chars_group, List.length_cons, List.length_append]
      omega
    rw [pure_bind, ← Forest.chars_group, hlength]
    simp only [String.append_assoc]

/-! ### A whole expression -/

/-- How a resolution ends behind a pass over the expression: the text that is left is evaluated, and
parked texts are left behind. -/
def Scan.conclude (target : Target) (s : Scan) : Traced Address := do
  if !s.pending.isEmpty then Trace.note (.abandoned s.pending.length)
  target.evaluate s.current

theorem Scan.reads_conclude (s : Scan) :
    (s.conclude target).reads = (target.evaluate s.current).reads := by
  unfold conclude
  split
  · rw [Trace.reads_bind_of_ok rfl]
    rfl
  · rfl

theorem Scan.result_conclude (s : Scan) :
    (s.conclude target).result = (target.evaluate s.current).result := by
  unfold conclude
  split
  · rw [Trace.bind_of_ok rfl]
  · rfl

/-- A resolution is a pass over the expression and its conclusion, where the bracket check lets it
through. -/
theorem resolveNested_eq_bind (h : target.strict = true → checkBrackets expression = .ok ()) :
    resolveNested target expression =
      scan target expression 0 Scan.start expression.toList >>= Scan.conclude target := by
  unfold resolveNested
  by_cases hstrict : target.strict = true
  · rw [if_pos hstrict, h hstrict]
    rfl
  · rw [if_neg hstrict]
    rfl

/-- In strict mode, a bracket without a partner is the end before anything is read. -/
theorem resolveNested_of_error (hstrict : target.strict = true) {e : BracketError}
    (h : checkBrackets expression = .error e) :
    resolveNested target expression = Trace.stop (.brackets e) := by
  rw [resolveNested, if_pos hstrict, h]
  rfl

/-- A balanced expression is resolved by substitution. In strict mode, this takes a word character
in every group. -/
theorem resolveNested_expression {f : Forest} (hworded : target.strict = true → f.Worded) :
    resolveNested target f.expression = f.resolve target := by
  have hchecked : checkBrackets f.expression = .ok () := checkBrackets_eq_ok_iff.mpr ⟨f, rfl⟩
  have hscan : scan target f.expression 0 Scan.start (f.chars ++ []) = _ :=
    scan_chars_append hworded 0 Scan.tidy_start []
  rw [List.append_nil] at hscan
  rw [resolveNested_eq_bind fun _ => hchecked, Forest.toList_expression, hscan, bind_assoc]
  refine bind_congr fun flat => ?_
  simp [scan, Scan.conclude, Scan.start]

/-! ### One group -/

section Group

variable {flat : String} {a v : Address}

/-- A text without brackets, as a group. -/
def Forest.ofGroup (flat : String) (h : ∀ c ∈ flat.toList, c ≠ '[' ∧ c ≠ ']') : Forest :=
  .group (.plain flat.toList h) .nil

theorem Forest.expression_ofGroup (h : ∀ c ∈ flat.toList, c ≠ '[' ∧ c ≠ ']') :
    (ofGroup flat h).expression = "[" ++ flat ++ "]" := by
  apply String.toList_injective
  simp [ofGroup]

/-- A group with an operand passes strict mode. -/
theorem Forest.worded_ofGroup (h : ∀ c ∈ flat.toList, c ≠ '[' ∧ c ≠ ']')
    (hoperands : hasOperands flat = true) : (ofGroup flat h).Worded := by
  have hword : (plain flat.toList h).hasWord = true := by
    rwa [hasWord, chars_plain, ← hasOperands_eq_any]
  rw [ofGroup, worded_group]
  exact ⟨worded_plain _ h, hword, worded_nil⟩

/-- A group whose pointer can be read is replaced by the pointer. -/
theorem Forest.substitute_ofGroup (h : ∀ c ∈ flat.toList, c ≠ '[' ∧ c ≠ ']')
    (hoperands : hasOperands flat = true) (hvalue : evaluate target.modules flat = .ok a)
    (hpointer : target.pointer a = .ok v) :
    (ofGroup flat h).substitute target =
      ⟨[.evaluated ("[" ++ flat) a, .read a pointerSize, .dereferenced a v],
        .ok (Text.upperHexText v.toNat ++ "]")⟩ := by
  have hbracket : hasOperands ("[" ++ flat) = true := by rwa [hasOperands_bracket_append]
  have hdereference := Target.dereference_of_ok
    (evaluate_bracket_append_eq_ok_iff.mpr hvalue) hpointer
  rw [ofGroup, substitute, substitute_plain, pure_bind, String.ofList_toList, Target.replacement,
    if_pos hbracket, hdereference]
  simp only [substitute, bind_assoc, pure_bind, String.append_empty]
  rw [Trace.bind_of_ok rfl]
  rfl

/-- A group without a pointer is the end. -/
theorem Forest.substitute_ofGroup_of_error (h : ∀ c ∈ flat.toList, c ≠ '[' ∧ c ≠ ']')
    (hoperands : hasOperands flat = true) (hvalue : evaluate target.modules flat = .ok a)
    {e : ResolveError} (hpointer : target.pointer a = .error e) :
    (ofGroup flat h).substitute target =
      ⟨[.evaluated ("[" ++ flat) a, .read a pointerSize], .error e⟩ := by
  have hbracket : hasOperands ("[" ++ flat) = true := by rwa [hasOperands_bracket_append]
  have hdereference := Target.dereference_of_pointer_error
    (evaluate_bracket_append_eq_ok_iff.mpr hvalue) hpointer
  rw [ofGroup, substitute, substitute_plain, pure_bind, String.ofList_toList, Target.replacement,
    if_pos hbracket, hdereference]
  rfl

variable (hplain : ∀ c ∈ flat.toList, c ≠ '[' ∧ c ≠ ']') (hoperands : hasOperands flat = true)
  (hvalue : evaluate target.modules flat = .ok a)

include hplain hoperands hvalue

/-- Behind a group alone, the number that takes its place is evaluated. -/
theorem resolveNested_ofGroup (hpointer : target.pointer a = .ok v) :
    resolveNested target ("[" ++ flat ++ "]") =
      (⟨[.evaluated ("[" ++ flat) a, .read a pointerSize, .dereferenced a v],
        .ok (Text.upperHexText v.toNat ++ "]")⟩ : Traced String) >>= target.evaluate := by
  have hworded : target.strict = true → (Forest.ofGroup flat hplain).Worded :=
    fun _ => Forest.worded_ofGroup hplain hoperands
  have hresolve := resolveNested_expression hworded
  rw [Forest.expression_ofGroup, Forest.resolve,
    Forest.substitute_ofGroup hplain hoperands hvalue hpointer] at hresolve
  exact hresolve

/-- A group alone without a pointer cannot be resolved. -/
theorem resolveNested_ofGroup_of_error {e : ResolveError} (hpointer : target.pointer a = .error e) :
    resolveNested target ("[" ++ flat ++ "]") =
      ⟨[.evaluated ("[" ++ flat) a, .read a pointerSize], .error e⟩ := by
  have hworded : target.strict = true → (Forest.ofGroup flat hplain).Worded :=
    fun _ => Forest.worded_ofGroup hplain hoperands
  have hresolve := resolveNested_expression hworded
  rw [Forest.expression_ofGroup, Forest.resolve,
    Forest.substitute_ofGroup_of_error hplain hoperands hvalue hpointer] at hresolve
  exact hresolve

end Group

end PointerChain
