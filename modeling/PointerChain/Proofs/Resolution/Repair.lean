import PointerChain.Proofs.Expression.TokenSum
import PointerChain.Proofs.Resolution.ReadOrder

/-!
# Unbalanced expressions

Outside strict mode, brackets without a partner are repaired in passing. A closing bracket without a
partner acts as if its opening bracket stood in front of the whole expression, and of an expression
with brackets that stay open only what follows the last of them counts.

* `Trace.Agrees` compares two resolutions by their reads and by how they end.
* `Scan.Aligned` relates the passes over an expression with and without brackets in front.
* `resolveNested_unbalanced` compares whole resolutions.
-/

namespace PointerChain

/-- A failure, without the flat expression in which an operand was found to have no value. -/
def ResolveError.bare : ResolveError → ResolveError
  | .operand e => .operand { e with expression := "" }
  | e => e

/-! ### Resolutions that agree -/

/-- Two results that are both values, and related, or both failures, and the same up to the flat
expression that they name. -/
inductive EndsAlike {α β : Type} (R : α → β → Prop) :
    Except ResolveError α → Except ResolveError β → Prop
  | ok {a : α} {b : β} (h : R a b) : EndsAlike R (.ok a) (.ok b)
  | error {e e' : ResolveError} (h : e.bare = e'.bare) : EndsAlike R (.error e) (.error e')

theorem EndsAlike.symm {α : Type} {x y : Except ResolveError α} (h : EndsAlike Eq x y) :
    EndsAlike Eq y x := by
  cases h with
  | ok h => exact .ok h.symm
  | error h => exact .error h.symm

namespace Trace

variable {α β γ δ : Type} {R : α → β → Prop} {S : γ → δ → Prop}

/-- Two resolutions with the same reads that end alike. -/
structure Agrees (R : α → β → Prop) (x : Traced α) (y : Traced β) : Prop where
  reads : x.reads = y.reads
  result : EndsAlike R x.result y.result

namespace Agrees

theorem pure {a : α} {b : β} (h : R a b) : Agrees R (Pure.pure a) (Pure.pure b) :=
  ⟨rfl, .ok h⟩

theorem refl (x : Traced α) : Agrees Eq x x := by
  refine ⟨rfl, ?_⟩
  cases x.result with
  | ok a => exact .ok rfl
  | error e => exact .error rfl

theorem symm {x y : Traced α} (h : Agrees Eq x y) : Agrees Eq y x :=
  ⟨h.reads.symm, h.result.symm⟩

/-- Sequences agree if their first parts do, and their second parts for related values. -/
theorem bind {x : Traced α} {y : Traced β} {f : α → Traced γ} {g : β → Traced δ}
    (h : Agrees R x y) (hfg : ∀ a b, R a b → Agrees S (f a) (g b)) :
    Agrees S (x >>= f) (y >>= g) := by
  obtain ⟨hreads, hresult⟩ := h
  -- Agreeing results are both values or both errors.
  cases hx : x.result with
  | ok a =>
    cases hy : y.result with
    | ok b =>
      rw [hx, hy] at hresult
      obtain ⟨hab⟩ := hresult
      obtain ⟨hreads', hresult'⟩ := hfg a b hab
      refine ⟨?_, ?_⟩
      · rw [reads_bind_of_ok hx, reads_bind_of_ok hy, hreads, hreads']
      · rw [bind_of_ok hx, bind_of_ok hy]
        exact hresult'
    | error e => rw [hx, hy] at hresult; cases hresult
  | error e =>
    cases hy : y.result with
    | ok b => rw [hx, hy] at hresult; cases hresult
    | error e' =>
      rw [hx, hy] at hresult
      obtain ⟨⟩ | ⟨hbare⟩ := hresult
      refine ⟨?_, ?_⟩
      · rw [reads_bind_of_error hx, reads_bind_of_error hy, hreads]
      · rw [bind_of_error hx, bind_of_error hy]
        exact .error hbare

end Agrees

end Trace

open Trace (Agrees)

/-! ### Brackets in front of a text -/

/-- A text behind any number of opening brackets. -/
inductive Padded (t : String) : String → Prop
  | refl : Padded t t
  | bracket {t' : String} (h : Padded t t') : Padded t ("[" ++ t')

variable {target : Target} {expression expression' t t' : String}

namespace Padded

theorem append (h : Padded t t') (u : String) : Padded (t ++ u) (t' ++ u) := by
  induction h with
  | refl => exact .refl
  | bracket _ ih =>
    rw [String.append_assoc]
    exact .bracket ih

theorem tokenize (h : Padded t t') (table : ModuleTable) :
    table.tokenize t' = table.tokenize t := by
  induction h with
  | refl => rfl
  | bracket _ ih => rw [← ih, tokenize_bracket_append]

theorem hasOperands (h : Padded t t') : hasOperands t' = hasOperands t := by
  induction h with
  | refl => rfl
  | bracket _ ih => rw [hasOperands_bracket_append, ih]

theorem evaluate (h : Padded t t') : Agrees Eq (target.evaluate t) (target.evaluate t') := by
  have ht := evaluate_eq_sumOf target.modules t
  have ht' := evaluate_eq_sumOf target.modules t'
  rw [h.tokenize] at ht'
  cases hsum : Expression.sumOf target.modules (target.modules.tokenize t) with
  | ok a =>
    rw [hsum] at ht ht'
    rw [Target.evaluate_of_ok ht, Target.evaluate_of_ok ht']
    exact ⟨rfl, .ok rfl⟩
  | error cause =>
    rw [hsum] at ht ht'
    rw [Target.evaluate_of_error ht, Target.evaluate_of_error ht']
    exact ⟨rfl, .error rfl⟩

theorem dereference (h : Padded t t') :
    Agrees Eq (target.dereference t) (target.dereference t') := by
  refine h.evaluate.bind ?_
  rintro a _ rfl
  exact Agrees.refl _

/-- Brackets in front of a text are lost if it is replaced, and stay if it is not. -/
theorem replacement (h : Padded t t') :
    Agrees Padded (target.replacement t) (target.replacement t') := by
  rw [Target.replacement, Target.replacement, h.hasOperands]
  split
  · refine h.dereference.bind ?_
    rintro value _ rfl
    exact .pure .refl
  · exact .pure h

end Padded

/-! ### Passes side by side -/

namespace Scan

/-- The state behind so many opening brackets at the start. The first one parks nothing. -/
def opened : Nat → Scan
  | 0 => start
  | n + 1 => ⟨List.replicate n "[", "["⟩

theorem opening_opened (n : Nat) : (opened n).opening = opened (n + 1) := by
  cases n with
  | zero => rfl
  | succ n => simp [opened, opening, List.replicate_succ]

/-- A pass that has nothing parked, and one that has brackets for so many closing ones without a
partner. -/
structure Aligned (n : Nat) (s s' : Scan) : Prop where
  /-- The one pass has parked nothing. -/
  pending_eq_nil : s.pending = []
  /-- The other one has parked all of the brackets but the one in its text. -/
  pending_eq_replicate : s'.pending = List.replicate (n - 1) "["
  /-- The texts differ in opening brackets. -/
  padded : Padded s.current s'.current
  /-- There is a text to be closed. -/
  current_ne : n ≠ 0 → s'.current ≠ ""

theorem aligned_opened (n : Nat) : Aligned n start (opened n) := by
  cases n with
  | zero => exact ⟨rfl, rfl, .refl, fun h => absurd rfl h⟩
  | succ n => exact ⟨rfl, rfl, .bracket .refl, fun _ => by simp [opened]⟩

namespace Aligned

variable {n : Nat} {s s' : Scan}

theorem tidy_left (h : Aligned n s s') : s.Tidy := fun _ => h.pending_eq_nil

theorem tidy_right (h : Aligned n s s') : s'.Tidy := by
  intro hcurrent
  have hn : n = 0 := Decidable.byContradiction fun hn => h.current_ne hn hcurrent
  rw [h.pending_eq_replicate, hn]
  rfl

theorem append (h : Aligned n s s') (t : String) :
    Aligned n { s with current := s.current ++ t } { s' with current := s'.current ++ t } where
  pending_eq_nil := h.pending_eq_nil
  pending_eq_replicate := h.pending_eq_replicate
  padded := h.padded.append t
  current_ne := fun hn hempty => h.current_ne hn (String.append_eq_empty_iff.mp hempty).1

end Aligned

/-- Outside strict mode, a closing bracket that finds nothing parked replaces the text, also where
there is none. -/
theorem closing_of_pending_eq_nil (hlenient : target.strict = false) {s : Scan}
    (h : s.pending = []) (position : Nat) :
    s.closing target expression position =
      target.replacement s.current >>= fun t => return ⟨[], t ++ "]"⟩ := by
  obtain ⟨pending, current⟩ := s
  obtain rfl : pending = [] := h
  by_cases hcurrent : current = ""
  · subst hcurrent
    rfl
  · rw [closing_eq_replacement _ _ hcurrent (by simp [hlenient])]
    rfl

end Scan

section Lenient

variable (hlenient : target.strict = false) (position position' : Nat)

include hlenient

/-- A closing bracket without a partner takes up one of the brackets in front. -/
theorem Scan.Aligned.closing {n : Nat} {s s' : Scan} (h : Scan.Aligned (n + 1) s s') :
    Agrees (Scan.Aligned n) (s.closing target expression position)
      (s'.closing target expression' position') := by
  have hcurrent : s'.current ≠ "" := h.current_ne (Nat.succ_ne_zero n)
  rw [Scan.closing_of_pending_eq_nil hlenient h.pending_eq_nil,
    Scan.closing_eq_replacement _ _ hcurrent (by simp [hlenient])]
  refine h.padded.replacement.bind fun t t' ht => .pure ?_
  have hpending : s'.pending = List.replicate n "[" := h.pending_eq_replicate
  cases n with
  | zero =>
    -- The last of the brackets in front is in the text already, and nothing else is parked.
    rw [Scan.resume, hpending]
    exact ⟨rfl, rfl, ht.append "]", fun h => absurd rfl h⟩
  | succ n =>
    rw [Scan.resume, hpending, List.replicate_succ]
    exact ⟨rfl, rfl, ht.bracket.append "]", fun _ => by simp⟩

/-- A balanced text is passed over alike, whatever is in front of it. -/
theorem agrees_scan_chars {R : Scan → Scan → Prop} (f : Forest) {s s' : Scan}
    (hs : s.Tidy) (hs' : s'.Tidy)
    (h : ∀ t, R { s with current := s.current ++ t } { s' with current := s'.current ++ t }) :
    Agrees R (scan target expression position s f.chars)
      (scan target expression' position' s' f.chars) := by
  rw [← f.chars.append_nil, scan_chars_append (by simp [hlenient]) _ hs,
    scan_chars_append (by simp [hlenient]) _ hs']
  refine (Agrees.refl _).bind ?_
  rintro t _ rfl
  exact .pure (h t)

/-- Closing brackets without a partner take up the brackets in front, one each. -/
theorem agrees_scan_strayChars (fs : List Forest) {s s' : Scan}
    (h : Scan.Aligned fs.length s s') :
    Agrees (Scan.Aligned 0) (scan target expression position s (Layout.strayChars fs))
      (scan target expression' position' s' (Layout.strayChars fs)) := by
  induction fs generalizing position position' s s' with
  | nil => exact .pure h
  | cons f fs ih =>
    -- The balanced text is passed over alike, and its closing bracket leaves one bracket less.
    rw [Layout.strayChars_cons, scan_append, scan_append]
    refine (agrees_scan_chars hlenient position position' f h.tidy_left h.tidy_right h.append).bind
      fun r r' hr => ?_
    rw [scan, scan, Scan.step_closing, Scan.step_closing]
    exact (hr.closing hlenient _ _).bind fun r r' hr => ih _ _ hr

/-- Behind an opening bracket that stays open, what was parked makes no difference. -/
theorem agrees_scan_unclosedChars (fs : List Forest) {s s' : Scan}
    (h : Padded s.current s'.current) :
    Agrees (fun r r' => Padded r.current r'.current)
      (scan target expression position s (Layout.unclosedChars fs))
      (scan target expression' position' s' (Layout.unclosedChars fs)) := by
  induction fs generalizing position position' s s' with
  | nil => exact .pure h
  | cons f fs ih =>
    rw [Layout.unclosedChars_cons, scan, scan, Scan.step_opening, Scan.step_opening, pure_bind,
      pure_bind, scan_append, scan_append]
    refine (agrees_scan_chars hlenient _ _ f s.tidy_opening s'.tidy_opening
      (R := fun r r' => Padded r.current r'.current) fun t => ?_).bind fun r r' hr => ih _ _ hr
    rw [Scan.current_opening, Scan.current_opening]
    exact .refl

end Lenient

theorem scan_replicate (n : Nat) :
    scan target expression 0 Scan.start (List.replicate n '[') = return Scan.opened n := by
  induction n with
  | zero => rfl
  | succ n ih =>
    rw [List.replicate_succ', scan_append, ih, pure_bind, scan, Scan.step_opening, pure_bind,
      Scan.opening_opened]
    rfl

theorem Padded.conclude {s s' : Scan} (h : Padded s.current s'.current) :
    Agrees Eq (s.conclude target) (s'.conclude target) := by
  refine ⟨?_, ?_⟩
  · rw [s.reads_conclude, s'.reads_conclude]
    exact h.evaluate.reads
  · rw [s.result_conclude, s'.result_conclude]
    exact h.evaluate.result

/-! ### Whole expressions -/

/-- With an opening bracket in front for each closing one without a partner, an expression is
resolved alike. -/
theorem agrees_replicate_append (hlenient : target.strict = false) (expression : String) :
    Agrees Eq (resolveNested target expression)
      (resolveNested target (String.ofList
        (List.replicate (strayClosings 0 expression.toList) '[') ++ expression)) := by
  rw [resolveNested_eq_bind (by simp [hlenient]), resolveNested_eq_bind (by simp [hlenient]),
    String.toList_append, String.toList_ofList, scan_append, scan_replicate, pure_bind]
  -- The passes are compared part by part: up to the last closing bracket without a partner, up to
  -- the first opening one that stays open, and from there on.
  obtain ⟨l, hl⟩ := Layout.exists_chars_eq expression.toList
  rw [← hl, strayClosings_chars, Layout.chars, scan_append, scan_append]
  refine Agrees.bind ?_ fun r r' hr => Padded.conclude hr
  refine (agrees_scan_strayChars hlenient _ _ l.strays (Scan.aligned_opened _)).bind
    fun r r' hr => ?_
  rw [scan_append, scan_append]
  refine (agrees_scan_chars hlenient _ _ l.middle hr.tidy_left hr.tidy_right
    hr.append).bind fun r r' hr => ?_
  exact agrees_scan_unclosedChars hlenient _ _ l.unclosed hr.padded

/-- Of what is parked at the last bracket that stays open, nothing counts. -/
theorem agrees_last_unclosed (hlenient : target.strict = false) (f : Forest) (position : Nat)
    (s : Scan) :
    Agrees Eq (scan target expression position s ('[' :: f.chars) >>= Scan.conclude target)
      (resolveNested target f.expression) := by
  rw [resolveNested_eq_bind (by simp [hlenient]), Forest.toList_expression, scan,
    Scan.step_opening, pure_bind]
  refine Agrees.symm (Agrees.bind (R := fun r r' => Padded r.current r'.current) ?_
    fun r r' hr => hr.conclude)
  refine agrees_scan_chars hlenient _ _ f Scan.tidy_start s.tidy_opening fun t => ?_
  rw [Scan.current_opening]
  exact (Padded.refl.bracket).append t

/-- Outside strict mode, brackets without a partner are repaired:

* With an opening bracket in front for each closing one that is met while none is open, an
  expression makes the same reads and ends the same way.
* If the pass reaches an opening bracket with a balanced text behind it, the rest of the resolution
  is that of this text, whatever was parked. -/
theorem resolveNested_unbalanced (hlenient : target.strict = false) (expression : String) :
    Agrees Eq (resolveNested target expression)
      (resolveNested target (String.ofList
        (List.replicate (strayClosings 0 expression.toList) '[') ++ expression)) ∧
    ∀ (before after : String) (s : Scan),
      expression = before ++ "[" ++ after → checkBrackets after = .ok () →
      (scan target expression 0 Scan.start before.toList).result = .ok s →
        (resolveNested target expression).reads =
          (scan target expression 0 Scan.start before.toList).reads ++
            (resolveNested target after).reads ∧
        EndsAlike Eq (resolveNested target expression).result
          (resolveNested target after).result := by
  refine ⟨agrees_replicate_append hlenient expression, ?_⟩
  intro before after s hexpression hbalanced hscan
  obtain ⟨f, rfl⟩ := checkBrackets_eq_ok_iff.mp hbalanced
  have hchars : expression.toList = before.toList ++ '[' :: f.chars := by
    simp [hexpression]
  obtain ⟨hreads, hresult⟩ : Agrees Eq _ (resolveNested target f.expression) :=
    @agrees_last_unclosed target expression hlenient f before.toList.length s
  rw [resolveNested_eq_bind (by simp [hlenient]), hchars, scan_append, bind_assoc, Nat.zero_add]
  refine ⟨?_, ?_⟩
  · rw [Trace.reads_bind_of_ok hscan, hreads]
  · rw [Trace.bind_of_ok hscan]
    exact hresult

/-- A closing bracket gets an opening one in front, and behind the bracket that stays open the rest
is resolved alone. -/
theorem resolveNested_unbalanced_sample :
    sampleTarget.strict = false ∧
      Agrees Eq (resolveNested sampleTarget "1010]+[2020")
        (resolveNested sampleTarget "[1010]+[2020") ∧
      checkBrackets "2020" = .ok () ∧
      (scan sampleTarget "1010]+[2020" 0 Scan.start "1010]+".toList).result =
        .ok ⟨[], "0x2000]+"⟩ ∧
      EndsAlike Eq (resolveNested sampleTarget "1010]+[2020").result
        (resolveNested sampleTarget "2020").result := by
  have hrepaired : String.ofList (List.replicate (strayClosings 0 "1010]+[2020".toList) '[') ++
      "1010]+[2020" = "[1010]+[2020" := by decide
  have hbalanced : checkBrackets "2020" = .ok () := by rfl
  have hscan : (scan sampleTarget "1010]+[2020" 0 Scan.start "1010]+".toList).result =
      .ok ⟨[], "0x2000]+"⟩ := by decide +kernel
  obtain ⟨hagrees, hunclosed⟩ := @resolveNested_unbalanced sampleTarget rfl "1010]+[2020"
  rw [hrepaired] at hagrees
  exact ⟨rfl, hagrees, hbalanced, hscan, (hunclosed "1010]+" "2020" _ rfl hbalanced hscan).2⟩

end PointerChain
