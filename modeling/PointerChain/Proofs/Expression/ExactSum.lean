import Mathlib.Algebra.Ring.Int.Defs
import PointerChain.Proofs.Expression.Number
import PointerChain.Proofs.Expression.TokenSum

/-!
# Flat expressions as sums of integers

The value of a flat expression is the sum of its operands, taken over the integers and reduced
modulo `2 ^ 64` at the end. That each step of the evaluation wraps around makes no difference, and
the first operand, which no step reduces, is an address already. Operands are looked at from the
first to the last, and the first one without a value is reported.

* `Expression.HasValue` is the value of one operand, `Expression.exactSum` the sum of a row of them.
* `Expression.sumOf_eq` parts the evaluation of a row into its operands and their sum.
* `evaluate_exactSum` is about whole expressions.
-/

namespace PointerChain

namespace Expression

/-- The value of an operand: the base of the first module of this name, or else the number that is
written. -/
inductive HasValue (table : ModuleTable) (text : String) : Address → Prop
  | base {m : Module} (h : m.IsFirst text table.modules) : HasValue table text m.base
  | number {a : Address} (hnone : ∀ m ∈ table.modules, m.name.lower ≠ Text.lower text)
      (hread : Text.readHex? (dropMarkers text.toList) = some a.toNat) : HasValue table text a

/-- What an operand adds to a sum: its value, or the opposite behind a minus. -/
def term (token : Token) (value : Address) : Int :=
  if token.sign = some .minus then -value.toNat else value.toNat

/-- The sum of a row of operands, given their values, as an integer without a bound. The sign of the
first operand does not count. -/
def exactSum : List Token → List Address → Int
  | _ :: others, value :: values => value.toNat + (List.zipWith term others values).sum
  | _, _ => 0

variable {table : ModuleTable} {text : String} {token : Token} {a : Address}

/-! ### One operand -/

theorem hasValue_iff : HasValue table text a ↔ valueOf table text = .ok a := by
  -- The look-up decides whether the operand is a name; a number is read only if it is none.
  cases hfind : table.find? text with
  | some m =>
    have hfirst := ModuleTable.find?_eq_some_iff.mp hfind
    have hvalue : valueOf table text = .ok m.base := by rw [valueOf, hfind]
    rw [hvalue]
    constructor
    · intro h
      cases h with
      | base h =>
        obtain rfl := Option.some.inj (hfind.symm.trans (ModuleTable.find?_eq_some_iff.mpr h))
        rfl
      | number hnone => rw [ModuleTable.find?_ofString_eq_none_iff.mpr hnone] at hfind; cases hfind
    · intro h
      obtain rfl := Except.ok.inj h
      exact .base hfirst
  | none =>
    have hvalue : valueOf table text = numberValue text := by rw [valueOf, hfind]
    rw [hvalue, numberValue_eq_ok_iff]
    constructor
    · intro h
      cases h with
      | base h => rw [ModuleTable.find?_eq_some_iff.mpr h] at hfind; cases hfind
      | number _ hread => exact hread
    · intro h
      exact .number (ModuleTable.find?_ofString_eq_none_iff.mp hfind) h

theorem tokenValue_eq_ok_iff : tokenValue table token = .ok a ↔ HasValue table token.text a := by
  rw [tokenValue, mapError_eq_ok_iff, hasValue_iff]

/-- An operand fails under its own name, and only if it has no value. -/
theorem exists_tokenValue_eq_error_iff {operand : String} :
    (∃ fault, tokenValue table token = .error (operand, fault)) ↔
      token.text = operand ∧ ∀ value, ¬ HasValue table token.text value := by
  simp only [hasValue_iff, tokenValue]
  cases valueOf table token.text <;> simp [Except.mapError]

/-! ### Rows of operands -/

theorem apply_eq_add_ofInt (token : Token) (a b : Address) :
    apply token.sign a b = a + UInt64.ofInt (term token b) := by
  obtain ⟨sign, text⟩ := token
  rcases sign with _ | _ | _
  · simp [apply, term, ofInt_toNat]
  · simp [apply, term, ofInt_toNat]
  · simp [apply, term, UInt64.ofInt_neg, ofInt_toNat, UInt64.sub_eq_add_neg]

/-- All operands of a row are looked at, and then they are added at once. -/
theorem addTokens_eq (table : ModuleTable) (a : Address) (tokens : List Token) :
    addTokens table a tokens = do
      let values ← tokens.mapM (tokenValue table)
      return a + UInt64.ofInt (List.zipWith term tokens values).sum := by
  -- By induction on the operands, from any address on.
  induction tokens generalizing a with
  | nil => simp [addTokens, show UInt64.ofInt 0 = 0 from rfl]
  | cons token tokens ih =>
    rw [addTokens, List.foldlM_cons, List.mapM_cons]
    simp only [bind_assoc, pure_bind]
    refine bind_congr fun b => ?_
    change addTokens table (apply token.sign a b) tokens = _
    rw [ih]
    refine bind_congr fun values => ?_
    rw [apply_eq_add_ofInt, List.zipWith_cons_cons, List.sum_cons, UInt64.ofInt_add,
      UInt64.add_assoc]

theorem sumOf_eq (table : ModuleTable) (tokens : List Token) :
    sumOf table tokens = do
      let values ← tokens.mapM (tokenValue table)
      return UInt64.ofInt (exactSum tokens values) := by
  cases tokens with
  | nil => rfl
  | cons first others =>
    rw [sumOf, List.mapM_cons]
    simp only [addTokens_eq, bind_assoc, pure_bind]
    refine bind_congr fun a => ?_
    refine bind_congr fun values => ?_
    rw [exactSum, UInt64.ofInt_add, ofInt_toNat]

theorem ofInt_eq_iff {n : Int} : UInt64.ofInt n = a ↔ (a.toNat : Int) = n % 2 ^ 64 := by
  constructor
  · rintro rfl
    exact toNat_ofInt n
  · intro h
    have hn := toNat_ofInt n
    apply UInt64.toNat_inj.mp
    omega

/-- A row of operands has a value if all of them have one. -/
theorem sumOf_eq_ok_iff {tokens : List Token} : sumOf table tokens = .ok a ↔
    ∃ values, List.Forall₂ (fun token value => HasValue table token.text value) tokens values ∧
      (a.toNat : Int) = exactSum tokens values % 2 ^ 64 := by
  rw [sumOf_eq]
  constructor
  · intro h
    obtain ⟨values, hvalues, h⟩ := exists_of_bind_eq_ok h
    exact ⟨values, (mapM_eq_ok_iff.mp hvalues).imp fun _ _ => tokenValue_eq_ok_iff.mp,
      ofInt_eq_iff.mp (Except.ok.inj h)⟩
  · rintro ⟨values, hvalues, ha⟩
    have hread := mapM_eq_ok_iff.mpr (hvalues.imp fun _ _ => tokenValue_eq_ok_iff.mpr)
    rw [hread, ← ofInt_eq_iff.mpr ha]
    rfl

/-- A row of operands fails for the first one without a value. -/
theorem exists_sumOf_eq_error_iff {tokens : List Token} {operand : String} :
    (∃ fault, sumOf table tokens = .error (operand, fault)) ↔
      ∃ before token after, tokens = before ++ token :: after ∧ token.text = operand ∧
        (∀ t ∈ before, ∃ value, HasValue table t.text value) ∧
        ∀ value, ¬ HasValue table token.text value := by
  have hread (fault : OperandFault) : sumOf table tokens = .error (operand, fault) ↔
      tokens.mapM (tokenValue table) = .error (operand, fault) := by
    -- Once all operands have values, adding them cannot fail.
    rw [sumOf_eq, bind_eq_error_iff]
    exact ⟨fun h => h.resolve_right nofun, .inl⟩
  simp only [hread, mapM_eq_error_iff, tokenValue_eq_ok_iff]
  constructor
  · rintro ⟨fault, before, token, after, htokens, hbefore, htoken⟩
    obtain ⟨htext, hnone⟩ := exists_tokenValue_eq_error_iff.mp ⟨fault, htoken⟩
    exact ⟨before, token, after, htokens, htext, hbefore, hnone⟩
  · rintro ⟨before, token, after, htokens, htext, hbefore, hnone⟩
    obtain ⟨fault, htoken⟩ := exists_tokenValue_eq_error_iff.mpr ⟨htext, hnone⟩
    exact ⟨fault, before, token, after, htokens, hbefore, htoken⟩

end Expression

open Expression

/-- The value of a flat expression is the sum of the values of its operands, as an integer, modulo
`2 ^ 64`, and an expression without operands has the value zero. There is no value exactly if some
operand has none; then the first of these is reported, with the whole expression. -/
theorem evaluate_exactSum (table : ModuleTable) (expression : String) :
    (∀ a, evaluate table expression = .ok a ↔
      ∃ values, List.Forall₂ (fun token value => HasValue table token.text value)
          (table.tokenize expression) values ∧
        (a.toNat : Int) = exactSum (table.tokenize expression) values % 2 ^ 64) ∧
    (∀ operand, (∃ fault, evaluate table expression = .error ⟨expression, operand, fault⟩) ↔
      ∃ before token after, table.tokenize expression = before ++ token :: after ∧
        token.text = operand ∧ (∀ t ∈ before, ∃ value, HasValue table t.text value) ∧
        ∀ value, ¬ HasValue table token.text value) := by
  constructor
  · intro a
    rw [evaluate_eq_ok_iff, sumOf_eq_ok_iff]
  · intro operand
    simp only [evaluate_eq_error_iff]
    exact exists_sumOf_eq_error_iff

/-- The minus in front of the first operand does not count, and the sum leaves the range on both
sides. -/
example : evaluate (.ofList [⟨"Lib.so", 5⟩]) "-lib.so - 0x10 + ffffffffffffffff + 0x20" =
    .ok 0x14 := by decide +kernel

end PointerChain
