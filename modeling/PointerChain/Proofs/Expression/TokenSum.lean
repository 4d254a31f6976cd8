import PointerChain.Expression.Value
import PointerChain.Proofs.Expression.Operand
import PointerChain.Proofs.Memory.Word
import PointerChain.Proofs.Outcome

/-!
# Sums of operands

The value of a flat expression is read off its operands alone; its text only serves to report an
operand without a value.

* `sumOf` is the value of a row of operands, or the first one without a value.
* `evaluate_eq_sumOf` evaluates a flat expression by it; `evaluate_eq_ok_iff` and
  `evaluate_eq_error_iff` say which values and which reports there are.
* `apply_ofInt` reads sums and differences of addresses as those of integers.
-/

namespace PointerChain

namespace Expression

/-- The value of an operand, or the operand and why it has none. -/
def tokenValue (table : ModuleTable) (token : Token) : Except (String × OperandFault) Address :=
  (valueOf table token.text).mapError (token.text, ·)

/-- Adds operands to an address, up to the first one without a value. -/
def addTokens (table : ModuleTable) (a : Address) (tokens : List Token) :
    Except (String × OperandFault) Address :=
  tokens.foldlM (fun a token => return apply token.sign a (← tokenValue table token)) a

/-- The value of a row of operands, or the first one without a value. The sign of the first operand
does not count. -/
def sumOf (table : ModuleTable) : List Token → Except (String × OperandFault) Address
  | [] => .ok 0
  | first :: others => do addTokens table (← tokenValue table first) others

/-- The report of an operand without a value, in an expression. -/
def reportIn (expression : String) (cause : String × OperandFault) : OperandError :=
  ⟨expression, cause.1, cause.2⟩

variable {table : ModuleTable} {expression : String}

/-- The last operand of a row is added last. -/
theorem sumOf_concat {tokens : List Token} (h : tokens ≠ []) (token : Token) :
    sumOf table (tokens ++ [token]) = do
      let a ← sumOf table tokens
      let b ← tokenValue table token
      return apply token.sign a b := by
  obtain ⟨first, others, rfl⟩ := List.exists_cons_of_ne_nil h
  rw [List.cons_append, sumOf, sumOf, bind_assoc]
  refine bind_congr fun a => ?_
  rw [addTokens, List.foldlM_append]
  refine bind_congr fun b => ?_
  rw [List.foldlM_cons]
  simp only [List.foldlM_nil, bind_pure]

theorem operandValue_eq (token : Token) :
    operandValue table expression token.text =
      (tokenValue table token).mapError (reportIn expression) := by
  rw [operandValue, tokenValue]
  cases valueOf table token.text <;> rfl

theorem foldlM_operandValue (a : Address) (tokens : List Token) :
    tokens.foldlM (fun a token => do
      let b ← operandValue table expression token.text
      return apply token.sign a b) a =
      (addTokens table a tokens).mapError (reportIn expression) := by
  induction tokens generalizing a with
  | nil => rfl
  | cons token tokens ih =>
    rw [addTokens, List.foldlM_cons, List.foldlM_cons, mapError_bind, mapError_bind,
      operandValue_eq, bind_assoc, bind_assoc]
    refine bind_congr fun b => ?_
    exact ih (apply token.sign a b)

end Expression

theorem toOption_tokenValue (table : ModuleTable) (token : Token) :
    (Expression.tokenValue table token).toOption =
      (Expression.valueOf table token.text).toOption := by
  rw [Expression.tokenValue, toOption_mapError]

/-! ### Sums of integers -/

/-- Adds or subtracts an integer, without a bound. -/
def Sign.apply : Sign → Int → Int → Int
  | plus, n, m => n + m
  | minus, n, m => n - m

/-- Addresses are added and subtracted as integers are, modulo `2 ^ 64`. -/
theorem apply_ofInt (sign : Sign) (n : Int) (b : Address) :
    Expression.apply (some sign) (UInt64.ofInt n) b = UInt64.ofInt (sign.apply n b.toNat) := by
  cases sign with
  | plus => rw [Sign.apply, UInt64.ofInt_add, ofInt_toNat]; rfl
  | minus =>
    rw [Sign.apply, Int.sub_eq_add_neg, UInt64.ofInt_add, UInt64.ofInt_neg, ofInt_toNat,
      ← UInt64.sub_eq_add_neg]
    rfl

open Expression

/-- The value of a flat expression is that of its operands. -/
theorem evaluate_eq_sumOf (table : ModuleTable) (expression : String) :
    evaluate table expression =
      (sumOf table (table.tokenize expression)).mapError (reportIn expression) := by
  unfold evaluate
  cases table.tokenize expression with
  | nil => rfl
  | cons first others =>
    rw [sumOf, mapError_bind]
    simp only [operandValue_eq first, foldlM_operandValue]

theorem evaluate_eq_ok_iff {table : ModuleTable} {expression : String} {a : Address} :
    evaluate table expression = .ok a ↔ sumOf table (table.tokenize expression) = .ok a := by
  rw [evaluate_eq_sumOf, mapError_eq_ok_iff]

theorem evaluate_eq_error_iff {table : ModuleTable} {expression operand : String}
    {fault : OperandFault} :
    evaluate table expression = .error ⟨expression, operand, fault⟩ ↔
      sumOf table (table.tokenize expression) = .error (operand, fault) := by
  rw [evaluate_eq_sumOf, mapError_eq_error_iff]
  constructor
  · rintro ⟨⟨operand', fault'⟩, hsum, hreport⟩
    obtain ⟨-, rfl, rfl⟩ := OperandError.mk.inj hreport
    exact hsum
  · intro hsum
    exact ⟨(operand, fault), hsum, rfl⟩

/-! ### Opening brackets -/

/-- An opening bracket in front of a text adds no operand. -/
theorem tokenize_bracket_append (table : ModuleTable) (text : String) :
    table.tokenize ("[" ++ text) = table.tokenize text := by
  rw [ModuleTable.tokenize, ModuleTable.tokenize, tokenize, tokenize, String.toList_append]
  exact operands_cons_of_skipped _ _ isSkipped_opening

/-- An opening bracket in front of a text leaves its value. -/
theorem evaluate_bracket_append_eq_ok_iff {table : ModuleTable} {text : String} {a : Address} :
    evaluate table ("[" ++ text) = .ok a ↔ evaluate table text = .ok a := by
  rw [evaluate_eq_ok_iff, evaluate_eq_ok_iff, tokenize_bracket_append]

end PointerChain
