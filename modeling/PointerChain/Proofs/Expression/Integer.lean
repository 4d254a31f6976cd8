import PointerChain.Proofs.Expression.Number
import PointerChain.Proofs.Expression.TokenSum

/-!
# Values as integers

What a flat expression stands for, counted in integers: the first operand is taken as it is, and the
sum is reduced modulo `2 ^ 64` with each further one. The integer is always an address, because
bases of modules are addresses and larger numbers are refused.

* `ModuleTable.integer?` is the integer that an expression stands for.
* `ModuleTable.integer?_eq` says that evaluation gives this integer, with nothing cut off.
-/

namespace PointerChain

namespace Expression

/-- The value of an operand as an integer. A number has to fit into 64 bits; the base of a module is
taken as it is. -/
def integerOf? (table : ModuleTable) (text : String) : Option Int :=
  match table.find? text with
  | some m => some m.base.toNat
  | none =>
    match Text.readHex? (dropMarkers text.toList) with
    | some n => if n < 2 ^ 64 then some n else none
    | none => none

/-- Adds operands to an integer, which is reduced modulo `2 ^ 64` with each of them. -/
def addIntegers? (table : ModuleTable) (n : Int) (tokens : List Token) : Option Int :=
  tokens.foldlM (fun n token => do
    let m ← integerOf? table token.text
    return (token.sign.getD .plus).apply n m % 2 ^ 64) n

end Expression

/-- The integer that a flat expression stands for. The first operand is not reduced. -/
def ModuleTable.integer? (table : ModuleTable) (expression : String) : Option Int :=
  match table.tokenize expression with
  | [] => some 0
  | first :: others => do
    let seed ← Expression.integerOf? table first.text
    Expression.addIntegers? table seed others

namespace Expression

/-! ### Operands -/

theorem integerOf?_eq (table : ModuleTable) (text : String) :
    integerOf? table text = (valueOf table text).toOption.map fun a => (a.toNat : Int) := by
  rw [integerOf?, valueOf]
  cases table.find? text with
  | some m => rfl
  | none =>
    cases hread : Text.readHex? (dropMarkers text.toList) with
    | none =>
      simp only
      rw [numberValue, hread]
      rfl
    | some n =>
      by_cases hlt : n < 2 ^ 64
      · -- The number is small enough, so it is not cut off.
        have hexact : (UInt64.ofNat n).toNat = n := UInt64.toNat_ofNat_of_lt' hlt
        simp only [if_pos hlt, numberValue_of_lt hread hlt, Except.toOption, Option.map_some,
          hexact]
      · simp only [if_neg hlt, numberValue_of_not_lt hread hlt, Except.toOption, Option.map_none]

/-! ### Sums -/

theorem toNat_apply (sign : Option Sign) (a b : Address) :
    ((apply sign a b).toNat : Int) =
      (sign.getD .plus).apply a.toNat b.toNat % 2 ^ 64 := by
  have hsigned : ∀ sign : Sign, ((apply (some sign) a b).toNat : Int) =
      sign.apply a.toNat b.toNat % 2 ^ 64 := by
    intro sign
    rw [← toNat_ofInt, ← apply_ofInt, ofInt_toNat]
  cases sign with
  | some sign => exact hsigned sign
  | none => exact hsigned .plus

theorem addIntegers?_eq (table : ModuleTable) (a : Address) (tokens : List Token) :
    addIntegers? table a.toNat tokens =
      (addTokens table a tokens).toOption.map fun a => (a.toNat : Int) := by
  -- By induction on the operands, from any address on: what a step leaves is an address again.
  induction tokens generalizing a with
  | nil => rfl
  | cons token tokens ih =>
    rw [addIntegers?, addTokens, List.foldlM_cons, List.foldlM_cons, toOption_bind, toOption_bind,
      toOption_tokenValue, integerOf?_eq]
    cases (valueOf table token.text).toOption with
    | none => rfl
    | some b =>
      have hstep := ih (apply token.sign a b)
      rw [toNat_apply] at hstep
      exact hstep

end Expression

/-! ### Whole expressions -/

namespace ModuleTable

variable {table : ModuleTable} {expression : String}

theorem integer?_eq (table : ModuleTable) (expression : String) :
    table.integer? expression =
      (evaluate table expression).toOption.map fun a => (a.toNat : Int) := by
  rw [evaluate_eq_sumOf, toOption_mapError, integer?]
  cases table.tokenize expression with
  | nil => rfl
  | cons first others =>
    -- The first operand is not reduced, and need not be: as an operand it is an address already.
    simp only [Expression.sumOf, toOption_bind, toOption_tokenValue, Expression.integerOf?_eq]
    cases (Expression.valueOf table first.text).toOption with
    | none => rfl
    | some seed => exact Expression.addIntegers?_eq table seed others

/-- An expression stands for an integer of 64 bits, also if it has one operand only. -/
theorem integer?_bounds {n : Int} (h : table.integer? expression = some n) :
    0 ≤ n ∧ n < 2 ^ 64 := by
  rw [integer?_eq] at h
  obtain ⟨a, -, rfl⟩ := Option.map_eq_some_iff.mp h
  have hlt : a.toNat < 2 ^ 64 := a.toNat_lt
  omega

/-- An expression is evaluated to the integer that it stands for. -/
theorem integer?_of_evaluate {a : Address} (h : evaluate table expression = .ok a) :
    table.integer? expression = some (a.toNat : Int) := by
  rw [integer?_eq, h]
  rfl

end ModuleTable

end PointerChain
