import PointerChain.Proofs.Expression.Atom
import PointerChain.Proofs.Expression.Number
import PointerChain.Proofs.Expression.TokenSum
import PointerChain.Proofs.Text.Spelling

/-!
# Which operands are numbers

An operand that names no module has to be a number: behind all leading markers there are digits of
base sixteen and nothing else. Any other text is refused, and so is a number of more than 64 bits.
The numbers that are put into expressions and that are printed are read as what they were.

* `Unmarked` is what is left of an operand without its markers, `IsNumber` the number that it is.
* `operandValue_number` says which operands have a value, and why the others have none.
-/

namespace PointerChain

namespace Expression

/-! ### Markers -/

/-- What is left of a text when all markers `0x` at its start are removed. -/
def Unmarked (cs rest : List Char) : Prop :=
  (∃ k, cs = (List.replicate k ['0', 'x']).flatten ++ rest) ∧ ¬['0', 'x'] <+: rest

variable {cs rest : List Char} {text : String} {n : Nat}

theorem dropMarkers_of_not_prefix (h : ¬['0', 'x'] <+: cs) : dropMarkers cs = cs := by
  unfold dropMarkers
  split
  next rest => exact absurd ⟨rest, rfl⟩ h
  next => rfl

/-- Exactly the leading markers are dropped. -/
theorem unmarked_iff : Unmarked cs rest ↔ dropMarkers cs = rest := by
  constructor
  · -- Markers are dropped one by one, and the rest does not start with one more.
    rintro ⟨⟨k, rfl⟩, hrest⟩
    induction k with
    | zero => exact dropMarkers_of_not_prefix hrest
    | succ k ih =>
      rw [List.replicate_succ, List.flatten_cons]
      exact ih
  · rintro rfl
    fun_induction dropMarkers cs with
    | case1 cs ih =>
      obtain ⟨⟨k, hk⟩, hrest⟩ := ih
      refine ⟨⟨k + 1, ?_⟩, hrest⟩
      rw [List.replicate_succ, List.flatten_cons, List.append_assoc, ← hk]
      rfl
    | case2 cs hmarker =>
      refine ⟨⟨0, rfl⟩, ?_⟩
      rintro ⟨rest, rfl⟩
      exact hmarker rest rfl

/-! ### Numbers -/

/-- A text is a number: behind its markers stands a numeral in base sixteen. -/
def IsNumber (text : String) (n : Nat) : Prop :=
  ∃ digits, Unmarked text.toList digits ∧ Text.IsNumeral Text.hexRow digits n

theorem isNumber_iff : IsNumber text n ↔ Text.readHex? (dropMarkers text.toList) = some n := by
  rw [Text.readHex?_eq_some_iff]
  constructor
  · rintro ⟨digits, hdigits, h⟩
    rwa [unmarked_iff.mp hdigits]
  · intro h
    exact ⟨_, unmarked_iff.mpr rfl, h⟩

/-- A number is too large, or no number is there at all: these are the texts without a value. -/
theorem numberValue_eq_error_iff {fault : OperandFault} :
    numberValue text = .error fault ↔
      (fault = .tooLarge ∧ ∃ n, 2 ^ 64 ≤ n ∧ IsNumber text n) ∨
        (fault = .notANumber ∧ ∀ n, ¬IsNumber text n) := by
  simp only [isNumber_iff]
  constructor
  · intro h
    rcases hread : Text.readHex? (dropMarkers text.toList) with _ | n
    · rw [numberValue, hread] at h
      refine .inr ⟨(Except.error.inj h).symm, fun n hn => ?_⟩
      cases hn
    · by_cases hlt : n < 2 ^ 64
      · rw [numberValue_of_lt hread hlt] at h
        cases h
      · rw [numberValue_of_not_lt hread hlt] at h
        exact .inl ⟨(Except.error.inj h).symm, n, Nat.le_of_not_lt hlt, rfl⟩
  · rintro (⟨rfl, n, hle, hread⟩ | ⟨rfl, hnone⟩)
    · exact numberValue_of_not_lt hread (Nat.not_lt_of_le hle)
    · rw [numberValue, Option.eq_none_iff_forall_ne_some.mpr hnone]

/-! ### Numbers that were written -/

/-- A numeral behind a marker is read as one operand. -/
theorem tokenize_numeral (table : ModuleTable) {digits : List Char}
    (h : ∀ c ∈ digits, ∃ d, Text.IsHexDigit c d) :
    table.tokenize (String.ofList ('0' :: 'x' :: digits)) =
      [⟨none, String.ofList ('0' :: 'x' :: digits)⟩] := by
  have hspells : SpellsOperand table.hasName (Atom.numeral digits h).chars _ :=
    spellsOperand_atom fun hhyphen => absurd hhyphen (Atom.hyphen_not_mem_numeral h)
  rw [← Atom.text_numeral h, ModuleTable.tokenize, tokenize, Atom.toList_text]
  exact (hspells none).operands_eq

/-- An expression that is one operand has the value of the operand. -/
theorem evaluate_of_tokenize {table : ModuleTable} {a : Address}
    (htokens : table.tokenize text = [⟨none, text⟩]) (hvalue : valueOf table text = .ok a) :
    evaluate table text = .ok a := by
  rw [evaluate_eq_sumOf, htokens, sumOf, tokenValue, hvalue]
  rfl

/-- A number that was written in either case is evaluated to itself, unless a module has the number
for its name. -/
theorem evaluate_written (table : ModuleTable) (v : Address)
    (h : text = Text.upperHexText v.toNat ∨ text = Text.hexText v.toNat)
    (hname : ∀ m ∈ table.modules, m.name.lower ≠ Text.lower text) :
    evaluate table text = .ok v := by
  have hnone : table.find? text = none := ModuleTable.find?_ofString_eq_none_iff.mpr hname
  have hvalue (hnumber : numberValue text = .ok v) : valueOf table text = .ok v := by
    rw [valueOf_of_numberValue table hnumber, hnone]
    rfl
  rcases h with rfl | rfl
  · refine evaluate_of_tokenize ?_ (hvalue (numberValue_upperHexText v))
    rw [Text.upperHexText_eq_ofList]
    exact tokenize_numeral table fun _ => Text.isHexDigit_of_mem_upperDigits
  · refine evaluate_of_tokenize ?_ (hvalue ?_)
    · rw [Text.hexText_eq_ofList]
      exact tokenize_numeral table fun _ => Text.isHexDigit_of_mem_hexDigits
    · rw [numberValue_hexText v.toNat_lt, UInt64.ofNat_toNat]

end Expression

open Expression (IsNumber)

/-- Operands that name no module of a table:

* An operand has a value exactly if it is a number of at most 64 bits, and then it has this value.
  Otherwise the operand is reported, as too large or as no number.
* An address is evaluated to itself, whether it is written in upper case, as pointers are when they
  are put into an expression, or in lower case, as results are when they are printed. -/
theorem operandValue_number (table : ModuleTable) :
    (∀ expression text, (∀ m ∈ table.modules, m.name.lower ≠ Text.lower text) →
      (∀ a, operandValue table expression text = .ok a ↔ IsNumber text a.toNat) ∧
        ∀ e, operandValue table expression text = .error e ↔
          ∃ fault, e = ⟨expression, text, fault⟩ ∧
            ((fault = .tooLarge ∧ ∃ n, 2 ^ 64 ≤ n ∧ IsNumber text n) ∨
              (fault = .notANumber ∧ ∀ n, ¬IsNumber text n))) ∧
      ∀ (v : Address) (text : String),
        text = Text.upperHexText v.toNat ∨ text = Text.hexText v.toNat →
        (∀ m ∈ table.modules, m.name.lower ≠ Text.lower text) →
          evaluate table text = .ok v := by
  refine ⟨fun expression text hname => ?_, fun v text h hname =>
    Expression.evaluate_written table v h hname⟩
  -- Where no module has the name, only the number is left to decide.
  have hvalue : Expression.valueOf table text = Expression.numberValue text := by
    rw [Expression.valueOf, ModuleTable.find?_ofString_eq_none_iff.mpr hname]
  refine ⟨fun a => ?_, fun e => ?_⟩
  · rw [operandValue, hvalue, mapError_eq_ok_iff, Expression.numberValue_eq_ok_iff,
      Expression.isNumber_iff]
  · rw [operandValue, hvalue, mapError_eq_error_iff]
    simp only [Expression.numberValue_eq_error_iff]
    refine exists_congr fun fault => ?_
    rw [and_comm, eq_comm]

/-- Where a module is called `ff`, a number with two markers, leading zeros and digits in both cases
is still a number, a marker alone is none, and the address 255 is evaluated to itself. -/
theorem operandValue_number_sample :
    let table := ModuleTable.ofList [⟨"ff", 0x1000⟩]
    (∀ m ∈ table.modules, m.name.lower ≠ Text.lower "0x0x00fF") ∧
      operandValue table "8+0x0x00fF" "0x0x00fF" = .ok 255 ∧
      (∀ m ∈ table.modules, m.name.lower ≠ Text.lower "0x") ∧
      operandValue table "0x-8" "0x" = .error ⟨"0x-8", "0x", .notANumber⟩ ∧
      (∀ m ∈ table.modules, m.name.lower ≠ Text.lower (Text.hexText 255)) ∧
      evaluate table (Text.hexText 255) = .ok 255 := by
  intro table
  have hlong : ∀ m ∈ table.modules, m.name.lower ≠ Text.lower "0x0x00fF" := by
    decide +kernel
  have hmarker : ∀ m ∈ table.modules, m.name.lower ≠ Text.lower "0x" := by decide +kernel
  have hwritten : ∀ m ∈ table.modules, m.name.lower ≠ Text.lower (Text.hexText 255) := by
    decide +kernel
  have hnumeral : Text.IsNumeral Text.hexRow ['0', '0', 'f', 'F'] 255 :=
    ⟨by decide, by simp [Text.hexRow], by simp [Text.hexRow, Nat.ofDigits]⟩
  have hnumber : IsNumber "0x0x00fF" 255 := ⟨_, ⟨⟨2, rfl⟩, by decide⟩, hnumeral⟩
  have hnone (n : Nat) : ¬IsNumber "0x" n := by
    rw [Expression.isNumber_iff]
    intro h
    cases h
  obtain ⟨hoperand, hevaluate⟩ := operandValue_number table
  exact ⟨hlong, ((hoperand _ _ hlong).1 255).mpr hnumber, hmarker,
    ((hoperand _ _ hmarker).2 _).mpr ⟨_, rfl, .inr ⟨rfl, hnone⟩⟩, hwritten,
    hevaluate 255 _ (.inr rfl) hwritten⟩

end PointerChain
