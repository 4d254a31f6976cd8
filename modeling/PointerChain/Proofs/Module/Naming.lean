import PointerChain.Proofs.Expression.Number
import PointerChain.Proofs.Expression.Shape
import PointerChain.Proofs.Expression.TokenSum

/-!
# Modules by name

An expression names a module if the name has the shape of an operand; the hyphens in it need not be
set apart, as the name is known. What is added to it is a number, unless that is a name as well.

* `tokenize_name_add` are the operands of a name and a number.
* `evaluate_name_add` is their value.
-/

namespace PointerChain

variable {table : ModuleTable} {r : Module} {a : Atom}

/-- A module is found under its name if no module in front of it has the name in lower case. -/
theorem ModuleTable.find?_name {before after : List Module}
    (hmodules : table.modules = before ++ r :: after)
    (hfirst : ∀ m ∈ before, m.name.lower ≠ r.name.lower) :
    table.find? r.name = some r :=
  find?_eq_some_iff.mpr ⟨rfl, before, after, hmodules, hfirst⟩

/-- A known name and a number behind it are two operands. -/
theorem tokenize_name_add (hknown : table.hasName a.text = true) (n : Nat) :
    table.tokenize (a.text ++ "+" ++ Text.hexText n) =
      [⟨none, a.text⟩, ⟨some .plus, Text.hexText n⟩] := by
  let number := Atom.numeral (Text.hexDigits n) fun _ => Text.isHexDigit_of_mem_hexDigits
  have hnumber : number.text = Text.hexText n :=
    (Atom.text_numeral _).trans (Text.hexText_eq_ofList n).symm
  have hchars : (a.text ++ "+" ++ Text.hexText n).toList =
      [] ++ (a.chars ++ ([Sign.plus.char] ++ (number.chars ++ []))) := by
    rw [← hnumber]
    simp [Sign.char]
  -- The plus sign ends the name and introduces the number, behind which there is nothing.
  have hends : Expression.EndsRun ([Sign.plus.char] ++ (number.chars ++ [])) :=
    Expression.endsRun_plus _
  have hbehind : Expression.operands table.hasName ([Sign.plus.char] ++ (number.chars ++ [])) =
      [⟨some .plus, Text.hexText n⟩] := by
    rw [Expression.operands_append_atom_append (Expression.introduces_sign .plus)
        (fun h => absurd h (Atom.hyphen_not_mem_numeral _)) Expression.stops_nil.endsRun,
      Expression.operands_eq_nil_iff.mpr rfl, hnumber]
  rw [ModuleTable.tokenize, tokenize, hchars,
    Expression.operands_append_atom_append Expression.introduces_nil (fun _ => hknown) hends,
    hbehind]

/-- The value of a name and a number behind it. The number may be a name itself. -/
theorem evaluate_name_add_eq (hfind : table.find? a.text = some r) {n : Nat} (hn : n < 2 ^ 64) :
    evaluate table (a.text ++ "+" ++ Text.hexText n) =
      .ok (r.base + ((table.find? (Text.hexText n)).map Module.base).getD (UInt64.ofNat n)) := by
  have hknown : table.hasName a.text = true := by rw [ModuleTable.hasName_eq, hfind]; rfl
  have hname : Expression.valueOf table a.text = .ok r.base := by rw [Expression.valueOf, hfind]
  have hnumber := Expression.valueOf_of_numberValue table (Expression.numberValue_hexText hn)
  rw [evaluate_eq_sumOf, tokenize_name_add hknown, Expression.sumOf, Expression.tokenValue, hname]
  simp only [Expression.addTokens, Expression.tokenValue, List.foldlM_cons, List.foldlM_nil,
    hnumber]
  rfl

/-- A module whose name has the shape of an operand is named by it, if it is the first of its name:
what is added to the name is added to the base.

* A number is added as it is, modulo `2 ^ 64`, unless it is the name of a module.
* If it is, the base of the first such module is added.
* A name of any other shape names nothing, as no operand of an expression has another shape. -/
theorem evaluate_name_add {before after : List Module} {n : Nat}
    (hmodules : table.modules = before ++ r :: after)
    (hfirst : ∀ m ∈ before, m.name.lower ≠ r.name.lower) (hname : r.name = a.text)
    (hn : n < 2 ^ 64) :
    ((∀ m ∈ table.modules, m.name.lower ≠ Text.hexText n) →
      (evaluate table (a.text ++ "+" ++ Text.hexText n)).map UInt64.toNat =
        .ok ((r.base.toNat + n) % 2 ^ 64)) ∧
    (∀ m,
      (table.modules.find? fun m => m.name.lower = Text.Raw.ofString (Text.hexText n)) = some m →
      (evaluate table (a.text ++ "+" ++ Text.hexText n)).map UInt64.toNat =
        .ok ((r.base.toNat + m.base.toNat) % 2 ^ 64)) ∧
    ∀ expression, ∀ token ∈ table.tokenize expression, ∃ b : Atom, b.text = token.text := by
  have hvalue := evaluate_name_add_eq (hname ▸ ModuleTable.find?_name hmodules hfirst) hn
  have hfind : table.find? (Text.hexText n) =
      table.modules.find? fun m => m.name.lower = Text.Raw.ofString (Text.hexText n) := by
    rw [ModuleTable.find?_eq, Text.Raw.lower_ofString, Text.lower_hexText]
  rw [hvalue]
  refine ⟨?_, ?_, ?_⟩
  · intro hnone
    have hunnamed : table.find? (Text.hexText n) = none := by
      rw [ModuleTable.find?_ofString_eq_none_iff, Text.lower_hexText]
      exact hnone
    have hexact : (UInt64.ofNat n).toNat = n := UInt64.toNat_ofNat_of_lt' hn
    rw [hunnamed, Option.map_none, Option.getD_none, Except.map, UInt64.toNat_add, hexact]
  · intro m hm
    rw [hfind, hm, Option.map_some, Option.getD_some, Except.map, UInt64.toNat_add]
  · intro expression token htoken
    exact Expression.exists_atom_of_mem_operands htoken

/-- A name with a hyphen and with dots. -/
def gameAtom : Atom where
  first := 'g'
  name := "ame-1".toList
  segments := ["2".toList, "so".toList]
  isWord_first := by decide
  isNameChar_of_mem := List.all_eq_true.mp (by decide)
  isWord_of_mem := by
    have hsegments : ∀ segment ∈ ["2".toList, "so".toList],
        segment ≠ [] ∧ segment.all Text.isWord = true := by decide
    exact fun segment h => (hsegments segment h).imp_right List.all_eq_true.mp

/-- The second module of the table is the first of its name, and sums wrap around. -/
theorem evaluate_name_add_sample :
    (evaluate (.ofList [⟨"lib.so", 0x1000⟩, ⟨"game-1.2.so", 0x2000⟩])
      ("game-1.2.so" ++ "+" ++ Text.hexText 0xffffffffffffffff)).map UInt64.toNat =
        .ok 0x1fff := by
  let table : ModuleTable := .ofList [⟨"lib.so", 0x1000⟩, ⟨"game-1.2.so", 0x2000⟩]
  have hsum := @evaluate_name_add table ⟨"game-1.2.so", 0x2000⟩ gameAtom [⟨"lib.so", 0x1000⟩] []
    0xffffffffffffffff rfl (by decide +kernel) (by rfl) (by decide)
  exact hsum.1 (by decide +kernel)

/-- A table with a module that is named by a number. -/
def numberTable : ModuleTable := .ofList [⟨"game-1.2.so", 0x1000⟩, ⟨"0x10", 5⟩]

/-- A name with plus signs is read as operands that are no names, and a number that is the name of a
module is not added as a number. -/
theorem evaluate_name_add_misread :
    evaluate (.ofList [⟨"libstdc++.so.6", 0x1000⟩])
      ("libstdc++.so.6" ++ "+" ++ Text.hexText 0x10) =
        .error ⟨"libstdc++.so.6+0x10", "libstdc", .notANumber⟩ ∧
      evaluate numberTable ("game-1.2.so" ++ "+" ++ Text.hexText 0x10) = .ok 0x1005 := by
  have hname : numberTable.find? gameAtom.text = some ⟨"game-1.2.so", 0x1000⟩ := by
    decide +kernel
  have hnumber : numberTable.find? (Text.hexText 0x10) = some ⟨"0x10", 5⟩ := by decide +kernel
  have hsum : evaluate numberTable (gameAtom.text ++ "+" ++ Text.hexText 0x10) = _ :=
    evaluate_name_add_eq hname (by decide)
  rw [hnumber] at hsum
  exact ⟨by decide +kernel, hsum⟩

end PointerChain
