import PointerChain.Proofs.Expression.Atom
import PointerChain.Proofs.Expression.Number
import PointerChain.Proofs.Expression.TokenSum
import PointerChain.Proofs.Resolution.ReadOrder

/-!
# One group

An expression in brackets stands for the pointer at its value. The pointer goes back into the
expression as a number, and as any operand it is looked up among the modules first; so it is the
value of the expression unless it is, as a number, the name of a module.

* `evaluate_upperHexText_closing` is the value of what is left of a group.
* `resolveNested_group` resolves one group.
-/

namespace PointerChain

variable {target : Target} {flat : String} {a v : Address}

/-! ### A pointer in an expression -/

/-- What is left of a group has the value of its pointer. -/
theorem evaluate_upperHexText_closing (table : ModuleTable) (v : Address) :
    evaluate table (Text.upperHexText v.toNat ++ "]") =
      .ok (((table.find? (Text.upperHexText v.toNat)).map Module.base).getD v) := by
  have htokens : table.tokenize (Text.upperHexText v.toNat ++ "]") =
      [⟨none, Text.upperHexText v.toNat⟩] :=
    (Expression.spellsOperand_upperHexText v.toNat none).operands_eq
  rw [evaluate_eq_sumOf, htokens, Expression.sumOf, Expression.tokenValue,
    Expression.valueOf_upperHexText_eq]
  rfl

/-! ### Whole expressions -/

/-- A group with an operand is read once, at its value. It stands for the pointer, unless a module
has the pointer, as a number, for its name; then it stands for the first such module. If the process
cannot be shown, it stands for nothing. -/
theorem resolveNested_group (hplain : ∀ c ∈ flat.toList, c ≠ '[' ∧ c ≠ ']')
    (hoperands : hasOperands flat = true) (hvalue : evaluate target.modules flat = .ok a)
    (hread : target.reader.readPointer target.process (a.toNat : Int) = .ok v) :
    (resolveNested target ("[" ++ flat ++ "]")).reads = [(a, pointerSize)] ∧
      (target.process.isUnwritable = false →
        ((∀ m ∈ target.modules.modules, m.name.lower ≠ Text.hexText v.toNat) →
          (resolveNested target ("[" ++ flat ++ "]")).result = .ok v) ∧
        ∀ m, (target.modules.modules.find? fun m =>
            m.name.lower = Text.Raw.ofString (Text.hexText v.toNat)) = some m →
          (resolveNested target ("[" ++ flat ++ "]")).result = .ok m.base) ∧
      (target.process.isUnwritable = true →
        (resolveNested target ("[" ++ flat ++ "]")).result = .error .unwritable) := by
  cases hprocess : target.process.isUnwritable with
  | true =>
    have hpointer : target.pointer a = .error .unwritable :=
      Target.pointer_eq_error_iff.mpr (.inr ⟨⟨v, hread⟩, hprocess, rfl⟩)
    rw [resolveNested_ofGroup_of_error hplain hoperands hvalue hpointer]
    exact ⟨rfl, nofun, fun _ => rfl⟩
  | false =>
    -- Two texts are evaluated, that of the group and what is left of it; only the first is read at.
    have hpointer : target.pointer a = .ok v := Target.pointer_eq_ok_iff.mpr ⟨hread, hprocess⟩
    have hresolve := resolveNested_ofGroup hplain hoperands hvalue hpointer
    rw [Trace.bind_of_ok rfl,
      Target.evaluate_of_ok (evaluate_upperHexText_closing target.modules v)] at hresolve
    have hfind : target.modules.find? (Text.upperHexText v.toNat) =
        target.modules.modules.find? fun m =>
          m.name.lower = Text.Raw.ofString (Text.hexText v.toNat) := by
      rw [ModuleTable.find?_eq, Text.Raw.lower_ofString, Text.lower_upperHexText]
    refine ⟨by rw [hresolve]; rfl, fun _ => ⟨fun hnone => ?_, fun m hm => ?_⟩, nofun⟩
    · rw [hresolve, ModuleTable.find?_ofString_eq_none_iff.mpr (by rwa [Text.lower_upperHexText])]
      rfl
    · rw [hresolve, hfind, hm]
      rfl

/-- A group around a sum is read at the sum. -/
theorem resolveNested_group_sample :
    (resolveNested sampleTarget ("[" ++ "lib.so+0x10" ++ "]")).reads = [(0x1010, pointerSize)] ∧
      (resolveNested sampleTarget ("[" ++ "lib.so+0x10" ++ "]")).result = .ok 0x2000 := by
  have hgroup := @resolveNested_group sampleTarget "lib.so+0x10" 0x1010 0x2000 (by simp)
    (by decide +kernel) (by decide +kernel) (by decide +kernel)
  exact ⟨hgroup.1, (hgroup.2.1 (by decide)).1 (by decide +kernel)⟩

/-- The process of a module that is named by a number, with this number in its memory. -/
def numberedTarget : Target where
  process := (1 : Int)
  modules := ModuleTable.ofList [⟨"0x2000", 5⟩]
  reader := (BufferMemory.ofPointers (1 : Int) [(0x1000, 0x2000)]).reader

/-- The pointer `0x2000` is read, and the module of this name is what the group stands for. -/
theorem resolveNested_group_numbered :
    hasOperands "1000" = true ∧ evaluate numberedTarget.modules "1000" = .ok 0x1000 ∧
      numberedTarget.reader.readPointer numberedTarget.process (0x1000 : Int) = .ok 0x2000 ∧
      (resolveNested numberedTarget "[1000]").result = .ok 5 := by
  exact ⟨by decide +kernel, by decide +kernel, by decide +kernel, by decide +kernel⟩

end PointerChain
