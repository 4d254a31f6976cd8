import PointerChain.Module.Table

/-!
# Look-ups in module tables

A look-up goes through the index, and still gives the first module in the table with the name.

* `ModuleIndex.get?_ofList` reads the index as a search through the modules.
* `ModuleTable.find?_eq` is the look-up by name.
* `Module.IsFirst` is the module that is meant by a name, and `ModuleTable.find?_eq_some_iff` says
  that a look-up finds it.
-/

namespace PointerChain

namespace ModuleIndex

/-- A module that is entered is found under its name, unless the name was taken. -/
theorem get?_enter (index : ModuleIndex) (m : Module) (key : Text.Raw) :
    (index.enter m).get? key =
      (index.get? key).or (if m.name.lower = key then some m else none) := by
  by_cases htaken : index.any (·.1 = m.name.lower) = true
  · rw [enter, if_pos htaken]
    split
    next hkey =>
      -- The name is taken, so it is found already.
      have hsome : (index.get? key).isSome = true := by
        rw [get?, Option.isSome_map, List.find?_isSome]
        simpa [hkey] using htaken
      rw [Option.or_of_isSome hsome]
    next => rw [Option.or_none]
  · rw [enter, if_neg htaken, get?, get?, List.find?_append, Option.map_or]
    by_cases hkey : m.name.lower = key <;> simp [hkey]

/-- Modules that are entered one after the other are found in this order. -/
theorem get?_foldl_enter (index : ModuleIndex) (modules : List Module) (key : Text.Raw) :
    get? (modules.foldl enter index) key =
      (index.get? key).or (modules.find? fun m => m.name.lower = key) := by
  induction modules generalizing index with
  | nil => simp
  | cons m modules ih =>
    rw [List.foldl_cons, ih, get?_enter, Option.or_assoc, List.find?_cons]
    by_cases hkey : m.name.lower = key <;> simp [hkey]

/-- The index gives the first module with a lower-case name. -/
theorem get?_ofList (modules : List Module) (key : Text.Raw) :
    (ofList modules).get? key = modules.find? fun m => m.name.lower = key := by
  rw [ofList, get?_foldl_enter]
  rfl

end ModuleIndex

/-- A module is the first in a list with a name, without regard to case. -/
def Module.IsFirst (m : Module) (name : Text.Raw) (modules : List Module) : Prop :=
  m.name.lower = name.lower ∧
    ∃ before after, modules = before ++ m :: after ∧
      ∀ n ∈ before, n.name.lower ≠ name.lower

namespace ModuleTable

/-- A look-up gives the first module in the table with the name, without regard to case. -/
theorem find?_eq (table : ModuleTable) (name : Text.Raw) :
    table.find? name = table.modules.find? fun m => m.name.lower = name.lower := by
  rw [find?, table.index_eq, ModuleIndex.get?_ofList]

/-- A look-up finds the first module with the name and no other. -/
theorem find?_eq_some_iff {table : ModuleTable} {name : Text.Raw} {m : Module} :
    table.find? name = some m ↔ m.IsFirst name table.modules := by
  simp [find?_eq, List.find?_eq_some_iff_append, Module.IsFirst]

/-- A look-up fails if no module has the name. -/
theorem find?_eq_none_iff {table : ModuleTable} {name : Text.Raw} :
    table.find? name = none ↔ ∀ m ∈ table.modules, m.name.lower ≠ name.lower := by
  simp [find?_eq]

/-- A look-up of a text fails if no module has it for its name. -/
theorem find?_ofString_eq_none_iff {table : ModuleTable} {name : String} :
    table.find? name = none ↔ ∀ m ∈ table.modules, m.name.lower ≠ Text.lower name := by
  rw [find?_eq_none_iff, Text.Raw.lower_ofString]

end ModuleTable

end PointerChain
