import PointerChain.Text.LetterCase

/-!
# Module tables

A module is a named stretch of a process, known by the address at which it starts. A table lists the
modules of one process in order. Names are matched by their lower-case forms, and of several modules
with one lower-case name the first in the table is meant.

* `ModuleTable.ofList` builds a table and, in passing, the index that look-ups go through.
* `ModuleTable.find?` looks a name up, `ModuleTable.hasName` says whether there is such a name.
* `ofList_modules` says that a table is determined by its modules.
-/

namespace PointerChain

/-- An address of a process. Sums and differences wrap around. -/
abbrev Address := UInt64

/-- A module of a process. -/
@[ext]
structure Module where
  /-- The name of the module. -/
  name : Text.Raw
  /-- The address at which the module starts. -/
  base : Address
  deriving DecidableEq, Repr

/-- Modules by lower-case name, each name at most once. -/
abbrev ModuleIndex := List (Text.Raw × Module)

namespace ModuleIndex

/-- The module under a lower-case name. -/
def get? (index : ModuleIndex) (key : Text.Raw) : Option Module :=
  (index.find? (·.1 = key)).map (·.2)

/-- Enters a module under its lower-case name, unless the name is taken. -/
def enter (index : ModuleIndex) (m : Module) : ModuleIndex :=
  let key := m.name.lower
  if index.any (·.1 = key) then index else index ++ [(key, m)]

/-- The index of a list of modules. -/
def ofList (modules : List Module) : ModuleIndex :=
  modules.foldl enter []

end ModuleIndex

/-- The modules of a process in order, with the index of their names. -/
structure ModuleTable where
  /-- The modules in order. -/
  modules : List Module
  /-- The modules by lower-case name. -/
  index : ModuleIndex := ModuleIndex.ofList modules
  /-- The index is that of the modules. -/
  index_eq : index = ModuleIndex.ofList modules := by rfl
  deriving DecidableEq, Repr

namespace ModuleTable

/-- The table of a list of modules. -/
def ofList (modules : List Module) : ModuleTable := { modules }

/-- The table without modules. -/
def empty : ModuleTable := ofList []

instance : EmptyCollection ModuleTable := ⟨empty⟩

/-- The first module with a name, without regard to case. -/
def find? (table : ModuleTable) (name : Text.Raw) : Option Module :=
  table.index.get? name.lower

/-- Whether a text is the name of a module, without regard to case. No text is looked up that is
longer than all names are in lower case. -/
def hasName (table : ModuleTable) (name : String) : Bool :=
  table.index.any (fun entry => name.length ≤ entry.1.length) && (table.find? name).isSome

/-- A text is the name of a module if and only if a look-up finds a module. -/
theorem hasName_eq (table : ModuleTable) (name : String) :
    table.hasName name = (table.find? name).isSome := by
  unfold hasName
  cases h : table.find? name with
  | none => simp
  | some m =>
    -- The entry that is found bears a name that is long enough.
    obtain ⟨entry, hentry, -⟩ := Option.map_eq_some_iff.mp h
    have hkey : entry.1 = Text.lower name := by simpa using List.find?_some hentry
    have hmem := List.mem_of_find?_eq_some hentry
    have hlen : name.length ≤ entry.1.length := by
      rw [hkey, Text.Raw.length_ofString]
      exact Text.length_le_lower name
    simpa using ⟨entry.1, ⟨entry.2, hmem⟩, hlen⟩

/-- A table is determined by its modules. -/
@[ext]
theorem ext {s t : ModuleTable} (h : s.modules = t.modules) : s = t := by
  rcases s with ⟨_, _, hs⟩
  rcases t with ⟨_, _, ht⟩
  obtain rfl : _ = _ := h
  subst hs ht
  rfl

@[simp]
theorem modules_ofList (modules : List Module) : (ofList modules).modules = modules := rfl

/-- Building a table again from its modules changes nothing. -/
@[simp]
theorem ofList_modules (table : ModuleTable) : ofList table.modules = table := ext rfl

/-- What shows a table: the names of its modules. -/
def shown (table : ModuleTable) : Text.Raw :=
  "<ModuleTable [" ++ ⟨List.intercalate (Text.marksOf [',', ' '])
    (table.modules.map (·.name.marks))⟩ ++ "]>"

end ModuleTable

end PointerChain
