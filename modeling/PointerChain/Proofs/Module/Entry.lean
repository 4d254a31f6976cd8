import PointerChain.Proofs.Module.Base

/-!
# Tables from entries

A table depends on the names and the bases that its entries give, and not on the forms in which they
give them. The entries are read in order, and the first one whose base is none fails the table as a
whole.

* `Entry.Gives` relates an entry to the name and to the value for the base that it gives.
* `ModuleTable.ofEntries_eq_ok_iff` and `ModuleTable.ofEntries_eq_error_iff` take the building of a
  table apart.
* `ModuleTable.ofEntries_gives` says what becomes of entries that give names and bases, and
  `ModuleTable.ofEntries_map_record` that the records of a table make the same table again.
-/

namespace PointerChain

/-- A module as a finished record. -/
def Module.record (m : Module) : Entry := .record (.string m.name) (.integer m.base.toNat)

namespace Entry

/-- An entry that gives a name and a value for the base: as a record, as a list or a row of the two,
or as an object with the two fields, which may have others. -/
inductive Gives : Entry → Text.Raw → Json → Prop
  | record (name : Text.Raw) (base : Json) : Gives (.record (.string name) base) name base
  | list (name : Text.Raw) (base : Json) : Gives (.value (.array [.string name, base])) name base
  | row (name : Text.Raw) (base : Json) : Gives (.row [.string name, base]) name base
  | object {fields : List (Text.Raw × Json)} {name : Text.Raw} {base : Json}
      (hname : Json.field? nameField fields = some (.string name))
      (hbase : Json.field? baseField fields = some base) : Gives (.value (.object fields)) name base

/-- Entries that give names and values for the bases, in order. -/
abbrev AllGive (entries : List Entry) (pairs : List (Text.Raw × Json)) : Prop :=
  List.Forall₂ (fun entry pair => entry.Gives pair.1 pair.2) entries pairs

/-- An entry that is read as a module. -/
def Reads (entry : Entry) (m : Module) : Prop :=
  ∃ named, entry.read = .ok named ∧ ModuleTable.ofNamed named = .ok m

variable {entry : Entry} {name : Text.Raw} {base : Json} {error : TableError} {m : Module}

theorem named_readPair (name : Text.Raw) (base : Json) :
    read.named (readPair (.string name) base) =
      ((readBase base).mapError .entry).map fun a => (.string name, a) := by
  rw [readPair]
  cases readBase base <;> rfl

/-- In whatever form an entry gives them, the name is taken as it is and the base is read. -/
theorem Gives.read_eq (h : entry.Gives name base) :
    entry.read = ((readBase base).mapError .entry).map fun a => (.string name, a) := by
  cases h with
  | record =>
    rw [read]
    cases readBase base <;> rfl
  | list => exact named_readPair name base
  | row => exact named_readPair name base
  | object hname hbase => simp only [read, hname, hbase, named_readPair]

theorem Gives.read_eq_error_iff (h : entry.Gives name base) :
    entry.read = .error error ↔ ∃ fault, readBase base = .error fault ∧ error = .entry fault := by
  rw [h.read_eq]
  cases readBase base <;> simp [Except.map, Except.mapError, eq_comm]

theorem Gives.exists_read_eq_ok_iff (h : entry.Gives name base) :
    (∃ named, entry.read = .ok named) ↔ ∃ a, readBase base = .ok a := by
  rw [h.read_eq]
  cases readBase base <;> simp [Except.map, Except.mapError]

theorem Gives.reads_iff (h : entry.Gives name base) :
    entry.Reads m ↔ m.name = name ∧ readBase base = .ok m.base := by
  rw [Reads, h.read_eq]
  cases readBase base with
  | ok a =>
    obtain ⟨mname, mbase⟩ := m
    simp [Except.map, Except.mapError, ModuleTable.ofNamed, eq_comm]
  | error fault => simp [Except.map, Except.mapError]

end Entry

namespace ModuleTable

variable {entries : List Entry} {table : ModuleTable} {error : TableError}

/-- A table holds the modules that its entries are read as, in order. -/
theorem ofEntries_eq_ok_iff :
    ofEntries entries = .ok table ↔ List.Forall₂ Entry.Reads entries table.modules := by
  constructor
  · intro h
    obtain ⟨named, hnamed, h⟩ := exists_of_bind_eq_ok h
    obtain ⟨modules, hmodules, h⟩ := exists_of_bind_eq_ok h
    obtain rfl := Except.ok.inj h
    exact forall₂_comp.mp ⟨named, mapM_eq_ok_iff.mp hnamed, mapM_eq_ok_iff.mp hmodules⟩
  · intro h
    obtain ⟨named, hread, hmodules⟩ := forall₂_comp.mpr h
    rw [ofEntries, mapM_eq_ok_iff.mpr hread]
    change (do return ofList (← named.mapM ofNamed)) = _
    rw [mapM_eq_ok_iff.mpr hmodules]
    exact congrArg Except.ok table.ofList_modules

/-- If all that is read of entries are modules, a table fails only as its first entry does that
cannot be read. -/
theorem ofEntries_eq_error_iff
    (h : ∀ entry ∈ entries, ∀ named, entry.read = .ok named → ∃ m, ofNamed named = .ok m) :
    ofEntries entries = .error error ↔ entries.mapM Entry.read = .error error := by
  cases hread : entries.mapM Entry.read with
  | error found =>
    have herror : ofEntries entries = .error found := by rw [ofEntries, hread]; rfl
    rw [herror, Except.error.injEq, Except.error.injEq]
  | ok named =>
    -- Every entry is read as a module, so there is a table and no error on either side.
    have hreads : ∃ modules, List.Forall₂ Entry.Reads entries modules := by
      have hforall := mapM_eq_ok_iff.mp hread
      clear hread
      induction hforall with
      | nil => exact ⟨[], .nil⟩
      | cons hx _ ih =>
        obtain ⟨hfirst, hothers⟩ := List.forall_mem_cons.mp h
        obtain ⟨m, hm⟩ := hfirst _ hx
        obtain ⟨modules, hmodules⟩ := ih hothers
        exact ⟨m :: modules, .cons ⟨_, hx, hm⟩ hmodules⟩
    obtain ⟨modules, hmodules⟩ := hreads
    have htable : ofEntries entries = .ok (ofList modules) := ofEntries_eq_ok_iff.mpr hmodules
    simp only [htable, reduceCtorEq]

/-- The records of a table make the same table again. -/
theorem ofEntries_map_record (table : ModuleTable) :
    ofEntries (table.modules.map Module.record) = .ok table := by
  rw [ofEntries_eq_ok_iff, List.forall₂_map_left_iff, List.forall₂_same]
  intro m _
  exact (Entry.Gives.record m.name _).reads_iff.mpr ⟨rfl, baseOfInt_toNat m.base⟩

/-! ### Names and bases in any form -/

variable {pairs : List (Text.Raw × Json)}

theorem forall₂_reads_iff (h : Entry.AllGive entries pairs) {modules : List Module} :
    List.Forall₂ Entry.Reads entries modules ↔
      List.Forall₂ (fun pair m => m.name = pair.1 ∧
        spelledInteger? pair.2 = some (m.base.toNat : Int)) pairs modules := by
  induction h generalizing modules with
  | nil => rw [List.forall₂_nil_left_iff, List.forall₂_nil_left_iff]
  | cons hgives _ ih =>
    simp only [List.forall₂_cons_left_iff, hgives.reads_iff, readBase_eq_ok_iff, ih]

theorem mapM_read_eq_error_iff (h : Entry.AllGive entries pairs) :
    entries.mapM Entry.read = .error error ↔
      ∃ fault, pairs.mapM (fun pair => readBase pair.2) = .error fault ∧ error = .entry fault := by
  induction h with
  | nil => simp [pure, Except.pure]
  | cons hgives _ ih =>
    simp only [mapM_cons_eq_error_iff, ih, hgives.read_eq_error_iff, hgives.exists_read_eq_ok_iff,
      or_and_right, exists_or, and_assoc, exists_and_left]

theorem exists_ofNamed_of_gives (h : Entry.AllGive entries pairs) :
    ∀ entry ∈ entries, ∀ named, entry.read = .ok named → ∃ m, ofNamed named = .ok m := by
  induction h with
  | nil => exact List.forall_mem_nil _
  | cons hgives _ ih =>
    refine List.forall_mem_cons.mpr ⟨?_, ih⟩
    intro named hnamed
    obtain ⟨a, ha⟩ := hgives.exists_read_eq_ok_iff.mp ⟨named, hnamed⟩
    rw [hgives.read_eq, ha] at hnamed
    -- The name that is read is a text, as all names of modules are.
    obtain rfl := Except.ok.inj hnamed
    exact ⟨⟨_, a⟩, rfl⟩

/-- The names and bases that entries give make a table, whatever the forms of the entries, if each
base is an integer of 64 bits or a text that spells one. The table then holds a module for each
entry, in order. Otherwise there is no table, and the first base that is none is reported. The
records of a table make the same table again. -/
theorem ofEntries_gives (h : Entry.AllGive entries pairs) :
    (∀ table, ofEntries entries = .ok table ↔
      List.Forall₂ (fun pair m => m.name = pair.1 ∧
        spelledInteger? pair.2 = some (m.base.toNat : Int)) pairs table.modules) ∧
    (∀ error, ofEntries entries = .error error ↔
      ∃ before pair after fault, pairs = before ++ pair :: after ∧
        (∀ p ∈ before, ∃ a : Address, spelledInteger? p.2 = some (a.toNat : Int)) ∧
        RefusesBase pair.2 fault ∧ error = .entry fault) ∧
    ∀ table, ofEntries (table.modules.map Module.record) = .ok table := by
  refine ⟨fun table => ?_, fun error => ?_, ofEntries_map_record⟩
  · rw [ofEntries_eq_ok_iff, forall₂_reads_iff h]
  · rw [ofEntries_eq_error_iff (exists_ofNamed_of_gives h), mapM_read_eq_error_iff h]
    simp only [mapM_eq_error_iff, readBase_eq_ok_iff, readBase_eq_error_iff]
    constructor
    · rintro ⟨fault, ⟨before, pair, after, hpairs, hbefore, hrefuses⟩, rfl⟩
      exact ⟨before, pair, after, fault, hpairs, hbefore, hrefuses, rfl⟩
    · rintro ⟨before, pair, after, fault, hpairs, hbefore, hrefuses, rfl⟩
      exact ⟨fault, ⟨before, pair, after, hpairs, hbefore, hrefuses⟩, rfl⟩

/-- Entries of all forms, with bases of both kinds. -/
def mixedEntries : List Entry :=
  [.record (.string "App") (.integer 5), .value (.array [.string "lib.so", .string "0x10"]),
    .row [.string "c", .string " 0b1_1\n"],
    .value (.object [("size", .null), ("base", .integer 0xffffffffffffffff),
      ("modulename", .string "app")])]

/-- The names and bases that these entries give. -/
def mixedPairs : List (Text.Raw × Json) :=
  [("App", .integer 5), ("lib.so", .string "0x10"), ("c", .string " 0b1_1\n"),
    ("app", .integer 0xffffffffffffffff)]

/-- Entries of all forms make a table; with a truth value and a base that is too large behind them,
the truth value is reported. -/
theorem ofEntries_gives_sample :
    Entry.AllGive mixedEntries mixedPairs ∧
    ofEntries mixedEntries = .ok (ofList [⟨"App", 5⟩, ⟨"lib.so", 0x10⟩, ⟨"c", 3⟩,
      ⟨"app", 0xffffffffffffffff⟩]) ∧
    ofEntries (mixedEntries ++ [.row [.string "d", .bool true],
      .record (.string "e") (.string "0x10000000000000000")]) =
        .error (.entry (.invalidBaseKind "bool")) := by
  have hgives : Entry.AllGive mixedEntries mixedPairs :=
    .cons (.record _ _) (.cons (.list _ _) (.cons (.row _ _) (.cons (.object rfl rfl) .nil)))
  have hwrong : Entry.AllGive
      [.row [.string "d", .bool true], .record (.string "e") (.string "0x10000000000000000")]
      [("d", .bool true), ("e", .string "0x10000000000000000")] :=
    .cons (.row _ _) (.cons (.record _ _) .nil)
  have hbases : ∀ p ∈ mixedPairs, ∃ a : Address, spelledInteger? p.2 = some (a.toNat : Int) := by
    simp only [mixedPairs, List.forall_mem_cons]
    exact ⟨⟨5, rfl⟩, ⟨0x10, rfl⟩, ⟨3, rfl⟩, ⟨0xffffffffffffffff, rfl⟩, List.forall_mem_nil _⟩
  refine ⟨hgives, ((ofEntries_gives hgives).1 _).mpr ?_,
    ((ofEntries_gives (List.rel_append hgives hwrong)).2.1 _).mpr ?_⟩
  · exact .cons ⟨rfl, rfl⟩ (.cons ⟨rfl, rfl⟩ (.cons ⟨rfl, rfl⟩ (.cons ⟨rfl, rfl⟩ .nil)))
  · exact ⟨mixedPairs, _, _, _, rfl, hbases, .kind nofun nofun, rfl⟩

end ModuleTable

end PointerChain
