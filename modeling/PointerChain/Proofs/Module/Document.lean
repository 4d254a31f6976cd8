import PointerChain.Module.Document
import PointerChain.Proofs.Module.Entry
import PointerChain.Proofs.Text.Literal

/-!
# Documents that describe tables

A module document passes two examinations, one by the schema and one by the reader of entries. Each
lets documents pass that the other one stops. What passes both is a list of described modules. All
of this is about documents on which the validator gives the verdict that the schema asks for.

* `GivesBase` and `Describes` relate the parts of a document to bases and modules, and
  `moduleEntries?` is the list in a document.
* `Schema.accepts_object_iff` and its neighbours read schemas as statements on values.
* `admits_and_readBase_iff` and `admits_and_read_iff` put the two examinations together, for a base
  and for an entry.
* `ModuleTable.ofDocument_describes` says which documents give which tables.
* `ModuleTable.ofDocument_toDocument` says what becomes of the document of a table.
-/

namespace PointerChain

/-- A value that gives a base: the address itself, or a text that spells it. -/
inductive GivesBase : Json → Address → Prop
  | integer (a : Address) : GivesBase (.integer a.toNat) a
  | text {s : Text.Raw} {a : Address} (h : Text.Spells s.text.toList a.toNat) :
      GivesBase (.string s) a

/-- An entry of a document and the module that it describes: an object with a name that is not
empty, and with a base. Other fields do not matter. -/
inductive Describes : Json → Module → Prop
  | object {fields : List (Text.Raw × Json)} {name : Text.Raw} {base : Json} {a : Address}
      (hname : Json.field? nameField fields = some (.string name)) (hne : name.isEmpty = false)
      (hbase : Json.field? baseField fields = some base) (hgives : GivesBase base a) :
      Describes (.object fields) ⟨name, a⟩

/-- The list of entries in a document: the document itself, or what it holds in the field for the
list. -/
def moduleEntries? : Json → Option (List Json)
  | .array entries => some entries
  | .object fields =>
    match Json.field? listField fields with
    | some (.array entries) => some entries
    | _ => none
  | _ => none

theorem moduleEntries?_eq_some_iff {j : Json} {entries : List Json} :
    moduleEntries? j = some entries ↔
      j = .array entries ∨
        ∃ fields, j = .object fields ∧ Json.field? listField fields = some (.array entries) := by
  constructor
  · intro h
    unfold moduleEntries? at h
    split at h
    next =>
      obtain rfl := Option.some.inj h
      exact .inl rfl
    next fields =>
      split at h
      next _ hfield =>
        obtain rfl := Option.some.inj h
        exact .inr ⟨fields, rfl, hfield⟩
      next => cases h
    next => cases h
  · rintro (rfl | ⟨fields, rfl, hfield⟩)
    · rfl
    · rw [moduleEntries?, hfield]

/-! ### Schemas as statements -/

namespace Json

namespace Schema

variable {defs : Definitions} {j : Json}

theorem accepts_oneOf_pair (s t : Schema) :
    (oneOf [s, t]).accepts defs j =
      ((if s.accepts defs j then 1 else 0) + ((if t.accepts defs j then 1 else 0) + 0) == 1) := rfl

theorem accepts_integer_integer (minimum maximum n : Int) :
    (integer minimum maximum).accepts defs (.integer n) = (minimum ≤ n && n ≤ maximum) := rfl

theorem acceptsFields_cons (name : String) (s : Schema) (properties : List (String × Schema))
    (fields : List (Text.Raw × Json)) :
    acceptsFields defs ((name, s) :: properties) fields =
      ((match field? name fields with
        | some j => s.accepts defs j
        | none => true) && acceptsFields defs properties fields) := rfl

theorem accepts_object_object (properties : List (String × Schema)) (required : List String)
    (fields : List (Text.Raw × Json)) :
    (object properties required).accepts defs (.object fields) =
      (required.all (fun name => fields.any (·.1 = Text.Raw.ofString name)) &&
        acceptsFields defs properties fields) := rfl

/-- Of two schemas that never accept the same value one has to accept. -/
theorem accepts_oneOf_pair_iff {s t : Schema}
    (h : s.accepts defs j = true → t.accepts defs j = false) :
    (oneOf [s, t]).accepts defs j = true ↔ s.accepts defs j = true ∨ t.accepts defs j = true := by
  rw [accepts_oneOf_pair]
  -- The schemas that accept are counted, and there are never two.
  cases hs : s.accepts defs j
  · cases t.accepts defs j <;> decide
  · rw [h hs]
    decide

theorem accepts_text_iff {minLength : Nat} :
    (text minLength).accepts defs j = true ↔ ∃ s, j = .string s ∧ minLength ≤ s.length := by
  cases j with
  | string s =>
    have haccepts : (text minLength).accepts defs (.string s) = decide (minLength ≤ s.length) := rfl
    rw [haccepts, decide_eq_true_iff]
    constructor
    · intro h
      exact ⟨s, rfl, h⟩
    · rintro ⟨_, ⟨⟩, h⟩
      exact h
  | null | bool _ | integer _ | real _ | array _ | object _ => exact ⟨nofun, nofun⟩

theorem accepts_array_iff {items : Schema} :
    (array items).accepts defs j = true ↔
      ∃ values, j = .array values ∧ ∀ value ∈ values, items.accepts defs value = true := by
  cases j with
  | array values =>
    have haccepts : (array items).accepts defs (.array values) =
      values.all (items.accepts defs) := rfl
    rw [haccepts, List.all_eq_true]
    constructor
    · intro h
      exact ⟨values, rfl, h⟩
    · rintro ⟨_, ⟨⟩, h⟩
      exact h
  | null | bool _ | integer _ | real _ | string _ | object _ => exact ⟨nofun, nofun⟩

theorem acceptsFields_iff {properties : List (String × Schema)}
    {fields : List (Text.Raw × Json)} :
    acceptsFields defs properties fields = true ↔
      ∀ p ∈ properties, ∀ value, field? p.1 fields = some value →
        p.2.accepts defs value = true := by
  induction properties with
  | nil => exact ⟨fun _ => nofun, fun _ => rfl⟩
  | cons p properties ih =>
    obtain ⟨name, s⟩ := p
    rw [acceptsFields_cons, Bool.and_eq_true, ih, List.forall_mem_cons]
    refine and_congr_left fun _ => ?_
    cases field? name fields <;> simp

theorem accepts_object_iff {properties : List (String × Schema)} {required : List String} :
    (object properties required).accepts defs j = true ↔
      ∃ fields, j = .object fields ∧
        (∀ name ∈ required, (field? name fields).isSome = true) ∧
        ∀ p ∈ properties, ∀ value, field? p.1 fields = some value →
          p.2.accepts defs value = true := by
  cases j with
  | object fields =>
    rw [accepts_object_object, Bool.and_eq_true, acceptsFields_iff, List.all_eq_true]
    simp only [any_eq_isSome_field?]
    constructor
    · rintro ⟨hrequired, hproperties⟩
      exact ⟨fields, rfl, hrequired, hproperties⟩
    · rintro ⟨_, ⟨⟩, hrequired, hproperties⟩
      exact ⟨hrequired, hproperties⟩
  | null | bool _ | integer _ | real _ | string _ | array _ => exact ⟨nofun, nofun⟩

end Schema

end Json

/-! ### Bases -/

variable {j : Json} {a : Address}

/-- The schema asks of a base that it is an integer of 64 bits or a text of the form. -/
theorem admits_baseField_iff : moduleBundle.predicates.admits baseField j = true ↔
    (Json.Schema.integer 0 0xffffffffffffffff).accepts [] j = true ∨
      (Json.Schema.matching .address).accepts [] j = true := by
  refine Json.Schema.accepts_oneOf_pair_iff ?_
  intro h
  cases j with
  | string s => exact nomatch h
  | null | bool _ | integer _ | real _ | array _ | object _ => rfl

/-- What passes the schema and is read as a base gives the base. The schema stops the texts that are
spelled in other ways, and the reader stops the texts whose value is too large and the integers that
are written with a point. -/
theorem admits_and_readBase_iff :
    moduleBundle.predicates.admits baseField j = true ∧ readBase j = .ok a ↔ GivesBase j a := by
  rw [admits_baseField_iff]
  constructor
  · rintro ⟨hadmits, hread⟩
    unfold readBase at hread
    split at hread
    next s =>
      split at hread
      next n hn =>
        -- The text spells the address, as it spells a number that is the address.
        rw [← toNat_of_baseOfInt hread] at hn
        have hform : Json.Pattern.address.admits s.text.toList = true :=
          hadmits.resolve_left nofun
        exact .text (Text.admits_and_readLiteral_iff.mp ⟨hform, hn⟩)
      next => cases hread
    next n =>
      obtain rfl := toNat_of_baseOfInt hread
      exact .integer a
    next => cases hread
  · intro hgives
    cases hgives with
    | integer =>
      have hle : (a.toNat : Int) ≤ 0xffffffffffffffff := by
        have := a.toNat_lt
        omega
      refine ⟨.inl ?_, baseOfInt_toNat a⟩
      rw [Json.Schema.accepts_integer_integer]
      simp [hle]
    | text h =>
      obtain ⟨hadmits, hread⟩ := Text.admits_and_readLiteral_iff.mpr h
      refine ⟨.inr hadmits, ?_⟩
      rw [readBase, hread]
      exact baseOfInt_toNat a

/-! ### Entries -/

/-- The schema asks of an entry that it is an object with a name that is not empty and with a base.
-/
theorem admits_entry_iff : moduleBundle.predicates.admits "module" j = true ↔
    ∃ fields name base, j = .object fields ∧
      Json.field? nameField fields = some (.string name) ∧ name.isEmpty = false ∧
      Json.field? baseField fields = some base ∧
      moduleBundle.predicates.admits baseField base = true := by
  refine Json.Schema.accepts_object_iff.trans ?_
  constructor
  · rintro ⟨fields, rfl, hrequired, hproperties⟩
    -- The required fields are there, and each is admitted by the schema of its property.
    obtain ⟨named, hnamed⟩ := Option.isSome_iff_exists.mp (hrequired nameField (by simp))
    obtain ⟨base, hbase⟩ := Option.isSome_iff_exists.mp (hrequired baseField (by simp))
    obtain ⟨name, rfl, hlength⟩ := Json.Schema.accepts_text_iff.mp
      (hproperties (nameField, .text 1) (by simp) named hnamed)
    refine ⟨fields, name, base, rfl, hnamed, ?_, hbase, ?_⟩
    · exact List.isEmpty_eq_false_iff.mpr (List.ne_nil_of_length_pos hlength)
    · exact hproperties (baseField, .reference baseField) (by simp) base hbase
  · rintro ⟨fields, name, base, rfl, hname, hne, hbase, hadmits⟩
    have hlength : 1 ≤ name.length := List.length_pos_iff.mpr (List.isEmpty_eq_false_iff.mp hne)
    refine ⟨fields, rfl, ?_, ?_⟩
    · simp [hname, hbase]
    · intro p hp value hvalue
      simp only [List.mem_cons, List.not_mem_nil, or_false] at hp
      rcases hp with rfl | rfl
      · obtain rfl := Option.some.inj (hname.symm.trans hvalue)
        exact Json.Schema.accepts_text_iff.mpr ⟨name, rfl, hlength⟩
      · obtain rfl := Option.some.inj (hbase.symm.trans hvalue)
        exact hadmits

/-- A module as entries are read: with its name as a value. -/
def Module.named (m : Module) : Json × Address := (.string m.name, m.base)

/-- What is read of a value is a module. -/
theorem exists_named_of_read {named : Json × Address} (h : (Entry.value j).read = .ok named) :
    ∃ m : Module, m.named = named := by
  have hnamed {x : Except TableError Module} (hx : Entry.read.named x = .ok named) :
      ∃ m : Module, m.named = named := by
    cases x with
    | ok m => exact ⟨m, Except.ok.inj hx⟩
    | error fault => cases hx
  -- Entries of every kind end in the same step, which names the module.
  simp only [Entry.read] at h
  split at h
  next fields =>
    split at h
    next => cases h
    next =>
      split at h
      next => cases h
      next => exact hnamed h
  next => exact hnamed h
  next =>
    split at h
    next => exact hnamed h
    next => cases h
  next => cases h

/-- What passes the schema and is read as a module describes the module. -/
theorem admits_and_read_iff {m : Module} :
    moduleBundle.predicates.admits "module" j = true ∧ (Entry.value j).read = .ok m.named ↔
      Describes j m := by
  constructor
  · rintro ⟨hadmits, hm⟩
    obtain ⟨fields, name, base, rfl, hname, hne, hbase, hadmits⟩ := admits_entry_iff.mp hadmits
    -- The schema has the name and the base in place, so only the base can still fail.
    rw [(Entry.Gives.object hname hbase).read_eq] at hm
    cases ha : readBase base with
    | error fault =>
      rw [ha] at hm
      cases hm
    | ok a =>
      rw [ha] at hm
      obtain ⟨⟩ : (⟨name, a⟩ : Module) = m := by
        obtain ⟨hm₁, hm₂⟩ := Prod.mk.inj (Except.ok.inj hm)
        exact Module.ext (Json.string.inj hm₁) hm₂
      exact .object hname hne hbase (admits_and_readBase_iff.mp ⟨hadmits, ha⟩)
  · rintro ⟨hname, hne, hbase, hgives⟩
    obtain ⟨hadmits, ha⟩ := admits_and_readBase_iff.mpr hgives
    refine ⟨admits_entry_iff.mpr ⟨_, _, _, rfl, hname, hne, hbase, hadmits⟩, ?_⟩
    rw [(Entry.Gives.object hname hbase).read_eq, ha]
    rfl

/-! ### Documents -/

/-- The schema asks of a document that it has a list of entries and that all of them pass. -/
theorem accepts_moduleBundle_iff : moduleBundle.accepts j = true ↔
    ∃ entries, moduleEntries? j = some entries ∧
      ∀ entry ∈ entries, moduleBundle.predicates.admits "module" entry = true := by
  have hlist {j : Json} : moduleBundle.predicates.admits listField j = true ↔
      ∃ entries, j = .array entries ∧
        ∀ entry ∈ entries, moduleBundle.predicates.admits "module" entry = true :=
    Json.Schema.accepts_array_iff
  refine (Json.Schema.accepts_oneOf_pair_iff ?_).trans ?_
  · -- A list is no object, so the two forms of a document exclude each other.
    intro h
    obtain ⟨entries, rfl, -⟩ := hlist.mp h
    rfl
  · rw [Json.Schema.accepts_object_iff]
    constructor
    · rintro (h | ⟨fields, rfl, hrequired, hproperties⟩)
      · obtain ⟨entries, rfl, hentries⟩ := hlist.mp h
        exact ⟨entries, rfl, hentries⟩
      · obtain ⟨list, hfield⟩ := Option.isSome_iff_exists.mp (hrequired listField (by simp))
        obtain ⟨entries, rfl, hentries⟩ :=
          hlist.mp (hproperties (listField, .reference listField) (by simp) list hfield)
        exact ⟨entries, moduleEntries?_eq_some_iff.mpr (.inr ⟨fields, rfl, hfield⟩), hentries⟩
    · rintro ⟨entries, hj, hentries⟩
      rcases moduleEntries?_eq_some_iff.mp hj with rfl | ⟨fields, rfl, hfield⟩
      · exact .inl (hlist.mpr ⟨entries, rfl, hentries⟩)
      · refine .inr ⟨fields, rfl, by simp [hfield], ?_⟩
        intro p hp value hvalue
        obtain rfl := List.mem_singleton.mp hp
        obtain rfl := Option.some.inj (hfield.symm.trans hvalue)
        exact hlist.mpr ⟨entries, rfl, hentries⟩

namespace ModuleTable

variable {entries : List Json} {table : ModuleTable}

variable {validator : Json.Validator}

theorem documentList_eq (h : moduleEntries? j = some entries) :
    documentList j = .ok (.array entries) := by
  rcases moduleEntries?_eq_some_iff.mp h with rfl | ⟨fields, rfl, hfield⟩
  · rfl
  · rw [documentList, hfield]

theorem ofNamed_named (m : Module) : ofNamed m.named = .ok m := rfl

/-- What is read of a value is a module with its name as a value. -/
theorem reads_value_iff {m : Module} :
    (Entry.value j).Reads m ↔ (Entry.value j).read = .ok m.named := by
  constructor
  · rintro ⟨named, hread, hm⟩
    obtain ⟨n, rfl⟩ := exists_named_of_read hread
    obtain rfl := Except.ok.inj ((ofNamed_named n).symm.trans hm)
    exact hread
  · intro hread
    exact ⟨m.named, hread, ofNamed_named m⟩

/-- A table of values holds what is read of each of them. -/
theorem ofEntries_value_eq_ok_iff : ofEntries (entries.map .value) = .ok table ↔
    List.Forall₂ (fun j m => (Entry.value j).read = .ok m.named) entries table.modules := by
  rw [ofEntries_eq_ok_iff, List.forall₂_map_left_iff]
  simp only [reads_value_iff]

/-- A table of values that pass the schema can only fail on one of them. -/
theorem exists_fault_of_ofEntries_value {error : TableError}
    (hadmits : ∀ entry ∈ entries, moduleBundle.predicates.admits "module" entry = true)
    (h : ofEntries (entries.map .value) = .error error) : ∃ fault, error = .entry fault := by
  have hmodules : ∀ entry ∈ entries.map Entry.value, ∀ named, entry.read = .ok named →
      ∃ m, ofNamed named = .ok m := by
    intro entry hentry named hread
    obtain ⟨j, -, rfl⟩ := List.mem_map.mp hentry
    obtain ⟨m, rfl⟩ := exists_named_of_read hread
    exact ⟨m, ofNamed_named m⟩
  obtain ⟨before, entry, after, hentries, -, hread⟩ :=
    mapM_eq_error_iff.mp ((ofEntries_eq_error_iff hmodules).mp h)
  have hmem : entry ∈ entries.map Entry.value := by simp [hentries]
  obtain ⟨j, hj, rfl⟩ := List.mem_map.mp hmem
  obtain ⟨fields, name, base, rfl, hname, -, hbase, -⟩ := admits_entry_iff.mp (hadmits j hj)
  obtain ⟨fault, -, hfault⟩ := (Entry.Gives.object hname hbase).read_eq_error_iff.mp hread
  exact ⟨fault, hfault⟩

section Decided

variable (hdecides : validator.Decides moduleBundle j)

include hdecides

theorem ofDocument_of_accepts (hentries : moduleEntries? j = some entries)
    (hadmits : ∀ entry ∈ entries, moduleBundle.predicates.admits "module" entry = true) :
    ofDocument validator j = (ofEntries (entries.map .value)).mapError .table := by
  have hvalid : validator moduleBundle j = .valid :=
    hdecides.trans (if_pos (accepts_moduleBundle_iff.mpr ⟨entries, hentries, hadmits⟩))
  rw [ofDocument, hvalid, documentList_eq hentries]
  rfl

theorem ofDocument_of_not_accepts (h : ¬moduleBundle.accepts j = true) :
    ofDocument validator j = .error .mismatch := by
  rw [ofDocument, hdecides, if_neg h]

end Decided

theorem forall₂_describes_iff {modules : List Module} :
    List.Forall₂ Describes entries modules ↔
      (∀ entry ∈ entries, moduleBundle.predicates.admits "module" entry = true) ∧
        List.Forall₂ (fun j m => (Entry.value j).read = .ok m.named) entries modules := by
  simp only [← List.forall₂_and_left, admits_and_read_iff]

section Decided

variable (hdecides : validator.Decides moduleBundle j)

include hdecides

/-- A document gives the table of the modules that its entries describe. -/
theorem ofDocument_eq_ok_iff : ofDocument validator j = .ok table ↔
    ∃ entries, moduleEntries? j = some entries ∧
      List.Forall₂ Describes entries table.modules := by
  constructor
  · intro h
    by_cases haccepts : moduleBundle.accepts j = true
    · obtain ⟨entries, hentries, hadmits⟩ := accepts_moduleBundle_iff.mp haccepts
      rw [ofDocument_of_accepts hdecides hentries hadmits] at h
      have hread := ofEntries_value_eq_ok_iff.mp (eq_ok_of_mapError_eq_ok h)
      exact ⟨entries, hentries, forall₂_describes_iff.mpr ⟨hadmits, hread⟩⟩
    · rw [ofDocument_of_not_accepts hdecides haccepts] at h
      cases h
  · rintro ⟨entries, hentries, hdescribes⟩
    obtain ⟨hadmits, hread⟩ := forall₂_describes_iff.mp hdescribes
    rw [ofDocument_of_accepts hdecides hentries hadmits, ofEntries_value_eq_ok_iff.mpr hread]
    rfl

/-- A document that gives no table is refused by the schema, or else for one of its entries. -/
theorem refusal_of_ofDocument_eq_error {error : DocumentError}
    (h : ofDocument validator j = .error error) :
    error = .mismatch ∨ ∃ fault, error = .table (.entry fault) := by
  by_cases haccepts : moduleBundle.accepts j = true
  · obtain ⟨entries, hentries, hadmits⟩ := accepts_moduleBundle_iff.mp haccepts
    rw [ofDocument_of_accepts hdecides hentries hadmits] at h
    cases htable : ofEntries (entries.map .value) with
    | ok table =>
      rw [htable] at h
      cases h
    | error fault =>
      rw [htable] at h
      obtain ⟨fault, rfl⟩ := exists_fault_of_ofEntries_value hadmits htable
      exact .inr ⟨fault, (Except.error.inj h).symm⟩
  · rw [ofDocument_of_not_accepts hdecides haccepts] at h
    exact .inl (Except.error.inj h).symm

/-- A document gives a table exactly if it holds a list of entries that each describe a module, and
the table holds these modules in order. Every other document is refused, and nothing else happens.
-/
theorem ofDocument_describes :
    (∀ table, ofDocument validator j = .ok table ↔
      ∃ entries, moduleEntries? j = some entries ∧
        List.Forall₂ Describes entries table.modules) ∧
      ∀ error, ofDocument validator j = .error error →
        error = .mismatch ∨ ∃ fault, error = .table (.entry fault) :=
  ⟨fun _ => ofDocument_eq_ok_iff hdecides, fun _ => refusal_of_ofDocument_eq_error hdecides⟩

end Decided

/-- A document with two modules, one of them with other fields and with a newline behind the base.
-/
def sampleDocument : Json :=
  .object [("modules", .array
    [.object [("base", .string "0x1F\n"), ("size", .null), ("modulename", .string "libc.so")],
      .object [("modulename", .string "App"), ("base", .integer 0xffffffffffffffff)]])]

/-- A document with a base that is too large, which its schema does not notice. -/
def wideDocument : Json :=
  .array [.object [("modulename", .string "App"), ("base", .string "0x10000000000000000")]]

/-- A base of 64 bits is read from a document; one of 65 bits matches the schema and is refused for
its entry. -/
theorem ofDocument_describes_sample :
    ofDocument Json.Bundle.validate sampleDocument =
      .ok (ofList [⟨"libc.so", 0x1f⟩, ⟨"App", 0xffffffffffffffff⟩]) ∧
    (DocumentError.table (.entry (.baseOutOfRange 0x10000000000000000)) = .mismatch ∨
      ∃ fault, DocumentError.table (.entry (.baseOutOfRange 0x10000000000000000)) =
        .table (.entry fault)) := by
  constructor
  · have hplain : Text.IsPlain "0x1F".toList 0x1f := .hexadecimal (.inl rfl) rfl
    have hspelled : GivesBase (.string "0x1F\n") 0x1f := .text ⟨_, hplain, .inr rfl⟩
    have hdecides := moduleBundle.decides_validate sampleDocument
    refine ((ofDocument_describes hdecides).1 _).mpr ⟨_, rfl, .cons ?_ (.cons ?_ .nil)⟩
    · exact @Describes.object _ "libc.so" _ _ rfl rfl rfl hspelled
    · exact @Describes.object _ "App" _ _ rfl rfl rfl (.integer 0xffffffffffffffff)
  · exact (ofDocument_describes (moduleBundle.decides_validate wideDocument)).2 _ rfl

/-! ### Documents of tables -/

/-- The fields in the document of a module. -/
theorem field?_entryDocument (m : Module) :
    ∃ fields, entryDocument m = .object fields ∧
      Json.field? nameField fields = some (.string m.name) ∧
      Json.field? baseField fields = some (.integer m.base.toNat) :=
  ⟨_, rfl, rfl, rfl⟩

theorem describes_entryDocument {m : Module} (h : m.name.isEmpty = false) :
    Describes (entryDocument m) m := by
  obtain ⟨fields, hfields, hname, hbase⟩ := field?_entryDocument m
  exact hfields ▸ .object hname h hbase (.integer m.base)

theorem admits_entryDocument_iff {m : Module} :
    moduleBundle.predicates.admits "module" (entryDocument m) = true ↔ m.name.isEmpty = false := by
  constructor
  · intro h
    obtain ⟨fields, hfields, hname, -⟩ := field?_entryDocument m
    obtain ⟨fields', name, -, hfields', hname', hne, -⟩ := admits_entry_iff.mp h
    obtain rfl := Json.object.inj (hfields.symm.trans hfields')
    obtain rfl := Json.string.inj (Option.some.inj (hname.symm.trans hname'))
    exact hne
  · intro h
    exact (admits_and_read_iff.mpr (describes_entryDocument h)).1

theorem moduleEntries?_toDocument (table : ModuleTable) :
    moduleEntries? table.toDocument = some (table.modules.map entryDocument) := rfl

/-- The document of a table passes the check exactly if no name is empty. It then gives the same
table, with the same modules in the same order under the same names, and it is refused otherwise. -/
theorem ofDocument_toDocument {table : ModuleTable}
    (hdecides : validator.Decides moduleBundle table.toDocument) :
    (validator moduleBundle table.toDocument = .valid ↔
      ∀ m ∈ table.modules, m.name.isEmpty = false) ∧
    ofDocument validator table.toDocument =
      if ∀ m ∈ table.modules, m.name.isEmpty = false then .ok table else .error .mismatch := by
  have haccepts : moduleBundle.accepts table.toDocument = true ↔
      ∀ m ∈ table.modules, m.name.isEmpty = false := by
    simp [accepts_moduleBundle_iff, moduleEntries?_toDocument, admits_entryDocument_iff]
  refine ⟨?_, ?_⟩
  · rw [hdecides, ← haccepts]
    split <;> simp_all
  · split
    next hnames =>
      refine (ofDocument_eq_ok_iff hdecides).mpr ⟨_, moduleEntries?_toDocument table, ?_⟩
      rw [List.forall₂_map_left_iff, List.forall₂_same]
      exact fun m hm => describes_entryDocument (hnames m hm)
    next hnames => exact ofDocument_of_not_accepts hdecides (mt haccepts.mp hnames)

/-- A name that no file could have survives the way out and back, and a table with an empty name is
refused. -/
theorem ofDocument_toDocument_sample :
    ofDocument Json.Bundle.validate (ofList [⟨⟨[.half 0]⟩, 1⟩, ⟨"A", 2⟩, ⟨"a", 3⟩]).toDocument =
      .ok (ofList [⟨⟨[.half 0]⟩, 1⟩, ⟨"A", 2⟩, ⟨"a", 3⟩]) ∧
    ofDocument Json.Bundle.validate (ofList [⟨"", 1⟩]).toDocument = .error .mismatch := by
  have hread {table : ModuleTable} := ofDocument_toDocument
    (moduleBundle.decides_validate table.toDocument)
  exact ⟨hread.2.trans (if_pos (by decide)), hread.2.trans (if_neg (by decide))⟩

end ModuleTable

end PointerChain
