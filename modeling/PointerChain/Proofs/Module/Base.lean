import PointerChain.Module.Entry
import PointerChain.Proofs.Outcome

/-!
# Bases of modules

An entry of a module table gives the base of its module as an integer of any size, and is refused if
this is no address. So no base is cut off when a table is built.

* `readBase_eq_ok_iff` and `readBase_eq_error_iff` say which values are bases, and why the others
  are none.
* `Entry.base?` is the integer that an entry gives.
* `ModuleTable.map_base_ofEntries` says that a table has these integers for its bases.
-/

namespace PointerChain

/-- The integer that a value spells, whatever its size. -/
def spelledInteger? : Json → Option Int
  | .string s => (Text.readLiteral s.text).toOption
  | .integer n => some n
  | _ => none

namespace Entry

/-- The value that an entry gives for the base. -/
def baseValue? : Entry → Option Json
  | record _ base => some base
  | row [_, base] => some base
  | value (.object fields) => Json.field? baseField fields
  | value (.array [_, base]) => some base
  | value (.string s) =>
    match charValues s with
    | [_, base] => some base
    | _ => none
  | _ => none

/-- The integer that an entry gives for the base, whatever its size. -/
def base? (entry : Entry) : Option Int := entry.baseValue?.bind spelledInteger?

end Entry

/-! ### One entry -/

variable {a : Address}

/-- An integer is a base only if it is the address. -/
theorem toNat_of_baseOfInt {n : Int} (h : baseOfInt n = .ok a) : (a.toNat : Int) = n := by
  unfold baseOfInt Address.ofInt? at h
  split at h
  next b hb =>
    obtain rfl := Except.ok.inj h
    split at hb
    next hfits =>
      obtain rfl := Option.some.inj hb
      have hlt : n.toNat < 2 ^ 64 := by
        unfold FitsUInt64 at hfits
        omega
      rw [UInt64.toNat_ofNat_of_lt' hlt]
      exact Int.toNat_of_nonneg hfits.1
    next => cases hb
  next => cases h

/-- Every address is the base that its number is. -/
theorem baseOfInt_toNat (a : Address) : baseOfInt a.toNat = .ok a := by
  have hfits : FitsUInt64 (a.toNat : Int) := by
    have := a.toNat_lt
    unfold FitsUInt64
    omega
  rw [baseOfInt, Address.ofInt?, if_pos hfits, Int.toNat_natCast, UInt64.ofNat_toNat]

theorem baseOfInt_eq_error_iff {n : Int} {fault : EntryFault} :
    baseOfInt n = .error fault ↔ ¬ FitsUInt64 n ∧ fault = .baseOutOfRange n := by
  unfold baseOfInt Address.ofInt?
  by_cases hfits : FitsUInt64 n
  · rw [if_pos hfits]
    exact ⟨nofun, fun h => absurd hfits h.1⟩
  · rw [if_neg hfits]
    exact ⟨fun h => ⟨hfits, (Except.error.inj h).symm⟩, fun h => congrArg Except.error h.2.symm⟩

/-- A value is read as the base that it spells. -/
theorem spelledInteger?_of_readBase {j : Json} (h : readBase j = .ok a) :
    spelledInteger? j = some (a.toNat : Int) := by
  unfold readBase at h
  split at h
  next s =>
    split at h
    next n hn =>
      rw [spelledInteger?, hn, toNat_of_baseOfInt h]
      rfl
    next => cases h
  next n => rw [spelledInteger?, toNat_of_baseOfInt h]
  next => cases h

/-- A value is read as a base exactly if it spells an address. -/
theorem readBase_eq_ok_iff {j : Json} :
    readBase j = .ok a ↔ spelledInteger? j = some (a.toNat : Int) := by
  refine ⟨spelledInteger?_of_readBase, fun h => ?_⟩
  cases j with
  | string s =>
    have hread : Text.readLiteral s.text = .ok (a.toNat : Int) := eq_ok_of_toOption_eq_some h
    rw [readBase, hread]
    exact baseOfInt_toNat a
  | integer n =>
    obtain rfl := Option.some.inj h
    exact baseOfInt_toNat a
  | null | bool _ | real _ | array _ | object _ => cases h

/-- Why a value is no base. -/
inductive RefusesBase : Json → EntryFault → Prop
  /-- It is a text that spells no integer. -/
  | spelling {s : Text.Raw} {fault : Text.NumeralFault}
      (h : Text.readLiteral s.text = .error fault) : RefusesBase (.string s) (.invalidBase s.text)
  /-- It spells an integer that is no address. -/
  | range {j : Json} {n : Int} (h : spelledInteger? j = some n) (hn : ¬ FitsUInt64 n) :
      RefusesBase j (.baseOutOfRange n)
  /-- It is neither a text nor an integer. -/
  | kind {j : Json} (hs : ∀ s, j ≠ .string s) (hn : ∀ n, j ≠ .integer n) :
      RefusesBase j (.invalidBaseKind j.kindName)

/-- A value is refused as a base for one of these reasons only. -/
theorem readBase_eq_error_iff {j : Json} {fault : EntryFault} :
    readBase j = .error fault ↔ RefusesBase j fault := by
  constructor
  · intro h
    -- A text may be no literal; a text and an integer may be out of range; other kinds are no
    -- bases.
    unfold readBase at h
    split at h
    next s =>
      split at h
      next n hn =>
        obtain ⟨hrange, rfl⟩ := baseOfInt_eq_error_iff.mp h
        exact .range (by rw [spelledInteger?, hn]; rfl) hrange
      next hs =>
        obtain rfl := Except.error.inj h
        exact .spelling hs
    next n =>
      obtain ⟨hrange, rfl⟩ := baseOfInt_eq_error_iff.mp h
      exact .range rfl hrange
    next hs hn =>
      obtain rfl := Except.error.inj h
      exact .kind hs hn
  · intro h
    cases h with
    | spelling h => rw [readBase, h]
    | range h hn =>
      cases j with
      | string s =>
        rw [readBase, eq_ok_of_toOption_eq_some h]
        exact baseOfInt_eq_error_iff.mpr ⟨hn, rfl⟩
      | integer n =>
        obtain rfl := Option.some.inj h
        exact baseOfInt_eq_error_iff.mpr ⟨hn, rfl⟩
      | null | bool _ | real _ | array _ | object _ => cases h
    | kind hs hn =>
      cases j with
      | string s => exact absurd rfl (hs s)
      | integer n => exact absurd rfl (hn n)
      | null | bool _ | real _ | array _ | object _ => rfl

theorem spelledInteger?_of_readPair {name base : Json} {named : Json × Address}
    (h : Entry.read.named (readPair name base) = .ok named) :
    spelledInteger? base = some (named.2.toNat : Int) := by
  unfold readPair at h
  split at h
  next s =>
    cases hbase : readBase base with
    | ok a =>
      rw [hbase] at h
      obtain rfl := Except.ok.inj h
      exact spelledInteger?_of_readBase hbase
    | error e =>
      rw [hbase] at h
      cases h
  next => cases h

/-- An entry is read as a module with the base that it gives. -/
theorem Entry.base?_of_read {entry : Entry} {named : Json × Address} (h : entry.read = .ok named) :
    entry.base? = some (named.2.toNat : Int) := by
  -- A record is read here; every other form comes down to a name and a base, or is refused.
  cases entry with
  | record name base =>
    obtain ⟨a, ha, h⟩ := exists_of_bind_eq_ok h
    obtain rfl := Except.ok.inj h
    exact spelledInteger?_of_readBase (eq_ok_of_mapError_eq_ok ha)
  | row items =>
    simp only [read] at h
    split at h
    next name base => exact spelledInteger?_of_readPair h
    next => cases h
  | value j =>
    simp only [read] at h
    split at h
    next fields =>
      split at h
      next => cases h
      next name hname =>
        split at h
        next => cases h
        next base hbase =>
          rw [base?, baseValue?, hbase]
          exact spelledInteger?_of_readPair h
    next name base => exact spelledInteger?_of_readPair h
    next s =>
      split at h
      next name base hchars =>
        rw [base?, baseValue?, hchars]
        exact spelledInteger?_of_readPair h
      next => cases h
    next => cases h

/-! ### Whole tables -/

namespace ModuleTable

theorem base_ofNamed {named : Json × Address} {m : Module} (h : ofNamed named = .ok m) :
    m.base = named.2 := by
  unfold ofNamed at h
  split at h
  · obtain rfl := Except.ok.inj h
    rfl
  · cases h

/-- The bases of a table are the integers that its entries give, none of them cut off. -/
theorem map_base_ofEntries {entries : List Entry} {table : ModuleTable}
    (h : ofEntries entries = .ok table) :
    (table.modules.map fun m => some (m.base.toNat : Int)) = entries.map Entry.base? := by
  obtain ⟨named, hnamed, h⟩ := exists_of_bind_eq_ok h
  obtain ⟨modules, hmodules, h⟩ := exists_of_bind_eq_ok h
  obtain rfl := Except.ok.inj h
  calc (modules.map fun m => some (m.base.toNat : Int))
      = named.map fun m => some (m.2.toNat : Int) :=
        map_eq_of_mapM_eq_ok (fun m n hn => by rw [base_ofNamed hn]) hmodules
    _ = entries.map Entry.base? :=
        map_eq_of_mapM_eq_ok (fun entry m hm => (Entry.base?_of_read hm).symm) hnamed

end ModuleTable

end PointerChain
