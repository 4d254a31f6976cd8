import Mathlib.Data.List.Sort
import PointerChain.Module.Slice
import PointerChain.Proofs.Module.Entry
import PointerChain.Proofs.Module.LookUp

/-!
# Slices of module tables

A slice selects the places that its step reaches from its start before its stop, in this order. The
table of a slice is built again from the modules at these places, which cannot fail, and a name then
means the first module that bears it in the new order.

* `Slice.Selects` says which places a slice selects, and `Slice.IsCut` what it leaves of a list.
* `Slice.mem_positions_iff` and `Slice.ordered_positions` are about the places,
  `Slice.select_eq_ok_iff` is about what is there.
* `ModuleTable.foldlM_slice` is about tables that are sliced any number of times.
-/

namespace PointerChain

namespace Slice

/-- A bound of a slice, counted from the front: below zero it counts from the end. -/
def fromFront (length : Nat) (n : Int) : Int := if n < 0 then n + length else n

/-- The distance from one place to the next. -/
def stride (s : Slice) : Int := s.step.getD 1

/-- The place that a slice starts at. Going up it is not in front of the first place, going down it
is not behind the last one. -/
def origin (s : Slice) (length : Nat) : Int :=
  if 0 < s.stride then s.start.elim 0 fun n => max 0 (fromFront length n)
  else s.start.elim (length - 1) fun n => min (length - 1) (fromFront length n)

/-- A place that comes before the one that a slice stops at, in the direction of its steps. -/
def BeforeStop (s : Slice) (length : Nat) (place : Int) : Prop :=
  ∀ n ∈ s.stop, if 0 < s.stride then place < fromFront length n else fromFront length n < place

/-- A place of a sequence that a slice selects: a number of steps lead to it from the start, and it
comes before the stop. -/
def Selects (s : Slice) (length place : Nat) : Prop :=
  place < length ∧ (∃ k : Nat, (place : Int) = s.origin length + k * s.stride) ∧
    s.BeforeStop length place

/-- A list of places in the direction of the steps of a slice. -/
def Ordered (s : Slice) (places : List Nat) : Prop :=
  if 0 < s.stride then places.Pairwise (· < ·) else places.Pairwise (· > ·)

/-- What a slice leaves of a list: the parts at the places that it selects, in order. -/
def IsCut {α : Type} (s : Slice) (xs ys : List α) : Prop :=
  ∃ places, (∀ place, place ∈ places ↔ s.Selects xs.length place) ∧ s.Ordered places ∧
    ys.map some = places.map (xs[·]?)

/-! ### Places -/

variable {s : Slice} {length place : Nat} {places : List Nat}

/-- As many steps are taken as there are multiples of their length below the whole distance. -/
theorem lt_toNat_ediv_iff {distance step : Int} (hstep : 0 < step) (k : Nat) :
    k < ((distance + step - 1) / step).toNat ↔ k * step < distance := by
  rw [Int.lt_toNat, Int.lt_iff_add_one_le, Int.le_ediv_iff_mul_le hstep, Int.add_mul, Int.one_mul]
  omega

/-- The first place, clipped to the sequence. -/
def clippedStart (s : Slice) (length : Nat) : Int :=
  if s.stride < 0 then (s.start.map (clip length (-1) (length - 1))).getD (length - 1)
  else (s.start.map (clip length 0 length)).getD 0

/-- The place to stop at, clipped to the sequence. -/
def clippedStop (s : Slice) (length : Nat) : Int :=
  if s.stride < 0 then (s.stop.map (clip length (-1) (length - 1))).getD (-1)
  else (s.stop.map (clip length 0 length)).getD length

theorem positions_eq (h : s.stride ≠ 0) :
    s.positions length =
      .ok ((List.range (count (s.clippedStart length) (s.clippedStop length) s.stride)).map
        fun (k : Nat) => (s.clippedStart length + k * s.stride).toNat) := by
  unfold positions clippedStart clippedStop
  rw [stride] at h ⊢
  -- The direction of the steps decides on the bounds of both ends.
  by_cases hneg : s.step.getD 1 < 0
  · simp only [if_neg h, if_pos hneg]
  · simp only [if_neg h, if_neg hneg]

section Up

variable (hstep : 0 < s.stride)

include hstep

theorem lt_count_iff_of_up {start stop : Int} (k : Nat) :
    k < count start stop s.stride ↔ start + k * s.stride < stop := by
  rw [count, if_pos hstep, lt_toNat_ediv_iff hstep]
  omega

/-- Going up, the start is clipped only if it is behind the sequence. -/
theorem clippedStart_of_up (length : Nat) :
    s.clippedStart length = min (length : Int) (s.origin length) ∧ 0 ≤ s.origin length := by
  rw [clippedStart, if_neg (Int.not_lt.mpr hstep.le), origin, if_pos hstep]
  cases s.start with
  | none => simp
  | some n =>
    simp only [Option.map_some, Option.getD_some, Option.elim_some, clip, fromFront]
    omega

theorem clippedStop_le_of_up (length : Nat) : s.clippedStop length ≤ length := by
  rw [clippedStop, if_neg (Int.not_lt.mpr hstep.le)]
  cases s.stop with
  | none => simp
  | some n =>
    simp only [Option.map_some, Option.getD_some, clip]
    omega

theorem beforeStop_iff_of_up (h : place < length) :
    s.BeforeStop length place ↔ (place : Int) < s.clippedStop length := by
  rw [BeforeStop, clippedStop, if_neg (Int.not_lt.mpr hstep.le)]
  cases s.stop with
  | none => exact iff_of_true nofun (Int.ofNat_lt.mpr h)
  | some n =>
    simp only [Option.mem_some_iff, forall_eq', if_pos hstep, Option.map_some, Option.getD_some,
      clip, fromFront]
    omega

theorem reaches_iff_of_up (k : Nat) :
    k < count (s.clippedStart length) (s.clippedStop length) s.stride ∧
        (s.clippedStart length + k * s.stride).toNat = place ↔
      place < length ∧ (place : Int) = s.origin length + k * s.stride ∧
        s.BeforeStop length place := by
  obtain ⟨hstart, horigin⟩ := clippedStart_of_up hstep length
  have hstop := clippedStop_le_of_up hstep length
  -- The way leads up, so only from a start that is not clipped to a place within the sequence.
  have hway : 0 ≤ k * s.stride := Int.mul_nonneg (Int.natCast_nonneg k) hstep.le
  rw [lt_count_iff_of_up hstep]
  constructor
  · rintro ⟨hbefore, hplace⟩
    have hlt : place < length := by omega
    refine ⟨hlt, by omega, (beforeStop_iff_of_up hstep hlt).mpr ?_⟩
    omega
  · rintro ⟨hlt, hplace, hbefore⟩
    have := (beforeStop_iff_of_up hstep hlt).mp hbefore
    omega

end Up

section Down

variable (hstep : s.stride < 0)

include hstep

theorem lt_count_iff_of_down {start stop : Int} (k : Nat) :
    k < count start stop s.stride ↔ stop < start + k * s.stride := by
  have hdistance : start - stop - s.stride - 1 = start - stop + -s.stride - 1 := by omega
  rw [count, if_neg (Int.not_lt.mpr hstep.le), hdistance, lt_toNat_ediv_iff (by omega),
    Int.mul_neg]
  omega

/-- Going down, the start is clipped only if it is in front of the sequence. -/
theorem clippedStart_of_down (length : Nat) :
    s.clippedStart length = max (-1) (s.origin length) ∧ s.origin length < length := by
  rw [clippedStart, if_pos hstep, origin, if_neg (Int.not_lt.mpr hstep.le)]
  cases s.start with
  | none =>
    show (length : Int) - 1 = max (-1) ((length : Int) - 1) ∧ (length : Int) - 1 < length
    omega
  | some n => exact ⟨rfl, (Int.min_le_left _ _).trans_lt (by omega)⟩

theorem le_clippedStop_of_down (length : Nat) : -1 ≤ s.clippedStop length := by
  rw [clippedStop, if_pos hstep]
  cases s.stop with
  | none => simp
  | some n => exact Int.le_max_left _ _

theorem beforeStop_iff_of_down (h : place < length) :
    s.BeforeStop length place ↔ s.clippedStop length < place := by
  rw [BeforeStop, clippedStop, if_pos hstep]
  cases s.stop with
  | none =>
    refine iff_of_true nofun ?_
    show (-1 : Int) < place
    omega
  | some n =>
    simp only [Option.mem_some_iff, forall_eq', if_neg (Int.not_lt.mpr hstep.le), Option.map_some,
      Option.getD_some, clip, fromFront]
    omega

theorem reaches_iff_of_down (k : Nat) :
    k < count (s.clippedStart length) (s.clippedStop length) s.stride ∧
        (s.clippedStart length + k * s.stride).toNat = place ↔
      place < length ∧ (place : Int) = s.origin length + k * s.stride ∧
        s.BeforeStop length place := by
  obtain ⟨hstart, horigin⟩ := clippedStart_of_down hstep length
  have hstop := le_clippedStop_of_down hstep length
  have hway : k * s.stride ≤ 0 := Int.mul_nonpos_of_nonneg_of_nonpos (Int.natCast_nonneg k) hstep.le
  rw [lt_count_iff_of_down hstep]
  constructor
  · rintro ⟨hbefore, hplace⟩
    have hlt : place < length := by omega
    refine ⟨hlt, by omega, (beforeStop_iff_of_down hstep hlt).mpr ?_⟩
    omega
  · rintro ⟨hlt, hplace, hbefore⟩
    have := (beforeStop_iff_of_down hstep hlt).mp hbefore
    omega

end Down

/-- The steps that are counted are those that lead to a selected place. -/
theorem reaches_iff (h : s.stride ≠ 0) (k : Nat) :
    k < count (s.clippedStart length) (s.clippedStop length) s.stride ∧
        (s.clippedStart length + k * s.stride).toNat = place ↔
      place < length ∧ (place : Int) = s.origin length + k * s.stride ∧
        s.BeforeStop length place := by
  rcases lt_or_gt_of_ne h with hdown | hup
  · exact reaches_iff_of_down hdown k
  · exact reaches_iff_of_up hup k

/-- A slice has places unless its step is zero. -/
theorem stride_ne_zero (h : s.positions length = .ok places) : s.stride ≠ 0 := by
  intro hzero
  simp [positions, show s.step.getD 1 = 0 from hzero] at h

/-- The places of a slice are those that it selects. -/
theorem mem_positions_iff (h : s.positions length = .ok places) :
    place ∈ places ↔ s.Selects length place := by
  have hstep := stride_ne_zero h
  rw [positions_eq hstep] at h
  obtain rfl := Except.ok.inj h
  simp only [List.mem_map, List.mem_range, reaches_iff hstep, Selects]
  constructor
  · rintro ⟨k, hlt, hplace, hbefore⟩
    exact ⟨hlt, ⟨k, hplace⟩, hbefore⟩
  · rintro ⟨hlt, ⟨k, hplace⟩, hbefore⟩
    exact ⟨k, hlt, hplace, hbefore⟩

/-- The places of a slice follow each other in the direction of its steps. -/
theorem ordered_positions (h : s.positions length = .ok places) : s.Ordered places := by
  have hstep := stride_ne_zero h
  rw [positions_eq hstep] at h
  obtain rfl := Except.ok.inj h
  -- The numbers of steps are in order, and each of them leads to a place.
  have hplace : ∀ k ∈ List.range (count (s.clippedStart length) (s.clippedStop length) s.stride),
      ((s.clippedStart length + k * s.stride).toNat : Int) = s.origin length + k * s.stride := by
    intro k hk
    exact ((reaches_iff hstep k).mp ⟨List.mem_range.mp hk, rfl⟩).2.1
  unfold Ordered
  split
  next hup =>
    refine List.pairwise_map.mpr (List.pairwise_lt_range.imp_of_mem ?_)
    intro i j hi hj hlt
    have hway : i * s.stride < j * s.stride := Int.mul_lt_mul_of_pos_right (by omega) hup
    have := hplace i hi
    have := hplace j hj
    omega
  next hdown =>
    refine List.pairwise_map.mpr (List.pairwise_lt_range.imp_of_mem ?_)
    intro i j hi hj hlt
    have hway : j * s.stride < i * s.stride :=
      Int.mul_lt_mul_of_neg_right (by omega) (by omega)
    have := hplace i hi
    have := hplace j hj
    omega

/-- Places in the order of a slice are determined by which they are. -/
theorem Ordered.eq_of_mem_iff {places' : List Nat} (h : s.Ordered places) (h' : s.Ordered places')
    (hmem : ∀ place, place ∈ places ↔ place ∈ places') : places = places' := by
  unfold Ordered at h h'
  split at h
  next hup =>
    rw [if_pos hup] at h'
    exact h.eq_of_mem_iff h' hmem
  next hdown =>
    rw [if_neg hdown] at h'
    exact h.eq_of_mem_iff h' hmem

/-! ### What is at the places -/

variable {α : Type} {xs ys zs : List α}

/-- A slice leaves one list only. -/
theorem IsCut.unique (hys : s.IsCut xs ys) (hzs : s.IsCut xs zs) : ys = zs := by
  obtain ⟨places, hplaces, hordered, hys⟩ := hys
  obtain ⟨places', hplaces', hordered', hzs⟩ := hzs
  have heq : places = places' := by
    apply hordered.eq_of_mem_iff hordered'
    intro place
    rw [hplaces, hplaces']
  rw [heq, ← hzs] at hys
  exact List.map_injective_iff.mpr (Option.some_injective α) hys

theorem isCut_of_positions (h : s.positions xs.length = .ok places) :
    s.IsCut xs (places.filterMap (xs[·]?)) := by
  refine ⟨places, fun place => mem_positions_iff h, ordered_positions h, ?_⟩
  -- Nothing is left out, since all places are within the list.
  rw [List.map_filterMap, List.filterMap_eq_map_iff_forall_eq_some]
  intro place hplace
  have hlt := ((mem_positions_iff h).mp hplace).1
  rw [List.getElem?_eq_getElem hlt]
  rfl

theorem exists_select_eq_ok (h : s.step ≠ some 0) (xs : List α) :
    ∃ ys, s.select xs = .ok ys ∧ s.IsCut xs ys := by
  have hstep : s.stride ≠ 0 := by
    rw [stride]
    cases hs : s.step with
    | none => exact Int.one_ne_zero
    | some n => exact fun hzero => h (hs.trans (congrArg some hzero))
  obtain ⟨places, hplaces⟩ : ∃ places, s.positions xs.length = .ok places :=
    ⟨_, positions_eq hstep⟩
  refine ⟨places.filterMap (xs[·]?), ?_, isCut_of_positions hplaces⟩
  rw [select, hplaces]
  rfl

/-- A slice whose step is not zero selects what it leaves of a list. -/
theorem select_eq_ok_iff (h : s.step ≠ some 0) : s.select xs = .ok ys ↔ s.IsCut xs ys := by
  obtain ⟨zs, hselect, hcut⟩ := exists_select_eq_ok h xs
  rw [hselect]
  constructor
  · intro heq
    exact Except.ok.inj heq ▸ hcut
  · intro hys
    rw [hcut.unique hys]

end Slice

namespace ModuleTable

/-! ### Tables -/

/-- A table that slices lead to, one after the other. At each step the records of the modules that
the slice leaves are made into a table as any entries are. -/
inductive Sliced : ModuleTable → List Slice → ModuleTable → Prop
  | nil (table : ModuleTable) : Sliced table [] table
  | cons {s : Slice} {slices : List Slice} {table next result : ModuleTable}
      (hcut : s.IsCut table.modules next.modules)
      (hentries : ofEntries (next.modules.map Module.record) = .ok next)
      (hslices : Sliced next slices result) : Sliced table (s :: slices) result

variable {s : Slice} {slices : List Slice} {table next result : ModuleTable}

theorem slice_eq_ok_iff (h : s.step ≠ some 0) :
    table.slice s = .ok next ↔ s.IsCut table.modules next.modules := by
  rw [← Slice.select_eq_ok_iff h, slice]
  constructor
  · intro hslice
    obtain ⟨modules, hselect, hslice⟩ := exists_of_bind_eq_ok hslice
    obtain rfl := Except.ok.inj hslice
    exact hselect
  · intro hselect
    rw [hselect]
    exact congrArg Except.ok next.ofList_modules

/-- A slice whose step is not zero makes a table. -/
theorem exists_slice_eq_ok (table : ModuleTable) (h : s.step ≠ some 0) :
    ∃ next, table.slice s = .ok next := by
  obtain ⟨modules, -, hcut⟩ := Slice.exists_select_eq_ok h table.modules
  exact ⟨ofList modules, (slice_eq_ok_iff h).mpr hcut⟩

theorem sliced_cons_iff (h : s.step ≠ some 0) (hnext : table.slice s = .ok next) :
    Sliced table (s :: slices) result ↔ Sliced next slices result := by
  have hcut := (slice_eq_ok_iff h).mp hnext
  constructor
  · intro hsliced
    cases hsliced with
    | cons hcut' _ hslices =>
      -- A slice leaves one list only, and its modules determine a table.
      obtain rfl := ModuleTable.ext (hcut.unique hcut')
      exact hslices
  · exact .cons hcut (ofEntries_map_record next)

/-- Slices lead to one table only, and a run through them gives it. -/
theorem exists_foldlM_slice (table : ModuleTable) (h : ∀ s ∈ slices, s.step ≠ some 0) :
    ∃ t, slices.foldlM slice table = .ok t ∧ ∀ t', Sliced table slices t' ↔ t' = t := by
  -- By induction on the slices, from any table on.
  induction slices generalizing table with
  | nil =>
    refine ⟨table, rfl, fun t' => ⟨?_, ?_⟩⟩
    · rintro ⟨⟩
      rfl
    · rintro rfl
      exact .nil _
  | cons s slices ih =>
    obtain ⟨hs, hslices⟩ := List.forall_mem_cons.mp h
    obtain ⟨next, hnext⟩ := exists_slice_eq_ok table hs
    obtain ⟨t, ht, hsliced⟩ := ih next hslices
    refine ⟨t, ?_, fun t' => (sliced_cons_iff hs hnext).trans (hsliced t')⟩
    rw [List.foldlM_cons, hnext]
    exact ht

/-- A table, however it was made, can be sliced any number of times with steps that are not zero.
The records that the slices leave always make a table, and in it a look-up finds the first module
with the name in its own order, or nothing if there is none. -/
theorem foldlM_slice (table : ModuleTable) (h : ∀ s ∈ slices, s.step ≠ some 0) :
    ∃ t, slices.foldlM slice table = .ok t ∧ (∀ t', Sliced table slices t' ↔ t' = t) ∧
      ∀ name, (∀ m, t.find? name = some m ↔ m.IsFirst name t.modules) ∧
        (t.find? name = none ↔ ∀ m ∈ t.modules, m.name.lower ≠ name.lower) := by
  obtain ⟨t, ht, hsliced⟩ := exists_foldlM_slice table h
  exact ⟨t, ht, hsliced, fun name => ⟨fun m => find?_eq_some_iff, find?_eq_none_iff⟩⟩

/-- A table with two names, each of them twice. -/
def doubledTable : ModuleTable := ofList [⟨"a", 1⟩, ⟨"B", 2⟩, ⟨"A", 3⟩, ⟨"b", 4⟩]

/-- A table backwards, and then every other one of its last three modules. -/
def backwardSlices : List Slice := [{ step := some (-1) }, { start := some (-3), step := some 2 }]

/-- Backwards the later of two modules with one name is meant by it. -/
theorem foldlM_slice_sample :
    (∀ s ∈ backwardSlices, s.step ≠ some 0) ∧
    ∃ t, backwardSlices.foldlM slice doubledTable = .ok t ∧
      t.modules = [⟨"A", 3⟩, ⟨"a", 1⟩] ∧ t.find? "a" = some ⟨"A", 3⟩ ∧ t.find? "b" = none := by
  have h : ∀ s ∈ backwardSlices, s.step ≠ some 0 := by decide
  obtain ⟨t, ht, -, hfind⟩ := foldlM_slice doubledTable h
  have hmodules : t.modules = [⟨"A", 3⟩, ⟨"a", 1⟩] :=
    Except.ok.inj ((congrArg (Except.map modules) ht).symm.trans rfl)
  refine ⟨h, t, ht, hmodules, ((hfind "a").1 _).mpr ?_, (hfind "b").2.mpr ?_⟩
  · rw [hmodules]
    exact ⟨by decide, [], _, rfl, List.forall_mem_nil _⟩
  · rw [hmodules]
    decide

end ModuleTable

end PointerChain
