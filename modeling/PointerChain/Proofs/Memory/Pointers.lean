import PointerChain.Proofs.Memory.Placement

/-!
# Pointers placed in memory

Each pointer lies in a cell of its own. Cells may overlap, for addresses can be closer than a
pointer is wide, but a cell has just as many bytes as a pointer, and so no other cell has all those
of a read at its address.

* `Region.cell` is the cell of a pointer, and `Region.covers_cell_iff` says which reads of a pointer
  it can serve.
* `Placements.Serves.mem_of_append` says that placements elsewhere take no read over.
* `readPointer_ofPointers` is about all reads of pointers.
-/

namespace PointerChain

variable {process other : ProcessId} {address length : Int} {pointer : Int × Int}
  {pointers : List (Int × Int)}

/-! ### Cells -/

namespace Region

/-- The cell of a pointer, at its address and with its value. -/
def cell (process : ProcessId) (pointer : Int × Int) : Region :=
  ⟨process, pointer.1, Bytes.littleEndian pointerSize (UInt64.ofInt pointer.2).toNat⟩

@[simp]
theorem length_cell : (cell process pointer).bytes.length = pointerSize :=
  Bytes.length_littleEndian _ _

/-- A cell has room for one pointer only, the one at its address. -/
theorem covers_cell_iff : (cell process pointer).Covers other address pointerSize ↔
    process.isSame other = true ∧ pointer.1 = address := by
  constructor
  · rintro ⟨hprocess, hstart, hstop⟩
    rw [length_cell] at hstop
    exact ⟨hprocess, Int.le_antisymm hstart (Int.le_of_add_le_add_right hstop)⟩
  · rintro ⟨hprocess, rfl⟩
    exact ⟨hprocess, Int.le_refl _, Int.le_of_eq (by rw [length_cell]; rfl)⟩

/-- What the bytes of a cell spell is the pointer. -/
theorem ofLittleEndian_cell :
    UInt64.ofNat (cell process pointer).bytes.ofLittleEndian = UInt64.ofInt pointer.2 := by
  have hlt : (UInt64.ofInt pointer.2).toNat < Nat.pow 256 pointerSize :=
    (UInt64.ofInt pointer.2).toNat_lt
  rw [cell, Bytes.ofLittleEndian_littleEndian, Nat.mod_eq_of_lt hlt, UInt64.ofNat_toNat]

theorem map_place_cell (process : ProcessId) (pointers : List (Int × Int)) :
    (pointers.map (cell process)).map place =
      (pointers.map Prod.fst).map fun key => (process.key, key) := by
  rw [List.map_map, List.map_map]
  rfl

/-- Cells at distinct addresses are at distinct places. -/
theorem nodup_map_place_cell (hkeys : (pointers.map Prod.fst).Nodup) :
    ((pointers.map (cell process)).map place).Nodup := by
  rw [map_place_cell]
  exact hkeys.map fun _ _ h => (Prod.mk.inj h).2

/-- A region of another process, or at another address, is at the place of no cell. -/
theorem place_notMem_map_cell {r : Region}
    (h : r.process.isSame process = true → r.offset ∉ pointers.map Prod.fst) :
    r.place ∉ (pointers.map (cell process)).map place := by
  rw [map_place_cell]
  intro hmem
  obtain ⟨key, hkey, hplace⟩ := List.mem_map.mp hmem
  obtain ⟨hprocess, rfl⟩ := place_eq_iff.mp hplace.symm
  exact h hprocess hkey

end Region

/-! ### Placements elsewhere -/

namespace Placements

variable {placements more : Placements} {r s : Region}

/-- Where no place is taken twice, each region stays at its place. -/
theorem latest?_of_nodup (h : (placements.map Region.place).Nodup) (hr : r ∈ placements) :
    placements.latest? r.place = some r := by
  obtain ⟨s, hs⟩ := exists_latest? (List.mem_map_of_mem hr)
  obtain ⟨hmem, hplace⟩ := mem_of_latest? hs
  rw [hs, List.inj_on_of_nodup_map h hmem hr hplace]

section Elsewhere

variable (helsewhere : ∀ t ∈ more, t.place ∉ placements.map Region.place)

include helsewhere

/-- A place that is taken keeps what it has while regions are placed elsewhere. -/
theorem latest?_append_of_mem {place : Json × Int} (h : place ∈ placements.map Region.place) :
    latest? (placements ++ more) place = placements.latest? place := by
  refine latest?_append_of_not_mem ?_
  intro hmore
  obtain ⟨t, ht, rfl⟩ := List.mem_map.mp hmore
  exact helsewhere t ht h

/-- Regions that are placed elsewhere do not take over a read that a region could serve before. -/
theorem Serves.mem_of_append (h : Serves (placements ++ more) r process address length)
    (hs : placements.latest? s.place = some s) (hcovers : s.Covers process address length) :
    r ∈ placements := by
  have hsplace : s.place ∈ placements.map Region.place :=
    List.mem_map_of_mem (mem_of_latest? hs).1
  -- the place of the region was taken no later than that of the other, so among the first ones
  have hrank : rank (placements ++ more) r.place < placements.length := by
    have hfirst := h.first s (by rw [latest?_append_of_mem helsewhere hsplace, hs]) hcovers
    rw [rank_append_of_mem hsplace] at hfirst
    exact Nat.lt_of_le_of_lt hfirst (rank_lt_length_iff.mpr hsplace)
  have hrplace : r.place ∈ placements.map Region.place := by
    by_contra hfree
    exact Nat.not_lt.mpr (length_le_rank_append hfree more) hrank
  have hlatest := h.latest
  rw [latest?_append_of_mem helsewhere hrplace] at hlatest
  exact (mem_of_latest? hlatest).1

end Elsewhere

end Placements

/-! ### Reads of pointers -/

/-- A pointer that cannot be read. The read is reported, unless the process cannot be shown. -/
def MemoryReader.LacksPointer (reader : MemoryReader) (process : ProcessId) (address : Int) :
    Prop :=
  if process.isUnwritable then
    reader.readPointer process address = .error (.refused .unwritable)
  else
    ∃ cause, reader.readPointer process address =
      .error (.failed ⟨reader.name, process, address, cause⟩)

namespace BufferMemory

theorem ofPointers_eq_memory (process : ProcessId) (pointers : List (Int × Int)) :
    ofPointers process pointers = Placements.memory (pointers.map (Region.cell process)) :=
  rfl

/-- A pointer is read from its own cell, whatever is placed elsewhere later. -/
theorem readPointer_addAll_ofPointers (hplain : process.compound = none)
    (hkeys : (pointers.map Prod.fst).Nodup) (name : String) (more : Placements)
    (helsewhere : ∀ r ∈ more, r.process.isSame process = true → r.offset ∉ pointers.map Prod.fst)
    (hpointer : pointer ∈ pointers) :
    (((ofPointers process pointers).addAll more).reader name).readPointer process pointer.1 =
      .ok (UInt64.ofInt pointer.2) := by
  let cells : Placements := pointers.map (Region.cell process)
  have hfree : ∀ r ∈ more, r.place ∉ cells.map Region.place := by
    intro r hr
    exact Region.place_notMem_map_cell (helsewhere r hr)
  have hcell : Region.cell process pointer ∈ cells := List.mem_map_of_mem hpointer
  have hlatest : cells.latest? (Region.cell process pointer).place =
      some (Region.cell process pointer) :=
    Placements.latest?_of_nodup (Region.nodup_map_place_cell hkeys) hcell
  have hcovers : (Region.cell process pointer).Covers process pointer.1 pointerSize :=
    Region.covers_cell_iff.mpr ⟨decide_eq_true rfl, rfl⟩
  rw [ofPointers_eq_memory, ← Placements.memory_append]
  rcases (cells ++ more).records_memory.serves_or_fails name hplain
    (Int.natCast_nonneg pointerSize) with ⟨r, hserves, hread⟩ | ⟨hnone, -⟩
  · -- a cell serves the read, as nothing placed later does, and there is one cell at the address
    obtain ⟨q, hq, rfl⟩ := List.mem_map.mp (hserves.mem_of_append hfree hlatest hcovers)
    obtain rfl : q = pointer := List.inj_on_of_nodup_map hkeys hq hpointer
      (Region.covers_cell_iff.mp hserves.covers).2
    have hwhole : (Region.cell process q).bytes.window (q.1 - q.1).toNat pointerSize =
        (Region.cell process q).bytes := by
      rw [Int.sub_self]
      exact List.take_of_length_le (Nat.le_of_eq Region.length_cell)
    rw [MemoryReader.readPointer_of_read (hread.trans (congrArg _ hwhole)) Region.length_cell,
      Region.ofLittleEndian_cell]
  · -- the cell at the address could serve the read
    refine absurd hcovers (hnone _ ?_)
    rw [Placements.latest?_append_of_mem hfree (List.mem_map_of_mem hcell), hlatest]

/-- Where no pointer was stored, none is read. -/
theorem lacksPointer_ofPointers (hplain : other.compound = none) (name : String)
    (h : process.isSame other = true → address ∉ pointers.map Prod.fst) :
    ((ofPointers process pointers).reader name).LacksPointer other address := by
  let cells : Placements := pointers.map (Region.cell process)
  have hreport : cells.Unreported other pointerSize ↔ other.isUnwritable = true :=
    or_iff_left fun h => absurd h.2 (by decide)
  rw [ofPointers_eq_memory]
  rcases (Placements.records_memory _).serves_or_fails name hplain
    (Int.natCast_nonneg pointerSize) with ⟨r, hserves, -⟩ | ⟨-, hunwritable, hfailed⟩
  · obtain ⟨p, hp, rfl⟩ := List.mem_map.mp (Placements.mem_of_latest? hserves.latest).1
    obtain ⟨hprocess, hkey⟩ := Region.covers_cell_iff.mp hserves.covers
    exact absurd (List.mem_map.mpr ⟨p, hp, hkey⟩) (h hprocess)
  · rw [MemoryReader.LacksPointer]
    split
    next hprocess =>
      exact MemoryReader.readPointer_of_error (hunwritable (hreport.mpr hprocess))
    next hprocess =>
      obtain ⟨cause, hread⟩ := hfailed (mt hreport.mp hprocess)
      exact ⟨cause, MemoryReader.readPointer_of_error hread⟩

end BufferMemory

/-- Pointers that are stored at addresses of a process are read back from there, each modulo
`2 ^ 64`, however close the addresses are. A read at any other address of the process is reported,
and so is one of any other process, unless the process cannot be shown. What is placed at other
addresses or for other processes later does not change the pointers. -/
theorem readPointer_ofPointers (process : ProcessId) (hplain : process.compound = none)
    (pointers : List (Int × Int)) (hkeys : (pointers.map Prod.fst).Nodup) (name : String) :
    let memory := BufferMemory.ofPointers process pointers
    let reader := memory.reader name
    (∀ pointer ∈ pointers, ∃ word, reader.readPointer process pointer.1 = .ok word ∧
      (word.toNat : Int) = pointer.2 % 2 ^ 64) ∧
    (∀ address ∉ pointers.map Prod.fst, reader.LacksPointer process address) ∧
    (∀ other : ProcessId, other.compound = none → process.isSame other = false →
      ∀ address, reader.LacksPointer other address) ∧
    ∀ more : Placements,
      (∀ r ∈ more, r.process.isSame process = true → r.offset ∉ pointers.map Prod.fst) →
      ∀ pointer ∈ pointers, ((memory.addAll more).reader name).readPointer process pointer.1 =
        reader.readPointer process pointer.1 := by
  intro memory reader
  have hread : ∀ pointer ∈ pointers, reader.readPointer process pointer.1 =
      .ok (UInt64.ofInt pointer.2) := by
    intro pointer hpointer
    exact BufferMemory.readPointer_addAll_ofPointers hplain hkeys name []
      (List.forall_mem_nil _) hpointer
  refine ⟨?_, ?_, ?_, ?_⟩
  · intro pointer hpointer
    exact ⟨_, hread pointer hpointer, toNat_ofInt pointer.2⟩
  · intro address hfree
    exact BufferMemory.lacksPointer_ofPointers hplain name fun _ => hfree
  · intro other hother hdiffers address
    exact BufferMemory.lacksPointer_ofPointers hother name fun hsame =>
      absurd hsame (by rw [hdiffers]; exact Bool.false_ne_true)
  · intro more helsewhere pointer hpointer
    rw [hread pointer hpointer]
    exact BufferMemory.readPointer_addAll_ofPointers hplain hkeys name more helsewhere hpointer

/-- Two cells that overlap, the second with a negative value; a buffer behind the first address
covers all of the second cell and changes neither of them. -/
theorem readPointer_ofPointers_sample :
    let pointers : List (Int × Int) := [(0x100, 0x1122334455667788), (0x104, -1)]
    let memory := BufferMemory.ofPointers (7 : Int) pointers
    ((7 : Int) : ProcessId).compound = none ∧ (pointers.map Prod.fst).Nodup ∧
      (∃ word, memory.reader.readPointer (7 : Int) 0x104 = .ok word ∧
        (word.toNat : Int) = 0xffffffffffffffff) ∧
      memory.reader.LacksPointer (7 : Int) 0x102 ∧
      ((memory.add (7 : Int) 0x101 (List.replicate 16 0)).reader).readPointer (7 : Int) 0x104 =
        memory.reader.readPointer (7 : Int) 0x104 := by
  intro pointers memory
  have hkeys : (pointers.map Prod.fst).Nodup := by decide
  obtain ⟨hread, hfree, -, hmore⟩ := readPointer_ofPointers (7 : Int) rfl pointers hkeys "buffer"
  refine ⟨rfl, hkeys, ?_, hfree 0x102 (by decide), ?_⟩
  · exact hread (0x104, -1) (by decide)
  · refine hmore [⟨(7 : Int), 0x101, List.replicate 16 0⟩] ?_ (0x104, -1) (by decide)
    intro r hr _
    obtain rfl := List.mem_singleton.mp hr
    decide

/-- A pointer of another process whose number cannot be written is not there, but that is not
reported. -/
theorem readPointer_leastUnwritable :
    let reader := (BufferMemory.ofPointers (7 : Int) []).reader
    ((7 : Int) : ProcessId).isSame Text.leastUnwritable = false ∧
      ¬∃ cause, reader.readPointer Text.leastUnwritable 0x1000 =
        .error (.failed ⟨"buffer", Text.leastUnwritable, 0x1000, cause⟩) := by
  intro reader
  have hten := Text.ten_le_leastUnwritable
  have hdiffers : ((7 : Int) : ProcessId).isSame Text.leastUnwritable = false := by
    rw [ProcessId.isSame_ofInt, decide_eq_false]
    omega
  have hlacks : reader.LacksPointer Text.leastUnwritable 0x1000 :=
    BufferMemory.lacksPointer_ofPointers rfl "buffer" fun _ => List.not_mem_nil
  rw [MemoryReader.LacksPointer, ProcessId.isUnwritable_ofInt, Text.isUnwritable_leastUnwritable,
    if_pos rfl] at hlacks
  refine ⟨hdiffers, ?_⟩
  rintro ⟨cause, hfailed⟩
  cases hlacks.symm.trans hfailed

end PointerChain
