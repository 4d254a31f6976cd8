import Mathlib.Algebra.Group.Nat.Defs
import PointerChain.Proofs.Memory.Placement

/-!
# Buffers that do not overlap

A read is served by one region, and which one it is depends on the length of the read. Where the
regions of a process do not overlap, a byte of memory can come from one region only, and so reads of
different starts and lengths see the same memory.

* `Region.Overlaps` says that two regions have a byte of one address, and `BufferMemory.Disjoint`
  that those of a process do not.
* `BufferMemory.Disjoint.read_of_covers` is a read of any range that a region has.
* `read_of_disjoint` is about reads that share addresses.
-/

namespace PointerChain

variable {process : ProcessId} {address address' length length' x : Int} {r s : Region}
  {memory : BufferMemory} {name : String} {bytes bytes' : Bytes}

/-! ### Windows -/

namespace Bytes

theorem getElem?_window (image : Bytes) (address length : Nat) {i : Nat} (h : i < length) :
    (image.window address length)[i]? = image[address + i]? := by
  rw [window, List.getElem?_take_of_lt h, List.getElem?_drop]

/-- A window of a window is a window. -/
theorem window_window (image : Bytes) (address : Nat) {length address' length' : Nat}
    (h : address' + length' ≤ length) :
    (image.window address length).window address' length' =
      image.window (address + address') length' := by
  have hlength : min length' (length - address') = length' := by omega
  rw [window, window, window, List.drop_take, List.drop_drop, List.take_take, hlength]

end Bytes

/-! ### Overlaps -/

namespace Region

/-- A region has a byte of an address. -/
def Has (r : Region) (x : Int) : Prop := r.offset ≤ x ∧ x < r.offset + r.bytes.length

/-- Two regions have bytes of one address. -/
def Overlaps (r s : Region) : Prop := ∃ x, r.Has x ∧ s.Has x

/-- Regions overlap if the later of their starts is in front of the earlier of their ends. -/
theorem overlaps_iff : r.Overlaps s ↔
    max r.offset s.offset < min (r.offset + r.bytes.length) (s.offset + s.bytes.length) := by
  constructor
  · rintro ⟨x, ⟨hr, hr'⟩, hs, hs'⟩
    omega
  · intro h
    exact ⟨max r.offset s.offset, ⟨by omega, by omega⟩, by omega, by omega⟩

instance : DecidableRel Overlaps := fun _ _ => decidable_of_iff _ overlaps_iff.symm

theorem Covers.has (h : r.Covers process address length) (h₀ : address ≤ x)
    (h₁ : x < address + length) : r.Has x :=
  ⟨Int.le_trans h.start h₀, Int.lt_of_lt_of_le h₁ h.stop⟩

/-- The byte of an address, of those of a range, is the byte that the region has there. -/
theorem Covers.getElem?_window (h : r.Covers process address length) (h₀ : address ≤ x)
    (h₁ : x < address + length) :
    (r.bytes.window (address - r.offset).toNat length.toNat)[(x - address).toNat]? =
      r.bytes[(x - r.offset).toNat]? := by
  have hstart := h.start
  have hindex : (address - r.offset).toNat + (x - address).toNat = (x - r.offset).toNat := by omega
  rw [Bytes.getElem?_window _ _ _ (show (x - address).toNat < length.toNat by omega), hindex]

/-- A region that has all bytes of a range has those of each part of it. -/
theorem Covers.part (h : r.Covers process address length) (h₀ : address ≤ address')
    (h₁ : address' + length' ≤ address + length) : r.Covers process address' length' :=
  ⟨h.process, Int.le_trans h.start h₀, Int.le_trans h₁ h.stop⟩

end Region

namespace BufferMemory

/-- No two regions of a process overlap. -/
def Disjoint (memory : BufferMemory) (process : ProcessId) : Prop :=
  ∀ r ∈ memory, ∀ s ∈ memory, r.process.isSame process = true → s.process.isSame process = true →
    r.Overlaps s → r = s

instance : Decidable (memory.Disjoint process) :=
  inferInstanceAs (Decidable (∀ r ∈ memory, ∀ s ∈ memory, _ → _ → _ → r = s))

/-! ### Reads -/

/-- A read that succeeds gives bytes of a region that has all of them. -/
theorem exists_covers_of_read (h₀ : 0 ≤ length)
    (h : memory.read name process address length = .ok bytes) :
    process.compound = none ∧ ∃ r ∈ memory, r.Covers process address length ∧
      bytes = r.bytes.window (address - r.offset).toNat length.toNat := by
  obtain ⟨hplain, r, hfind⟩ := exists_find?_of_read h
  obtain ⟨hr, hcovers⟩ := covers_of_find? hfind
  refine ⟨hplain, r, hr, hcovers, ?_⟩
  rw [read_eq_window name hplain h₀ hfind] at h
  exact (Except.ok.inj h).symm

/-- A read of a range that a region has all bytes of succeeds. -/
theorem exists_read_of_covers (hplain : process.compound = none) (h₀ : 0 ≤ length)
    (hr : r ∈ memory) (hcovers : r.Covers process address length) :
    ∃ s ∈ memory, s.Covers process address length ∧
      memory.read name process address length =
        .ok (s.bytes.window (address - s.offset).toNat length.toNat) := by
  have hsome : (memory.find? process address length).isSome = true :=
    List.find?_isSome.mpr ⟨r, hr, Region.holds_iff.mpr hcovers⟩
  obtain ⟨s, hfind⟩ := Option.isSome_iff_exists.mp hsome
  obtain ⟨hs, hcovers'⟩ := covers_of_find? hfind
  exact ⟨s, hs, hcovers', read_eq_window name hplain h₀ hfind⟩

namespace Disjoint

variable (h : memory.Disjoint process)

include h

/-- Two regions that have all bytes of ranges that meet are one region. -/
theorem eq_of_covers (hr : r ∈ memory) (hs : s ∈ memory)
    (hrcovers : r.Covers process address length) (hscovers : s.Covers process address' length')
    (hx : address ≤ x ∧ x < address + length) (hx' : address' ≤ x ∧ x < address' + length') :
    r = s :=
  h r hr s hs hrcovers.process hscovers.process
    ⟨x, hrcovers.has hx.1 hx.2, hscovers.has hx'.1 hx'.2⟩

/-- A range that a region has all bytes of is read from that region. -/
theorem read_of_covers (hplain : process.compound = none) (h₀ : 0 ≤ length)
    (hr : r ∈ memory) (hcovers : r.Covers process address length) :
    memory.read name process address length =
      .ok (r.bytes.window (address - r.offset).toNat length.toNat) := by
  obtain ⟨s, hs, hcovers', hread⟩ := exists_read_of_covers hplain h₀ hr hcovers
  rw [hread]
  rcases Int.lt_or_eq_of_le h₀ with hpos | rfl
  · -- both regions have the first byte
    rw [h.eq_of_covers hr hs hcovers hcovers' ⟨Int.le_refl _, Int.lt_add_of_pos_right _ hpos⟩
      ⟨Int.le_refl _, Int.lt_add_of_pos_right _ hpos⟩]
  · -- no bytes are the same from everywhere
    rfl

/-- Reads agree where they meet. -/
theorem agree (h₀ : 0 ≤ length) (h₀' : 0 ≤ length')
    (hread : memory.read name process address length = .ok bytes)
    (hread' : memory.read name process address' length' = .ok bytes')
    (hx : address ≤ x ∧ x < address + length) (hx' : address' ≤ x ∧ x < address' + length') :
    ∃ byte, bytes[(x - address).toNat]? = some byte ∧
      bytes'[(x - address').toNat]? = some byte := by
  obtain ⟨-, r, hr, hcovers, rfl⟩ := exists_covers_of_read h₀ hread
  obtain ⟨-, s, hs, hcovers', rfl⟩ := exists_covers_of_read h₀' hread'
  -- the shared address is in both regions
  obtain rfl : r = s := h.eq_of_covers hr hs hcovers hcovers' hx hx'
  obtain ⟨hstart, hstop⟩ := hcovers.has hx.1 hx.2
  have hindex : (x - r.offset).toNat < r.bytes.length := by omega
  rw [hcovers.getElem?_window hx.1 hx.2, hcovers'.getElem?_window hx'.1 hx'.2]
  exact ⟨r.bytes[(x - r.offset).toNat], List.getElem?_eq_getElem hindex,
    List.getElem?_eq_getElem hindex⟩

/-- A part of what can be read can be read. -/
theorem read_part (h₀' : 0 ≤ length') (hstart : address ≤ address')
    (hstop : address' + length' ≤ address + length)
    (hread : memory.read name process address length = .ok bytes) :
    memory.read name process address' length' =
      .ok (bytes.window (address' - address).toNat length'.toNat) := by
  obtain ⟨hplain, r, hr, hcovers, rfl⟩ := exists_covers_of_read (by omega) hread
  have hstart₀ := hcovers.start
  have hwithin : (address' - address).toNat + length'.toNat ≤ length.toNat := by omega
  have hoffset : (address - r.offset).toNat + (address' - address).toNat =
      (address' - r.offset).toNat := by omega
  rw [h.read_of_covers hplain h₀' hr (hcovers.part hstart hstop),
    Bytes.window_window _ _ hwithin, hoffset]

/-- Four bytes of what can be read make a double word. -/
theorem exists_readDword_part (hread : memory.read name process address length = .ok bytes)
    (hlength : bytes.length = length) (offset : Nat) (hoffset : offset + dwordSize ≤ length) :
    ∃ word, (memory.reader name).readDword process (address + offset) = .ok word ∧
      word.toNat = (bytes.window offset dwordSize).ofLittleEndian := by
  have hpart : memory.read name process (address + offset) dwordSize =
      .ok (bytes.window (address + offset - address).toNat dwordSize) :=
    h.read_part (Int.natCast_nonneg _) (by omega) (by omega) hread
  have hstart : (address + offset - address).toNat = offset := by omega
  rw [hstart] at hpart
  have hpartLength : (bytes.window offset dwordSize).length = dwordSize := by
    rw [Bytes.length_window]
    omega
  exact ⟨_, MemoryReader.readDword_of_read hpart hpartLength, Bytes.toNat_dword hpartLength⟩

/-- Where a pointer is read, two double words are, and they make it up. -/
theorem exists_readDword_of_readPointer {v : Address}
    (hread : (memory.reader name).readPointer process address = .ok v) :
    ∃ low high, (memory.reader name).readDword process address = .ok low ∧
      (memory.reader name).readDword process (address + dwordSize) = .ok high ∧
      v.toNat = low.toNat + 2 ^ 32 * high.toNat := by
  obtain ⟨bytes, hbytes, hlength, hv⟩ := MemoryReader.exists_of_readPointer hread
  have hlength' : (bytes.length : Int) = pointerSize := congrArg Nat.cast hlength
  obtain ⟨low, hlow, hlow'⟩ := h.exists_readDword_part hbytes hlength' 0 (by decide)
  obtain ⟨high, hhigh, hhigh'⟩ := h.exists_readDword_part hbytes hlength' dwordSize (by decide)
  refine ⟨low, high, ?_, hhigh, ?_⟩
  · rwa [Int.natCast_zero, Int.add_zero] at hlow
  · -- the two halves, one behind the other, are all eight bytes
    have hhalves : bytes.window 0 dwordSize ++ bytes.window dwordSize dwordSize = bytes := by
      have hrest : (bytes.drop dwordSize).take dwordSize = bytes.drop dwordSize :=
        List.take_of_length_le (by rw [List.length_drop, hlength]; decide)
      rw [Bytes.window, Bytes.window, List.drop_zero, hrest, List.take_append_drop]
    have hfour : (bytes.window 0 dwordSize).length = dwordSize := by
      rw [Bytes.length_window, hlength]
      rfl
    rw [hv, ← hhalves, Bytes.ofLittleEndian_append, hfour, ← hlow', ← hhigh']
    rfl

end Disjoint

end BufferMemory

/-- Where the regions of a process do not overlap, its reads see one memory: what lies in a region
is read from it, reads agree on every address that they share, and each part of what can be read can
be read and gives that part. A pointer is made up of the two double words that are read at its
address and four bytes on. -/
theorem read_of_disjoint (memory : BufferMemory) (name : String) (process : ProcessId)
    (hdisjoint : memory.Disjoint process) :
    let reader := memory.reader name
    (process.compound = none → ∀ r ∈ memory, ∀ address length : Int, 0 ≤ length →
      r.Covers process address length → reader.read process address length =
        .ok (r.bytes.window (address - r.offset).toNat length.toNat)) ∧
    (∀ (address length : Int) (bytes : Bytes), 0 ≤ length →
      reader.read process address length = .ok bytes →
      (∀ (address' length' : Int) (bytes' : Bytes), 0 ≤ length' →
        reader.read process address' length' = .ok bytes' →
        ∀ x, address ≤ x ∧ x < address + length → address' ≤ x ∧ x < address' + length' →
          ∃ byte, bytes[(x - address).toNat]? = some byte ∧
            bytes'[(x - address').toNat]? = some byte) ∧
      ∀ address' length' : Int, 0 ≤ length' → address ≤ address' →
        address' + length' ≤ address + length →
          reader.read process address' length' =
            .ok (bytes.window (address' - address).toNat length'.toNat)) ∧
    ∀ (address : Int) (v : Address), reader.readPointer process address = .ok v →
      ∃ low high, reader.readDword process address = .ok low ∧
        reader.readDword process (address + 4) = .ok high ∧
        v.toNat = low.toNat + 2 ^ 32 * high.toNat := by
  intro reader
  refine ⟨?_, ?_, ?_⟩
  · intro hplain r hr address length h₀ hcovers
    exact hdisjoint.read_of_covers hplain h₀ hr hcovers
  · intro address length bytes h₀ hread
    refine ⟨?_, ?_⟩
    · intro address' length' bytes' h₀' hread' x hx hx'
      exact hdisjoint.agree h₀ h₀' hread hread' hx hx'
    · intro address' length' h₀' hstart hstop
      exact hdisjoint.read_part h₀' hstart hstop hread
  · intro address v hread
    exact hdisjoint.exists_readDword_of_readPointer hread

/-- Two buffers side by side with an empty one between them, and one of another process across
both. -/
def adjacentRegions : BufferMemory :=
  [⟨(1 : Int), 0x10, [1, 2, 3, 4, 5, 6, 7, 8]⟩, ⟨(1 : Int), 0x18, []⟩, ⟨(1 : Int), 0x18, [9, 9]⟩,
    ⟨(2 : Int), 0x12, List.replicate 9 0⟩]

/-- A pointer that fills a buffer is made up of its two halves. A read of nothing between two
buffers is a part of a read of either. -/
theorem read_of_disjoint_sample :
    let reader := adjacentRegions.reader
    adjacentRegions.Disjoint (1 : Int) ∧
      (∃ low high, reader.readDword (1 : Int) 0x10 = .ok low ∧
        reader.readDword (1 : Int) 0x14 = .ok high ∧
        0x0807060504030201 = low.toNat + 2 ^ 32 * high.toNat) ∧
      reader.read (1 : Int) 0x18 0 = .ok [] ∧
      reader.read (1 : Int) 0x12 3 = .ok [3, 4, 5] := by
  intro reader
  have hdisjoint : adjacentRegions.Disjoint (1 : Int) := by decide
  obtain ⟨-, hpart, hpointer⟩ := read_of_disjoint adjacentRegions "buffer" (1 : Int) hdisjoint
  have hall : reader.read (1 : Int) 0x10 8 = .ok [1, 2, 3, 4, 5, 6, 7, 8] := rfl
  obtain ⟨-, hpart⟩ := hpart 0x10 8 _ (by decide) hall
  refine ⟨hdisjoint, hpointer 0x10 0x0807060504030201 rfl, ?_, ?_⟩
  · exact hpart 0x18 0 (by decide) (by decide) (by decide)
  · exact hpart 0x12 3 (by decide) (by decide) (by decide)

end PointerChain
