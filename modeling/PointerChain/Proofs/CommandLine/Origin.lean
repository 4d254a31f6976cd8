import Mathlib.Tactic.SplitIfs
import PointerChain.Main
import PointerChain.Proofs.Expression.TokenSum
import PointerChain.Proofs.Memory.Image
import PointerChain.Proofs.Outcome

/-!
# Where sources of memory take their bytes from

A source of memory takes its bytes from buffers, from memory files or from a system that copies
memory. When it gives bytes and is not asked for a negative number of them, they are those that are
there, as many as asked for.

* `Origin` is where a source takes its bytes from; `Origin.Holds` says which bytes are there.
* `byteCount?` is the number of bytes that a value asks for.
* `BufferMemory.holds_of_read`, `ProcessFiles.holds_of_read` and `TransferReader.holds_of_read` are
  about the readers, and `Origin.holds_of_readAmount` is about every source.
-/

namespace PointerChain

/-! ### Reads that succeed -/

variable {process : ProcessId} {address length : Int} {bytes : Bytes}

/-- The bytes that buffers give are those of a region, as many as asked for. -/
theorem BufferMemory.holds_of_read {memory : BufferMemory} {name : String} (h₀ : 0 ≤ length)
    (h : memory.read name process address length = .ok bytes) :
    (bytes.length : Int) = length ∧
      ∃ r ∈ memory, r.process.isSame process = true ∧ r.offset ≤ address ∧
        r.bytes.window (address - r.offset).toNat bytes.length = bytes := by
  obtain ⟨hplain, r, hfind⟩ := exists_find?_of_read h
  obtain ⟨hmem, hsame, hstart, hstop⟩ := of_find?_eq_some hfind
  -- For a length that is not negative, slicing is taking bytes from a position on.
  rw [read_of_find?_eq_some hplain hfind,
    r.bytes.slice_eq_window (Int.sub_nonneg.mpr hstart) h₀] at h
  obtain rfl := Except.ok.inj h
  have hlength : (r.bytes.window (address - r.offset).toNat length.toNat).length =
      length.toNat := by
    rw [Bytes.length_window]
    omega
  refine ⟨by omega, r, hmem, hsame, hstart, ?_⟩
  rw [hlength]

theorem ProcessFiles.eq_take_of_transfer {contents : Host.Contents} (h₀ : 0 ≤ length)
    (h : transfer contents address length = .ok bytes) :
    bytes = (contents.drop address.toNat).take (min length.toNat largestRequest) := by
  unfold transfer at h
  dsimp only at h
  rw [if_neg (Int.not_lt.mpr h₀)] at h
  split_ifs at h
  exact (Except.ok.inj h).symm

/-- The bytes that a memory file gives are its own, as many as asked for. -/
theorem ProcessFiles.holds_of_read {files : ProcessFiles} {store : Host.FileStore}
    (h₀ : 0 ≤ length) (h : files.read store process address length = .ok bytes) :
    (bytes.length : Int) = length ∧
      ∃ path contents, files.location process = .ok path ∧ store.read path = .ok contents ∧
        Bytes.window contents address.toNat bytes.length = bytes := by
  cases hpath : files.location process with
  | error fault =>
    rw [read_of_location_error hpath] at h
    cases h
  | ok path =>
    cases hzero : Host.Path.holdsZero path with
    | true =>
      rw [read_of_holdsZero hpath hzero] at h
      cases h
    | false =>
      cases hopen : store.read path with
      | error fault => exact absurd h ((failsAt_of_fault hpath hzero hopen).read_ne_ok bytes)
      | ok contents =>
        rw [read_of_open hpath hzero hopen] at h
        obtain ⟨found, hfound, h⟩ := exists_of_bind_eq_ok h
        have hfound := eq_take_of_transfer h₀ (eq_ok_of_mapError_eq_ok hfound)
        split_ifs at h with _ hshort
        obtain rfl := Except.ok.inj h
        -- There are no more bytes than asked for, and the check for a short read passed.
        have hle : found.length ≤ min length.toNat largestRequest :=
          hfound ▸ List.length_take_le _ _
        have hlength : found.length = min length.toNat largestRequest := by omega
        refine ⟨by omega, path, contents, rfl, hopen, ?_⟩
        rw [hlength, Bytes.window, hfound]

/-- A request is for as many bytes as the read, of the process with the lowest bits of the number.
-/
theorem TransferReader.request_eq_ok {transfers : TransferReader} {request : TransferRequest}
    (h : transfers.request process address length = .ok request) :
    ∃ number, processNumber process = .ok number ∧ 0 ≤ length ∧
      request = ⟨Int32.ofInt number, UInt64.ofInt address, length.toNat⟩ := by
  simp only [TransferReader.request, bind, Except.bind, pure, Except.pure, throw, throwThe,
    MonadExceptOf.throw] at h
  split_ifs at h with _ _ hnegative
  cases hnumber : processNumber process with
  | error fault =>
    rw [hnumber] at h
    cases h
  | ok number =>
    rw [hnumber] at h
    exact ⟨number, rfl, Int.not_lt.mp hnegative, (Except.ok.inj h).symm⟩

/-- The bytes that a kernel gives are those that it copied, as many as asked for. -/
theorem TransferReader.holds_of_read {transfers : TransferReader} {kernel : Kernel}
    (h : transfers.read kernel process address length = .ok bytes) :
    (bytes.length : Int) = length ∧
      ∃ number copied, processNumber process = .ok number ∧
        kernel ⟨Int32.ofInt number, UInt64.ofInt address, bytes.length⟩ = .copied copied ∧
        copied.take bytes.length = bytes := by
  obtain ⟨request, hrequest, h⟩ := exists_of_bind_eq_ok h
  obtain ⟨number, hnumber, h₀, rfl⟩ := request_eq_ok hrequest
  -- A read for which the kernel copies too little fails, so as many bytes as asked for are there.
  cases hanswer : kernel ⟨Int32.ofInt number, UInt64.ofInt address, length.toNat⟩ with
  | refused fault =>
    rw [hanswer, conclude] at h
    cases h
  | copied copied =>
    rw [hanswer, conclude] at h
    split at h
    next => cases h
    next henough =>
      obtain rfl := Except.ok.inj h
      have hlength : (copied.take length.toNat).length = length.toNat := by
        rw [List.length_take]
        omega
      rw [hlength]
      exact ⟨Int.toNat_of_nonneg h₀, number, copied, hnumber, hanswer, rfl⟩

namespace CommandLine

/-! ### Sources -/

/-- Where a source of memory takes its bytes from. -/
inductive Origin where
  /-- Buffers. -/
  | buffers (memory : BufferMemory)
  /-- Memory that the system copies, with the crashes of amounts for which there is no buffer. -/
  | system (reader : TransferReader) (kernel : Kernel) (noBuffer : Json → Crash)
  /-- Memory files. -/
  | processFiles (files : ProcessFiles)

/-- The number of bytes that a value asks for. A truth value counts as zero or one; no other value
and no negative number asks for a number of bytes. -/
def byteCount? : Json → Option Nat
  | .integer n => if 0 ≤ n then some n.toNat else none
  | .bool b => some (if b then 1 else 0)
  | _ => none

namespace Origin

/-- The source of memory that takes its bytes from an origin. -/
def source (origin : Origin) (store : Host.FileStore) : Source :=
  match origin with
  | buffers memory => .ofBuffers memory
  | system reader kernel noBuffer => .ofTransfers reader kernel noBuffer
  | processFiles files => .ofProcessFiles files store

/-- The sources of memory, by name, that take their bytes from origins. -/
def sources (origins : List (String × Origin)) (store : Host.FileStore) : List (String × Source) :=
  origins.map fun o => (o.1, o.2.source store)

/-- Bytes that are at an address of a process: in a region of the process, in its memory file, or in
what the kernel copies if asked for as many bytes. The kernel sees only the lowest bits of the
number of a process. -/
def Holds (origin : Origin) (store : Host.FileStore) (process : ProcessId) (address : Address)
    (bytes : Bytes) : Prop :=
  match origin with
  | buffers memory =>
    ∃ r ∈ memory, r.process.isSame process = true ∧ r.offset ≤ address.toNat ∧
      r.bytes.window (address.toNat - r.offset).toNat bytes.length = bytes
  | system _ kernel _ =>
    ∃ number copied, TransferReader.processNumber process = .ok number ∧
      kernel ⟨Int32.ofInt number, address, bytes.length⟩ = .copied copied ∧
      copied.take bytes.length = bytes
  | processFiles files =>
    ∃ path contents, files.location process = .ok path ∧ store.read path = .ok contents ∧
      Bytes.window contents address.toNat bytes.length = bytes

variable {origin : Origin} {store : Host.FileStore} {a : Address} {amount : Json}

theorem holds_of_read (h₀ : 0 ≤ length)
    (h : (origin.source store).reader.read process a.toNat length = .ok bytes) :
    (bytes.length : Int) = length ∧ origin.Holds store process a bytes := by
  cases origin with
  | buffers memory => exact BufferMemory.holds_of_read h₀ h
  | system reader kernel noBuffer =>
    have hholds := TransferReader.holds_of_read h
    rwa [ofInt_toNat] at hholds
  | processFiles files =>
    simp only [source, Source.ofProcessFiles, ProcessFiles.read_reader] at h
    exact ProcessFiles.holds_of_read h₀ h

/-- An amount that is no integer gives bytes only if it is a truth value, and then as many as this
counts. -/
theorem read_of_readOdd (h : (origin.source store).readOdd process address amount = .ok bytes) :
    ∃ b : Bool, amount = .bool b ∧
      (origin.source store).reader.read process address (if b then 1 else 0) = .ok bytes := by
  cases origin with
  | buffers memory =>
    simp only [source, Source.ofBuffers, Source.readBuffers] at h ⊢
    split at h
    next hnone =>
      -- Without a process that can be looked up no read succeeds.
      obtain ⟨hplain, r, hfind⟩ := BufferMemory.exists_find?_of_read (eq_ok_of_mapError_eq_ok h)
      obtain ⟨hmem, hsame, -⟩ := BufferMemory.of_find?_eq_some hfind
      have hprocess : memory.hasProcess process = true := List.any_eq_true.mpr ⟨r, hmem, hsame⟩
      simp [hplain, hprocess] at hnone
    next =>
      split at h
      next b => exact ⟨b, rfl, eq_ok_of_mapError_eq_ok h⟩
      next => split at h <;> cases h
      next => cases h
  | system reader kernel noBuffer =>
    simp only [source, Source.ofTransfers] at h ⊢
    unfold Source.readTransfers at h
    split at h
    next b => exact ⟨b, rfl, eq_ok_of_mapError_eq_ok h⟩
    next =>
      split at h
      next => cases h
      next havailable =>
        -- Where the system copies nothing, a read of no bytes fails like any other.
        have hfails : (reader.toReader kernel).FailsAt process address 0 address :=
          TransferReader.failsAt_of_not_isAvailable (Bool.eq_false_iff.mpr havailable)
        exact absurd (eq_ok_of_mapError_eq_ok h) (hfails.read_ne_ok bytes)
  | processFiles files =>
    simp only [source, Source.ofProcessFiles] at h ⊢
    unfold Source.readProcessFiles at h
    -- For any amount but a truth value there is a read as a test, and then a crash.
    split at h
    next b => exact ⟨b, rfl, eq_ok_of_mapError_eq_ok h⟩
    next =>
      obtain ⟨_, -, h⟩ := exists_of_bind_eq_ok h
      cases h
    next =>
      obtain ⟨_, -, h⟩ := exists_of_bind_eq_ok h
      cases h

/-- A source gives the bytes that are there, as many as asked for. -/
theorem holds_of_readAmount (hamount : ∀ n, amount = .integer n → 0 ≤ n)
    (h : (origin.source store).readAmount process a.toNat amount = .ok bytes) :
    byteCount? amount = some bytes.length ∧ origin.Holds store process a bytes := by
  unfold Source.readAmount at h
  split at h
  next n =>
    have h₀ := hamount n rfl
    obtain ⟨hlength, hholds⟩ := holds_of_read h₀ (eq_ok_of_mapError_eq_ok h)
    refine ⟨?_, hholds⟩
    rw [byteCount?, if_pos h₀, ← hlength, Int.toNat_natCast]
  next =>
    -- Of the values that are no integers only the truth values count bytes, none or one.
    obtain ⟨b, rfl, hread⟩ := read_of_readOdd h
    obtain ⟨hlength, hholds⟩ := holds_of_read (by split <;> decide) hread
    refine ⟨?_, hholds⟩
    have hcount : bytes.length = if b then 1 else 0 := by
      cases b <;> exact Int.ofNat.inj hlength
    rw [byteCount?, hcount]

end Origin

/-- Where no memory is copied, a source has no use for amounts. -/
theorem unavailable_eq_ofTransfers (transfers : TransferReader) (noBuffer : Json → Crash) :
    Source.unavailable transfers =
      .ofTransfers { transfers with isAvailable := false } (fun _ => .copied []) noBuffer := by
  rw [Source.unavailable, Source.ofTransfers, Source.mk.injEq]
  refine ⟨rfl, ?_⟩
  funext process address amount
  cases amount <;> rfl

/-- The sources that the program offers take their bytes from origins. -/
theorem systemSources_eq_sources (noBuffer : Json → Crash) :
    systemSources = Origin.sources
      [("vm", .system { isAvailable := false, room := bufferRoom } (fun _ => .copied []) noBuffer),
        ("procfs", .processFiles { room := bufferRoom })] := by
  funext store
  rw [systemSources, unavailable_eq_ofTransfers _ noBuffer]
  rfl

end CommandLine

end PointerChain
