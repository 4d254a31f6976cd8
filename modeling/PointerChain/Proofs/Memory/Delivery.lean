import PointerChain.Memory.Buffer
import PointerChain.Memory.ProcessFile
import PointerChain.Memory.Transfer
import PointerChain.Proofs.Outcome
import PointerChain.Proofs.Text.Unwritable

/-!
# All bytes or a report

A read of a process gives as many bytes as were asked for, or it is reported under the name of the
reader; a part of the bytes is never given. A report of a read for which too few bytes arrived is
about the first address behind them. There are no reports of a process that cannot be shown: a read
that would be reported ends with that fault then.

* `MemoryReader.Delivers` and `MemoryReader.Concludes` say this of one read, the latter with the
  bytes that arrived.
* `BufferMemory.delivers_reader`, `ProcessFiles.concludes_reader` and
  `TransferReader.concludes_toReader` prove it for the three readers, `read_delivers` puts them
  together.
-/

namespace PointerChain

namespace MemoryReader

/-- A read that is reported under the name of the reader, about an address of the process, unless
the process cannot be shown in a report. -/
def FailsAt (reader : MemoryReader) (process : ProcessId) (address length invalid : Int) : Prop :=
  if process.isUnwritable then
    reader.read process address length = .error (.refused .unwritable)
  else
    ∃ cause, reader.read process address length =
      .error (.failed ⟨reader.name, process, invalid, cause⟩)

/-- A read that gives as many bytes as were asked for, or fails. -/
def Delivers (reader : MemoryReader) (process : ProcessId) (address length : Int) : Prop :=
  (∃ bytes, reader.read process address length = .ok bytes ∧ (bytes.length : Int) = length) ∨
    ∃ invalid, reader.FailsAt process address length invalid

/-- A read for which some bytes arrived. It gives what was asked for of them, or it reports the
address behind them; the latter only if they are too few or there are none. -/
def Concludes (reader : MemoryReader) (process : ProcessId) (address length : Int)
    (arrived : Bytes) : Prop :=
  (length ≤ arrived.length ∧
    reader.read process address length = .ok (arrived.take length.toNat)) ∨
  ((arrived.length < length ∨ arrived = []) ∧
    reader.FailsAt process address length (address + arrived.length))

variable {reader : MemoryReader} {process : ProcessId} {address length invalid : Int}

/-- A read about which nothing can be reported fails at any address. -/
theorem FailsAt.of_unwritable (hprocess : process.isUnwritable = true)
    (h : reader.read process address length = .error (.refused .unwritable)) :
    reader.FailsAt process address length invalid := by
  rwa [FailsAt, if_pos hprocess]

/-- What fails of a process that can be shown is reported. -/
theorem FailsAt.exists_cause (h : reader.FailsAt process address length invalid)
    (hprocess : process.isUnwritable = false) :
    ∃ cause, reader.read process address length =
      .error (.failed ⟨reader.name, process, invalid, cause⟩) := by
  rwa [FailsAt, hprocess, if_neg Bool.false_ne_true] at h

/-- A read that fails gives no bytes. -/
theorem FailsAt.read_ne_ok (h : reader.FailsAt process address length invalid) (bytes : Bytes) :
    reader.read process address length ≠ .ok bytes := by
  intro hread
  unfold FailsAt at h
  split at h
  next => exact nomatch hread.symm.trans h
  next =>
    obtain ⟨cause, hcause⟩ := h
    exact nomatch hread.symm.trans hcause

/-- What comes of a report is what fails, if the cause can be worded. -/
theorem FailsAt.of_raised (cause : ReadCause) (hcause : cause.isUnwritable = false)
    (h : reader.read process address length =
      .error (ReadReport.raised ⟨reader.name, process, invalid, cause⟩)) :
    reader.FailsAt process address length invalid := by
  cases hprocess : process.isUnwritable with
  | true =>
    rw [ReadReport.raised_of_unwritable hprocess] at h
    exact .of_unwritable hprocess h
  | false =>
    have hwritable : ReadReport.isUnwritable ⟨reader.name, process, invalid, cause⟩ = false := by
      rw [ReadReport.isUnwritable, hprocess, hcause, Bool.or_false]
    rw [FailsAt, hprocess, if_neg Bool.false_ne_true]
    exact ⟨cause, h.trans (by rw [ReadReport.raised_of_writable hwritable])⟩

namespace Concludes

variable {arrived : Bytes}

theorem of_read_eq (cause : ReadCause) (hcause : cause.isUnwritable = false)
    (h : reader.read process address length =
      if arrived.length < length then
        .error (ReadReport.raised ⟨reader.name, process, address + arrived.length, cause⟩)
      else .ok (arrived.take length.toNat)) :
    reader.Concludes process address length arrived := by
  by_cases hshort : arrived.length < length
  · exact .inr ⟨.inl hshort, .of_raised cause hcause (h.trans (if_pos hshort))⟩
  · exact .inl ⟨Int.not_lt.mp hshort, h.trans (if_neg hshort)⟩

theorem of_failsAt (h : reader.FailsAt process address length address) :
    reader.Concludes process address length [] :=
  .inr ⟨.inr rfl, by simpa using h⟩

theorem delivers (h : reader.Concludes process address length arrived) (h₀ : 0 ≤ length) :
    reader.Delivers process address length := by
  obtain ⟨henough, hread⟩ | ⟨-, hfails⟩ := h
  · refine .inl ⟨_, hread, ?_⟩
    rw [List.length_take]
    omega
  · exact .inr ⟨_, hfails⟩

theorem failsAt (h : reader.Concludes process address length arrived)
    (hshort : arrived.length < length) :
    reader.FailsAt process address length (address + arrived.length) :=
  h.elim (fun ⟨henough, _⟩ => absurd hshort (Int.not_lt.mpr henough)) (·.2)

end Concludes

end MemoryReader

variable {process : ProcessId} {address length : Int}

/-- A number that fits into 64 bits can be written. -/
theorem isUnwritable_of_fitsInt64 (h : FitsInt64 length) : Text.isUnwritable length = false :=
  Text.isUnwritable_eq_false (k := 20) (by unfold FitsInt64 at h; omega) (by decide)

/-! ### Buffers -/

namespace BufferMemory

variable {memory : BufferMemory} {name : String} {r : Region}

/-- The region that serves a read is one of the process and holds all of the bytes. -/
theorem of_find?_eq_some (h : memory.find? process address length = some r) :
    r ∈ memory ∧ r.process.isSame process = true ∧ r.offset ≤ address ∧
      address + length ≤ r.offset + r.bytes.length := by
  unfold find? at h
  have hholds := List.find?_some h
  simp only [Region.holds, Bool.and_eq_true, decide_eq_true_eq, and_assoc] at hholds
  exact ⟨List.mem_of_find?_eq_some h, hholds⟩

/-- The region that serves a read gives its bytes. -/
theorem read_of_find?_eq_some (hplain : process.compound = none)
    (h : memory.find? process address length = some r) :
    memory.read name process address length =
      .ok (r.bytes.slice (address - r.offset) (address - r.offset + length)) := by
  obtain ⟨hmem, hsame, -⟩ := of_find?_eq_some h
  have hprocess : memory.hasProcess process = true := List.any_eq_true.mpr ⟨r, hmem, hsame⟩
  rw [read, hplain]
  simp only [hprocess, h, if_true]

/-- A read that succeeds was served by a region. -/
theorem exists_find?_of_read {bytes : Bytes}
    (h : memory.read name process address length = .ok bytes) :
    process.compound = none ∧ ∃ r, memory.find? process address length = some r := by
  unfold read at h
  split at h
  next => cases h
  next hplain =>
    split at h
    next =>
      split at h
      next r hfind => exact ⟨hplain, r, hfind⟩
      next => cases h
    next => cases h

/-- A read that no region serves fails. -/
theorem failsAt_of_find?_eq_none (hplain : process.compound = none)
    (hlength : Text.isUnwritable length = false)
    (h : memory.find? process address length = none) :
    (memory.reader name).FailsAt process address length address := by
  by_cases hprocess : memory.hasProcess process = true
  · refine .of_raised (.outsideBuffers (.integer length)) ?_ ?_
    · rwa [ReadCause.isUnwritable, Json.isUnwritable]
    · simp only [reader, read, hplain, hprocess, h, if_true]
  · refine .of_raised .noSuchProcess rfl ?_
    simp only [reader, read, hplain, if_neg hprocess]

theorem delivers_reader (hplain : process.compound = none) (h₀ : 0 ≤ length)
    (hlength : Text.isUnwritable length = false) :
    (memory.reader name).Delivers process address length := by
  cases h : memory.find? process address length with
  | none => exact .inr ⟨_, failsAt_of_find?_eq_none hplain hlength h⟩
  | some r =>
    obtain ⟨-, -, hstart, hstop⟩ := of_find?_eq_some h
    refine .inl ⟨_, read_of_find?_eq_some hplain h, ?_⟩
    rw [Bytes.length_slice] <;> omega

end BufferMemory

/-! ### Files -/

namespace ProcessFiles

variable {files : ProcessFiles} {store : Host.FileStore} {contents : Host.Contents}

/-- The bytes that arrive from a memory file: none if there is no such file, none from places that
no file reaches, and never more than the system gives for one request. -/
def arrived (files : ProcessFiles) (store : Host.FileStore) (process : ProcessId)
    (address length : Int) : Bytes :=
  ((files.location process).toOption.bind fun path => (store.read path).toOption).elim []
    fun contents =>
      if 0 ≤ address ∧ FitsInt64 address then
        (contents.drop address.toNat).take (min length.toNat largestRequest)
      else []

/-- The path of a memory file holds a zero character only where the path of the directory does. -/
theorem location_ofInt {number : Int} (h : Text.isUnwritable number = false) :
    ∃ path, files.location number = .ok path ∧
      Host.Path.holdsZero path = files.root.toList.contains '\x00' := by
  -- A number is written without slashes and zero characters, so it neither replaces the path of the
  -- directory nor adds a zero to it.
  have hlabel : (number : ProcessId).label = toString number := rfl
  have hrooted : Host.Path.isRooted (toString number) = false :=
    Host.Path.isRooted_ofString fun hc =>
      absurd (Text.isDigit_or_eq_minus_of_mem_toString hc) (by decide)
  have hzero : Host.Path.holdsZero (toString number) = false := by
    rw [Host.Path.holdsZero_ofString, ← Bool.not_eq_true, List.contains_iff_mem]
    exact fun hc => absurd (Text.isDigit_or_eq_minus_of_mem_toString hc) (by decide)
  refine ⟨_, by rw [location, ProcessId.isUnwritable_ofInt, h, if_neg Bool.false_ne_true], ?_⟩
  rw [Host.Path.holdsZero_text, Host.Path.holdsZero_join (by decide), hlabel,
    Host.Path.holdsZero_join hrooted, hzero, Host.Path.holdsZero_ofString]
  simp

theorem transfer_eq_ok (haddress : 0 ≤ address) (hfits : FitsInt64 address) (h₀ : 0 ≤ length)
    (h₁ : length ≤ largestBuffer) :
    transfer contents address length =
      .ok ((contents.drop address.toNat).take (min length.toNat largestRequest)) := by
  have hlength : FitsInt64 length := by
    unfold FitsInt64 largestBuffer at *
    omega
  rw [transfer, if_neg (Decidable.not_not.mpr hfits), if_neg (Int.not_lt.mpr haddress),
    if_neg (Decidable.not_not.mpr hlength), if_neg (Int.not_lt.mpr h₁)]
  simp only [if_neg (Int.not_lt.mpr h₀)]

/-- A file cannot be positioned in front of its start, nor beyond what a file can be as long as. -/
theorem exists_transfer_eq_error (contents : Host.Contents) (length : Int)
    (h : ¬(0 ≤ address ∧ FitsInt64 address)) :
    ∃ trouble, transfer contents address length = .error trouble := by
  by_cases hfits : FitsInt64 address
  · have haddress : address < 0 := by omega
    exact ⟨_, by rw [transfer, if_neg (Decidable.not_not.mpr hfits), if_pos haddress]⟩
  · exact ⟨_, by rw [transfer, if_pos hfits]⟩

@[simp]
theorem read_reader : (files.reader store).read = files.read store := by
  simp only [reader]

/-- Nothing is read where there is no path. -/
theorem read_of_location_error {fault : RequestFault} (h : files.location process = .error fault) :
    files.read store process address length = .error (.refused fault) := by
  rw [read, h]
  rfl

/-- There is no file for a process that cannot be shown. -/
theorem failsAt_of_unwritable (h : process.isUnwritable = true) (invalid : Int) :
    (files.reader store).FailsAt process address length invalid :=
  .of_unwritable h (read_of_location_error (by rw [location, if_pos h]))

section Path

variable {path : String} (hpath : files.location process = .ok path)

include hpath

/-- No file has a path with a zero character. -/
theorem read_of_holdsZero (h : Host.Path.holdsZero path = true) :
    files.read store process address length = .error (.refused .zeroInPath) := by
  rw [read, hpath]
  simp only [Except.mapError, bind, Except.bind, h, if_true]
  rfl

variable (hzero : Host.Path.holdsZero path = false)

include hzero

/-- A file that cannot be opened fails. -/
theorem failsAt_of_fault {fault : Host.Fault} (h : store.read path = .error fault) :
    (files.reader store).FailsAt process address length address := by
  refine .of_raised (.file path (.system fault)) rfl ?_
  rw [read_reader, read, hpath]
  simp only [Except.mapError, bind, Except.bind, hzero, h, Bool.false_eq_true, if_false]
  rfl

/-- A read from a file that is open. -/
theorem read_of_open (hopen : store.read path = .ok contents) :
    files.read store process address length =
      (transfer contents address length).mapError
        (fun trouble => ReadReport.raised ⟨files.name, process, address, .file path trouble⟩) >>=
      fun bytes =>
      if files.room ≤ length then .error (.refused .noMemory)
      else if (bytes.length : Int) < length then
        .error (ReadReport.raised ⟨files.name, process, address + bytes.length, .shortFile path⟩)
      else .ok bytes := by
  rw [read, hpath]
  simp only [Except.mapError, bind, Except.bind, hzero, hopen, Bool.false_eq_true, if_false]
  rfl

/-- A file that cannot be read from the address on fails. -/
theorem failsAt_of_trouble (hopen : store.read path = .ok contents) {trouble : FileTrouble}
    (h : transfer contents address length = .error trouble) :
    (files.reader store).FailsAt process address length address := by
  refine .of_raised (.file path trouble) rfl ?_
  rw [read_reader, read_of_open hpath hzero hopen, h]
  rfl

/-- What one request gives of a file is given if it is enough, and its end fails otherwise. -/
theorem concludes_of_transfer (hopen : store.read path = .ok contents) (h₁ : length < files.room)
    {bytes : Bytes} (hbytes : bytes.length ≤ length.toNat)
    (h : transfer contents address length = .ok bytes) :
    (files.reader store).Concludes process address length bytes := by
  refine .of_read_eq (.shortFile path) rfl ?_
  rw [read_reader, read_of_open hpath hzero hopen, h, List.take_of_length_le hbytes]
  exact if_neg (Int.not_le.mpr h₁)

/-- What arrives from a file decides a read. -/
theorem concludes_reader (h₀ : 0 ≤ length) (h₁ : length ≤ largestBuffer)
    (hroom : length < files.room) :
    (files.reader store).Concludes process address length
      (files.arrived store process address length) := by
  rw [arrived, hpath, Except.toOption, Option.bind_some]
  -- Nothing arrives from a file that cannot be opened or positioned, and it fails in any case.
  cases hopen : store.read path with
  | error fault => exact .of_failsAt (failsAt_of_fault hpath hzero hopen)
  | ok contents =>
    rw [Except.toOption, Option.elim]
    split
    next h =>
      refine concludes_of_transfer hpath hzero hopen hroom ?_ (transfer_eq_ok h.1 h.2 h₀ h₁)
      rw [List.length_take]
      omega
    next h =>
      obtain ⟨trouble, htransfer⟩ := exists_transfer_eq_error contents length h
      exact .of_failsAt (failsAt_of_trouble hpath hzero hopen htransfer)

end Path

end ProcessFiles

/-! ### Transfers -/

/-- The bytes that come with an answer. -/
def TransferAnswer.bytes : TransferAnswer → Bytes
  | copied bytes => bytes
  | refused _ => []

namespace TransferReader

variable {transfers : TransferReader} {kernel : Kernel} {number : Int}

/-- The bytes that arrive from the kernel: none if the system copies no memory of other processes or
refuses to. -/
def arrived (transfers : TransferReader) (kernel : Kernel) (number address length : Int) : Bytes :=
  if transfers.isAvailable then
    (kernel ⟨Int32.ofInt number, UInt64.ofInt address, length.toNat⟩).bytes
  else []

/-- Where the system copies no memory of other processes, every read fails. -/
theorem failsAt_of_not_isAvailable (h : transfers.isAvailable = false) :
    (transfers.toReader kernel).FailsAt process address length address := by
  refine .of_raised .unavailable rfl ?_
  simp only [toReader, read, request, h]
  rfl

section Available

variable (havailable : transfers.isAvailable = true) (h₀ : 0 ≤ length) (hlength : FitsInt64 length)
  (hroom : length < transfers.room)

include havailable h₀ hlength hroom

/-- The answer of the kernel decides a read of a process with a number. -/
theorem read_ofInt : (transfers.toReader kernel).read number address length =
    transfers.conclude number address length
      (kernel ⟨Int32.ofInt number, UInt64.ofInt address, length.toNat⟩) := by
  have hrequest : transfers.request number address length =
      .ok ⟨Int32.ofInt number, UInt64.ofInt address, length.toNat⟩ := by
    rw [request, havailable, if_neg (Decidable.not_not.mpr hlength), if_neg (Int.not_lt.mpr h₀),
      if_neg (Int.not_le.mpr hroom)]
    rfl
  simp only [toReader, read, hrequest]
  rfl

end Available

/-- What arrives from the kernel decides a read. -/
theorem concludes_toReader (h₀ : 0 ≤ length) (hlength : FitsInt64 length)
    (hroom : length < transfers.room) :
    (transfers.toReader kernel).Concludes number address length
      (transfers.arrived kernel number address length) := by
  unfold arrived
  cases havailable : transfers.isAvailable with
  | false => exact .of_failsAt (failsAt_of_not_isAvailable havailable)
  | true =>
    have hread : (transfers.toReader kernel).read number address length = _ :=
      read_ofInt havailable h₀ hlength hroom
    rw [if_pos rfl]
    cases hanswer : kernel ⟨Int32.ofInt number, UInt64.ofInt address, length.toNat⟩ with
    | refused fault =>
      rw [hanswer, conclude] at hread
      exact .of_failsAt (.of_raised _ rfl hread)
    | copied bytes =>
      rw [hanswer, conclude] at hread
      exact .of_read_eq _ rfl hread

end TransferReader

/-! ### All readers -/

/-- A read of a process with a number gives as many bytes as were asked for or fails, with the name
of the reader and the process. If fewer bytes arrived, readers of files and of transfers report the
address behind them. Only a directory that has a zero character in its path makes no sense to a
reader of files. -/
theorem read_delivers (number address length : Int) (h₀ : 0 ≤ length)
    (h₁ : length ≤ ProcessFiles.largestBuffer) :
    (∀ (memory : BufferMemory) (name : String),
      (memory.reader name).Delivers number address length) ∧
    (∀ (files : ProcessFiles) (store : Host.FileStore), length < files.room →
      if '\x00' ∈ files.root.toList ∧ Text.isUnwritable number = false then
        (files.reader store).read number address length = .error (.refused .zeroInPath)
      else
        let arrived := files.arrived store number address length
        (files.reader store).Delivers number address length ∧
          (arrived.length < length →
            (files.reader store).FailsAt number address length (address + arrived.length))) ∧
    (∀ (transfers : TransferReader) (kernel : Kernel), length < transfers.room →
      let arrived := transfers.arrived kernel number address length
      (transfers.toReader kernel).Delivers number address length ∧
        (arrived.length < length →
          (transfers.toReader kernel).FailsAt number address length
            (address + arrived.length))) := by
  have hfits : FitsInt64 length := by
    unfold FitsInt64 ProcessFiles.largestBuffer at *
    omega
  refine ⟨?_, ?_, ?_⟩
  · intro memory name
    exact BufferMemory.delivers_reader rfl h₀ (isUnwritable_of_fitsInt64 hfits)
  · intro files store hroom
    cases hnumber : Text.isUnwritable number with
    | true =>
      have hprocess : (number : ProcessId).isUnwritable = true := by simpa using hnumber
      rw [if_neg (by simp)]
      exact ⟨.inr ⟨address, ProcessFiles.failsAt_of_unwritable hprocess _⟩,
        fun _ => ProcessFiles.failsAt_of_unwritable hprocess _⟩
    | false =>
      -- The number of the process adds no zero character to the path of the directory.
      obtain ⟨path, hpath, hzero⟩ := files.location_ofInt hnumber
      by_cases hroot : '\x00' ∈ files.root.toList
      · rw [List.contains_iff_mem.mpr hroot] at hzero
        rw [if_pos ⟨hroot, rfl⟩, ProcessFiles.read_reader,
          ProcessFiles.read_of_holdsZero hpath hzero]
      · rw [List.contains_eq_mem, decide_eq_false hroot] at hzero
        have hconcludes : (files.reader store).Concludes number address length _ :=
          ProcessFiles.concludes_reader hpath hzero h₀ h₁ hroom
        rw [if_neg fun h => hroot h.1]
        exact ⟨hconcludes.delivers h₀, hconcludes.failsAt⟩
  · intro transfers kernel hroom
    have hconcludes : (transfers.toReader kernel).Concludes number address length _ :=
      TransferReader.concludes_toReader h₀ hfits hroom
    exact ⟨hconcludes.delivers h₀, hconcludes.failsAt⟩

/-- The files of a machine on which process 1 has three bytes of memory. -/
def sampleStore : Host.FileStore :=
  Host.FileStore.put { workingPlace := [] } "/proc/1/mem" [1, 2, 3]

/-- Of eight bytes from the third one on, one arrives; the address behind it is reported. -/
theorem read_delivers_sample :
    (ProcessFiles.reader { room := 64 } sampleStore).FailsAt (1 : Int) 2 8 3 ∧
      (TransferReader.toReader { room := 64 } fun _ => .copied [3]).FailsAt (1 : Int) 2 8 3 ∧
      ((BufferMemory.add [] (1 : Int) 0 [1, 2, 3]).reader).Delivers (1 : Int) 2 8 := by
  obtain ⟨hbuffers, hfiles, htransfers⟩ := read_delivers 1 2 8 (by decide) (by decide)
  have hfile := hfiles { room := 64 } sampleStore (by decide)
  rw [if_neg (by decide)] at hfile
  have harrived : ProcessFiles.arrived { room := 64 } sampleStore (1 : Int) 2 8 = [3] := by
    decide +kernel
  rw [harrived] at hfile
  exact ⟨hfile.2 (by decide),
    (htransfers { room := 64 } (fun _ => .copied [3]) (by decide)).2 (by decide), hbuffers _ _⟩

/-- The files below a directory that has a zero character in its path. -/
def zeroFiles : ProcessFiles := { root := "pr\x00oc", room := 64 }

/-- A read from these files gives no bytes and is not reported. -/
theorem not_delivers_zeroFiles : ¬ (zeroFiles.reader sampleStore).Delivers (1 : Int) 0 8 := by
  have hone : Text.isUnwritable 1 = false := by decide
  obtain ⟨path, hpath, hzero⟩ := zeroFiles.location_ofInt hone
  have hread : (zeroFiles.reader sampleStore).read (1 : Int) 0 8 =
      .error (.refused .zeroInPath) := by
    rw [ProcessFiles.read_reader, ProcessFiles.read_of_holdsZero hpath (hzero.trans (by decide))]
  rintro (⟨bytes, hbytes, -⟩ | ⟨invalid, hfails⟩)
  · exact nomatch hread.symm.trans hbytes
  · obtain ⟨cause, hfails⟩ := hfails.exists_cause (by rwa [ProcessId.isUnwritable_ofInt])
    exact nomatch hread.symm.trans hfails

end PointerChain
