import PointerChain.Proofs.Memory.Delivery
import PointerChain.Proofs.Memory.Word

/-!
# Readers of one image

An image is the memory of a process from address zero on. It can lie in a buffer, in a memory file
or with the kernel; how a reader finds out that bytes are missing differs, which bytes it gives does
not.

* `MemoryReader.Serves` says that a reader gives the bytes of an image and reports all other reads.
* `BufferMemory.serves_reader`, `ProcessFiles.Holds.serves_reader` and
  `Kernel.Copies.serves_toReader` prove it for the three readers.
* `MemoryReader.Serves.readPointer` is a pointer that is read from an image.
-/

namespace PointerChain

/-- The bytes of an image from an address on, at most so many. -/
def Bytes.window (image : Bytes) (address length : Nat) : Bytes :=
  (image.drop address).take length

/-- A window is as long as was asked for unless the image ends first. -/
theorem Bytes.length_window (image : Bytes) (address length : Nat) :
    (image.window address length).length = min length (image.length - address) := by
  rw [window, List.length_take, List.length_drop]

/-- Between two ends that are in order, a slice is a window. -/
theorem Bytes.slice_eq_window (image : Bytes) {address length : Int} (h₀ : 0 ≤ address)
    (h₁ : 0 ≤ length) :
    image.slice address (address + length) = image.window address.toNat length.toNat := by
  have hstop : ¬address + length < 0 := by omega
  have hlength : (address + length).toNat - address.toNat = length.toNat := by omega
  simp only [slice, if_neg hstop]
  rw [List.drop_take, hlength, window]

variable {process : ProcessId} {number address length limit most : Int} {image : Bytes}

namespace MemoryReader

/-- A reader that gives the bytes of an image as the memory of a process, at least one and no more
than a limit at once, and fails to read what is not all in the image, if it is not asked for more
than the most. -/
structure Serves (reader : MemoryReader) (process : ProcessId) (image : Bytes)
    (limit most : Int) : Prop where
  /-- Inside the image, its bytes are given. -/
  inside : ∀ address length : Int, FitsUInt64 address → 1 ≤ length → length ≤ limit →
    address + length ≤ image.length →
      reader.read process address length = .ok (image.window address.toNat length.toNat)
  /-- Behind it, the read fails. -/
  outside : ∀ address length : Int, FitsUInt64 address → 1 ≤ length → length ≤ most →
    image.length < address + length →
      ∃ invalid, reader.FailsAt process address length invalid

variable {reader : MemoryReader}

/-- A reader serves an image if what arrives is what the image has, up to a bound that is not below
the limit. -/
theorem Serves.of_concludes (bound : Nat) (hbound : limit ≤ bound) (hmost : limit ≤ most)
    (h : ∀ address length : Int, FitsUInt64 address → 1 ≤ length → length ≤ most →
        reader.Concludes process address length
          (image.window address.toNat (min length.toNat bound))) :
    reader.Serves process image limit most where
  inside := by
    intro address length hword hpos hlimit hin
    -- Inside the image, what arrives is neither too short nor empty, so the read does not fail.
    have hlength := image.length_window address.toNat length.toNat
    have hconcludes := h address length hword hpos (Int.le_trans hlimit hmost)
    rw [Nat.min_eq_left (by omega)] at hconcludes
    obtain ⟨-, hread⟩ | ⟨hshort | hnil, -⟩ := hconcludes
    · rwa [Bytes.window, List.take_take, Nat.min_self, ← Bytes.window] at hread
    · omega
    · rw [hnil, List.length_nil] at hlength
      omega
  outside := by
    intro address length hword hpos hlength hout
    have harrived := image.length_window address.toNat (min length.toNat bound)
    exact ⟨_, (h address length hword hpos hlength).failsAt (by omega)⟩

end MemoryReader

/-! ### The three readers -/

/-- A buffer that is placed at address zero. -/
theorem BufferMemory.serves_reader (number : Int) (image : Bytes) (name : String) (limit : Int)
    (hmost : FitsInt64 most) :
    ((BufferMemory.add [] number 0 image).reader name).Serves number image limit most where
  inside := by
    intro address length hword hpos _ hin
    have hholds : (⟨number, 0, image⟩ : Region).holds number address length = true := by
      have hend : address + length ≤ 0 + image.length := by omega
      simp only [Region.holds, ProcessId.isSame_ofInt, hword.1, hend, decide_true, Bool.and_self]
    have hfind : (BufferMemory.add [] number 0 image).find? number address length =
        some ⟨number, 0, image⟩ := by
      simp only [add, find?, List.find?_cons, hholds]
    have hread : (reader (add [] number 0 image) name).read number address length = _ :=
      read_of_find?_eq_some rfl hfind
    rw [hread, Int.sub_zero, image.slice_eq_window hword.1 (by omega)]
  outside := by
    intro address length hword hpos hlength hout
    have hholds : (⟨number, 0, image⟩ : Region).holds number address length = false := by
      have hend : ¬address + length ≤ 0 + image.length := by omega
      simp only [Region.holds, hend, decide_false, Bool.and_false]
    have hfits : FitsInt64 length := by
      unfold FitsInt64 at *
      omega
    refine ⟨_, failsAt_of_find?_eq_none rfl (isUnwritable_of_fitsInt64 hfits) ?_⟩
    simp only [add, find?, List.find?_cons, hholds, List.find?_nil]

/-- A memory file that holds an image. -/
structure ProcessFiles.Holds (files : ProcessFiles) (store : Host.FileStore) (process : ProcessId)
    (image : Bytes) : Prop where
  /-- The directory is one that can be there. -/
  plain : '\x00' ∉ files.root.toList
  /-- The memory file is there and holds the image. -/
  contents : ∃ path, files.location process = .ok path ∧ store.read path = .ok image

namespace ProcessFiles.Holds

variable {files : ProcessFiles} {store : Host.FileStore}

/-- A process that has a memory file can be shown. -/
theorem isUnwritable_eq_false (h : files.Holds store process image) :
    process.isUnwritable = false := by
  obtain ⟨path, hpath, -⟩ := h.contents
  unfold location at hpath
  split at hpath
  next => cases hpath
  next hprocess => exact Bool.not_eq_true _ ▸ hprocess

/-- What arrives is what the image has, but not more than the system gives for one request. -/
theorem concludes_reader (h : files.Holds store number image) (hsize : FitsInt64 image.length)
    (hword : FitsUInt64 address) (h₀ : 0 ≤ length) (h₁ : length ≤ largestBuffer)
    (hroom : length < files.room) :
    (files.reader store).Concludes number address length
      (image.window address.toNat (min length.toNat largestRequest)) := by
  obtain ⟨path, hpath, hcontents⟩ := h.contents
  have hnumber : Text.isUnwritable number = false := by simpa using h.isUnwritable_eq_false
  have hzero : Host.Path.holdsZero path = false := by
    obtain ⟨path', hpath', hzero⟩ := files.location_ofInt hnumber
    obtain rfl := Except.ok.inj (hpath.symm.trans hpath')
    rw [hzero, List.contains_eq_mem, decide_eq_false h.plain]
  have harrived : files.arrived store number address length =
      image.window address.toNat (min length.toNat largestRequest) := by
    rw [arrived, hpath, Except.toOption, Option.bind_some, hcontents, Except.toOption, Option.elim]
    split
    next => rfl
    next hbeyond =>
      -- A file that the image fits in ends in front of such an address.
      have hbehind : image.length ≤ address.toNat := by
        unfold FitsInt64 FitsUInt64 at *
        omega
      rw [Bytes.window, List.drop_eq_nil_of_le hbehind, List.take_nil]
  exact harrived ▸ ProcessFiles.concludes_reader hpath hzero h₀ h₁ hroom

theorem serves_reader (h : files.Holds store number image) (hsize : FitsInt64 image.length)
    (hrequest : limit ≤ largestRequest) (hlimit : limit ≤ most) (hmost : most ≤ largestBuffer)
    (hroom : most < files.room) :
    (files.reader store).Serves number image limit most :=
  .of_concludes largestRequest hrequest hlimit fun _ _ hword hpos hlength =>
    h.concludes_reader hsize hword (by omega) (by omega) (by omega)

/-- One request gives too little of an image for a longer read, and the address behind that is
reported although the image goes on there. -/
theorem failsAt_of_largestRequest_lt (h : files.Holds store number image)
    (hsize : FitsInt64 image.length) (hword : FitsUInt64 address) (hlong : largestRequest < length)
    (h₁ : length ≤ largestBuffer) (hroom : length < files.room)
    (hin : address + length ≤ image.length) :
    (files.reader store).FailsAt number address length (address + largestRequest) := by
  have hconcludes := h.concludes_reader hsize hword (by omega) h₁ hroom
  have hlength : (image.window address.toNat (min length.toNat largestRequest)).length =
      largestRequest := by
    have haddress := hword.1
    rw [Bytes.length_window]
    omega
  have hfails := hconcludes.failsAt (by omega)
  rwa [hlength] at hfails

end ProcessFiles.Holds

/-- A kernel that copies what an image has of a stretch of memory of a process, and refuses where
that is nothing. Stretches without a byte do not matter. -/
def Kernel.Copies (kernel : Kernel) (number : Int) (image : Bytes) : Prop :=
  ∀ (address : Address) (length : Nat), 0 < length →
    if image.window address.toNat length = [] then
      ∃ fault, kernel ⟨Int32.ofInt number, address, length⟩ = .refused fault
    else
      kernel ⟨Int32.ofInt number, address, length⟩ = .copied (image.window address.toNat length)

/-- The kernel that has an image as the memory of every process. -/
def Kernel.ofImage (image : Bytes) (fault : Nat) : Kernel := fun request =>
  let found := image.window request.address.toNat request.length
  if found = [] ∧ 0 < request.length then .refused fault else .copied found

theorem Kernel.copies_ofImage (image : Bytes) (fault : Nat) (number : Int) :
    (Kernel.ofImage image fault).Copies number image := by
  intro address length hpos
  split
  next hnil => exact ⟨fault, if_pos ⟨hnil, hpos⟩⟩
  next hsome => exact if_neg fun h => hsome h.1

theorem Kernel.Copies.serves_toReader {kernel : Kernel} {transfers : TransferReader}
    (h : kernel.Copies number image) (havailable : transfers.isAvailable = true)
    (hlimit : limit ≤ most) (hmost : FitsInt64 most) (hroom : most < transfers.room) :
    (transfers.toReader kernel).Serves number image limit most := by
  refine .of_concludes most.toNat (by omega) hlimit fun address length hword hpos hlength => ?_
  have haddress : (UInt64.ofInt address).toNat = address.toNat := by
    have htoNat := toNat_ofInt address
    unfold FitsUInt64 at hword
    omega
  -- If nothing of the range is in the image the kernel refuses, and the window is empty as well.
  have harrived : transfers.arrived kernel number address length =
      image.window address.toNat (min length.toNat most.toNat) := by
    have hcopies := h (UInt64.ofInt address) length.toNat (by omega)
    rw [haddress] at hcopies
    rw [TransferReader.arrived, if_pos havailable, Nat.min_eq_left (by omega)]
    split at hcopies
    next hnil =>
      obtain ⟨fault, hrefused⟩ := hcopies
      rw [hrefused, hnil, TransferAnswer.bytes]
    next => rw [hcopies, TransferAnswer.bytes]
  have hfits : FitsInt64 length := by
    unfold FitsInt64 at *
    omega
  exact harrived ▸ TransferReader.concludes_toReader (by omega) hfits (by omega)

/-- A buffer for too many bytes cannot be had, and no transfer is asked for. -/
theorem TransferReader.read_of_room_le {kernel : Kernel} {transfers : TransferReader}
    (havailable : transfers.isAvailable = true) (h : transfers.room ≤ length) :
    (transfers.toReader kernel).read process address length =
      .error (.refused (if FitsInt64 length then .noMemory else .hugeLength)) := by
  have hrequest : transfers.request process address length =
      .error (.refused (if FitsInt64 length then .noMemory else .hugeLength)) := by
    rw [request, havailable]
    by_cases hfits : FitsInt64 length
    · have hpos : ¬length < 0 := by omega
      rw [if_neg (Decidable.not_not.mpr hfits), if_neg hpos, if_pos h, if_pos hfits]
      rfl
    · rw [if_pos hfits, if_neg hfits]
      rfl
  simp only [toReader, read, hrequest]
  rfl

/-! ### Pointers -/

/-- A pointer in an image is what its eight bytes spell; behind the image there is none. -/
theorem MemoryReader.Serves.readPointer {reader : MemoryReader}
    (h : reader.Serves process image pointerSize pointerSize)
    (hprocess : process.isUnwritable = false) (a : Address) :
    if a.toNat + pointerSize ≤ image.length then
      reader.readPointer process a.toNat =
        .ok (UInt64.ofNat (image.window a.toNat pointerSize).ofLittleEndian)
    else ∃ report, reader.readPointer process a.toNat = .error (.failed report) ∧
      report.process = process := by
  have hword : FitsUInt64 a.toNat := ⟨Int.natCast_nonneg _, Int.ofNat_lt.mpr a.toNat_lt⟩
  split
  next hin =>
    have hread := h.inside a.toNat pointerSize hword (by decide) (Int.le_refl _)
      (by exact_mod_cast hin)
    have hlength : (image.window a.toNat pointerSize).length = pointerSize := by
      rw [Bytes.length_window]
      omega
    exact readPointer_of_read hread hlength
  next hout =>
    obtain ⟨invalid, hfails⟩ := h.outside a.toNat pointerSize hword (by decide) (Int.le_refl _)
      (by exact_mod_cast Nat.lt_of_not_le hout)
    obtain ⟨cause, hread⟩ := hfails.exists_cause hprocess
    exact ⟨_, readPointer_of_error hread, rfl⟩

end PointerChain
