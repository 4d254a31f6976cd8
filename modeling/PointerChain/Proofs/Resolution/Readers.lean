import PointerChain.Proofs.Memory.Image
import PointerChain.Proofs.Resolution.Range

/-!
# Readers that stand in for one another

Where two readers give the same pointers and report the same reads, a resolution is the same with
either of them, up to the report that it may end with.

* `SameOrReported` and `Trace.Matches` compare what two readers lead to.
* `Target.matches_resolve` compares whole resolutions.
* `resolve_image` does so for a buffer, a memory file and a kernel that hold the same image.
-/

namespace PointerChain

/-- Two results that are the same, or reports of two reads of a process. -/
inductive SameOrReported {α : Type} (process : ProcessId) :
    Except ResolveError α → Except ResolveError α → Prop
  | same (x : Except ResolveError α) : SameOrReported process x x
  | reported {r r' : ReadReport} (h : r.process = process) (h' : r'.process = process) :
      SameOrReported process (.error (.read (.failed r))) (.error (.read (.failed r')))

/-- Two resolutions that do the same and end the same way, up to reports of reads of a process. -/
structure Trace.Matches {α : Type} (process : ProcessId) (x y : Traced α) : Prop where
  events : x.events = y.events
  result : SameOrReported process x.result y.result

namespace Trace.Matches

variable {α β : Type} {process : ProcessId}

theorem refl (x : Traced α) : Matches process x x := ⟨rfl, .same _⟩

/-- Sequences match if their parts do. -/
theorem bind {x y : Traced α} {f g : α → Traced β} (h : Matches process x y)
    (hfg : ∀ a, Matches process (f a) (g a)) : Matches process (x >>= f) (y >>= g) := by
  obtain ⟨events, x⟩ := x
  obtain ⟨events', y⟩ := y
  obtain ⟨rfl, hresult⟩ := h
  -- Both first parts end in reports, or they are one and the same.
  cases hresult with
  | reported h h' =>
    rw [bind_of_error rfl, bind_of_error rfl]
    exact ⟨rfl, .reported h h'⟩
  | same x =>
    cases x with
    | error e => exact .refl _
    | ok a =>
      rw [bind_of_ok rfl, bind_of_ok rfl]
      exact ⟨congrArg (events ++ ·) (hfg a).events, (hfg a).result⟩

end Trace.Matches

open Trace (Matches)

/-- Two readers that give the same pointers of a process, or report them both. -/
def MemoryReader.PointsAs (reader reader' : MemoryReader) (process : ProcessId) : Prop :=
  ∀ a : Address, SameOrReported process ((reader.readPointer process a.toNat).mapError .read)
    ((reader'.readPointer process a.toNat).mapError .read)

/-- Readers of one image give the same pointers. -/
theorem MemoryReader.Serves.pointsAs {reader reader' : MemoryReader} {process : ProcessId}
    {image : Bytes} (h : reader.Serves process image pointerSize pointerSize)
    (h' : reader'.Serves process image pointerSize pointerSize)
    (hprocess : process.isUnwritable = false) :
    reader.PointsAs reader' process := by
  intro a
  have hpointer := h.readPointer hprocess a
  have hpointer' := h'.readPointer hprocess a
  split at hpointer
  next hin =>
    rw [if_pos hin] at hpointer'
    rw [hpointer, hpointer']
    exact .same _
  next hout =>
    rw [if_neg hout] at hpointer'
    obtain ⟨report, hread, hreport⟩ := hpointer
    obtain ⟨report', hread', hreport'⟩ := hpointer'
    rw [hread, hread']
    exact .reported hreport hreport'

section Resolutions

variable {target : Target} {reader reader' : MemoryReader}
  (h : reader.PointsAs reader' target.process)

include h

/-- The reader counts for the pointer only, not for the address that it is read at. -/
theorem Target.matches_dereference (flat : String) :
    Matches target.process (dereference { target with reader } flat)
      (dereference { target with reader := reader' } flat) := by
  unfold dereference
  refine (Matches.refl (target.evaluate flat)).bind fun a => (Matches.refl _).bind fun _ => ?_
  have hpointer : Matches target.process
      (Trace.ofExcept ((reader.readPointer target.process a.toNat).mapError .read))
      (Trace.ofExcept ((reader'.readPointer target.process a.toNat).mapError .read)) := ⟨rfl, h a⟩
  exact hpointer.bind fun value => .refl _

variable {expression : String}

theorem Scan.matches_closing (position : Nat) (s : Scan) :
    Matches target.process (s.closing { target with reader } expression position)
      (s.closing { target with reader := reader' } expression position) := by
  unfold closing
  split
  next => exact .refl _
  next =>
    split
    next => exact (target.matches_dereference h s.current).bind fun value => .refl _
    next => exact .refl _

theorem Scan.matches_step (position : Nat) (s : Scan) (c : Char) :
    Matches target.process (s.step { target with reader } expression position c)
      (s.step { target with reader := reader' } expression position c) := by
  unfold step
  split
  next => exact .refl _
  next =>
    split
    next => exact s.matches_closing h position
    next => exact .refl _

theorem matches_scan (position : Nat) (s : Scan) (cs : List Char) :
    Matches target.process (scan { target with reader } expression position s cs)
      (scan { target with reader := reader' } expression position s cs) := by
  -- By induction on the characters, over every state, since a step may lead to any.
  induction cs generalizing position s with
  | nil => exact .refl _
  | cons c cs ih => exact (s.matches_step h position c).bind fun next => ih (position + 1) next

theorem Target.matches_resolveNested :
    Matches target.process (resolveNested { target with reader } expression)
      (resolveNested { target with reader := reader' } expression) := by
  obtain hpass | ⟨e, hstop⟩ := target.resolveNested_passes_or_stops expression
  · rw [hpass, hpass]
    exact (matches_scan h 0 Scan.start expression.toList).bind fun s => .refl _
  · rw [hstop, hstop]
    exact .refl _

theorem Target.matches_resolve (bits : Int) (expression : String) :
    Matches target.process (resolve { target with reader } bits expression)
      (resolve { target with reader := reader' } bits expression) := by
  unfold resolve
  exact (Matches.refl _).bind fun width => (target.matches_resolveNested h).bind
    fun value => .refl _

end Resolutions

/-! ### One image -/

section Image

variable {number limit most : Int} {image : Bytes} {files : ProcessFiles} {store : Host.FileStore}
variable {transfers : TransferReader} {kernel : Kernel}

/-- The readers of an image: of a buffer, of a memory file and of a kernel that hold it. -/
def imageReaders (number : Int) (image : Bytes) (name : String) (files : ProcessFiles)
    (store : Host.FileStore) (transfers : TransferReader) (kernel : Kernel) : List MemoryReader :=
  [(BufferMemory.add [] number 0 image).reader name, files.reader store, transfers.toReader kernel]

variable (name : String) (hsize : FitsInt64 image.length) (hfiles : files.Holds store number image)
  (havailable : transfers.isAvailable = true) (hkernel : kernel.Copies number image)

include hsize hfiles havailable hkernel

/-- All of them serve the image, as far as there are buffers and the system gives that much for one
request. -/
theorem serves_of_mem_imageReaders (hrequest : limit ≤ ProcessFiles.largestRequest)
    (hlimit : limit ≤ most) (hpos : 0 ≤ most) (hmost : most ≤ ProcessFiles.largestBuffer)
    (hfile : most < files.room) (htransfer : most < transfers.room) :
    ∀ reader ∈ imageReaders number image name files store transfers kernel,
      reader.Serves number image limit most := by
  have hfits : FitsInt64 most := by
    unfold FitsInt64 ProcessFiles.largestBuffer at *
    omega
  simp only [imageReaders, List.forall_mem_cons]
  exact ⟨BufferMemory.serves_reader number image name limit hfits,
    hfiles.serves_reader hsize hrequest hlimit hmost hfile,
    hkernel.serves_toReader havailable hlimit hfits htransfer, List.forall_mem_nil _⟩

/-- It makes no difference which of three readers the memory of a process is read with, if they hold
the same image of it and no more is read at once than the system gives of a file for one request.

* A read of at least one byte gives the same bytes with all of them if the image has these bytes,
  and is reported by all of them if it does not.
* A longer read is reported by all of them as well if the image does not have these bytes. If it
  has, the reader of files reports the address behind what the system gave, while the other two give
  the bytes.
* A transfer of more bytes than there can be a buffer for is not asked for, and the reader that
  should have asked refuses.
* A resolution ends the same way with all of them, up to the report that it may end with. -/
theorem resolve_image (hfile : pointerSize < files.room)
    (htransfer : pointerSize < transfers.room) :
    (∀ address length : Int, FitsUInt64 address → 1 ≤ length →
      length ≤ ProcessFiles.largestBuffer → length < files.room → length < transfers.room →
      length ≤ ProcessFiles.largestRequest ∨ image.length < address + length →
        ∀ reader ∈ imageReaders number image name files store transfers kernel,
          if address + length ≤ image.length then
            reader.read number address length = .ok (image.window address.toNat length.toNat)
          else
            ∃ invalid cause, reader.read number address length =
              .error (.failed ⟨reader.name, number, invalid, cause⟩)) ∧
    (∀ address length : Int, FitsUInt64 address → ProcessFiles.largestRequest < length →
      length ≤ ProcessFiles.largestBuffer → length < files.room → length < transfers.room →
      address + length ≤ image.length →
        (∃ cause, (files.reader store).read number address length =
          .error (.failed ⟨files.name, number, address + ProcessFiles.largestRequest, cause⟩)) ∧
        ∀ reader ∈ [(BufferMemory.add [] number 0 image).reader name, transfers.toReader kernel],
          reader.read number address length = .ok (image.window address.toNat length.toNat)) ∧
    (∀ address length : Int, transfers.room ≤ length →
      (transfers.toReader kernel).read number address length =
        .error (.refused (if FitsInt64 length then .noMemory else .hugeLength))) ∧
    ∀ (modules : ModuleTable) (strict : Bool) (bits : Int) (expression : String),
      ∀ reader ∈ imageReaders number image name files store transfers kernel,
        ∀ reader' ∈ imageReaders number image name files store transfers kernel,
          SameOrReported number
            (resolve { process := number, modules, reader, strict } bits expression).result
            (resolve { process := number, modules, reader := reader', strict } bits
              expression).result := by
  have hprocess : (number : ProcessId).isUnwritable = false := hfiles.isUnwritable_eq_false
  refine ⟨?_, ?_, ?_, ?_⟩
  · intro address length hword hpos hbuffer hroom hroom' hrequest reader hreader
    -- What one request gives bounds reads inside the image only.
    have hserves := serves_of_mem_imageReaders name hsize hfiles havailable hkernel
      (Int.min_le_right length ProcessFiles.largestRequest) (Int.min_le_left _ _) (by omega)
      hbuffer hroom hroom' reader hreader
    split
    next hin =>
      refine hserves.inside address length hword hpos (Int.le_min.mpr ⟨Int.le_refl _, ?_⟩) hin
      exact hrequest.resolve_right (Int.not_lt.mpr hin)
    next hout =>
      obtain ⟨invalid, hfails⟩ :=
        hserves.outside address length hword hpos (Int.le_refl _) (Int.not_le.mp hout)
      exact ⟨invalid, hfails.exists_cause hprocess⟩
  · intro address length hword hlong hbuffer hroom hroom' hin
    have hfits : FitsInt64 length := by
      unfold FitsInt64 ProcessFiles.largestBuffer at *
      omega
    have hpos : 1 ≤ length := by omega
    have hfails := hfiles.failsAt_of_largestRequest_lt hsize hword hlong hbuffer hroom hin
    refine ⟨hfails.exists_cause hprocess, ?_⟩
    have hle := Int.le_refl length
    simp only [List.forall_mem_cons]
    exact ⟨(BufferMemory.serves_reader number image name length hfits).inside _ _ hword hpos hle
        hin,
      (hkernel.serves_toReader havailable hle hfits hroom').inside _ _ hword hpos hle hin,
      List.forall_mem_nil _⟩
  · intro address length hlength
    exact TransferReader.read_of_room_le havailable hlength
  · intro modules strict bits expression reader hreader reader' hreader'
    let target : Target := { process := number, modules, reader, strict }
    have hrequest : (pointerSize : Int) ≤ ProcessFiles.largestRequest := by decide
    have hserves := serves_of_mem_imageReaders name hsize hfiles havailable hkernel hrequest
      (Int.le_refl _) (by decide) (by decide) (by exact_mod_cast hfile)
      (by exact_mod_cast htransfer)
    have hpoints := (hserves reader hreader).pointsAs (hserves reader' hreader') hprocess
    exact (target.matches_resolve hpoints bits expression).result

end Image

/-- An image that holds one pointer, to the address behind it. -/
def sampleImage : Bytes := [8, 0, 0, 0, 0, 0, 0, 0]

/-- The image as the memory file of process 1. -/
def imageStore : Host.FileStore :=
  Host.FileStore.put { workingPlace := [] } "/proc/1/mem" sampleImage

/-- Memory files on a machine with room for buffers of less than 64 bytes. -/
def imageFiles : ProcessFiles := { room := 64 }

/-- The reader of transfers on such a machine. -/
def imageTransfers : TransferReader := { room := 64 }

theorem location_imageFiles : imageFiles.location (1 : Int) = .ok "/proc/1/mem" := by decide

theorem read_imageStore : imageStore.read "/proc/1/mem" = .ok sampleImage := by decide +kernel

theorem holds_imageStore : imageFiles.Holds imageStore (1 : Int) sampleImage where
  plain := by decide
  contents := ⟨_, location_imageFiles, read_imageStore⟩

/-- The pointer is read from the memory file, nothing is read across the end of the image, and the
address at the end of the pointer is no pointer for the file and for the kernel alike. -/
theorem resolve_image_sample :
    (imageFiles.reader imageStore).read (1 : Int) 0 8 = .ok sampleImage ∧
      (∃ invalid cause, (imageTransfers.toReader (.ofImage sampleImage 14)).read (1 : Int) 1 8 =
        .error (.failed ⟨imageTransfers.name, (1 : Int), invalid, cause⟩)) ∧
      SameOrReported (1 : Int)
        (resolve ⟨(1 : Int), .ofList [], imageFiles.reader imageStore, false⟩ 64 "[[0]]").result
        (resolve ⟨(1 : Int), .ofList [], imageTransfers.toReader (.ofImage sampleImage 14),
          false⟩ 64 "[[0]]").result := by
  obtain ⟨hreads, -, -, hresolutions⟩ := resolve_image "buffer" (by decide) holds_imageStore
    (show imageTransfers.isAvailable = true from rfl) (Kernel.copies_ofImage sampleImage 14 1)
    (by decide) (by decide)
  have hinside := hreads 0 8 (by decide) (by decide) (by decide) (by decide) (by decide)
    (by decide) _ (.tail _ (.head _))
  have houtside := hreads 1 8 (by decide) (by decide) (by decide) (by decide) (by decide)
    (by decide) _ (.tail _ (.tail _ (.head _)))
  exact ⟨hinside, houtside, hresolutions _ _ _ _ _ (.tail _ (.head _)) _
    (.tail _ (.tail _ (.head _)))⟩

/-- A read of `2 ^ 63` bytes is reported by the reader of a buffer and by that of a memory file, and
refused by that of transfers. -/
theorem read_image_refused :
    (∃ cause, ((BufferMemory.add [] (1 : Int) 0 sampleImage).reader).read (1 : Int) 0 (2 ^ 63) =
      .error (.failed ⟨"buffer", (1 : Int), 0, cause⟩)) ∧
    (∃ cause, (imageFiles.reader imageStore).read (1 : Int) 0 (2 ^ 63) =
      .error (.failed ⟨"procfs", (1 : Int), 0, cause⟩)) ∧
    (imageTransfers.toReader (.ofImage sampleImage 14)).read (1 : Int) 0 (2 ^ 63) =
      .error (.refused .hugeLength) := by
  have hprocess : ProcessId.isUnwritable (1 : Int) = false := by decide
  refine ⟨?_, ?_, TransferReader.read_of_room_le rfl (by decide)⟩
  · exact (BufferMemory.failsAt_of_find?_eq_none rfl (by decide) (by decide)).exists_cause hprocess
  · have hfails : (imageFiles.reader imageStore).FailsAt (1 : Int) 0 (2 ^ 63) 0 :=
      ProcessFiles.failsAt_of_trouble location_imageFiles (by decide) read_imageStore rfl
    exact hfails.exists_cause hprocess

end PointerChain
