import PointerChain.Memory.Reader

/-!
# Memory held in buffers

Captured memory is replayed from regions, each a buffer placed at an address of a process. A read is
served by the first region that holds all of it, in the order in which the places were first taken;
placing a buffer where one is already replaces that one.

* `BufferMemory.add` places a buffer.
* `BufferMemory.read` serves a read; `BufferMemory.reader` is the reader that does so.
* `BufferMemory.ofPointers` stores pointers at addresses.
-/

namespace PointerChain

/-- A buffer placed at an address of a process. -/
structure Region where
  /-- The process. -/
  process : ProcessId
  /-- The address of the first byte. -/
  offset : Int
  /-- The bytes. -/
  bytes : Bytes
  deriving DecidableEq, Repr

/-- Whether a region holds so many bytes from an address of a process on. -/
def Region.holds (r : Region) (process : ProcessId) (address length : Int) : Bool :=
  r.process.isSame process && r.offset ≤ address &&
    address + length ≤ r.offset + r.bytes.length

/-- The regions of all processes, in the order in which their places were first taken. -/
abbrev BufferMemory := List Region

namespace BufferMemory

/-- Places a buffer at an address of a process. -/
def add : BufferMemory → ProcessId → Int → Bytes → BufferMemory
  | [], process, offset, bytes => [⟨process, offset, bytes⟩]
  | r :: rs, process, offset, bytes =>
    if r.process.isSame process ∧ r.offset = offset then ⟨process, offset, bytes⟩ :: rs
    else r :: add rs process offset bytes

/-- Places several buffers in turn. -/
def addAll (memory : BufferMemory) (regions : List Region) : BufferMemory :=
  regions.foldl (fun memory r => memory.add r.process r.offset r.bytes) memory

/-- Stores pointers at addresses of a process, each reduced to 64 bits. -/
def ofPointers (process : ProcessId) (pointers : List (Int × Int)) : BufferMemory :=
  addAll [] (pointers.map fun (address, value) =>
    ⟨process, address, Bytes.littleEndian pointerSize (UInt64.ofInt value).toNat⟩)

/-- Whether anything is known of a process. -/
def hasProcess (memory : BufferMemory) (process : ProcessId) : Bool :=
  memory.any (·.process.isSame process)

/-- The region that serves a read. -/
def find? (memory : BufferMemory) (process : ProcessId) (address length : Int) : Option Region :=
  List.find? (·.holds process address length) memory

/-- Whether a read would be served. -/
def isValid (memory : BufferMemory) (process : ProcessId) (address : Int) (length : Int := 1) :
    Bool :=
  (memory.find? process address length).isSome

/-- Serves a read under the name of a reader. -/
def read (memory : BufferMemory) (name : String) (process : ProcessId) (address length : Int) :
    Except ReadError Bytes :=
  match process.compound with
  | some kind => .error (.refused (.processCompound kind))
  | none =>
    if memory.hasProcess process then
      match memory.find? process address length with
      | some r => .ok (r.bytes.slice (address - r.offset) (address - r.offset + length))
      | none =>
        .error (ReadReport.raised ⟨name, process, address, .outsideBuffers (.integer length)⟩)
    else .error (ReadReport.raised ⟨name, process, address, .noSuchProcess⟩)

/-- The reader of buffers, under a name. -/
def reader (memory : BufferMemory) (name : String := "buffer") : MemoryReader where
  name := name
  read := memory.read name

end BufferMemory

end PointerChain
