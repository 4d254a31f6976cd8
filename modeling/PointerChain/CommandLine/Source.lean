import PointerChain.CommandLine.Crash
import PointerChain.Memory.Buffer
import PointerChain.Memory.ProcessFile
import PointerChain.Memory.Transfer

/-!
# Sources of memory

A run reads memory from a source. A source is a reader that may also be asked for an amount of bytes
that is no integer, since a configuration can give one; how far such a request gets depends on when
the reader first looks at the amount.

* `Source.readAmount` reads an amount of bytes that a value gives; for an integer it is a plain
  read.
* `Source.ofBuffers`, `Source.ofProcessFiles` and `Source.ofTransfers` are the sources, and
  `Source.unavailable` is the last of them where there are no transfers.
-/

namespace PointerChain.CommandLine

/-- Why a source gives no bytes. -/
inductive SourceFault where
  /-- Its reader gives none. -/
  | read (error : ReadError)
  /-- The amount makes no sense. -/
  | crash (crash : Crash)

/-- A source of memory. -/
structure Source where
  /-- The reader of the source. -/
  reader : MemoryReader
  /-- Reads an amount that is no integer. -/
  readOdd : ProcessId → Int → Json → Except SourceFault Bytes

namespace Source

/-- Reads an amount of bytes that a value gives. -/
def readAmount (source : Source) (process : ProcessId) (address : Int) :
    Json → Except SourceFault Bytes
  | .integer n => (source.reader.read process address n).mapError .read
  | amount => source.readOdd process address amount

/-- Reads an amount that is no integer from buffers. The amount is added to the address as soon as a
buffer starts there or before; a truth value counts as zero or one. -/
def readBuffers (memory : BufferMemory) (process : ProcessId) (address : Int) (amount : Json) :
    Except SourceFault Bytes := do
  let reader := memory.reader
  let outside : SourceFault :=
    .read (ReadReport.raised ⟨reader.name, process, address, .outsideBuffers amount⟩)
  if process.compound.isSome ∨ !memory.hasProcess process then
    (reader.read process address 0).mapError .read
  else
    -- Only buffers that start at the address or before it look at the amount.
    let before := memory.filter fun r => r.holds process r.offset 0 && r.offset ≤ address
    match amount with
    | .bool b => (reader.read process address (if b then 1 else 0)).mapError fun _ => outside
    | .real x =>
      if before.any fun r => (x.addInt address).isAtMost (r.offset + r.bytes.length) then
        throw (.crash .lengthPosition)
      else throw outside
    | amount => throw (if before.isEmpty then outside else .crash (.lengthSum amount.kindName))

/-- The source of buffers. -/
def ofBuffers (memory : BufferMemory) : Source where
  reader := memory.reader
  readOdd := readBuffers memory

/-- Reads an amount that is no integer from memory files. The amount is looked at once the file is
open and positioned. No amount at all asks for all bytes, whose number then cannot be compared with
it. -/
def readProcessFiles (reader : MemoryReader) (process : ProcessId) (address : Int) (amount : Json) :
    Except SourceFault Bytes := do
  let read (length : Int) := (reader.read process address length).mapError SourceFault.read
  match amount with
  | .bool b => read (if b then 1 else 0)
  | .null =>
    -- All bytes are read, and only then is their number compared with nothing.
    let _ ← read (-1)
    throw (.crash (.order Json.null.kindName))
  | amount =>
    -- The file must be there and have the position; no byte is read.
    let _ ← read 0
    throw (.crash (.lengthAmount amount.kindName))

/-- The source of memory files. -/
def ofProcessFiles (files : ProcessFiles) (store : Host.FileStore) : Source where
  reader := files.reader store
  readOdd := readProcessFiles (files.reader store)

/-- Reads an amount that is no integer through a kernel. A truth value counts as zero or one. For
any other amount there is no buffer, and the crash that comes of it is that of the buffer. -/
def readTransfers (transfers : TransferReader) (kernel : Kernel) (noBuffer : Json → Crash)
    (process : ProcessId) (address : Int) : Json → Except SourceFault Bytes
  | .bool b => (transfers.read kernel process address (if b then 1 else 0)).mapError .read
  | amount =>
    -- Whether the system copies memory at all is looked at first.
    if transfers.isAvailable then .error (.crash (noBuffer amount))
    else (transfers.read kernel process address 0).mapError .read

/-- The source of memory that the system copies. -/
def ofTransfers (transfers : TransferReader) (kernel : Kernel) (noBuffer : Json → Crash) :
    Source where
  reader := transfers.toReader kernel
  readOdd := readTransfers transfers kernel noBuffer

/-- The source of memory that the system would copy if it could. -/
def unavailable (transfers : TransferReader) : Source :=
  let reader := { transfers with isAvailable := false }.toReader fun _ => .copied []
  { reader, readOdd := fun process address _ => (reader.read process address 0).mapError .read }

end Source

end PointerChain.CommandLine
