import PointerChain.Memory.Reader
import PointerChain.Range
import PointerChain.Text.Numeral

/-!
# Memory copied by the system

The system copies memory of another process on request. The kernel's side is a function from
requests to answers; the reader turns a read into a request and an answer into bytes or a failure.
-/

namespace PointerChain

/-- A request to copy one stretch of memory of a process into one buffer. -/
structure TransferRequest where
  /-- The number of the process, of which the system sees the lowest bits only. -/
  process : Int32
  /-- The address of the first byte. -/
  address : Address
  /-- How many bytes to copy. -/
  length : Nat
  deriving DecidableEq, Repr

/-- The answer to a request. -/
inductive TransferAnswer where
  /-- These bytes were copied. -/
  | copied (bytes : Bytes)
  /-- The request was refused with a fault number. -/
  | refused (number : Nat)
  deriving DecidableEq, Repr

/-- The kernel's side of transfers. -/
abbrev Kernel := TransferRequest → TransferAnswer

/-- A reader that has memory copied by the system. -/
structure TransferReader where
  /-- The name of the reader. -/
  name : String := "process_vm"
  /-- Whether the system can copy memory of other processes. -/
  isAvailable : Bool := true
  /-- The length from which on no buffer can be had. -/
  room : Nat

namespace TransferReader

/-- The number of a process. A fraction is cut off. -/
def processNumber (process : ProcessId) : Except RequestFault Int :=
  match process.value with
  | .integer n => .ok n
  | .bool b => .ok (if b then 1 else 0)
  | .real x =>
    match x with
    | .nan => .error .processNan
    | .infinite _ => .error .processInfinite
    | _ => .ok x.truncate
  | .string s =>
    match Text.readDecimal s.text with
    | .ok n => .ok n
    | .error (.tooManyDigits count) => .error (.processTooLong count)
    | .error _ => .error (.processNotNumber s.text)
  | j => .error (.processKind j.kindName)

/-- The request that a read makes. -/
def request (reader : TransferReader) (process : ProcessId) (address length : Int) :
    Except ReadError TransferRequest := do
  if !reader.isAvailable then
    throw (ReadReport.raised ⟨reader.name, process, address, .unavailable⟩)
  if ¬FitsInt64 length then throw (.refused .hugeLength)
  if length < 0 then throw (.refused (.negativeLength length))
  if reader.room ≤ length then throw (.refused .noMemory)
  let number ← (processNumber process).mapError .refused
  return ⟨Int32.ofInt number, UInt64.ofInt address, length.toNat⟩

/-- What the answer to a request means for the read. -/
def conclude (reader : TransferReader) (process : ProcessId) (address length : Int) :
    TransferAnswer → Except ReadError Bytes
  | .refused number =>
    .error (ReadReport.raised ⟨reader.name, process, address, .refusedTransfer { number }⟩)
  | .copied bytes =>
    if (bytes.length : Int) < length then
      .error (ReadReport.raised ⟨reader.name, process, address + bytes.length,
        .shortTransfer bytes.length length⟩)
    else .ok (bytes.take length.toNat)

/-- Reads through a kernel. -/
def read (reader : TransferReader) (kernel : Kernel) (process : ProcessId)
    (address length : Int) : Except ReadError Bytes := do
  let request ← reader.request process address length
  reader.conclude process address length (kernel request)

/-- The reader through a kernel. -/
def toReader (reader : TransferReader) (kernel : Kernel) : MemoryReader where
  name := reader.name
  read := reader.read kernel

end TransferReader

end PointerChain
