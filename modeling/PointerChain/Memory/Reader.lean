import PointerChain.Host.Fault
import PointerChain.Json.Kind
import PointerChain.Log
import PointerChain.Memory.Bytes
import PointerChain.Memory.Process
import PointerChain.Module.Table
import PointerChain.Text.Hex
import PointerChain.Text.Numeral

/-!
# Memory readers

A reader fetches bytes from the memory of a process. It is a function of the process, the address
and the number of bytes alone, and it either gives bytes or fails; how many bytes it gives is
checked where a word of a known width is read.

* `MemoryReader` is a reader with its name.
* `ReadReport` says what could not be read and why, `ReadError` also covers requests that make no
  sense to a reader. A report is worded as soon as it is made; `ReadReport.raised` is what comes of
  one, as there is none where the wording would hold a number with too many digits.
* `MemoryReader.readPointer` and `MemoryReader.readDword` read words of eight and four bytes.
-/

namespace PointerChain

/-- What is reported of a path with a zero character. -/
def zeroInPathText : String := "embedded null byte"

/-- Why a memory file could not be used. -/
inductive FileTrouble where
  /-- The system refused. -/
  | system (fault : Host.Fault)
  /-- The address is beyond what a file can be as long as. -/
  | hugeAddress
  /-- The number of bytes is beyond what a buffer can be as long as. -/
  | hugeLength
  /-- The number of bytes leaves no room for the buffer that is to hold them. -/
  | noRoom
  deriving DecidableEq, Repr

/-- The wording of the trouble with a file. -/
def FileTrouble.message : FileTrouble → String
  | system fault => fault.message
  | hugeAddress => "Python int too large to convert to C long"
  | hugeLength => hugeLengthText
  | noRoom => "byte string is too large"

/-- Why memory could not be read. -/
inductive ReadCause where
  /-- Nothing is known of the process. -/
  | noSuchProcess
  /-- No buffer holds all the bytes; their number as it was given. -/
  | outsideBuffers (amount : Json)
  /-- So many bytes were to come, and so many did. -/
  | wrongLength (expected received : Nat)
  /-- The system copied fewer bytes than it was asked to. -/
  | shortTransfer (received : Nat) (length : Int)
  /-- The system refused to copy bytes. -/
  | refusedTransfer (fault : Host.Fault)
  /-- The system cannot copy memory of other processes. -/
  | unavailable
  /-- The memory file ends too early. -/
  | shortFile (location : String)
  /-- The memory file could not be used. -/
  | file (location : String) (trouble : FileTrouble)
  deriving DecidableEq, Repr

/-- The wording of a cause. -/
def ReadCause.message : ReadCause → String
  | noSuchProcess => "No such process"
  | outsideBuffers _ => "Offset outside of the buffer boundaries"
  | wrongLength expected received =>
    "Expected " ++ toString expected ++ " bytes but received " ++ toString received
  | shortTransfer received length =>
    "Could only read " ++ toString received ++ " of " ++ toString length ++ " bytes"
  | refusedTransfer fault => fault.message
  | unavailable => "process_vm_readv is not available"
  | shortFile location => "Could not read sufficient bytes from " ++ location
  | file _ trouble => trouble.message

/-- Whether what a reader notes about a cause holds a number with too many digits. -/
def ReadCause.isUnwritable : ReadCause → Bool
  | outsideBuffers amount => amount.isUnwritable
  | _ => false

/-- A read that failed. -/
structure ReadReport where
  /-- The name of the reader. -/
  reader : String
  /-- The process whose memory was to be read. -/
  process : ProcessId
  /-- The first address that could not be read. -/
  address : Int
  /-- Why it could not be read. -/
  cause : ReadCause
  deriving DecidableEq, Repr

/-- The report of a read that failed. -/
def ReadReport.message (r : ReadReport) : String :=
  "Failed to read memory of process " ++ r.process.label ++ " at address " ++
    Text.signedHexText r.address ++ ": " ++ r.cause.message

/-- The log record of a read that failed, where a reader leaves one. -/
def ReadReport.record? (r : ReadReport) : Option LogRecord :=
  let address := Text.signedHexText r.address
  match r.cause with
  | .outsideBuffers amount =>
    some ⟨.debug, "ptrchain.framework.layers.physical",
      "No buffer in " ++ r.reader ++ " holds " ++ address ++ "+" ++ amount.shown⟩
  | .refusedTransfer fault =>
    some ⟨.debug, "ptrchain.framework.layers.process",
      "process_vm_readv failed for process " ++ r.process.label ++ " at " ++ address ++ ": " ++
        Host.faultText fault.number⟩
  | .file location trouble =>
    some ⟨.debug, "ptrchain.framework.layers.process",
      "Reading " ++ location ++ " at " ++ address ++ " failed: " ++ trouble.message⟩
  | _ => none

/-- Why a request makes no sense to a reader. -/
inductive RequestFault where
  /-- The number of bytes is negative. -/
  | negativeLength (length : Int)
  /-- The number of bytes is beyond what a buffer can be as long as. -/
  | hugeLength
  /-- A buffer for so many bytes cannot be had. -/
  | noMemory
  /-- What would have to be shown of the request holds a number with too many digits. -/
  | unwritable
  /-- The path of a memory file holds a zero character. -/
  | zeroInPath
  /-- The process is named by a text that is not that of a number. -/
  | processNotNumber (label : String)
  /-- The process is named by a number with too many digits. -/
  | processTooLong (digits : Nat)
  /-- The process is named by what is no number although its kind is one of numbers. -/
  | processNan
  /-- The process is named by an infinite number. -/
  | processInfinite
  /-- The process is named by a value of a kind that has no number. -/
  | processKind (kind : String)
  /-- The process is named by a value of a kind that cannot be looked up. -/
  | processCompound (kind : String)
  deriving DecidableEq, Repr

/-- The report of a request that makes no sense. -/
def RequestFault.message : RequestFault → String
  | negativeLength length => "Array length must be >= 0, not " ++ toString length
  | hugeLength => hugeLengthText
  | noMemory => ""
  | unwritable => Text.unwritableText
  | zeroInPath => zeroInPathText
  | processNotNumber label =>
    "invalid literal for int() with base 10: " ++
      String.ofList ((Text.quoted label).toList.take 200)
  | processTooLong digits => Text.tooManyDigitsText digits
  | processNan => "cannot convert float NaN to integer"
  | processInfinite => "cannot convert float infinity to integer"
  | processKind kind =>
    "int() argument must be a string, a bytes-like object or a real number, not '" ++ kind ++
      "'"
  | processCompound kind => unhashableText kind

/-- Why a reader gives no bytes. -/
inductive ReadError where
  /-- The read failed. -/
  | failed (report : ReadReport)
  /-- The request makes no sense to the reader. -/
  | refused (fault : RequestFault)
  deriving DecidableEq, Repr

namespace ReadReport

/-- Whether the wording of a report, or what is noted with it, would hold a number with too many
digits. -/
def isUnwritable (r : ReadReport) : Bool := r.process.isUnwritable || r.cause.isUnwritable

/-- What comes of a report: itself, unless it cannot be worded. -/
def raised (r : ReadReport) : ReadError :=
  if r.isUnwritable then .refused .unwritable else .failed r

variable {r : ReadReport}

/-- A report that can be worded comes out as itself. -/
theorem raised_of_writable (h : r.isUnwritable = false) : r.raised = .failed r := by
  rw [raised, h]
  rfl

/-- Of a process that cannot be shown there are no reports. -/
theorem raised_of_unwritable (h : r.process.isUnwritable = true) :
    r.raised = .refused .unwritable := by
  rw [raised, isUnwritable, h, Bool.true_or, if_pos rfl]

end ReadReport

/-- The report of a reader that gives no bytes. -/
def ReadError.message : ReadError → String
  | failed report => report.message
  | refused fault => fault.message

/-- A reader of the memory of processes. -/
structure MemoryReader where
  /-- The name of the reader, which reports carry. -/
  name : String
  /-- The bytes at an address of a process, so many of them. -/
  read : ProcessId → Int → Int → Except ReadError Bytes

/-- The number of bytes of a pointer. -/
def pointerSize : Nat := 8

/-- The number of bytes of a double word. -/
def dwordSize : Nat := 4

namespace MemoryReader

/-- Reads bytes and makes sure that they are as many as asked for. -/
def readExact (reader : MemoryReader) (process : ProcessId) (address : Int) (length : Nat) :
    Except ReadError Bytes := do
  let bytes ← reader.read process address length
  if bytes.length = length then return bytes
  else throw (ReadReport.raised ⟨reader.name, process, address, .wrongLength length bytes.length⟩)

/-- Reads a pointer. -/
def readPointer (reader : MemoryReader) (process : ProcessId) (address : Int) :
    Except ReadError Address := do
  let bytes ← reader.readExact process address pointerSize
  return UInt64.ofNat bytes.ofLittleEndian

/-- Reads a double word. -/
def readDword (reader : MemoryReader) (process : ProcessId) (address : Int) :
    Except ReadError UInt32 := do
  let bytes ← reader.readExact process address dwordSize
  return UInt32.ofNat bytes.ofLittleEndian

end MemoryReader

end PointerChain
