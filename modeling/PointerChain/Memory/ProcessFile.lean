import PointerChain.Host.FileStore
import PointerChain.Memory.Reader
import PointerChain.Range

/-!
# Memory in files of processes

The memory of a process appears as a file, in a directory named after the process. The file is
opened for each read, positioned at the address and read from there, with one request to the system.

* `ProcessFiles.location` is the path of the file; there is none for a process that cannot be shown.
* `ProcessFiles.transfer` is what one request gives of a file, `ProcessFiles.read` the whole read.
-/

namespace PointerChain

/-- The directory in which processes have theirs, and the name of its reader. -/
structure ProcessFiles where
  /-- The path of the directory. -/
  root : String := "/proc"
  /-- The name of the reader. -/
  name : String := "procfs"
  /-- The length from which on no buffer can be had. -/
  room : Nat

namespace ProcessFiles

/-- The path of the memory file of a process. -/
def location (files : ProcessFiles) (process : ProcessId) : Except RequestFault String :=
  if process.isUnwritable then .error .unwritable
  else .ok ((Host.Path.join files.root process.label).join "mem").text

/-- The greatest length of a buffer that leaves room for what is kept about the buffer. -/
def largestBuffer : Int := 0x7fffffffffffffff - 33

/-- The greatest number of bytes that the system gives for one request. -/
def largestRequest : Nat := 0x7ffff000

/-- The bytes of a memory file from an address on. For a negative length, requests are made until
nothing is left of the file; otherwise there is one. -/
def transfer (contents : Host.Contents) (address length : Int) : Except FileTrouble Bytes :=
  if ¬FitsInt64 address then .error .hugeAddress
  else if address < 0 then .error (.system { number := Host.invalidArgument })
  else if ¬FitsInt64 length then .error .hugeLength
  else if largestBuffer < length then .error .noRoom
  else
    let behind := contents.drop address.toNat
    .ok (if length < 0 then behind else behind.take (min length.toNat largestRequest))

/-- Reads from the memory file of a process. A file that ends too early fails at its end. -/
def read (files : ProcessFiles) (store : Host.FileStore) (process : ProcessId)
    (address length : Int) : Except ReadError Bytes := do
  let fail (address : Int) (cause : ReadCause) : ReadError :=
    ReadReport.raised ⟨files.name, process, address, cause⟩
  let location ← (files.location process).mapError .refused
  let trouble (t : FileTrouble) : ReadError := fail address (.file location t)
  if Host.Path.holdsZero location then throw (.refused .zeroInPath)
  let contents ← (store.read location).mapError fun fault => trouble (.system fault)
  let bytes ← (transfer contents address length).mapError trouble
  -- The buffer is made once the file is open and positioned.
  if files.room ≤ length then throw (.refused .noMemory)
  if (bytes.length : Int) < length then
    throw (fail (address + bytes.length) (.shortFile location))
  return bytes

/-- The reader of memory files. -/
def reader (files : ProcessFiles) (store : Host.FileStore) : MemoryReader where
  name := files.name
  read := files.read store

end ProcessFiles

end PointerChain
