import PointerChain.Json.Inspect
import PointerChain.Json.Kind
import PointerChain.Memory.Bytes
import PointerChain.Module.Table
import PointerChain.Text.Hex

/-!
# Disassembly

Code is decoded by a library, instruction by instruction, and each is written as one line: the
address, the mnemonic and the operands.

* `Disassembler` is what the library does.
* `disassemble` writes what it decodes, or gives the fault that it finds.
-/

namespace PointerChain

/-- An architecture whose code can be decoded. -/
inductive Architecture where
  /-- 32-bit Intel. -/
  | intel
  /-- 64-bit Intel. -/
  | intel64
  /-- 32-bit ARM. -/
  | arm
  /-- 64-bit ARM. -/
  | arm64
  deriving DecidableEq, Repr

/-- An instruction that was decoded. -/
structure Instruction where
  /-- Where it stands. -/
  address : Address
  /-- The name of what it does. -/
  mnemonic : String
  /-- What it works on. -/
  operands : String
  deriving DecidableEq, Repr

/-- A library that decodes code of an architecture, from an address on: it gives as many
instructions as there are, or no more than a given number unless that is zero, or it says what is
wrong. -/
abbrev Disassembler := Architecture → Bytes → Int → Int → Except String (List Instruction)

namespace Architecture

/-- All architectures, in the order in which they are listed to users. -/
def all : List Architecture := [intel, intel64, arm, arm64]

/-- The name of an architecture. -/
def name : Architecture → String
  | intel => "intel"
  | intel64 => "intel64"
  | arm => "arm"
  | arm64 => "arm64"

/-- The architecture with a name. -/
def ofName? (s : String) : Option Architecture :=
  all.find? (·.name = s)

end Architecture

/-- The line that shows an instruction. -/
def Instruction.line (i : Instruction) : String :=
  Text.hexText i.address.toNat ++ ": " ++ i.mnemonic ++ " " ++ i.operands ++ "\n"

/-- Code that a library cannot decode. -/
structure DisassemblyFault where
  /-- The architecture of the code. -/
  architecture : Architecture
  /-- What the library says. -/
  cause : String
  deriving DecidableEq, Repr

/-- The report of code that cannot be decoded. -/
def DisassemblyFault.message (f : DisassemblyFault) : String :=
  "Failed to disassemble: " ++ f.cause

/-- Disassembles code as if it were at an address. A count of zero sets no limit. -/
def disassemble (decode : Disassembler) (arch : Architecture) (bytes : Bytes) (address : Int)
    (count : Int := 0) : Except DisassemblyFault String :=
  match decode arch bytes address count with
  | .ok instructions => .ok (String.join (instructions.map Instruction.line))
  | .error cause => .error ⟨arch, cause⟩

/-- Why a value is no architecture. -/
inductive ArchitectureFault where
  /-- The value, as it is shown, is not the name of one. -/
  | unknown (shown : String)
  /-- The value is of a kind that cannot be looked up. -/
  | kind (name : String)
  deriving DecidableEq, Repr

/-- The report of a value that is no architecture. -/
def ArchitectureFault.message : ArchitectureFault → String
  | unknown shown =>
    "Unknown architecture " ++ shown ++ " (choose from " ++
      ", ".intercalate (Architecture.all.map (·.name)) ++ ")"
  | kind name => unhashableText name

/-- The architecture that a value names. -/
def Architecture.ofJson (name : Json) : Except ArchitectureFault Architecture :=
  match name with
  | .array _ | .object _ => .error (.kind name.kindName)
  | .string s =>
    match ofName? s.text with
    | some arch => .ok arch
    | none => .error (.unknown s.text)
  | _ => .error (.unknown name.shown)

end PointerChain
