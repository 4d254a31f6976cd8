import PointerChain.Resolution.Traced

/-!
# Scanning a nested expression

A nested expression is resolved in one pass from left to right. The text since the last bracket is
built up; an opening bracket parks it, and a closing bracket evaluates it, reads the pointer at its
value and puts the pointer, as a number, behind the text that was parked last. Brackets stay in the
text as marks that evaluation passes over.

* `Scan` is the state of the pass, `Scan.step` takes one character.
* `scan` runs over an expression.
-/

namespace PointerChain

/-- What a resolution is about: a process, its modules and a reader of its memory. -/
structure Target where
  /-- The process. -/
  process : ProcessId
  /-- The modules of the process. -/
  modules : ModuleTable
  /-- The reader of its memory. -/
  reader : MemoryReader
  /-- Whether brackets must balance and enclose something. -/
  strict : Bool := false

namespace Target

/-- Evaluates a flat expression. -/
def evaluate (target : Target) (expression : String) : Traced Address := do
  let value ←
    Trace.ofExcept ((PointerChain.evaluate target.modules expression).mapError .operand)
  Trace.note (.evaluated expression value)
  return value

/-- Leaves an event in the trace whose record names the process. The record is made at once, so this
is the end if the process cannot be shown. -/
def record (target : Target) (event : Event) : Traced Unit :=
  if target.process.isUnwritable then Trace.stop .unwritable else Trace.note event

/-- Reads the pointer at the value of a flat expression. -/
def dereference (target : Target) (expression : String) : Traced Address := do
  let address ← target.evaluate expression
  Trace.note (.read address pointerSize)
  let value ← Trace.ofExcept
    ((target.reader.readPointer target.process (address.toNat : Int)).mapError .read)
  target.record (.dereferenced address value)
  return value

/-- The pointer at an address, or why there is none: it cannot be read, or it cannot be recorded
that it was. -/
def pointer (target : Target) (address : Address) : Except ResolveError Address :=
  match target.reader.readPointer target.process (address.toNat : Int) with
  | .ok value => if target.process.isUnwritable then .error .unwritable else .ok value
  | .error e => .error (.read e)

variable {target : Target} {expression : String}

/-- Of a process that can be shown, the pointers are what the reader gives. -/
theorem pointer_of_writable (h : target.process.isUnwritable = false) (address : Address) :
    target.pointer address =
      (target.reader.readPointer target.process (address.toNat : Int)).mapError .read := by
  rw [pointer, h]
  cases target.reader.readPointer target.process (address.toNat : Int) <;> rfl

theorem pointer_eq_ok_iff {address value : Address} : target.pointer address = .ok value ↔
    target.reader.readPointer target.process (address.toNat : Int) = .ok value ∧
      target.process.isUnwritable = false := by
  rw [pointer]
  cases target.reader.readPointer target.process (address.toNat : Int) <;>
    cases target.process.isUnwritable <;> simp

theorem pointer_eq_error_iff {address : Address} {e : ResolveError} :
    target.pointer address = .error e ↔
      (∃ fault, target.reader.readPointer target.process (address.toNat : Int) = .error fault ∧
        e = .read fault) ∨
      (∃ value, target.reader.readPointer target.process (address.toNat : Int) = .ok value) ∧
        target.process.isUnwritable = true ∧ e = .unwritable := by
  rw [pointer]
  cases target.reader.readPointer target.process (address.toNat : Int) <;>
    cases target.process.isUnwritable <;> simp [eq_comm]

/-- What evaluating a flat expression leaves in the trace. -/
theorem evaluate_of_ok {a : Address} (h : PointerChain.evaluate target.modules expression = .ok a) :
    target.evaluate expression = ⟨[.evaluated expression a], .ok a⟩ := by
  rw [evaluate, h]
  rfl

/-- A flat expression without a value stops the resolution. -/
theorem evaluate_of_error {e : OperandError}
    (h : PointerChain.evaluate target.modules expression = .error e) :
    target.evaluate expression = Trace.stop (.operand e) := by
  rw [evaluate, h]
  rfl

/-- What a pointer leaves in the trace. -/
theorem dereference_of_ok {a value : Address}
    (h : PointerChain.evaluate target.modules expression = .ok a)
    (hpointer : target.pointer a = .ok value) :
    target.dereference expression =
      ⟨[.evaluated expression a, .read a pointerSize, .dereferenced a value], .ok value⟩ := by
  obtain ⟨hread, hshown⟩ := pointer_eq_ok_iff.mp hpointer
  rw [dereference, evaluate_of_ok h, Trace.bind_of_ok rfl, hread]
  simp only [record, hshown]
  rfl

/-- Where there is no pointer, the resolution stops. -/
theorem dereference_of_pointer_error {a : Address} {e : ResolveError}
    (h : PointerChain.evaluate target.modules expression = .ok a)
    (hpointer : target.pointer a = .error e) :
    target.dereference expression =
      ⟨[.evaluated expression a, .read a pointerSize], .error e⟩ := by
  rw [dereference, evaluate_of_ok h, Trace.bind_of_ok rfl]
  obtain ⟨fault, hread, rfl⟩ | ⟨⟨value, hread⟩, hshown, rfl⟩ := pointer_eq_error_iff.mp hpointer
  · rw [hread]
    rfl
  · rw [hread]
    simp only [record, hshown]
    rfl

/-- Nothing is read at the value of an expression that has none. -/
theorem dereference_of_error {e : OperandError}
    (h : PointerChain.evaluate target.modules expression = .error e) :
    target.dereference expression = Trace.stop (.operand e) := by
  rw [dereference, evaluate_of_error h]
  rfl

end Target

/-- The state of a pass over a nested expression. -/
structure Scan where
  /-- The parked texts, the last one first. -/
  pending : List String
  /-- The text since the last bracket that is still open. -/
  current : String
  deriving DecidableEq, Repr

namespace Scan

/-- The state at the start. -/
def start : Scan := ⟨[], ""⟩

/-- Takes an opening bracket: parks the text, unless there is none. -/
def opening (s : Scan) : Scan :=
  if s.current.isEmpty then { s with current := "[" } else ⟨s.current :: s.pending, "["⟩

/-- Puts a text and the mark of a closing bracket behind the text that was parked last. -/
def resume (s : Scan) (text : String) : Scan :=
  match s.pending with
  | [] => ⟨[], text ++ "]"⟩
  | parked :: pending => ⟨pending, parked ++ text ++ "]"⟩

/-- Takes the closing bracket at a position of an expression. -/
def closing (target : Target) (expression : String) (position : Nat) (s : Scan) : Traced Scan :=
  if s.current.isEmpty then return { s with current := "]" }
  else if hasOperands s.current then do
    let value ← target.dereference s.current
    return s.resume (Text.upperHexText value.toNat)
  else if target.strict then Trace.stop (.brackets ⟨expression, position, .emptyGroup⟩)
  else return s.resume s.current

/-- Takes one character of an expression. -/
def step (target : Target) (expression : String) (position : Nat) (s : Scan) (c : Char) :
    Traced Scan :=
  if c = '[' then return s.opening
  else if c = ']' then s.closing target expression position
  else return { s with current := s.current.push c }

end Scan

/-- Takes the characters of an expression from a position on. -/
def scan (target : Target) (expression : String) : Nat → Scan → List Char → Traced Scan
  | _, s, [] => return s
  | position, s, c :: cs => do
    let next ← s.step target expression position c
    scan target expression (position + 1) next cs

end PointerChain
