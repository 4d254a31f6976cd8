import PointerChain.Expression.Bracket
import PointerChain.Expression.Value
import PointerChain.Memory.Reader
import PointerChain.Module.Entry
import PointerChain.Resolution.Width
import PointerChain.Trace

/-!
# Traced resolutions

A resolution either gives a value or fails, and in both cases leaves a trace: what it evaluated,
which reads it asked for and what they gave, in order.

* `Traced α` is a resolution with its trace.
* `Trace.reads` lists the reads of a trace.
-/

namespace PointerChain

/-- Why an expression cannot be resolved. -/
inductive ResolveError where
  /-- An operand has no value. -/
  | operand (error : OperandError)
  /-- The brackets are wrong. -/
  | brackets (error : BracketError)
  /-- Memory could not be read. -/
  | read (error : ReadError)
  /-- The module table cannot be built. -/
  | table (error : TableError)
  /-- Addresses cannot have the width. -/
  | width (fault : WidthFault)
  /-- What was done cannot be written down, as the number of the process has too many digits. -/
  | unwritable
  deriving DecidableEq, Repr

/-- The report of an expression that cannot be resolved. -/
def ResolveError.message : ResolveError → String
  | operand error => error.message
  | brackets error => error.message
  | read error => error.message
  | table error => error.message
  | width fault => fault.message
  | unwritable => Text.unwritableText

/-- A step of a resolution. -/
inductive Event where
  /-- A flat expression was evaluated. -/
  | evaluated (expression : String) (value : Address)
  /-- A read of so many bytes was asked for. -/
  | read (address : Address) (length : Nat)
  /-- A pointer was read. -/
  | dereferenced (address value : Address)
  /-- So many parked texts were left behind. -/
  | abandoned (count : Nat)
  /-- An expression was resolved. -/
  | resolved (expression : String) (value : Address)
  deriving DecidableEq, Repr

/-- A resolution with its trace. -/
abbrev Traced := Trace Event ResolveError

/-- The reads that were asked for, in order. -/
def Trace.reads {α : Type} (x : Traced α) : List (Address × Nat) :=
  x.events.filterMap fun
    | .read address length => some (address, length)
    | _ => none

namespace Trace

variable {α β : Type}

/-- Behind a value, the reads go on. -/
theorem reads_bind_of_ok {x : Traced α} {a : α} (h : x.result = .ok a) (f : α → Traced β) :
    (x >>= f).reads = x.reads ++ (f a).reads := by
  rw [bind_of_ok h, reads, List.filterMap_append]
  rfl

/-- Behind a stop, nothing is read. -/
theorem reads_bind_of_error {x : Traced α} {e : ResolveError} (h : x.result = .error e)
    (f : α → Traced β) : (x >>= f).reads = x.reads := by
  rw [bind_of_error h]
  rfl

end Trace

end PointerChain
