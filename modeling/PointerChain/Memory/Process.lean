import PointerChain.Json.Inspect
import PointerChain.Text.Numeral

/-!
# Processes

A process is named by a value, as a rule by its number. Values that equal the same number name the
same process; any other value names a process of its own, about which a reader may know something or
not.
-/

namespace PointerChain

/-- A process, by the value that names it. -/
structure ProcessId where
  /-- The value. -/
  value : Json
  deriving DecidableEq, Repr

namespace ProcessId

/-- The process with a number. -/
def ofInt (n : Int) : ProcessId := ⟨.integer n⟩

instance : Coe Int ProcessId := ⟨ofInt⟩

/-- How a process is shown. -/
def label (p : ProcessId) : String := p.value.shown

/-- What tells a process from others: its number, if it has one. -/
def key (p : ProcessId) : Json :=
  match p.value.toInt? with
  | some n => .integer n
  | none => p.value

/-- Whether two values name one process. -/
def isSame (p q : ProcessId) : Bool := decide (p.key = q.key)

/-- The kind of the value that names a process, if it consists of other values and so cannot serve
to look the process up. -/
def compound (p : ProcessId) : Option String :=
  match p.value with
  | .array _ | .object _ => some p.value.kindName
  | _ => none

/-- Whether a process cannot be shown, which is so if its number has too many digits. -/
def isUnwritable (p : ProcessId) : Bool := p.value.isUnwritable

/-- Numbers name one process only if they are equal. -/
@[simp]
theorem isSame_ofInt (m n : Int) : (ofInt m).isSame (ofInt n) = decide (m = n) := by
  simp only [isSame, key, ofInt, Json.toInt?, Json.integer.injEq]

/-- A process with a number can be shown exactly if the number can. -/
@[simp]
theorem isUnwritable_ofInt (n : Int) : (ofInt n).isUnwritable = Text.isUnwritable n := by
  rw [isUnwritable, ofInt, Json.isUnwritable]

end ProcessId

end PointerChain
