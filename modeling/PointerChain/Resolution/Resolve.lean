import PointerChain.Log
import PointerChain.Resolution.Scan

/-!
# Resolution

Resolving a nested expression is a pass over it and an evaluation of the text that is left. In
strict mode brackets must balance, and this is checked before anything is read. An address is
narrowed to a width that is a whole number of bytes.

* `resolveNested` gives a 64-bit address, `resolve` one of a given width.
* `resolveWith` does so when the module table itself may fail and the width is any value.
* `Event.record?` is the log record of an event.
-/

namespace PointerChain

/-- The 64-bit address that a nested expression stands for. -/
def resolveNested (target : Target) (expression : String) : Traced Address := do
  if target.strict then
    Trace.ofExcept ((checkBrackets expression).mapError .brackets)
  let s ← scan target expression 0 Scan.start expression.toList
  -- Prefixes of groups that were never closed do not count.
  if !s.pending.isEmpty then Trace.note (.abandoned s.pending.length)
  target.evaluate s.current

/-- The lowest bits of an address. -/
def narrow (bits : Nat) (a : Address) : Address :=
  UInt64.ofNat (a.toNat % Nat.pow 2 bits)

/-- The address that a nested expression stands for, narrowed to a width. -/
def resolve (target : Target) (bits : Int) (expression : String) : Traced Address := do
  let width ← Trace.ofExcept ((Width.ofInt bits).mapError .width)
  let value ← resolveNested target expression
  target.record (.resolved expression value)
  return narrow width.bits.toNat value

/-- Resolves an expression with a module table that may fail and a width that may be any value; the
width is looked at first, and again once there is an address to narrow. -/
def resolveWith (modules : Except TableError ModuleTable) (target : ModuleTable → Target)
    (bits : Json) (expression : String) : Traced Address := do
  let width ← Trace.ofExcept ((Width.ofJson bits).mapError .width)
  let table ← Trace.ofExcept (modules.mapError .table)
  let value ← resolve (target table) width.bits expression
  match width.unusable with
  | some kind => Trace.stop (.width (.shift kind))
  | none => return value

/-- The log record of an event of a resolution for a process. Reads are not recorded, only what
they give. -/
def Event.record? (process : ProcessId) : Event → Option LogRecord
  | evaluated expression value =>
    some ⟨.detail3, "ptrchain.framework.expressions",
      "Evaluated " ++ Text.quoted expression ++ " to " ++ Text.hexText value.toNat⟩
  | read _ _ => none
  | dereferenced address value =>
    some ⟨.detail2, "ptrchain.framework.resolver",
      "Dereferenced " ++ Text.hexText address.toNat ++ " in process " ++ process.label ++ ": " ++
        Text.hexText value.toNat⟩
  | abandoned count =>
    some ⟨.debug, "ptrchain.framework.resolver",
      "Unbalanced expression left " ++ toString count ++ " pending prefixes"⟩
  | resolved expression value =>
    some ⟨.debug, "ptrchain.framework.resolver",
      "Resolved " ++ Text.quoted expression ++ " in process " ++ process.label ++ " to " ++
        Text.hexText value.toNat⟩

end PointerChain
