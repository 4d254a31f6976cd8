import PointerChain.Json.Inspect
import PointerChain.Json.Kind

/-!
# Widths of addresses

An address has a whole number of bytes, one to eight. Callers may ask for the width by any value, so
there are widths that are right as numbers but of a kind that no number can be shifted by; those
only serve until the address is to be narrowed.

* `isWidth` says which numbers are widths.
* `Width.ofJson` reads a value as a width.
-/

namespace PointerChain

/-- Whether addresses can be given so many bits. -/
def isWidth (bits : Int) : Bool :=
  bits % 8 == 0 && 8 ≤ bits && bits ≤ 64

/-- Why addresses cannot be given a width. -/
inductive WidthFault where
  /-- The width, as it was given, is not supported. -/
  | unsupported (shown : String)
  /-- The width is not supported, and has too many digits to be shown. -/
  | unwritable
  /-- The width is of a kind that cannot be divided. -/
  | division (kind : String)
  /-- The width is a text. -/
  | text
  /-- The width is of a kind that numbers cannot be shifted by. -/
  | shift (kind : String)
  deriving DecidableEq, Repr

/-- The report of a width that addresses cannot have. -/
def WidthFault.message : WidthFault → String
  | unsupported shown => "Unsupported address width: " ++ shown ++ " bits"
  | unwritable => Text.unwritableText
  | division kind => operandText "%" kind "int"
  | text => "not all arguments converted during string formatting"
  | shift kind => operandText "<<" "int" kind

/-- The width of an address. -/
structure Width where
  /-- How many bits it is. -/
  bits : Int
  /-- The kind of the value that gave it, if addresses cannot be narrowed by that value. -/
  unusable : Option String := none
  deriving DecidableEq, Repr

/-- What is reported of a number that is no width. -/
def WidthFault.ofInt (n : Int) : WidthFault :=
  if Text.isUnwritable n then unwritable else unsupported (toString n)

namespace Width

/-- A number of bits as a width. -/
def ofInt (n : Int) : Except WidthFault Width :=
  if isWidth n then .ok { bits := n } else .error (.ofInt n)

/-- The width that a value asks for. -/
def ofJson (j : Json) : Except WidthFault Width :=
  match j with
  | .integer n => ofInt n
  | .bool _ => .error (.unsupported j.inspect)
  | .real x =>
    match x.toInt? with
    | some n =>
      if isWidth n then .ok { bits := n, unusable := some j.kindName }
      else .error (.unsupported j.inspect)
    | none => .error (.unsupported j.inspect)
  | .string _ => .error .text
  | _ => .error (.division j.kindName)

end Width

end PointerChain
