import PointerChain.Json.Inspect
import PointerChain.Json.Kind
import PointerChain.Log

/-!
# Verbosity

The number of requests for verbosity selects the level from which on the console shows records. The
number may be any value: it is first held against the greatest number that makes a difference, and
the smaller of the two then serves as a position in the list of levels.

* `Level.ofVerbosity` is the level that a value selects.
-/

namespace PointerChain

/-- Why a value selects no level. -/
inductive VerbosityFault where
  /-- The value is of a kind that cannot be compared with numbers. -/
  | order (kind : String)
  /-- The value is a number that is not of the kind of whole numbers. -/
  | notWhole (kind : String)
  /-- The number is below all levels. -/
  | range
  /-- The number is so far below all levels that it is no position. -/
  | size
  deriving DecidableEq, Repr

/-- The report of a value that selects no level. -/
def VerbosityFault.message : VerbosityFault → String
  | order kind => orderText "<" "int" kind
  | notWhole kind => positionText "list" kind
  | range => "list index out of range"
  | size => hugeLengthText

namespace Level

/-- The level that a number of requests selects. -/
def ofRequests (n : Int) : Except VerbosityFault Level :=
  if n < -0x8000000000000000 then .error .size
  else
    match ofVerbosity? n with
    | some level => .ok level
    | none => .error .range

/-- The level that a value selects. -/
def ofVerbosity : Json → Except VerbosityFault Level
  | .integer n => ofRequests n
  | .bool b => ofRequests (if b then 1 else 0)
  | .real x => if x.exceeds 6 then ofRequests 6 else .error (.notWhole (Json.real x).kindName)
  | j => .error (.order j.kindName)

end Level

end PointerChain
