import PointerChain.Json.Basic
import PointerChain.Json.Kind
import PointerChain.Module.Table
import PointerChain.Range

/-!
# Positions and slices of a module table

A table is also a sequence. Positions below zero count from the end; a slice runs from a start to a
stop, which is not included, by steps of any length but zero, and its ends are clipped to the table.
Positions and the ends of slices may be given by any values, of which only some make sense.

* `ModuleTable.get` is the module at a position, `ModuleTable.slice` what a slice selects.
* `ModuleTable.position` searches for a module.
-/

namespace PointerChain

/-- Why a position or a slice selects nothing. -/
inductive SequenceFault where
  /-- The position lies outside the table. -/
  | outOfRange
  /-- The position does not even fit into 64 bits. -/
  | hugePosition
  /-- The step of a slice is zero. -/
  | zeroStep
  /-- The position is a value of a kind that is none. -/
  | positionKind (kind : String)
  /-- An end or the step of a slice is a value of a kind that is none. -/
  | boundKind
  /-- A bound of a search is a value of a kind that cannot be compared with numbers. -/
  | order (kind : String)
  /-- The value that is searched for is not there. -/
  | absent
  deriving DecidableEq, Repr

/-- The report of a position or slice that selects nothing. -/
def SequenceFault.message : SequenceFault → String
  | outOfRange => "tuple index out of range"
  | hugePosition => hugeLengthText
  | zeroStep => "slice step cannot be zero"
  | positionKind kind => positionText "tuple" kind
  | boundKind => boundText
  | order kind => orderText "<" kind "int"
  | absent => ""

/-- The position that a value is. -/
def positionOfJson : Json → Except SequenceFault Int
  | .integer n => .ok n
  | .bool b => .ok (if b then 1 else 0)
  | j => .error (.positionKind j.kindName)

/-- A slice; what is not given is chosen so that the slice covers all in the direction of its step.
-/
structure Slice where
  /-- The first position. -/
  start : Option Int := none
  /-- The position at which the slice ends, without it. -/
  stop : Option Int := none
  /-- The distance from one position to the next. -/
  step : Option Int := none
  deriving DecidableEq, Repr

namespace Slice

/-- The end of a slice that a value is; null is none. -/
def boundOfJson : Json → Except SequenceFault (Option Int)
  | .null => .ok none
  | .integer n => .ok (some n)
  | .bool b => .ok (some (if b then 1 else 0))
  | _ => .error .boundKind

/-- The slice that values ask for. The step is looked at first. -/
def ofJson (start stop step : Json) : Except SequenceFault Slice := do
  let step ← boundOfJson step
  if step = some 0 then throw .zeroStep
  let start ← boundOfJson start
  let stop ← boundOfJson stop
  return { start, stop, step }

/-- An end of a slice within bounds: below zero it counts from the end of the sequence. -/
def clip (length lowest highest : Int) (n : Int) : Int :=
  max lowest (min highest (if n < 0 then n + length else n))

/-- The number of steps from a start until a stop is reached. -/
def count (start stop step : Int) : Nat :=
  if 0 < step then ((stop - start + step - 1) / step).toNat
  else ((start - stop - step - 1) / (-step)).toNat

/-- The positions that a slice selects in a sequence of a length. -/
def positions (s : Slice) (length : Nat) : Except SequenceFault (List Nat) :=
  let step := s.step.getD 1
  if step = 0 then .error .zeroStep
  else
    -- Going down, a slice may end in front of the first position.
    let lowest : Int := if step < 0 then -1 else 0
    let highest : Int := if step < 0 then length - 1 else length
    let first := if step < 0 then highest else lowest
    let last := if step < 0 then lowest else highest
    let start := (s.start.map (clip length lowest highest)).getD first
    let stop := (s.stop.map (clip length lowest highest)).getD last
    .ok ((List.range (count start stop step)).map fun (k : Nat) => (start + k * step).toNat)

/-- What a slice selects from a list. -/
def select {α : Type} (s : Slice) (xs : List α) : Except SequenceFault (List α) := do
  let positions ← s.positions xs.length
  return positions.filterMap (xs[·]?)

end Slice

/-- Whether a row of values is exactly the name of a module, in this spelling, and its base. -/
def Module.isRow (m : Module) (row : List Json) : Bool :=
  match row with
  | [.string name, base] => name == m.name && base.toInt? == some (m.base.toNat : Int)
  | _ => false

namespace ModuleTable

/-- The number of modules. -/
def size (table : ModuleTable) : Nat := table.modules.length

/-- The module at a position. -/
def get (table : ModuleTable) (position : Int) : Except SequenceFault Module :=
  if ¬FitsInt64 position then .error .hugePosition
  else
    let n := if position < 0 then position + table.size else position
    if n < 0 then .error .outOfRange
    else
      match table.modules[n.toNat]? with
      | some m => .ok m
      | none => .error .outOfRange

/-- The table of the modules that a slice selects. -/
def slice (table : ModuleTable) (s : Slice) : Except SequenceFault ModuleTable := do
  return ofList (← s.select table.modules)

/-- Whether a row of values is a module of a table. -/
def contains (table : ModuleTable) (row : List Json) : Bool :=
  table.modules.any (·.isRow row)

/-- How many modules of a table a row of values is. -/
def count (table : ModuleTable) (row : List Json) : Nat :=
  table.modules.countP (·.isRow row)

/-- The first position between two bounds at which a row of values is the module. A bound below zero
counts from the end. -/
def position (table : ModuleTable) (row : List Json) (start : Int) (stop : Option Int) :
    Except SequenceFault Nat :=
  let size : Int := table.size
  let first := if start < 0 then max (size + start) 0 else start
  let last := stop.map fun (n : Int) => if n < 0 then n + size else n
  let inside (k : Int) : Bool := decide (first ≤ k) && last.all fun n => decide (k < n)
  match table.modules.zipIdx.find? fun (m, k) => inside k && m.isRow row with
  | some (_, k) => .ok k
  | none => .error .absent

/-- Whether a value can be held against numbers. -/
def checkOrder (j : Json) : Except SequenceFault Unit :=
  match j with
  | .integer _ | .bool _ | .real _ => .ok ()
  | _ => .error (.order j.kindName)

/-- The bound of a search that a value is, where positions end that are not below it. -/
def stopOfJson : Json → Except SequenceFault (Option Int)
  | .null => .ok none
  | .real (.infinite false) => .ok none
  | .real x => .ok (some x.ceiling)
  | j => do
    checkOrder j
    return j.toInt?

/-- The first position between two bounds, which may be any values, at which a row of values is the
module. -/
def positionWithin (table : ModuleTable) (row : List Json) (start stop : Json) :
    Except SequenceFault Nat := do
  checkOrder start
  let stop ← stopOfJson stop
  let start ← positionOfJson start
  table.position row start stop

end ModuleTable

end PointerChain
