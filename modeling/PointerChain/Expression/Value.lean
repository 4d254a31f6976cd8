import PointerChain.Expression.Token
import PointerChain.Module.Table
import PointerChain.Range
import PointerChain.Text.Hex

/-!
# Values of flat expressions

An operand that names a module is the base of the module; any other must be a number in base sixteen
of at most 64 bits, with any number of markers `0x` in front. The value of an expression is its
first operand, whatever its sign, plus or minus the others in turn, modulo `2 ^ 64`. An expression
without operands has the value zero.

* `operandValue` gives the value of one operand.
* `evaluate` gives the value of an expression, or the first operand without a value.
-/

namespace PointerChain

/-- Why an operand has no value. -/
inductive OperandFault where
  /-- It is neither the name of a module nor a number. -/
  | notANumber
  /-- It is a number that does not fit into 64 bits. -/
  | tooLarge
  deriving DecidableEq, Repr

/-- An operand without a value. -/
structure OperandError where
  /-- The expression that holds the operand. -/
  expression : String
  /-- The operand. -/
  operand : String
  /-- Why it has no value. -/
  fault : OperandFault
  deriving DecidableEq, Repr

/-- The report of an operand without a value. -/
def OperandError.message (e : OperandError) : String :=
  match e.fault with
  | .notANumber => "Invalid number: " ++ e.operand
  | .tooLarge => "Number too large for a 64-bit address: " ++ e.operand

namespace Expression

/-- Drops all markers `0x` at the start of a number. -/
def dropMarkers : List Char → List Char
  | '0' :: 'x' :: cs => dropMarkers cs
  | cs => cs

/-- The value of a number. -/
def numberValue (text : String) : Except OperandFault Address :=
  match Text.readHex? (dropMarkers text.toList) with
  | none => .error .notANumber
  | some n => if FitsUInt64 n then .ok (UInt64.ofNat n) else .error .tooLarge

/-- The value of an operand. Names of modules come before numbers. -/
def valueOf (table : ModuleTable) (text : String) : Except OperandFault Address :=
  match table.find? text with
  | some m => .ok m.base
  | none => numberValue text

/-- Adds or subtracts an operand. -/
def apply (sign : Option Sign) (a b : Address) : Address :=
  match sign with
  | some .minus => a - b
  | _ => a + b

end Expression

/-- The value of an operand of an expression. -/
def operandValue (table : ModuleTable) (expression operand : String) :
    Except OperandError Address :=
  (Expression.valueOf table operand).mapError (⟨expression, operand, ·⟩)

/-- The operands of an expression in order; the hyphenated names of a table are kept whole. -/
def ModuleTable.tokenize (table : ModuleTable) (expression : String) : List Token :=
  PointerChain.tokenize table.hasName expression

/-- The value of a flat expression. -/
def evaluate (table : ModuleTable) (expression : String) : Except OperandError Address :=
  match table.tokenize expression with
  | [] => .ok 0
  | first :: others => do
    let seed ← operandValue table expression first.text
    others.foldlM (fun a token => do
      let b ← operandValue table expression token.text
      return Expression.apply token.sign a b) seed

end PointerChain
