/-!
# Brackets

Square brackets enclose what is to be dereferenced. They balance if no closing bracket comes before
its opening one and none is left open; `checkBrackets` finds the first violation.
-/

namespace PointerChain

/-- What is wrong with the brackets of an expression. -/
inductive BracketFault where
  /-- A closing bracket has no opening one before it. -/
  | unmatched
  /-- So many brackets are left open at the end. -/
  | unclosed (count : Nat)
  /-- The brackets that close here enclose nothing to evaluate. -/
  | emptyGroup
  deriving DecidableEq, Repr

/-- An expression whose brackets are wrong. -/
structure BracketError where
  /-- The expression. -/
  expression : String
  /-- The number of characters before the fault. -/
  position : Nat
  /-- What is wrong. -/
  fault : BracketFault
  deriving DecidableEq, Repr

/-- The report of an expression whose brackets are wrong. -/
def BracketError.message (e : BracketError) : String :=
  match e.fault with
  | .unmatched => "Unmatched \x27]\x27 at position " ++ toString e.position
  | .unclosed count => toString count ++ " unclosed \x27[\x27 in expression"
  | .emptyGroup => "Empty bracket group closed at position " ++ toString e.position

namespace Expression

/-- The first violation from a position on, inside so many brackets, with its place. -/
def bracketFault? (position depth : Nat) : List Char → Option (Nat × BracketFault)
  | [] => if depth = 0 then none else some (position, .unclosed depth)
  | '[' :: cs => bracketFault? (position + 1) (depth + 1) cs
  | ']' :: cs =>
    match depth with
    | 0 => some (position, .unmatched)
    | depth + 1 => bracketFault? (position + 1) depth cs
  | _ :: cs => bracketFault? (position + 1) depth cs

end Expression

/-- Fails if the brackets of an expression do not balance. -/
def checkBrackets (expression : String) : Except BracketError Unit :=
  match Expression.bracketFault? 0 0 expression.toList with
  | none => .ok ()
  | some (position, fault) => .error ⟨expression, position, fault⟩

end PointerChain
