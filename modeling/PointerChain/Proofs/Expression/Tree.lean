import PointerChain.Proofs.Expression.Atom
import PointerChain.Proofs.Expression.Forest

/-!
# Expression trees

Sums and differences of operands and of groups, which hold such sums again.

* `Term` and `Tree` are the trees, `Tree.text` writes a tree down.
* `Tree.forest` is the forest of what is written, as `Tree.toList_text` says.
* `Tree.atoms` and `Tree.bodies` list the operands and the bodies of the groups, at any depth.
-/

namespace PointerChain

mutual

/-- A part of a sum. -/
inductive Term where
  /-- An operand. -/
  | atom (a : Atom)
  /-- The pointer at the value of a sum. -/
  | group (body : Tree)

/-- A sum of one or more parts, the first one without a sign. -/
inductive Tree where
  /-- A sum of one part. -/
  | single (part : Term)
  /-- A sum with one more part. -/
  | extend (front : Tree) (sign : Sign) (part : Term)

end

mutual

/-- A part, written down. -/
def Term.text : Term → String
  | .atom a => a.text
  | .group body => "[" ++ body.text ++ "]"

/-- A sum, written down with blanks around its signs. -/
def Tree.text : Tree → String
  | .single part => part.text
  | .extend front sign part => front.text ++ " " ++ String.singleton sign.char ++ " " ++ part.text

end

mutual

/-- The operands of a part, at any depth. -/
def Term.atoms : Term → List Atom
  | .atom a => [a]
  | .group body => body.atoms

/-- The operands of a sum, at any depth. -/
def Tree.atoms : Tree → List Atom
  | .single part => part.atoms
  | .extend front _ part => front.atoms ++ part.atoms

end

mutual

/-- The bodies of the groups of a part, at any depth. -/
def Term.bodies : Term → List Tree
  | .atom _ => []
  | .group body => body.bodies ++ [body]

/-- The bodies of the groups of a sum, at any depth. -/
def Tree.bodies : Tree → List Tree
  | .single part => part.bodies
  | .extend front _ part => front.bodies ++ part.bodies

end

/-! ### What is written is balanced -/

/-- A sign with blanks around it holds no brackets. -/
theorem plain_of_mem_leading {sign : Option Sign} {c : Char} (h : c ∈ Expression.leading sign) :
    c ≠ '[' ∧ c ≠ ']' := by
  cases sign with
  | none => cases h
  | some sign =>
    rw [Expression.leading, List.mem_cons, List.mem_cons, List.mem_singleton] at h
    rcases h with rfl | rfl | rfl
    · decide
    · cases sign <;> decide
    · decide

mutual

/-- The forest of a part. -/
def Term.forest : Term → Forest
  | .atom a => .plain a.chars fun _ => Atom.plain_of_mem
  | .group body => .group body.forest .nil

/-- The forest of a sum. -/
def Tree.forest : Tree → Forest
  | .single part => part.forest
  | .extend front sign part =>
    front.forest.append
      ((Forest.plain (Expression.leading (some sign)) fun _ => plain_of_mem_leading).append
        part.forest)

end

mutual

theorem Term.toList_text : ∀ t : Term, t.text.toList = t.forest.chars
  | .atom a => by rw [Term.text, Term.forest, Atom.toList_text, Forest.chars_plain]
  | .group body => by
    rw [Term.text, Term.forest, String.toList_append, String.toList_append, body.toList_text]
    simp

/-- A sum is written as its forest. -/
theorem Tree.toList_text : ∀ t : Tree, t.text.toList = t.forest.chars
  | .single part => by rw [Tree.text, Tree.forest, part.toList_text]
  | .extend front sign part => by
    rw [Tree.text, Tree.forest, Forest.chars_append, Forest.chars_append, Forest.chars_plain,
      ← front.toList_text, ← part.toList_text]
    simp [Expression.leading]

end

/-- A sum is written as its forest. -/
theorem Tree.text_eq (t : Tree) : t.text = t.forest.expression := by
  apply String.toList_injective
  rw [t.toList_text, Forest.toList_expression]

end PointerChain
