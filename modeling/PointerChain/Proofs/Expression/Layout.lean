import PointerChain.Proofs.Expression.Forest

/-!
# Brackets that have no partner

Every text, balanced or not, consists of balanced texts and of brackets without a partner between
them: first closing ones, then opening ones.

* `Layout` is a text taken apart like this, and `Layout.exists_chars_eq` does so for every text.
* `strayClosings` counts the closing brackets without a partner.
* `checkBrackets_eq_ok_iff` says that the expressions that pass the bracket check are those that are
  written from a forest.
-/

namespace PointerChain

/-- A text, taken apart at the brackets that have no partner. -/
structure Layout where
  /-- The balanced texts in front of the closing brackets without a partner. -/
  strays : List Forest
  /-- The balanced text between closing and opening brackets without a partner. -/
  middle : Forest
  /-- The balanced texts behind the opening brackets without a partner. -/
  unclosed : List Forest

namespace Layout

/-- Balanced texts, each in front of a closing bracket. -/
def strayChars (fs : List Forest) : List Char := fs.flatMap fun f => f.chars ++ [']']

/-- Balanced texts, each behind an opening bracket. -/
def unclosedChars (fs : List Forest) : List Char := fs.flatMap fun f => '[' :: f.chars

/-- The text that was taken apart. -/
def chars (l : Layout) : List Char :=
  strayChars l.strays ++ (l.middle.chars ++ unclosedChars l.unclosed)

@[simp] theorem strayChars_nil : strayChars [] = [] := rfl

@[simp]
theorem strayChars_cons (f : Forest) (fs : List Forest) :
    strayChars (f :: fs) = f.chars ++ ']' :: strayChars fs := by
  simp [strayChars]

@[simp] theorem unclosedChars_nil : unclosedChars [] = [] := rfl

@[simp]
theorem unclosedChars_cons (f : Forest) (fs : List Forest) :
    unclosedChars (f :: fs) = '[' :: (f.chars ++ unclosedChars fs) := rfl

/-- Every text can be taken apart. -/
theorem exists_chars_eq (cs : List Char) : ∃ l : Layout, l.chars = cs := by
  -- By induction from the right end: each further character goes in front of what was taken apart.
  induction cs with
  | nil => exact ⟨⟨[], .nil, []⟩, rfl⟩
  | cons c cs ih =>
    obtain ⟨⟨strays, middle, unclosed⟩, rfl⟩ := ih
    by_cases hopen : c = '['
    · subst hopen
      -- The bracket is closed by the first closing bracket without a partner, if there is one.
      cases strays with
      | nil => exact ⟨⟨[], .nil, middle :: unclosed⟩, rfl⟩
      | cons f fs =>
        cases fs with
        | nil => exact ⟨⟨[], .group f middle, unclosed⟩, by simp [chars]⟩
        | cons g fs => exact ⟨⟨.group f g :: fs, middle, unclosed⟩, by simp [chars]⟩
    · by_cases hclose : c = ']'
      · subst hclose
        exact ⟨⟨.nil :: strays, middle, unclosed⟩, rfl⟩
      · cases strays with
        | nil => exact ⟨⟨[], .text c ⟨hopen, hclose⟩ middle, unclosed⟩, rfl⟩
        | cons f fs =>
          exact ⟨⟨.text c ⟨hopen, hclose⟩ f :: fs, middle, unclosed⟩, by simp [chars]⟩

end Layout

/-! ### Closing brackets without a partner -/

/-- How many closing brackets are met while no bracket is open, when so many are open at first. -/
def strayClosings : Nat → List Char → Nat
  | _, [] => 0
  | depth, '[' :: cs => strayClosings (depth + 1) cs
  | 0, ']' :: cs => strayClosings 0 cs + 1
  | depth + 1, ']' :: cs => strayClosings depth cs
  | depth, _ :: cs => strayClosings depth cs

theorem strayClosings_cons_of_plain {c : Char} (plain : c ≠ '[' ∧ c ≠ ']') (depth : Nat)
    (cs : List Char) : strayClosings depth (c :: cs) = strayClosings depth cs := by
  cases depth <;> simp [strayClosings, plain]

/-- A balanced text has a partner for each of its brackets. -/
theorem strayClosings_chars_append (f : Forest) (depth : Nat) (cs : List Char) :
    strayClosings depth (f.chars ++ cs) = strayClosings depth cs := by
  induction f generalizing depth cs with
  | nil => rfl
  | text c plain rest ih =>
    rw [Forest.chars_text, List.cons_append, strayClosings_cons_of_plain plain, ih]
  | group body rest ihBody ihRest =>
    rw [Forest.chars_group, List.cons_append, List.append_assoc, strayClosings, ihBody,
      List.cons_append, strayClosings, ihRest]

/-- Opening brackets add no closing ones. -/
theorem strayClosings_unclosedChars (fs : List Forest) (depth : Nat) :
    strayClosings depth (Layout.unclosedChars fs) = 0 := by
  induction fs generalizing depth with
  | nil => rfl
  | cons f fs ih =>
    rw [Layout.unclosedChars_cons, strayClosings, strayClosings_chars_append, ih]

/-- The closing brackets that are met while none is open are those without a partner. -/
theorem strayClosings_chars (l : Layout) : strayClosings 0 l.chars = l.strays.length := by
  rw [Layout.chars]
  induction l.strays with
  | nil =>
    rw [Layout.strayChars_nil, List.nil_append, strayClosings_chars_append,
      strayClosings_unclosedChars]
    rfl
  | cons f fs ih =>
    rw [Layout.strayChars_cons, List.append_assoc, strayClosings_chars_append, List.cons_append,
      strayClosings, ih, List.length_cons]

/-! ### The bracket check -/

open Expression (bracketFault?)

/-- Brackets that stay open are found at the end. -/
theorem bracketFault?_unclosedChars (fs : List Forest) (position depth : Nat) :
    bracketFault? position depth (Layout.unclosedChars fs) =
      if depth + fs.length = 0 then none
      else some (position + (Layout.unclosedChars fs).length, .unclosed (depth + fs.length)) := by
  induction fs generalizing position depth with
  | nil => rfl
  | cons f fs ih =>
    have hdepth : depth + 1 + fs.length = depth + (f :: fs).length := by
      rw [List.length_cons]
      omega
    have hposition : position + 1 + f.chars.length + (Layout.unclosedChars fs).length =
        position + (Layout.unclosedChars (f :: fs)).length := by
      simp only [Layout.unclosedChars_cons, List.length_cons, List.length_append]
      omega
    rw [Layout.unclosedChars_cons, bracketFault?, Forest.bracketFault?_chars_append, ih, hdepth,
      hposition, Layout.unclosedChars_cons]

/-- The bracket check finds the first closing bracket without a partner, or else those that stay
open. -/
theorem bracketFault?_chars (l : Layout) :
    bracketFault? 0 0 l.chars =
      match l.strays with
      | f :: _ => some (f.chars.length, .unmatched)
      | [] =>
        if l.unclosed.length = 0 then none
        else some (l.chars.length, .unclosed l.unclosed.length) := by
  rw [Layout.chars]
  cases l.strays with
  | nil =>
    rw [Layout.strayChars_nil, List.nil_append, Forest.bracketFault?_chars_append,
      bracketFault?_unclosedChars, Nat.zero_add, Nat.zero_add, List.length_append]
  | cons f fs =>
    rw [Layout.strayChars_cons, List.append_assoc, Forest.bracketFault?_chars_append,
      List.cons_append, bracketFault?, Nat.zero_add]

/-- An expression passes the bracket check exactly if it is a forest, written down. -/
theorem checkBrackets_eq_ok_iff {expression : String} :
    checkBrackets expression = .ok () ↔ ∃ f : Forest, f.expression = expression := by
  have hnone : checkBrackets expression = .ok () ↔ bracketFault? 0 0 expression.toList = none := by
    unfold checkBrackets
    split <;> simp_all
  rw [hnone]
  constructor
  · intro h
    -- Every text has a layout. A stray closing bracket or a group without end would be a fault, and
    -- without them the layout is a forest.
    obtain ⟨⟨strays, middle, unclosed⟩, hl⟩ := Layout.exists_chars_eq expression.toList
    rw [← hl, bracketFault?_chars] at h
    cases strays with
    | cons f fs => cases h
    | nil =>
      cases unclosed with
      | cons g gs => cases h
      | nil =>
        refine ⟨middle, String.toList_injective ?_⟩
        rw [Forest.toList_expression, ← hl]
        simp [Layout.chars]
  · rintro ⟨f, rfl⟩
    have h := bracketFault?_chars ⟨[], f, []⟩
    simpa [Layout.chars] using h

end PointerChain
