/-!
# Lines

Two ways to see the lines of a text. `splitLines` cuts at every line boundary of Unicode and drops
the boundaries; `joinNewlines` keeps the text whole and only makes the three newline conventions
one.
-/

namespace PointerChain.Text

/-- The characters that end a line. -/
def isLineEnd (c : Char) : Bool :=
  ('\n' ≤ c && c ≤ '\r') || ('\x1c' ≤ c && c ≤ '\x1e') || c == '\u0085' || c == '\u2028' ||
    c == '\u2029'

/-- The lines of a text. A carriage return and the line feed after it are one boundary, and a
boundary at the very end starts no further line. -/
def splitLines : List Char → List (List Char)
  | [] => []
  | '\r' :: '\n' :: cs => [] :: splitLines cs
  | c :: cs =>
    if isLineEnd c then [] :: splitLines cs
    else
      match splitLines cs with
      | [] => [[c]]
      | line :: lines => (c :: line) :: lines

/-- Writes every newline, be it a line feed, a carriage return or both, as a line feed. -/
def joinNewlines : List Char → List Char
  | [] => []
  | '\r' :: '\n' :: cs => '\n' :: joinNewlines cs
  | '\r' :: cs => '\n' :: joinNewlines cs
  | c :: cs => c :: joinNewlines cs

/-- A character that ends no line goes to the first line. -/
theorem splitLines_cons {c : Char} (h : isLineEnd c = false) (cs : List Char) :
    splitLines (c :: cs) =
      match splitLines cs with
      | [] => [[c]]
      | line :: lines => (c :: line) :: lines := by
  have hr : c ≠ '\r' := by rintro rfl; revert h; decide
  rw [splitLines]
  · rw [if_neg (by simp [h])]
  · intro ds hcs _
    exact hr hcs

/-- A text without line boundaries is its only line. -/
theorem splitLines_of_forall_not {cs : List Char} (h : ∀ c ∈ cs, isLineEnd c = false)
    (hne : cs ≠ []) : splitLines cs = [cs] := by
  induction cs with
  | nil => exact absurd rfl hne
  | cons c cs ih =>
    rw [splitLines_cons (h c List.mem_cons_self)]
    rcases cs with _ | ⟨d, ds⟩
    · rfl
    · rw [ih (fun x hx => h x (List.mem_cons_of_mem c hx)) (List.cons_ne_nil d ds)]

/-- A line without boundaries that a line feed ends is the first line. -/
theorem splitLines_append_newline {line : List Char} (h : ∀ c ∈ line, isLineEnd c = false)
    (cs : List Char) : splitLines (line ++ '\n' :: cs) = line :: splitLines cs := by
  induction line with
  | nil => rfl
  | cons c line ih =>
    rw [List.cons_append, splitLines_cons (h c List.mem_cons_self),
      ih fun d hd => h d (List.mem_cons_of_mem c hd)]

end PointerChain.Text
