/-!
# Spans of code points

A property of characters is tabulated as an ascending list of spans, each with both ends included.
-/

namespace PointerChain.Text

/-- Spans of code points, each given by its first and its last one. -/
abbrev Spans := List (Nat × Nat)

/-- Whether a character lies in one of the spans. -/
def Spans.covers (spans : Spans) (c : Char) : Bool :=
  spans.any fun span => span.1 ≤ c.toNat && c.toNat ≤ span.2

/-- A character is covered exactly when some span holds its code point. -/
theorem Spans.covers_iff {spans : Spans} {c : Char} :
    spans.covers c = true ↔ ∃ span ∈ spans, span.1 ≤ c.toNat ∧ c.toNat ≤ span.2 := by
  simp [Spans.covers]

end PointerChain.Text
