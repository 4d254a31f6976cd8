/-!
# Ranges of machine words

Integers are exact, and a machine word holds only some of them.
-/

namespace PointerChain

/-- An integer that a signed word of 32 bits holds. -/
abbrev FitsInt32 (n : Int) : Prop := -0x80000000 ≤ n ∧ n < 0x80000000

/-- An integer that a signed word of 64 bits holds. -/
abbrev FitsInt64 (n : Int) : Prop := -0x8000000000000000 ≤ n ∧ n < 0x8000000000000000

/-- An integer that an unsigned word of 64 bits holds. -/
abbrev FitsUInt64 (n : Int) : Prop := 0 ≤ n ∧ n < 0x10000000000000000

end PointerChain
