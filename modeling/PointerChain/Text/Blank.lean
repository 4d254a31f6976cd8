import PointerChain.Text.Spans

/-!
# Blanks

The characters that separate without meaning anything: the white space of every script, line and
paragraph separators, and the four ASCII information separators.
-/

namespace PointerChain.Text

/-- The blank characters, in ascending order. -/
def blankSpans : Spans :=
  [(0x9, 0xd), (0x1c, 0x20), (0x85, 0x85), (0xa0, 0xa0), (0x1680, 0x1680), (0x2000, 0x200a),
    (0x2028, 0x2029), (0x202f, 0x202f), (0x205f, 0x205f), (0x3000, 0x3000)]

/-- Whether a character is blank. -/
def isBlank (c : Char) : Bool :=
  blankSpans.covers c

/-- Drops the blanks at the start of a text. -/
def trimStart (cs : List Char) : List Char :=
  cs.dropWhile isBlank

end PointerChain.Text
