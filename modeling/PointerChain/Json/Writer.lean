import PointerChain.Decimal.Shortest
import PointerChain.Json.Basic
import PointerChain.Text.Hex

/-!
# Writing JSON

Documents are written in ASCII: all other characters are escaped, those past the first plane as two
halves, and so are halves that stand alone. `Json.compact` writes a value on one line, `Json.pretty`
over several, each level indented by two spaces. `Json.sorted` puts the fields of all objects in the
order of their names.
-/

namespace PointerChain.Json

open Decimal (Binary64)
open Text (Mark Raw)

/-- A numbered escape. -/
def numbered (n : Nat) : String := "\\u" ++ Text.paddedHex 4 n

/-- A character inside a string. -/
def escapeChar (c : Char) : String :=
  if c == '"' then "\\\""
  else if c == '\\' then "\\\\"
  else if c == '\n' then "\\n"
  else if c == '\r' then "\\r"
  else if c == '\t' then "\\t"
  else if c == '\x0c' then "\\f"
  else if c == '\x08' then "\\b"
  else if ' ' ≤ c && c ≤ '~' then c.toString
  else if c.toNat < 0x10000 then numbered c.toNat
  else
    let n := c.toNat - 0x10000
    numbered (0xd800 + n / 0x400) ++ numbered (0xdc00 + n % 0x400)

/-- A mark inside a string. -/
def escapeMark : Mark → String
  | .char c => escapeChar c
  | .half offset => numbered (Mark.half offset).point

/-- A raw text between double quotes. -/
def escaped (s : Raw) : String :=
  "\"" ++ String.join (s.marks.map escapeMark) ++ "\""

/-- A double as a number of a document. -/
def realText : Binary64 → String
  | .nan => "NaN"
  | .infinite negative => if negative then "-Infinity" else "Infinity"
  | x => x.text

/-- A value that holds no other values. -/
def scalarText : Json → String
  | null => "null"
  | bool b => if b then "true" else "false"
  | integer n => toString n
  | real x => realText x
  | string s => escaped s
  | array _ => "[]"
  | object _ => "\x7b\x7d"

mutual

/-- A value on one line. -/
def compact : Json → String
  | array items => "[" ++ ", ".intercalate (compactItems items) ++ "]"
  | object fields => "\x7b" ++ ", ".intercalate (compactFields fields) ++ "\x7d"
  | j => scalarText j

/-- Values on one line each. -/
def compactItems : List Json → List String
  | [] => []
  | j :: js => compact j :: compactItems js

/-- Fields on one line each. -/
def compactFields : List (Raw × Json) → List String
  | [] => []
  | (name, j) :: fields => (escaped name ++ ": " ++ compact j) :: compactFields fields

end

/-- The start of a line at a level of nesting. -/
def newLine (level : Nat) : String :=
  "\n" ++ String.ofList (List.replicate (2 * level) ' ')

mutual

/-- A value over several lines, inside so many levels. -/
def prettyAt (level : Nat) : Json → String
  | array (j :: js) =>
    "[" ++ newLine (level + 1) ++
      ("," ++ newLine (level + 1)).intercalate (prettyItems (level + 1) (j :: js)) ++
      newLine level ++ "]"
  | object (field :: fields) =>
    "\x7b" ++ newLine (level + 1) ++
      ("," ++ newLine (level + 1)).intercalate (prettyFields (level + 1) (field :: fields)) ++
      newLine level ++ "\x7d"
  | j => scalarText j

/-- Values over several lines each. -/
def prettyItems (level : Nat) : List Json → List String
  | [] => []
  | j :: js => prettyAt level j :: prettyItems level js

/-- Fields over several lines each. -/
def prettyFields (level : Nat) : List (Raw × Json) → List String
  | [] => []
  | (name, j) :: fields =>
    (escaped name ++ ": " ++ prettyAt level j) :: prettyFields level fields

end

/-- A value over several lines. -/
def pretty (j : Json) : String := prettyAt 0 j

mutual

/-- A value in which the fields of all objects are in the order of their names. -/
def sorted : Json → Json
  | array items => array (sortedItems items)
  | object fields => object ((sortedFields fields).mergeSort fun a b => a.1.notAfter b.1)
  | j => j

/-- Values with the fields of all objects in order. -/
def sortedItems : List Json → List Json
  | [] => []
  | j :: js => sorted j :: sortedItems js

/-- Fields whose values have the fields of all objects in order. -/
def sortedFields : List (Raw × Json) → List (Raw × Json)
  | [] => []
  | (name, j) :: fields => (name, sorted j) :: sortedFields fields

end

end PointerChain.Json
