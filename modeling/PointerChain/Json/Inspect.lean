import PointerChain.Decimal.Shortest
import PointerChain.Json.Basic
import PointerChain.Text.Numeral

/-!
# Values in reports

How error reports and log records show a value: texts between quotes, lists and objects between
their brackets, and the words `None`, `True` and `False`. `Json.shown` differs only in that a text
that is not inside another value stands for itself. Nothing can be shown of a value that holds an
integer with too many digits, which `Json.isUnwritable` tells.
-/

namespace PointerChain.Json

/-- Values in round brackets; a single one is followed by a comma. -/
def inRoundBrackets : List String → String
  | [text] => "(" ++ text ++ ",)"
  | texts => "(" ++ ", ".intercalate texts ++ ")"

mutual

/-- A value as reports show it inside another one. -/
def inspect : Json → String
  | null => "None"
  | bool b => if b then "True" else "False"
  | integer n => toString n
  | real x => x.text
  | string s => s.quoted
  | array items => "[" ++ ", ".intercalate (inspectItems items) ++ "]"
  | object fields => "\x7b" ++ ", ".intercalate (inspectFields fields) ++ "\x7d"

/-- Values as reports show them. -/
def inspectItems : List Json → List String
  | [] => []
  | j :: js => inspect j :: inspectItems js

/-- Fields as reports show them. -/
def inspectFields : List (Text.Raw × Json) → List String
  | [] => []
  | (name, j) :: fields => (name.quoted ++ ": " ++ inspect j) :: inspectFields fields

end

/-- A value as reports show it on its own. -/
def shown : Json → String
  | string s => s.text
  | j => inspect j

mutual

/-- Whether a value holds an integer with too many digits to be shown. -/
def isUnwritable : Json → Bool
  | integer n => Text.isUnwritable n
  | array items => anyUnwritable items
  | object fields => anyFieldUnwritable fields
  | null | bool _ | real _ | string _ => false

/-- Whether one of several values cannot be shown. -/
def anyUnwritable : List Json → Bool
  | [] => false
  | j :: js => isUnwritable j || anyUnwritable js

/-- Whether the value of one of several fields cannot be shown. -/
def anyFieldUnwritable : List (Text.Raw × Json) → Bool
  | [] => false
  | (_, j) :: fields => isUnwritable j || anyFieldUnwritable fields

end

end PointerChain.Json
