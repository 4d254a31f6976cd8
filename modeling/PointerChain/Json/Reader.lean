import PointerChain.Json.Basic
import PointerChain.Text.Hex
import PointerChain.Text.Numeral

/-!
# Reading JSON

A recursive reader over the marks of a document. It stops at the first mark that cannot continue the
document and says what it expected there, by offset, line and column. Beyond the standard it accepts
`NaN`, `Infinity` and `-Infinity` as numbers, and of repeated fields it keeps the last value.

* `Json.read` reads a whole document, `Json.readUnmarked` one without a byte order mark.
* `Json.Fault.message` words what is wrong, `Json.ReadError.message` also says where.

Every part of the reader returns what is left behind it together with the fact that this is shorter,
which is why the recursion ends. A fault is recorded by the number of marks left at its place.
Values may be nested only so deep; how deep is up to the caller.
-/

namespace PointerChain.Json

open Decimal (Binary64)
open Text (Mark Raw)

/-- What keeps a text from being a JSON document. -/
inductive Fault where
  /-- No value starts here. -/
  | expectedValue
  /-- No field name starts here. -/
  | expectedName
  /-- A field name is not followed by a colon. -/
  | expectedColon
  /-- A value is followed by neither a comma nor the closing bracket. -/
  | expectedComma
  /-- The string that starts here does not end. -/
  | unterminatedString
  /-- A control character stands in a string. -/
  | controlCharacter
  /-- A backslash is followed by a character that it does not escape. -/
  | invalidEscape
  /-- A numbered escape has fewer than four digits. -/
  | invalidUnicodeEscape
  /-- Something follows the document. -/
  | extraData
  /-- The document starts with a byte order mark. -/
  | byteOrderMark
  deriving DecidableEq, Repr

/-- The wording of a fault. -/
def Fault.message : Fault → String
  | expectedValue => "Expecting value"
  | expectedName => "Expecting property name enclosed in double quotes"
  | expectedColon => "Expecting \x27:\x27 delimiter"
  | expectedComma => "Expecting \x27,\x27 delimiter"
  | unterminatedString => "Unterminated string starting at"
  | controlCharacter => "Invalid control character at"
  | invalidEscape => "Invalid \\escape"
  | invalidUnicodeEscape => "Invalid \\uXXXX escape"
  | extraData => "Extra data"
  | byteOrderMark => "Unexpected UTF-8 BOM (decode using utf-8-sig)"

/-- A place in a text. -/
structure Place where
  /-- The number of characters before it. -/
  offset : Nat
  /-- Its line, counted from one. -/
  line : Nat
  /-- Its column, counted from one. -/
  column : Nat
  deriving DecidableEq, Repr

/-- The place behind the first `offset` marks of a text. -/
def Place.ofOffset (text : List Mark) (offset : Nat) : Place :=
  let before := text.take offset
  { offset
    line := before.count (.char '\n') + 1
    column := (before.reverse.takeWhile (· != .char '\n')).length + 1 }

/-- Why a document cannot be read. -/
inductive ReadError where
  /-- The text is no JSON document. -/
  | malformed (fault : Fault) (place : Place)
  /-- An integer has more digits than are allowed. -/
  | tooManyDigits (count : Nat)
  /-- Values are nested too deep; the innermost that was looked at is of a kind. -/
  | tooDeep (kind : String)
  deriving DecidableEq, Repr

/-- The report of a document in which values are nested too deep. -/
def tooDeepText (kind : String) : String :=
  "maximum recursion depth exceeded while decoding a JSON " ++ kind ++ " from a unicode string"

/-- The report of a document that cannot be read. -/
def ReadError.message : ReadError → String
  | malformed fault place =>
    fault.message ++ ": line " ++ toString place.line ++ " column " ++ toString place.column ++
      " (char " ++ toString place.offset ++ ")"
  | tooManyDigits count => Text.tooManyDigitsText count
  | tooDeep kind => tooDeepText kind

/-- A fault inside the reader, placed by the number of marks left. -/
inductive Stop where
  /-- A fault with so many marks left. -/
  | fault (fault : Fault) (left : Nat)
  /-- An integer with too many digits. -/
  | tooManyDigits (count : Nat)
  /-- A value of a kind that is nested too deep. -/
  | tooDeep (kind : String)

/-- What is left of a text behind a part that takes at least one mark. -/
abbrev Rest (cs : List Mark) := { rest : List Mark // rest.length < cs.length }

/-- The blanks of JSON. -/
def isGap : Mark → Bool
  | .char c => c == ' ' || c == '\t' || c == '\n' || c == '\r'
  | .half _ => false

/-- Skips the blanks at the start. -/
def skipGap (cs : List Mark) : List Mark :=
  cs.dropWhile isGap

/-- Skipping blanks makes no text longer. -/
theorem length_skipGap_le (cs : List Mark) : (skipGap cs).length ≤ cs.length :=
  (List.dropWhile_suffix isGap).length_le

/-- What stands behind blanks is no longer than what they stand before. -/
theorem length_le_of_skipGap {cs rest : List Mark} (h : skipGap cs = rest) :
    rest.length ≤ cs.length :=
  h ▸ length_skipGap_le cs

/-- What stands behind blanks and a mark is shorter than what they stand before. -/
theorem length_lt_of_skipGap {cs rest : List Mark} {c : Mark} (h : skipGap cs = c :: rest) :
    rest.length < cs.length :=
  length_le_of_skipGap h

/-! ### Strings -/

/-- The value of four hexadecimal digits. -/
def fourDigits? (a b c d : Mark) : Option Nat :=
  Text.appendHex? 0 ([a, b, c, d].map Mark.toChar)

/-- Whether a number is the first half of a surrogate pair. -/
def isHighHalf (n : Nat) : Bool := 0xd800 ≤ n && n < 0xdc00

/-- Whether a number is the second half of a surrogate pair. -/
def isLowHalf (n : Nat) : Bool := 0xdc00 ≤ n && n < 0xe000

/-- The character that a backslash and a letter stand for. -/
def simpleEscape? : Mark → Option Char
  | .char '"' => some '"'
  | .char '\\' => some '\\'
  | .char '/' => some '/'
  | .char 'b' => some '\x08'
  | .char 'f' => some '\x0c'
  | .char 'n' => some '\n'
  | .char 'r' => some '\r'
  | .char 't' => some '\t'
  | _ => none

/-- The number of a second escape at the start, if there is one with a mark behind it. -/
def secondEscape? : (cs : List Mark) → Except Stop (Option (Nat × Rest cs))
  | .char '\\' :: .char 'u' :: a :: b :: c :: d :: e :: rest => do
    let some n := fourDigits? a b c d
      | throw (.fault .invalidUnicodeEscape (rest.length + 6))
    return some (n, ⟨e :: rest, by simp only [List.length_cons]; omega⟩)
  | _ => return none

/-- The mark of a numbered escape, given what follows its letter `u`. A mark must follow the digits.
Two escapes that are the halves of a surrogate pair make one character. -/
def numberedEscape : (cs : List Mark) → Except Stop (Mark × Rest cs)
  | a :: b :: c :: d :: e :: rest => do
    let some n := fourDigits? a b c d
      | throw (.fault .invalidUnicodeEscape (rest.length + 6))
    -- The second escape is faulty even where it turns out not to be the other half.
    let second ← if isHighHalf n then secondEscape? (e :: rest) else pure none
    match second with
    | some (m, ⟨left, h⟩) =>
      if isLowHalf m then
        return (Mark.ofPoint (0x10000 + 0x400 * (n - 0xd800) + (m - 0xdc00)),
          ⟨left, by simp only [List.length_cons] at h ⊢; omega⟩)
    | none => pure ()
    return (Mark.ofPoint n, ⟨e :: rest, by simp only [List.length_cons]; omega⟩)
  | cs => throw (.fault .invalidUnicodeEscape (cs.length + 1))

/-- Whether a mark is a control character, which no string may hold as it is. -/
def isControl : Mark → Bool
  | .char c => c < ' '
  | .half _ => false

/-- The marks of a string and what is left behind its closing quote. `opening` is the text from its
opening quote on. -/
def readString (opening cs : List Mark) : Except Stop (List Mark × Rest cs) :=
  match cs with
  | [] => throw (.fault .unterminatedString opening.length)
  | .char '"' :: rest => return ([], ⟨rest, by simp⟩)
  | [.char '\\'] => throw (.fault .unterminatedString opening.length)
  | .char '\\' :: .char 'u' :: rest => do
    let (c, ⟨behind, h⟩) ← numberedEscape rest
    let (text, ⟨left, h'⟩) ← readString opening behind
    return (c :: text, ⟨left, by simp only [List.length_cons]; omega⟩)
  | .char '\\' :: letter :: rest => do
    let some c := simpleEscape? letter | throw (.fault .invalidEscape (rest.length + 2))
    let (text, ⟨left, h⟩) ← readString opening rest
    return (.char c :: text, ⟨left, by simp only [List.length_cons]; omega⟩)
  | c :: rest => do
    if isControl c then throw (.fault .controlCharacter (rest.length + 1))
    let (text, ⟨left, h⟩) ← readString opening rest
    return (c :: text, ⟨left, by simp only [List.length_cons]; omega⟩)
termination_by cs.length

/-! ### Numbers -/

/-- An ASCII digit. -/
def isDigit : Mark → Bool
  | .char c => '0' ≤ c && c ≤ '9'
  | .half _ => false

/-- The number that ASCII digits spell. -/
def digitsValue (digits : List Mark) : Nat :=
  digits.foldl (fun n c => 10 * n + (c.point - '0'.toNat)) 0

/-- The digits in front of the point: a zero alone, or digits that start with none. -/
def wholeDigits : List Mark → List Mark
  | .char '0' :: _ => [.char '0']
  | cs => cs.takeWhile isDigit

/-- The digits behind a point at the start; without a digit behind it the point does not count. -/
def pointDigits : List Mark → List Mark
  | .char '.' :: cs => cs.takeWhile isDigit
  | _ => []

/-- An exponent at the start: the number of marks that it takes, and its value. -/
def exponent? : List Mark → Option (Nat × Int)
  | c :: cs =>
    if c = .char 'e' ∨ c = .char 'E' then
      let (signs, sign, body) : Nat × Int × List Mark :=
        match cs with
        | .char '-' :: ds => (1, -1, ds)
        | .char '+' :: ds => (1, 1, ds)
        | ds => (0, 1, ds)
      let digits := body.takeWhile isDigit
      if digits.isEmpty then none
      else some (1 + signs + digits.length, sign * (digitsValue digits : Int))
    else none
  | [] => none

/-- A number at the start, with the number of marks that it takes. -/
def scanNumber (cs : List Mark) : Except Stop (Json × Nat) := do
  let negative := cs.head? == some (.char '-')
  let signs := if negative then 1 else 0
  let whole := wholeDigits (cs.drop signs)
  if whole.isEmpty then throw (.fault .expectedValue cs.length)
  let behindWhole := cs.drop (signs + whole.length)
  let fraction := pointDigits behindWhole
  let points := if fraction.isEmpty then 0 else fraction.length + 1
  let power := exponent? (behindWhole.drop points)
  let taken := signs + whole.length + points
  match fraction.isEmpty, power with
  -- Only what has neither a fraction nor an exponent is an integer.
  | true, none =>
    if Text.maxDigits < whole.length then throw (.tooManyDigits whole.length)
    let n := digitsValue whole
    return (.integer (if negative then -(n : Int) else n), taken)
  | _, _ =>
    let (length, exponent) := power.getD (0, 0)
    let value :=
      Binary64.ofDecimal negative (digitsValue (whole ++ fraction)) (exponent - fraction.length)
    return (.real value, taken + length)

/-- A number at the start and what is left behind it. -/
def readNumber (cs : List Mark) : Except Stop (Json × Rest cs) := do
  let (value, taken) ← scanNumber cs
  if h : 0 < taken ∧ cs ≠ [] then
    return (value, ⟨cs.drop taken, by
      have := List.length_pos_iff.mpr h.2
      simp only [List.length_drop]; omega⟩)
  else throw (.fault .expectedValue cs.length)

/-! ### Values -/

/-- The words that stand for values. -/
def words : List (List Mark × Json) :=
  [("null", .null), ("true", .bool true), ("false", .bool false), ("NaN", .real .nan),
    ("Infinity", .real (.infinite false)), ("-Infinity", .real (.infinite true))].map
    fun (word, value) => (Text.marksOf word.toList, value)

/-- A word or a number at the start and what is left behind it. -/
def readScalar (cs : List Mark) : Except Stop (Json × Rest cs) :=
  match words.find? fun word => word.1.isPrefixOf cs && !word.1.isEmpty with
  | some (word, value) =>
    if h : 0 < word.length ∧ cs ≠ [] then
      return (value, ⟨cs.drop word.length, by
        have := List.length_pos_iff.mpr h.2
        simp only [List.length_drop]; omega⟩)
    else throw (.fault .expectedValue cs.length)
  | none => readNumber cs

mutual

/-- A value at the start and what is left behind it, given how many values may be nested there. -/
def readValue (room : Nat) (cs : List Mark) : Except Stop (Json × Rest cs) :=
  match cs with
  | [] => throw (.fault .expectedValue 0)
  | .char '"' :: rest => do
    let (text, ⟨left, h⟩) ← readString (.char '"' :: rest) rest
    return (.string ⟨text⟩, ⟨left, by simp only [List.length_cons]; omega⟩)
  | .char '[' :: rest => do
    if room = 0 then throw (.tooDeep "array")
    match h : skipGap rest with
    | .char ']' :: left =>
      return (.array [], ⟨left, by
        have := length_lt_of_skipGap h; simp only [List.length_cons]; omega⟩)
    | body =>
      have := length_le_of_skipGap h
      let (items, ⟨left, h'⟩) ← readItems (room - 1) body []
      return (.array items, ⟨left, by simp only [List.length_cons]; omega⟩)
  | .char '\x7b' :: rest => do
    if room = 0 then throw (.tooDeep "object")
    match h : skipGap rest with
    | .char '\x7d' :: left =>
      return (.object [], ⟨left, by
        have := length_lt_of_skipGap h; simp only [List.length_cons]; omega⟩)
    | body =>
      have := length_le_of_skipGap h
      let (fields, ⟨left, h'⟩) ← readFields (room - 1) body []
      return (.object fields, ⟨left, by simp only [List.length_cons]; omega⟩)
  | c :: rest => readScalar (c :: rest)
termination_by 2 * cs.length

/-- The values of a list from one of them on, behind those already read, given backwards. -/
def readItems (room : Nat) (cs : List Mark) (read : List Json) :
    Except Stop (List Json × Rest cs) := do
  let (value, ⟨behind, hv⟩) ← readValue room cs
  match h : skipGap behind with
  | .char ']' :: left =>
    return ((value :: read).reverse, ⟨left, by have := length_lt_of_skipGap h; omega⟩)
  | .char ',' :: next =>
    have := length_lt_of_skipGap h
    have := length_skipGap_le next
    let (items, ⟨left, hl⟩) ← readItems room (skipGap next) (value :: read)
    return (items, ⟨left, by omega⟩)
  | other => throw (.fault .expectedComma other.length)
termination_by 2 * cs.length + 1

/-- The fields of an object from one of them on, behind those already read. -/
def readFields (room : Nat) (cs : List Mark) (read : List (Raw × Json)) :
    Except Stop (List (Raw × Json) × Rest cs) :=
  match cs with
  | .char '"' :: rest => do
    let (name, ⟨behind, hb⟩) ← readString (.char '"' :: rest) rest
    match h : skipGap behind with
    | .char ':' :: next =>
      have := length_lt_of_skipGap h
      have := length_skipGap_le next
      let (value, ⟨left, hl⟩) ← readValue room (skipGap next)
      let fields := putField ⟨name⟩ value read
      match h' : skipGap left with
      | .char '\x7d' :: final =>
        return (fields, ⟨final, by
          have := length_lt_of_skipGap h'; simp only [List.length_cons]; omega⟩)
      | .char ',' :: next' =>
        have := length_lt_of_skipGap h'
        have := length_skipGap_le next'
        let (fields, ⟨final, hf⟩) ← readFields room (skipGap next') fields
        return (fields, ⟨final, by simp only [List.length_cons]; omega⟩)
      | other => throw (.fault .expectedComma other.length)
    | other => throw (.fault .expectedColon other.length)
  | _ => throw (.fault .expectedName cs.length)
termination_by 2 * cs.length

end

/-- A value with blanks around it and nothing else. -/
def readWhole (depth : Nat) (cs : List Mark) : Except Stop Json := do
  let (value, ⟨behind, _⟩) ← readValue depth (skipGap cs)
  match skipGap behind with
  | [] => return value
  | left => throw (.fault .extraData left.length)

/-- Reads a JSON document, in which so many lists and objects may stand inside each other. -/
def read (depth : Nat) (text : List Mark) : Except ReadError Json :=
  match readWhole depth text with
  | .ok value => .ok value
  | .error (.fault fault left) =>
    .error (.malformed fault (Place.ofOffset text (text.length - left)))
  | .error (.tooManyDigits count) => .error (.tooManyDigits count)
  | .error (.tooDeep kind) => .error (.tooDeep kind)

/-- Reads a JSON document that must not start with a byte order mark. -/
def readUnmarked (depth : Nat) (text : List Mark) : Except ReadError Json :=
  if text.head? = some (.char '\ufeff') then
    .error (.malformed .byteOrderMark (Place.ofOffset text 0))
  else read depth text

end PointerChain.Json
