import PointerChain.Range
import PointerChain.Text.Blank
import PointerChain.Text.Lines
import PointerChain.Text.Numeral

/-!
# Rows of a listing

A listing describes a tree of directories and files by one line each: `dir:<name>` or
`file:<name>,<size>,<last opened>`, indented by two spaces for each level. Numbers are signed 64-bit
integers; a field that holds anything else has no number. Lines without a colon are comments, other
lines that are not understood are skipped.

* `Line.read` reads one line.
* `Reading.ofLines` reads all lines, up to a number with too many digits.
-/

namespace PointerChain.Listing

/-- What a line of a listing describes. -/
inductive Label where
  /-- A directory. -/
  | directory (name : String)
  /-- A file with its size and the time when it was last opened. -/
  | file (name : String) (size lastOpened : Option Int64)
  deriving DecidableEq, Repr

/-- A line that describes something. -/
structure Row where
  /-- The level of the line. -/
  indent : Nat
  /-- What it describes. -/
  label : Label
  deriving DecidableEq, Repr

/-- A line of a listing. -/
inductive Line where
  /-- A line without a colon. -/
  | comment
  /-- A line that is not understood. -/
  | skipped
  /-- A line that describes something. -/
  | row (row : Row)
  deriving DecidableEq, Repr

/-- A number that has too many digits to be read, with their count. -/
structure Fault where
  /-- The number of digits. -/
  digits : Nat
  deriving DecidableEq, Repr

/-- The report of a number that has too many digits. -/
def Fault.message (f : Fault) : String :=
  Text.tooManyDigitsText f.digits

/-- An ASCII digit. -/
def isDigit (c : Char) : Bool := '0' ≤ c && c ≤ '9'

/-- The number that ASCII digits spell. -/
def digitsValue (cs : List Char) : Nat :=
  Text.ofDigits 10 (cs.map fun c => c.toNat - '0'.toNat)

/-- The number in a field, if it holds an optional sign, digits and a value of 64 bits. -/
def readNumber (field : List Char) : Except Fault (Option Int64) :=
  let (negative, digits) := Text.splitSign field
  if digits.isEmpty || !digits.all isDigit then .ok none
  else if Text.maxDigits < digits.length then .error ⟨digits.length⟩
  else
    let size : Int := digitsValue digits
    let value := if negative then -size else size
    .ok (if FitsInt64 value then some (Int64.ofInt value) else none)

/-- The parts of a text between its commas. -/
def splitCommas (cs : List Char) : List (List Char) :=
  cs.splitOn ','

namespace Line

/-- The level of a line: every two spaces at its start make one. -/
def indent (line : List Char) : Nat :=
  (line.takeWhile (· == ' ')).length / 2

/-- What a kind and a description say, if they are understood. -/
def label? (kind description : List Char) : Except Fault (Option Label) :=
  if kind = ['d', 'i', 'r'] then .ok (some (.directory (String.ofList description)))
  else if kind = ['f', 'i', 'l', 'e'] then
    match splitCommas description with
    | [name, size, lastOpened] => do
      let size ← readNumber size
      let lastOpened ← readNumber lastOpened
      return some (.file (String.ofList name) size lastOpened)
    | _ => .ok none
  else .ok none

/-- Reads a line. -/
def read (line : List Char) : Except Fault Line :=
  let content := Text.trimStart line
  match content.dropWhile (· != ':') with
  | [] => .ok .comment
  | _ :: description => do
    match ← label? (content.takeWhile (· != ':')) description with
    | some label => return .row ⟨indent line, label⟩
    | none => return .skipped

end Line

/-- What the lines of a listing give. -/
structure Reading where
  /-- The lines that were skipped, up to a fault. -/
  skipped : List String
  /-- The rows, unless there is a fault. -/
  rows : Except Fault (List Row)

/-- Reads the lines of a listing. -/
def Reading.ofLines : List (List Char) → Reading
  | [] => ⟨[], .ok []⟩
  | line :: lines =>
    match Line.read line with
    | .error fault => ⟨[], .error fault⟩
    | .ok .comment => ofLines lines
    | .ok .skipped =>
      let others := ofLines lines
      ⟨String.ofList line :: others.skipped, others.rows⟩
    | .ok (.row row) =>
      let others := ofLines lines
      ⟨others.skipped, others.rows.map (row :: ·)⟩

/-- Reads a listing. -/
def Reading.ofText (text : String) : Reading :=
  ofLines (Text.splitLines text.toList)

end PointerChain.Listing
