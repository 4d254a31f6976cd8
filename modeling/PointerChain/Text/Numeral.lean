import PointerChain.Text.Blank

/-!
# Integer numerals

Integers as people type them: blanks around, an optional sign, and digits of any script, with single
underscores allowed between them.

* `readDecimal` reads base ten.
* `readLiteral` also understands the markers `0x`, `0o` and `0b`, and in exchange refuses a decimal
  number other than zero that starts with a zero.
* `toList_toString` is what is written of an integer.

A decimal numeral may have at most `maxDigits` digits, leading zeros included.
-/

namespace PointerChain.Text

/-- Why a text is no integer. -/
inductive NumeralFault where
  /-- The text is not of the form of a numeral. -/
  | malformed
  /-- The numeral is decimal and has more digits than are allowed. -/
  | tooManyDigits (count : Nat)
  deriving DecidableEq, Repr

/-- The greatest number of digits of a decimal numeral. -/
def maxDigits : Nat := 4300

/-- What is reported of a decimal numeral that is or would be too long, with what is known of it. -/
def limitText (details : String) : String :=
  "Exceeds the limit (" ++ toString maxDigits ++ " digits) for integer string conversion" ++
    details ++ "; use sys.set_int_max_str_digits() to increase the limit"

/-- What is reported of a decimal numeral that is too long. -/
def tooManyDigitsText (count : Nat) : String :=
  limitText (": value has " ++ toString count ++ " digits")

/-- What is reported of a number whose decimal numeral would be too long. -/
def unwritableText : String := limitText ""

/-- Whether the decimal numeral of a number would be too long. -/
def isUnwritable (n : Int) : Bool :=
  maxDigits < (Nat.toDigits 10 n.natAbs).length

/-- The zeros of the scripts that have decimal digits; the nine other digits follow each of them. -/
def zeroDigits : List Nat :=
  [0x30, 0x660, 0x6f0, 0x7c0, 0x966, 0x9e6, 0xa66, 0xae6, 0xb66, 0xbe6, 0xc66, 0xce6, 0xd66,
    0xde6, 0xe50, 0xed0, 0xf20, 0x1040, 0x1090, 0x17e0, 0x1810, 0x1946, 0x19d0, 0x1a80, 0x1a90,
    0x1b50, 0x1bb0, 0x1c40, 0x1c50, 0xa620, 0xa8d0, 0xa900, 0xa9d0, 0xa9f0, 0xaa50, 0xabf0,
    0xff10, 0x104a0, 0x10d30, 0x11066, 0x110f0, 0x11136, 0x111d0, 0x112f0, 0x11450, 0x114d0,
    0x11650, 0x116c0, 0x11730, 0x118e0, 0x11950, 0x11c50, 0x11d50, 0x11da0, 0x16a60, 0x16ac0,
    0x16b50, 0x1d7ce, 0x1d7d8, 0x1d7e2, 0x1d7ec, 0x1d7f6, 0x1e140, 0x1e2f0, 0x1e950, 0x1fbf0]

/-- The value of a decimal digit of any script. -/
def decimalDigit? (c : Char) : Option Nat :=
  (zeroDigits.find? fun z => z ≤ c.toNat && c.toNat < z + 10).map (c.toNat - ·)

/-- The ASCII form of a character in a numeral: digits of all scripts become ASCII digits, and
blanks outside ASCII become spaces. -/
def asciiForm (c : Char) : Char :=
  if c.val < 128 then c
  else if isBlank c then ' '
  else
    match decimalDigit? c with
    | some d => Char.ofNat ('0'.toNat + d)
    | none => '?'

/-- The blanks of ASCII that may stand around a numeral. -/
def isNumeralBlank (c : Char) : Bool :=
  c == ' ' || ('\t' ≤ c && c ≤ '\r')

/-- Drops the blanks on both sides of a numeral. -/
def trimNumeral (cs : List Char) : List Char :=
  ((cs.dropWhile isNumeralBlank).reverse.dropWhile isNumeralBlank).reverse

/-- Splits off the sign of a numeral; the flag says whether it is a minus. -/
def splitSign : List Char → Bool × List Char
  | '-' :: cs => (true, cs)
  | '+' :: cs => (false, cs)
  | cs => (false, cs)

/-- The value of an ASCII digit or letter as a digit of a base up to sixteen. -/
def digitBelow? (base : Nat) (c : Char) : Option Nat :=
  let value :=
    if '0' ≤ c ∧ c ≤ '9' then c.toNat - '0'.toNat
    else if 'a' ≤ c ∧ c ≤ 'f' then c.toNat - 'a'.toNat + 10
    else if 'A' ≤ c ∧ c ≤ 'F' then c.toNat - 'A'.toNat + 10
    else base
  if value < base then some value else none

/-- The digits of a non-empty run in which single underscores may stand between digits. -/
def separatedDigits? (base : Nat) : List Char → Option (List Nat)
  | [] => none
  | [c] => (digitBelow? base c).map ([·])
  | c :: '_' :: cs => do
    let d ← digitBelow? base c
    let ds ← separatedDigits? base cs
    return d :: ds
  | c :: cs => do
    let d ← digitBelow? base c
    let ds ← separatedDigits? base cs
    return d :: ds

/-- The number with the given digits, most significant first. -/
def ofDigits (base : Nat) (digits : List Nat) : Nat :=
  digits.foldl (fun n d => base * n + d) 0

/-- The number that a run of decimal digits spells. -/
def readDecimalDigits (cs : List Char) : Except NumeralFault Nat :=
  match separatedDigits? 10 cs with
  | none => .error .malformed
  | some digits =>
    if maxDigits < digits.length then .error (.tooManyDigits digits.length)
    else .ok (ofDigits 10 digits)

/-- The number that a run of digits behind a marker spells; an underscore may follow the marker. -/
def readMarkedDigits (base : Nat) (cs : List Char) : Except NumeralFault Nat :=
  let digits :=
    match cs with
    | '_' :: rest => separatedDigits? base rest
    | _ => separatedDigits? base cs
  match digits with
  | none => .error .malformed
  | some digits => .ok (ofDigits base digits)

/-- The number that an unsigned literal spells. -/
def readUnsignedLiteral : List Char → Except NumeralFault Nat
  | '0' :: 'x' :: cs | '0' :: 'X' :: cs => readMarkedDigits 16 cs
  | '0' :: 'o' :: cs | '0' :: 'O' :: cs => readMarkedDigits 8 cs
  | '0' :: 'b' :: cs | '0' :: 'B' :: cs => readMarkedDigits 2 cs
  | '0' :: cs => do
    let n ← readDecimalDigits ('0' :: cs)
    if n = 0 then return 0 else throw .malformed
  | cs => readDecimalDigits cs

/-- Reads the part of a numeral behind its sign by `unsigned`. -/
def readSigned (unsigned : List Char → Except NumeralFault Nat) (s : String) :
    Except NumeralFault Int := do
  let (negative, body) := splitSign (trimNumeral (s.toList.map asciiForm))
  let n ← unsigned body
  return if negative then -(n : Int) else n

/-- The integer that a decimal numeral spells. -/
def readDecimal : String → Except NumeralFault Int :=
  readSigned readDecimalDigits

/-- The integer that a literal spells: decimal, or in the base that its marker names. -/
def readLiteral : String → Except NumeralFault Int :=
  readSigned readUnsignedLiteral

/-! ### Written integers -/

/-- An integer is written as its digits, with a minus in front if it is negative. -/
theorem toList_toString (n : Int) :
    (toString n).toList =
      if n < 0 then '-' :: Nat.toDigits 10 n.natAbs else Nat.toDigits 10 n.natAbs := by
  rw [Int.toString_eq_repr, Int.repr_eq_if]
  by_cases hsign : n < 0
  · have habs : (-n).toNat = n.natAbs := by omega
    rw [if_neg (Int.not_le.mpr hsign), if_pos hsign, Nat.repr_eq_ofList_toDigits, habs]
    simp
  · have habs : n.toNat = n.natAbs := by omega
    rw [if_pos (Int.not_lt.mp hsign), if_neg hsign, Nat.repr_eq_ofList_toDigits, habs,
      String.toList_ofList]

/-- The digits that are written of a number have its value. -/
theorem ofDigits_toDigits (n : Nat) :
    ofDigits 10 ((Nat.toDigits 10 n).map fun c => c.toNat - '0'.toNat) = n := by
  rw [ofDigits, List.foldl_map]
  exact Nat.ofDigitChars_eq_foldl.symm.trans Nat.ofDigitChars_ten_toDigits

theorem isDigit_or_eq_minus_of_mem_toString {n : Int} {c : Char} (h : c ∈ (toString n).toList) :
    c.isDigit = true ∨ c = '-' := by
  have hdigit (h : c ∈ Nat.toDigits 10 n.natAbs) : c.isDigit = true :=
    Nat.isDigit_of_mem_toDigits (by decide) (Nat.le_refl 10) h
  rw [toList_toString] at h
  split at h
  next =>
    obtain rfl | h := List.mem_cons.mp h
    · exact .inr rfl
    · exact .inl (hdigit h)
  next => exact .inl (hdigit h)

end PointerChain.Text
