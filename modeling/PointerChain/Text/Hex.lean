/-!
# Hexadecimal numerals

Reading and writing of numbers in base sixteen. Reading accepts ASCII digits of either case with any
number of leading zeros; writing gives no leading zeros.

* `readHex?` reads a non-empty run of digits.
* `hexText` and `signedHexText` write a number behind the marker `0x`, in lower case.
* `upperHexText` writes it in upper case.
-/

namespace PointerChain.Text

/-- The value of an ASCII digit of base sixteen. -/
def hexDigit? (c : Char) : Option Nat :=
  if '0' ≤ c ∧ c ≤ '9' then some (c.toNat - '0'.toNat)
  else if 'a' ≤ c ∧ c ≤ 'f' then some (c.toNat - 'a'.toNat + 10)
  else if 'A' ≤ c ∧ c ≤ 'F' then some (c.toNat - 'A'.toNat + 10)
  else none

/-- Appends the digits of a text to a number, unless some character is no digit. -/
def appendHex? (n : Nat) : List Char → Option Nat
  | [] => some n
  | c :: cs => (hexDigit? c).bind fun d => appendHex? (16 * n + d) cs

/-- The number that a non-empty run of digits spells. -/
def readHex? : List Char → Option Nat
  | [] => none
  | c :: cs => appendHex? 0 (c :: cs)

/-- The digits of a number in lower case, without leading zeros. -/
def hexDigits (n : Nat) : List Char :=
  Nat.toDigits 16 n

/-- A number behind the marker `0x`, in lower case. -/
def hexText (n : Nat) : String :=
  "0x" ++ String.ofList (hexDigits n)

/-- A number behind the marker `0x`, in upper case. -/
def upperHexText (n : Nat) : String :=
  "0x" ++ String.ofList ((hexDigits n).map Char.toUpper)

/-- An integer with its sign in front of the marker. -/
def signedHexText (n : Int) : String :=
  if n < 0 then "-" ++ hexText n.natAbs else hexText n.natAbs

/-- The digits of a number, filled up with zeros to a width. -/
def paddedHex (width n : Nat) : String :=
  let digits := hexDigits n
  String.ofList (List.replicate (width - digits.length) '0' ++ digits)

end PointerChain.Text
