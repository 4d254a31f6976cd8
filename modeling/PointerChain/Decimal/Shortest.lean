import PointerChain.Decimal.Binary64

/-!
# Shortest decimals

A double is written with the fewest digits that read back as it, and of those with the nearest to
it. Exponents from -4 to 15 are written positionally, with at least one digit behind the point; all
others are written with a signed exponent of at least two digits.
-/

namespace PointerChain.Decimal

/-- The quotient `num / den` in units of `10 ^ unit`, rounded down. -/
def inUnits (num den : Nat) (unit : Int) : Nat :=
  if unit < 0 then num * Nat.pow 10 unit.natAbs / den else num / (den * Nat.pow 10 unit.natAbs)

/-- How far `num / den` is from `count` units of `10 ^ unit`, up to a factor that is the same for
all counts. -/
def distance (num den count : Nat) (unit : Int) : Nat :=
  let (whole, part) :=
    if unit < 0 then (num * Nat.pow 10 unit.natAbs, den) else (num, den * Nat.pow 10 unit.natAbs)
  if whole ≤ count * part then count * part - whole else whole - count * part

/-- The decimal exponent of the leading digit of a positive quotient, searched downwards. -/
def leadingExponent (num den : Nat) : Nat → Int → Int
  | 0, exponent => exponent
  | fuel + 1, exponent =>
    if inUnits num den exponent = 0 then leadingExponent num den fuel (exponent - 1) else exponent

/-- Whether a count of units reads back as a given double. -/
def readsBack (x : Binary64) (count : Nat) (unit : Int) : Bool :=
  Binary64.ofDecimal false count unit == x

/-- Of the two counts around a quotient, the nearer one that reads back as a given double. -/
def neighbour? (x : Binary64) (num den : Nat) (unit : Int) : Option Nat :=
  let below := inUnits num den unit
  let above := below + 1
  match readsBack x below unit, readsBack x above unit with
  | true, true =>
    let down := distance num den below unit
    let up := distance num den above unit
    some (if down < up || (down == up && below % 2 == 0) then below else above)
  | true, false => some below
  | false, true => some above
  | false, false => none

/-- The shortest count that reads back, with its unit, trying one more digit at a time. -/
def searchShortest (x : Binary64) (num den : Nat) (leading : Int) : Nat → Nat → Nat × Int
  | 0, tried => (inUnits num den (leading - tried), leading - tried)
  | fuel + 1, tried =>
    match neighbour? x num den (leading - tried) with
    | some count => (count, leading - tried)
    | none => searchShortest x num den leading fuel (tried + 1)

/-- The shortest decimal of a positive double: a number and the exponent of its last digit. -/
def shortest (mantissa : Nat) (exponent : Int) : Nat × Int :=
  let scale := Nat.pow 2 exponent.natAbs
  let (num, den) := if exponent < 0 then (mantissa, scale) else (mantissa * scale, 1)
  searchShortest (.finite false mantissa exponent) num den (leadingExponent num den 640 310) 17 0

/-- Removes the zeros at the end of a row of digits. -/
def trimZeros (digits : List Char) : List Char :=
  (digits.reverse.dropWhile (· == '0')).reverse

/-- A positive decimal whose digits start at the given decimal exponent. -/
def positional (digits : List Char) (leading : Int) : List Char :=
  if leading < 0 then
    '0' :: '.' :: List.replicate (leading.natAbs - 1) '0' ++ digits
  else
    let whole := leading.toNat + 1
    let front := digits.take whole
    let back := digits.drop whole
    front ++ List.replicate (whole - front.length) '0' ++
      '.' :: (if back.isEmpty then ['0'] else back)

/-- A positive decimal with one digit in front of the point and an exponent. -/
def scientific (digits : List Char) (leading : Int) : List Char :=
  let point := if digits.length ≤ 1 then [] else '.' :: digits.drop 1
  let size := Nat.toDigits 10 leading.natAbs
  digits.take 1 ++ point ++ 'e' :: (if leading < 0 then '-' else '+') ::
    List.replicate (2 - size.length) '0' ++ size

/-- A double as a decimal. -/
def Binary64.text : Binary64 → String
  | nan => "nan"
  | infinite negative => if negative then "-inf" else "inf"
  | finite negative mantissa exponent =>
    let body :=
      if mantissa = 0 then ['0', '.', '0']
      else
        let (count, unit) := shortest mantissa exponent
        let digits := Nat.toDigits 10 count
        let leading := unit + digits.length - 1
        let digits := trimZeros digits
        if -4 ≤ leading ∧ leading < 16 then positional digits leading
        else scientific digits leading
    (if negative then "-" else "") ++ String.ofList body

end PointerChain.Decimal
