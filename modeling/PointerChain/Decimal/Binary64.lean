/-!
# Double-precision numbers

Numbers written with a point or an exponent are held to double precision. A finite one is
`± mantissa · 2 ^ exponent`, so that all that is asked of it, such as whether it is whole, is a
question on integers.

* `ofDecimal` rounds a decimal to the nearest double, ties to the even mantissa.
* `fraction?` writes a finite double as a fraction, and `toInt?` gives the integer that a whole one
  is.
* `addInt` adds an integer; `exceeds` and `isAtMost` compare with one.
-/

namespace PointerChain.Decimal

/-- A double-precision number. -/
inductive Binary64 where
  /-- Not a number. -/
  | nan
  /-- An infinity. -/
  | infinite (negative : Bool)
  /-- The number `± mantissa · 2 ^ exponent`. -/
  | finite (negative : Bool) (mantissa : Nat) (exponent : Int)
  deriving DecidableEq, Repr

namespace Binary64

/-- The quotient of two numbers rounded to the nearest integer, a tie to the even one. -/
def roundQuotient (num den : Nat) : Nat :=
  let q := num / den
  let twice := 2 * (num % den)
  if twice < den then q
  else if den < twice then q + 1
  else if q % 2 = 0 then q else q + 1

/-- The quotient of `num` by `den · 2 ^ exponent`, rounded. -/
def roundScaled (num den : Nat) (exponent : Int) : Nat :=
  if exponent < 0 then roundQuotient (num * Nat.pow 2 exponent.natAbs) den
  else roundQuotient num (den * Nat.pow 2 exponent.natAbs)

/-- What mantissas are below of. -/
def mantissaBound : Nat := 0x20000000000000

/-- The double nearest to a positive quotient. The exponent is first guessed from the lengths of
the two numbers, one too small at most. -/
def ofQuotient (negative : Bool) (num den : Nat) : Binary64 :=
  let guess := max ((num.log2 : Int) - den.log2 - 53) (-1074)
  -- If the mantissa does not fit, the next exponent is the right one.
  let exponent := if roundScaled num den guess < mantissaBound then guess else guess + 1
  let mantissa := roundScaled num den exponent
  -- Rounding up may lead to the next power of two.
  let (mantissa, exponent) :=
    if mantissa = mantissaBound then (mantissaBound / 2, exponent + 1) else (mantissa, exponent)
  if 971 < exponent then .infinite negative else .finite negative mantissa exponent

/-- The double nearest to `± digits · 10 ^ exponent`. Exponents far outside the range are settled by
the length of the number alone. -/
def ofDecimal (negative : Bool) (digits : Nat) (exponent : Int) : Binary64 :=
  let magnitude := ((Nat.toDigits 10 digits).length : Int) + exponent
  if digits = 0 ∨ magnitude < -330 then .finite negative 0 (-1074)
  else if 330 < magnitude then .infinite negative
  else if exponent < 0 then ofQuotient negative digits (Nat.pow 10 exponent.natAbs)
  else ofQuotient negative (digits * Nat.pow 10 exponent.natAbs) 1

/-- A finite number as a fraction of an integer by a positive one. -/
def fraction? : Binary64 → Option (Int × Nat)
  | nan | infinite _ => none
  | finite negative mantissa exponent =>
    let scale := Nat.pow 2 exponent.natAbs
    let size : Int := if exponent < 0 then mantissa else mantissa * scale
    some (if negative then -size else size, if exponent < 0 then scale else 1)

/-- The integer that a whole number is. -/
def toInt? (x : Binary64) : Option Int :=
  x.fraction?.bind fun (num, den) => if num % den = 0 then some (num / den) else none

/-- A number without its fraction; what is not finite counts as zero. -/
def truncate (x : Binary64) : Int :=
  (x.fraction?.map fun (num, den) => num.tdiv den).getD 0

/-- The least integer that is not below a number; what is not finite counts as zero. -/
def ceiling (x : Binary64) : Int :=
  (x.fraction?.map fun (num, den) => -(-num / (den : Int))).getD 0

/-- Whether a number is zero, of either sign. -/
def isZero : Binary64 → Bool
  | finite _ mantissa _ => mantissa == 0
  | _ => false

/-- The double nearest to an integer. -/
def ofInt (n : Int) : Binary64 :=
  if n = 0 then finite false 0 (-1074) else ofQuotient (n < 0) n.natAbs 1

/-- The double nearest to the sum of a number and the double nearest to an integer. What is not
finite absorbs the other summand. -/
def addInt (x : Binary64) (n : Int) : Binary64 :=
  match x.fraction?, (ofInt n).toInt? with
  | some (num, den), some m =>
    let sum := num + m * den
    if sum = 0 then finite false 0 (-1074) else ofQuotient (sum < 0) sum.natAbs den
  | none, _ => x
  | _, none => ofInt n

/-- Whether a number is greater than an integer. -/
def exceeds : Binary64 → Int → Bool
  | infinite negative, _ => !negative
  | x, n => x.fraction?.any fun (num, den) => n * den < num

/-- Whether a number is not greater than an integer. -/
def isAtMost : Binary64 → Int → Bool
  | infinite negative, _ => negative
  | x, n => x.fraction?.any fun (num, den) => num ≤ n * den

end Binary64

end PointerChain.Decimal
