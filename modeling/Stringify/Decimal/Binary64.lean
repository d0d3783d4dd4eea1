/-!
# Binary floating-point numbers

A number of the 64-bit binary format is a sign, a mantissa below `2 ^ 53` and a binary exponent, or
an infinity, or not a number. Decimal literals and quotients are rounded to the nearest number, a
tie to the even mantissa, by exact arithmetic on naturals.
-/

namespace Stringify.Decimal

/-- A 64-bit binary floating-point number. The finite ones stand for
`± mantissa * 2 ^ exponent`. -/
inductive Binary64 where
  | finite (negative : Bool) (mantissa : Nat) (exponent : Int)
  | infinite (negative : Bool)
  | nan
  deriving DecidableEq, Repr

namespace Binary64

/-- The least binary exponent, that of the subnormal numbers. -/
def leastExponent : Int := -1074

/-- The greatest binary exponent of a finite number. -/
def greatestExponent : Int := 971

/-- Zero with the given sign. -/
def zero (negative : Bool) : Binary64 :=
  .finite negative 0 leastExponent

/-- The numerator and denominator of `num / den / 2 ^ exponent`. -/
def scaled (num den : Nat) (exponent : Int) : Nat × Nat :=
  let scale := Nat.pow 2 exponent.natAbs
  if exponent < 0 then (num * scale, den) else (num, den * scale)

/-- The quotient rounded to the nearest natural, a tie to the even one. -/
def roundQuotient (num den : Nat) : Nat :=
  let quotient := num / den
  let twice := 2 * (num % den)
  if twice < den || (twice == den && quotient % 2 == 0) then quotient else quotient + 1

/-- The exponent that gives the quotient `num / den` a mantissa of 53 bits, or the least exponent
where it would be lower. -/
def exponentFor (num den : Nat) : Int :=
  let guess : Int := (Nat.log2 num : Int) - Nat.log2 den - 52
  let (scaledNum, scaledDen) := scaled num den guess
  max leastExponent (if scaledNum / scaledDen < Nat.pow 2 52 then guess - 1 else guess)

/-- The number nearest to the positive or negative quotient `num / den`. -/
def ofQuotient (negative : Bool) (num den : Nat) : Binary64 :=
  if num = 0 then zero negative
  else
    let exponent := exponentFor num den
    let (scaledNum, scaledDen) := scaled num den exponent
    let rounded := roundQuotient scaledNum scaledDen
    let (mantissa, exponent) :=
      if rounded = Nat.pow 2 53 then (Nat.pow 2 52, exponent + 1) else (rounded, exponent)
    if greatestExponent < exponent then .infinite negative
    else .finite negative mantissa exponent

/-- The number nearest to `± digits * 10 ^ exponent`. Exponents that lead beyond the format are
settled by the size of `digits` alone. -/
def ofDecimal (negative : Bool) (digits : Nat) (exponent : Int) : Binary64 :=
  if digits = 0 then zero negative
  else
    let bits : Int := Nat.log2 digits
    if 310 < bits * 30102 / 100000 + exponent then .infinite negative
    else if (bits + 1) * 30104 / 100000 + 1 + exponent < -330 then zero negative
    else if exponent < 0 then ofQuotient negative digits (Nat.pow 10 exponent.natAbs)
    else ofQuotient negative (digits * Nat.pow 10 exponent.natAbs) 1

/-- The number nearest to an integer, unless that is beyond the finite numbers. -/
def ofInt? (value : Int) : Option Binary64 :=
  match ofQuotient (value < 0) value.natAbs 1 with
  | .finite negative mantissa exponent => some (.finite negative mantissa exponent)
  | _ => none

/-- The number with the opposite sign. -/
def neg : Binary64 → Binary64
  | .finite negative mantissa exponent => .finite (!negative) mantissa exponent
  | .infinite negative => .infinite (!negative)
  | .nan => .nan

/-- Whether the number is zero of either sign. -/
def isZero : Binary64 → Bool
  | .finite _ mantissa _ => mantissa == 0
  | _ => false

/-- Whether the number carries a minus sign. -/
def isNegative : Binary64 → Bool
  | .finite negative _ _ => negative
  | .infinite negative => negative
  | .nan => false

/-- The sum with positive zero, which differs from the number for negative zero only. -/
def addZero (number : Binary64) : Binary64 :=
  if number.isZero then zero false else number

end Binary64

end Stringify.Decimal
