import Stringify.Decimal.Binary64

/-!
# Shortest decimals

The shortest decimal of a finite number is the one with the fewest digits among those that round
back to it, and of these the nearest to it, a tie going to the even last digit. It is found on the
decimal grids of one digit, two digits and so on: the first grid with a point in the interval that
rounds to the number holds it next to the number.
-/

namespace Stringify.Decimal

/-- The decimal `digits * 10 ^ exponent`. -/
structure ShortDecimal where
  digits : Nat
  exponent : Int
  deriving DecidableEq, Repr

namespace ShortDecimal

/-- Whether `left / leftDen` is at most `right * 10 ^ exponent`. -/
def quotientLe (num den points : Nat) (exponent : Int) : Bool :=
  if exponent < 0 then num * Nat.pow 10 exponent.natAbs ≤ points * den
  else num ≤ points * Nat.pow 10 exponent.natAbs * den

/-- Whether `points * 10 ^ exponent` is at most `num / den`. -/
def pointsLe (points : Nat) (exponent : Int) (num den : Nat) : Bool :=
  if exponent < 0 then points * den ≤ num * Nat.pow 10 exponent.natAbs
  else points * Nat.pow 10 exponent.natAbs * den ≤ num

/-- The reals that round to a positive number, all over one denominator. -/
structure Rounding where
  low : Nat
  value : Nat
  high : Nat
  den : Nat
  closed : Bool

/-- The interval of the reals that round to `mantissa * 2 ^ exponent`. Below a power of two the
neighbour is half as far; the ends belong to the even mantissa. -/
def Rounding.of (mantissa : Nat) (exponent : Int) : Rounding :=
  let unit := exponent - 2
  let scale := if unit < 0 then 1 else Nat.pow 2 unit.natAbs
  let gap := if mantissa = Nat.pow 2 52 ∧ Binary64.leastExponent < exponent then 1 else 2
  { low := (4 * mantissa - gap) * scale
    value := 4 * mantissa * scale
    high := (4 * mantissa + 2) * scale
    den := if unit < 0 then Nat.pow 2 unit.natAbs else 1
    closed := mantissa % 2 == 0 }

/-- Whether the point of a decimal grid lies in the interval. -/
def Rounding.contains (interval : Rounding) (points : Nat) (exponent : Int) : Bool :=
  if interval.closed then
    quotientLe interval.low interval.den points exponent
      && pointsLe points exponent interval.high interval.den
  else
    !pointsLe points exponent interval.low interval.den
      && !quotientLe interval.high interval.den points exponent

/-- The greatest exponent at or above `start` and below `start + steps` whose power of ten is at
most `num / den`; at least `start`. -/
def magnitudeFrom (num den : Nat) : (steps : Nat) → (start : Int) → Int
  | 0, start => start
  | steps + 1, start =>
    if pointsLe 1 (start + 1) num den then magnitudeFrom num den steps (start + 1) else start

/-- The exponent of the leading decimal digit of `num / den`. -/
def magnitude (num den : Nat) : Int :=
  let bits : Int := (Nat.log2 num : Int) - Nat.log2 den - 1
  magnitudeFrom num den 8 (bits * 30103 / 100000 - 2)

/-- The point of the grid `10 ^ exponent` that rounds to the number, if there is one: the nearer of
the number's two neighbours on the grid. -/
def onGrid? (interval : Rounding) (exponent : Int) : Option Nat :=
  let (num, den) :=
    if exponent < 0 then (interval.value * Nat.pow 10 exponent.natAbs, interval.den)
    else (interval.value, interval.den * Nat.pow 10 exponent.natAbs)
  let below := num / den
  let twice := 2 * (num % den)
  let lower := interval.contains below exponent
  let upper := interval.contains (below + 1) exponent
  if lower && upper then
    some (if twice < den || (twice == den && below % 2 == 0) then below else below + 1)
  else if lower then some below
  else if upper then some (below + 1)
  else none

/-- The first hit on the grids of `digits` digits and more. -/
def search (interval : Rounding) (magnitude : Int) : (steps digits : Nat) → ShortDecimal
  | 0, digits => ⟨0, magnitude - digits⟩
  | steps + 1, digits =>
    let exponent := magnitude - digits + 1
    match onGrid? interval exponent with
    | some points => ⟨points, exponent⟩
    | none => search interval magnitude steps (digits + 1)

/-- The shortest decimal that rounds to the positive number `mantissa * 2 ^ exponent`: seventeen
digits always suffice. -/
def of (mantissa : Nat) (exponent : Int) : ShortDecimal :=
  let interval := Rounding.of mantissa exponent
  search interval (magnitude interval.value interval.den) 17 1

end ShortDecimal

end Stringify.Decimal
