import Stringify.Decimal.Binary64
import Stringify.Decimal.Integer

/-!
# Reading decimal numbers

`readReal` takes the digits of a number apart at its point and its exponent mark.
-/

namespace Stringify.Decimal.Binary64

/-- Cut a text before the first character that satisfies `mark`; the mark itself is dropped. -/
def cutAt (mark : Char → Bool) (chars : List Char) : List Char × Option (List Char) :=
  match chars.dropWhile (fun c => !mark c) with
  | [] => (chars, none)
  | _ :: rest => (chars.takeWhile (fun c => !mark c), some rest)

/-- An exponent with an optional sign. -/
def readExponent : List Char → Int
  | '-' :: digits => -(readDigits digits : Int)
  | '+' :: digits => readDigits digits
  | digits => readDigits digits

/-- The number nearest to unsigned digits with an optional point and exponent. -/
def readReal (negative : Bool) (chars : List Char) : Binary64 :=
  let (mantissa, exponent) := cutAt (fun c => c == 'e' || c == 'E') chars
  let (whole, fraction) := cutAt (· == '.') mantissa
  let fraction := fraction.getD []
  ofDecimal negative (readDigits (whole ++ fraction))
    ((exponent.map readExponent).getD 0 - (fraction.filter Char.isDigit).length)

end Stringify.Decimal.Binary64
