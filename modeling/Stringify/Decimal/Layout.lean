import Stringify.Decimal.Shortest

/-!
# Number layouts

A number is written by its shortest decimal, positionally near one and with an exponent far from it.
-/

namespace Stringify.Decimal

/-- How numbers are written. -/
structure Layout where
  /-- The greatest number of zeros between the point and the first digit. -/
  leadingZeros : Nat
  /-- The greatest number of digits before the point. -/
  wholeDigits : Nat
  /-- The least number of digits of an exponent. -/
  exponentDigits : Nat
  /-- What follows a whole number written positionally. -/
  wholeMark : String
  /-- The text of infinity. -/
  infinity : String
  /-- The text of what is not a number. -/
  notANumber : String

/-- Real numbers keep a point, and up to sixteen digits stand before it. -/
def Layout.real : Layout :=
  ⟨3, 16, 2, ".0", "inf", "nan"⟩

/-- The parts of complex numbers are written like reals, but without a point where they are
whole. -/
def Layout.part : Layout :=
  { Layout.real with wholeMark := "" }

namespace Layout

/-- A digit string without its trailing zeros. -/
def trimZeros (digits : List Char) : List Char :=
  (digits.reverse.dropWhile (· == '0')).reverse

/-- An exponent with its sign and at least the layout's number of digits. -/
def exponentText (layout : Layout) (exponent : Int) : String :=
  let digits := Nat.repr exponent.natAbs
  let sign := if exponent < 0 then "-" else "+"
  sign ++ String.ofList (List.replicate (layout.exponentDigits - digits.length) '0') ++ digits

/-- The digits `0.digits * 10 ^ point` without a sign. -/
def digitsText (layout : Layout) (digits : List Char) (point : Int) : String :=
  let count := digits.length
  if -(layout.leadingZeros : Int) ≤ point ∧ point ≤ layout.wholeDigits then
    if point ≤ 0 then
      "0." ++ String.ofList (List.replicate point.natAbs '0' ++ digits)
    else if count ≤ point.natAbs then
      String.ofList (digits ++ List.replicate (point.natAbs - count) '0') ++ layout.wholeMark
    else
      String.ofList (digits.take point.natAbs) ++ "." ++ String.ofList (digits.drop point.natAbs)
  else
    let fraction := if count ≤ 1 then "" else "." ++ String.ofList (digits.drop 1)
    String.ofList (digits.take 1) ++ fraction ++ "e" ++ layout.exponentText (point - 1)

/-- The text of a number without its sign. -/
def magnitudeText (layout : Layout) : Binary64 → String
  | .nan => layout.notANumber
  | .infinite _ => layout.infinity
  | .finite _ mantissa exponent =>
    if mantissa = 0 then layout.digitsText ['0'] 1
    else
      let decimal := ShortDecimal.of mantissa exponent
      let digits := Nat.toDigits 10 decimal.digits
      layout.digitsText (trimZeros digits) (digits.length + decimal.exponent)

/-- The text of a number. -/
def text (layout : Layout) (number : Binary64) : String :=
  (if number.isNegative then "-" else "") ++ layout.magnitudeText number

/-- The text of a number with a sign in any case. -/
def signedText (layout : Layout) (number : Binary64) : String :=
  (if number.isNegative then "-" else "+") ++ layout.magnitudeText number

end Layout

namespace Binary64

/-- The text of a real number. -/
def realText (number : Binary64) : String :=
  Layout.real.text number

/-- The text of a complex number: the imaginary part alone beside a positive zero, otherwise both
parts in parentheses. -/
def complexText (re im : Binary64) : String :=
  if re.isZero && !re.isNegative then Layout.part.text im ++ "j"
  else "(" ++ Layout.part.text re ++ Layout.part.signedText im ++ "j)"

end Binary64

end Stringify.Decimal
