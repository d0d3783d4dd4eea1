/-!
# Integer texts

Integers are written in base ten, up to a bound on their digits: both writing and reading longer
ones is refused.
-/

namespace Stringify.Decimal

/-- The greatest number of digits of an integer that is written or read in base ten. -/
def digitLimit : Nat := 4300

/-- The digits of an integer with a minus sign before a negative one. -/
def integerChars (value : Int) : List Char :=
  (if value < 0 then ['-'] else []) ++ Nat.toDigits 10 value.natAbs

/-- The text of an integer within the digit limit. -/
def integerText? (value : Int) : Option String :=
  if value.natAbs < Nat.pow 10 digitLimit then some (String.ofList (integerChars value)) else none

/-- The value of a decimal digit. -/
def digitValue? (c : Char) : Option Nat :=
  if c.isDigit then some (c.toNat - '0'.toNat) else none

/-- The number written by decimal digits; other characters are passed over. -/
def readDigits (digits : List Char) : Nat :=
  digits.foldl (fun number c => match digitValue? c with
    | some value => number * 10 + value
    | none => number) 0

end Stringify.Decimal
