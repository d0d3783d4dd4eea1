/-!
# Hexadecimal digits

Escapes name a code point by a fixed number of lower-case hexadecimal digits and accept digits of
both cases.
-/

namespace Stringify.Text

/-- The lower-case hexadecimal digit of a value below sixteen. -/
def hexDigit (value : Nat) : Char :=
  if value < 10 then Char.ofNat ('0'.toNat + value) else Char.ofNat ('a'.toNat + (value - 10))

/-- The last `width` hexadecimal digits of a number, the most significant first. -/
def hexDigits : (width number : Nat) → List Char
  | 0, _ => []
  | width + 1, number => hexDigits width (number / 16) ++ [hexDigit (number % 16)]

/-- The value of a hexadecimal digit of either case. -/
def hexValue? (c : Char) : Option Nat :=
  if '0' ≤ c ∧ c ≤ '9' then some (c.toNat - '0'.toNat)
  else if 'a' ≤ c ∧ c ≤ 'f' then some (c.toNat - 'a'.toNat + 10)
  else if 'A' ≤ c ∧ c ≤ 'F' then some (c.toNat - 'A'.toNat + 10)
  else none

/-- The number that a sequence of digits writes in the given base, each digit read by `value?`;
`none` if one of them is no digit. -/
def readDigits (value? : Char → Option Nat) (base : Nat) (digits : List Char) : Option Nat :=
  digits.foldlM (fun number c => (value? c).map (number * base + ·)) 0

end Stringify.Text
