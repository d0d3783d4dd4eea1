import Stringify.Decimal.Reader
import Stringify.Source.Constant
import Stringify.Text.Hexadecimal

/-!
# Numbers in sources

A number is written in base ten, with an optional fraction, exponent and imaginary mark, or with a
mark for base two, eight or sixteen. Single underscores may stand between digits, a whole number has
no superfluous zeros, and no letter follows a number unless it opens a word that may follow.
-/

namespace Stringify.Source.Number

/-- Whether a character may go on a word, as far as its first byte tells. -/
def mayExtendWord (c : Char) : Bool :=
  c.isAlphanum || c == '_' || 0x80 ≤ c.toNat

/-- The digits at the start of the characters, without single underscores between them, and what
follows; `none` if a digit is missing after an underscore. -/
def run (isDigit : Char → Bool) : List Char → Option (List Char × List Char)
  | [] => some ([], [])
  | ['_'] => none
  | '_' :: c :: rest =>
    if isDigit c then do
      let (digits, after) ← run isDigit rest
      return (c :: digits, after)
    else none
  | c :: rest =>
    if isDigit c then do
      let (digits, after) ← run isDigit rest
      return (c :: digits, after)
    else some ([], c :: rest)

/-- Whether the characters open with exactly the given word. -/
def opensWithWord (word : List Char) (chars : List Char) : Bool :=
  word.isPrefixOf chars && !((chars.drop word.length).head?.any mayExtendWord)

/-- Whether a number may end before the given characters: before something that is no word, or
before a word that continues an expression or does not open with a letter of the basic alphabet. -/
def mayEndBefore (chars : List Char) : Bool :=
  match chars with
  | [] => true
  | c :: rest =>
    !(c.isAlphanum || c == '_')
      || ["and", "else", "for", "or", "not"].any (fun word => opensWithWord word.toList chars)
      || (c == 'i' && (rest.head? == some 'f' || rest.head? == some 'n' || rest.head? == some 's'))

/-- The written number, if it may end there. -/
def finish (written rest : List Char) : Option (List Char × List Char) :=
  if mayEndBefore rest then some (written, rest) else none

/-- Go on with an optional imaginary mark. -/
def imaginary (written : List Char) : List Char → Option (List Char × List Char)
  | 'j' :: rest => finish (written ++ ['j']) rest
  | 'J' :: rest => finish (written ++ ['j']) rest
  | rest => finish written rest

/-- Go on with an optional exponent. -/
def exponent (written rest : List Char) : Option (List Char × List Char) :=
  match rest with
  | mark :: after =>
    if mark == 'e' || mark == 'E' then
      match after with
      | sign :: digits =>
        if sign == '+' || sign == '-' then
          match digits with
          | digit :: _ =>
            if digit.isDigit then do
              let (exponent, rest) ← run Char.isDigit digits
              imaginary (written ++ 'e' :: sign :: exponent) rest
            else none
          | [] => none
        else if sign.isDigit then do
          let (exponent, rest) ← run Char.isDigit after
          imaginary (written ++ 'e' :: exponent) rest
        else finish written rest
      | [] => finish written rest
    else imaginary written rest
  | [] => imaginary written rest

/-- Go on after the point of a number. -/
def fraction (written rest : List Char) : Option (List Char × List Char) :=
  match rest with
  | digit :: _ =>
    if digit.isDigit then do
      let (digits, rest) ← run Char.isDigit rest
      exponent (written ++ digits) rest
    else exponent written rest
  | [] => exponent written rest

/-- The digits after the mark of a base, and what follows. -/
def based (mark : Char) (isDigit : Char → Bool) (rest : List Char) :
    Option (List Char × List Char) := do
  let digits := match rest with
    | '_' :: digits => digits
    | digits => digits
  if !(digits.head?.any isDigit) then none
  let (digits, rest) ← run isDigit digits
  if rest.head?.any Char.isDigit then none
  finish ('0' :: mark :: digits) rest

/-- The number in base ten at the start of the characters. -/
def decimal (chars : List Char) : Option (List Char × List Char) := do
  let (whole, rest) ← run Char.isDigit chars
  match rest with
  | '.' :: rest => fraction (whole ++ ['.']) rest
  | mark :: _ =>
    if mark == 'e' || mark == 'E' || mark == 'j' || mark == 'J' then exponent whole rest
    else if whole.head? == some '0' && whole.any (· != '0') then none
    else finish whole rest
  | [] => if whole.head? == some '0' && whole.any (· != '0') then none else finish whole rest

/-- The number at the start of the characters and what follows it; `none` if it is ill-formed. The
characters open with a digit, or with a point and a digit. -/
def scan (chars : List Char) : Option (List Char × List Char) :=
  match chars with
  | '.' :: rest => fraction ['.'] rest
  | '0' :: mark :: rest =>
    if mark == 'x' || mark == 'X' then based 'x' (fun c => (Text.hexValue? c).isSome) rest
    else if mark == 'o' || mark == 'O' then based 'o' (fun c => '0' ≤ c && c ≤ '7') rest
    else if mark == 'b' || mark == 'B' then based 'b' (fun c => c == '0' || c == '1') rest
    else decimal chars
  | _ => decimal chars

/-- The value of a digit of the given base. -/
def digitValue? (base : Nat) (c : Char) : Option Nat := do
  let value ← Text.hexValue? c
  if value < base then some value else none

/-- The constant that a number without underscores stands for; `none` for a whole number in base ten
with too many digits. Zeros in front make a real number of any other whole number than zero. -/
def constant? (written : List Char) : Option Constant :=
  match written with
  | '0' :: 'x' :: digits => (Text.readDigits (digitValue? 16) 16 digits).map .int
  | '0' :: 'o' :: digits => (Text.readDigits (digitValue? 8) 8 digits).map .int
  | '0' :: 'b' :: digits => (Text.readDigits (digitValue? 2) 2 digits).map .int
  | _ =>
    if written.getLast? == some 'j' then
      some (.imaginary (Decimal.Binary64.readReal false written.dropLast))
    else if written.all (· == '0') then some (.int 0)
    else if written.all Char.isDigit && written.head? != some '0' then
      if Decimal.digitLimit < written.length then none else some (.int (Decimal.readDigits written))
    else some (.real (Decimal.Binary64.readReal false written))

end Stringify.Source.Number
