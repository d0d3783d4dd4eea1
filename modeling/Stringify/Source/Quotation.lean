import Stringify.Source.Token
import Stringify.Text.Basic
import Stringify.Text.CharName

/-!
# Quoted literals

What stands between quotes is taken as it is in a raw literal. In any other one a backslash opens an
escape: a letter for a control character, up to three octal digits, a marked hexadecimal number, or
in a text the name of a character in braces.
A backslash before a line end drops both, and a backslash that opens no escape stands for itself.
-/

namespace Stringify.Source

namespace Quotation

/-- The code of an escape by one character. -/
def simpleEscape? : Char → Option Nat
  | '\\' => some 0x5c
  | '\x27' => some 0x27
  | '\x22' => some 0x22
  | 'a' => some 0x07
  | 'b' => some 0x08
  | 'f' => some 0x0c
  | 'n' => some 0x0a
  | 'r' => some 0x0d
  | 't' => some 0x09
  | 'v' => some 0x0b
  | _ => none

/-- The number of hexadecimal digits after the mark of a numbered escape. Bytes have the shortest
form only. -/
def escapeWidth? (isBytes : Bool) : Char → Option Nat
  | 'x' => some 2
  | 'u' => if isBytes then none else some 4
  | 'U' => if isBytes then none else some 8
  | _ => none

/-- The value of an octal digit. -/
def octalValue? (c : Char) : Option Nat :=
  if '0' ≤ c ∧ c ≤ '7' then some (c.toNat - '0'.toNat) else none

/-- A piece of a literal and the characters after it. -/
structure Escape where
  codes : List Nat
  rest : List Char

/-- The escape that names a character, after its mark; `none` if there is no such name. -/
def namedEscape? : List Char → Option Escape
  | '\x7b' :: rest =>
    let name := rest.takeWhile (· != '\x7d')
    match rest.drop name.length with
    | _ :: rest => (Text.codeOfName? name).map fun code => ⟨[code], rest⟩
    | [] => none
  | _ => none

/-- The escape after a backslash; `none` if it is malformed. -/
def escape? (isBytes : Bool) (c : Char) (rest : List Char) : Option Escape :=
  if c == '\n' then some ⟨[], rest⟩
  else match simpleEscape? c with
    | some code => some ⟨[code], rest⟩
    | none =>
      match escapeWidth? isBytes c with
      | some width => do
        let digits := rest.take width
        if digits.length < width then none
        let code ← Text.readDigits Text.hexValue? 16 digits
        return ⟨[code], rest.drop width⟩
      | none =>
        if (octalValue? c).isSome then do
          let digits := ((c :: rest).take 3).takeWhile (octalValue? · |>.isSome)
          let code ← Text.readDigits octalValue? 8 digits
          return ⟨[code], (c :: rest).drop digits.length⟩
        else if c == 'N' && !isBytes then namedEscape? rest
        else some ⟨[0x5c], c :: rest⟩

/-- The codes that the characters of a literal stand for; `none` if an escape is malformed. Each
step passes over at least one of the characters, which bounds their number. -/
def unescape (isBytes : Bool) : (steps : Nat) → List Char → Option (List Nat)
  | 0, _ => some []
  | _ + 1, [] => some []
  | _ + 1, ['\\'] => some [0x5c]
  | steps + 1, '\\' :: c :: rest => do
    let escape ← escape? isBytes c rest
    return escape.codes ++ (← unescape isBytes steps escape.rest)
  | steps + 1, c :: rest => do
    return c.toNat :: (← unescape isBytes steps rest)

/-- The text that some characters of a literal stand for. -/
def textOf? (isRaw : Bool) (chars : List Char) : Option Text :=
  if isRaw then some (chars.map CodePoint.ofChar)
  else do
    (← unescape false chars.length chars).mapM CodePoint.ofNat?

/-- The bytes that a literal stands for; `none` if an escape is malformed. -/
def bytes? (literal : Quotation) : Option (List UInt8) := do
  let codes ←
    if literal.isRaw then some (literal.body.map Char.toNat)
    else unescape true literal.body.length literal.body
  return codes.map UInt8.ofNat

end Quotation

end Stringify.Source
