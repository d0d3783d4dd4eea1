import Stringify.Decimal.Reader
import Stringify.Json.Basic

/-!
# Reading documents

`Json.read` accepts one JSON document with blanks around it. Beside the standard it admits `NaN`,
`Infinity` and `-Infinity`; of two fields with one name the last counts. A refusal names a problem
and the place where reading stopped.
-/

namespace Stringify.Json

/-- Why a text is not a document. -/
inductive Problem where
  | expectedValue
  | expectedName
  | expectedColon
  | expectedComma
  | unterminatedText
  | controlCharacter
  | unknownEscape
  | brokenCodeEscape
  | trailingText
  | byteOrderMark
  | tooManyDigits (count : Nat)
  deriving DecidableEq, Repr

namespace Problem

/-- The wording of a problem. -/
def message : Problem → String
  | .expectedValue => "Expecting value"
  | .expectedName => "Expecting property name enclosed in double quotes"
  | .expectedColon => "Expecting ':' delimiter"
  | .expectedComma => "Expecting ',' delimiter"
  | .unterminatedText => "Unterminated string starting at"
  | .controlCharacter => "Invalid control character at"
  | .unknownEscape => "Invalid \\escape"
  | .brokenCodeEscape => "Invalid \\uXXXX escape"
  | .trailingText => "Extra data"
  | .byteOrderMark => "Unexpected UTF-8 BOM (decode using utf-8-sig)"
  | .tooManyDigits count =>
    s!"Exceeds the limit ({Decimal.digitLimit} digits) for integer string conversion: value has "
      ++ s!"{count} digits; use sys.set_int_max_str_digits() to increase the limit"

end Problem

/-- A problem at the place where the given characters are left. -/
structure Failure where
  problem : Problem
  rest : List Char
  deriving DecidableEq, Repr

/-- A reader of something at the start of the characters left. -/
abbrev Reading (α : Type) := List Char → Except Failure (α × List Char)

/-- Whether a character is a blank between the parts of a document. -/
def isBlank (c : Char) : Bool :=
  c == ' ' || c == '\t' || c == '\n' || c == '\r'

/-- The characters after the leading blanks. -/
def skipBlanks (chars : List Char) : List Char :=
  chars.dropWhile isBlank

/-- The code point of an escape by a single letter. -/
def letterEscape? : Char → Option CodePoint
  | '\x22' => some 0x22
  | '\\' => some 0x5c
  | '/' => some 0x2f
  | 'b' => some 0x08
  | 'f' => some 0x0c
  | 'n' => some 0x0a
  | 'r' => some 0x0d
  | 't' => some 0x09
  | _ => none

/-- The code unit written by four hexadecimal digits. -/
def codeUnit? (digits : List Char) : Option Nat :=
  if digits.length = 4 then Text.readDigits Text.hexValue? 16 digits else none

/-- Whether a number is the first half of a surrogate pair. -/
def isHighHalf (unit : Nat) : Bool :=
  0xd800 ≤ unit && unit < 0xdc00

/-- Whether a number is the second half of a surrogate pair. -/
def isLowHalf (unit : Nat) : Bool :=
  0xdc00 ≤ unit && unit < 0xe000

/-- The code point of a surrogate pair. -/
def joinHalves (high low : Nat) : Nat :=
  0x10000 + (high - 0xd800) * 0x400 + (low - 0xdc00)

/-- The code point with the given number; zero if there is none. -/
def codePoint (code : Nat) : CodePoint :=
  (CodePoint.ofNat? code).getD 0

/-- Read the code unit after `\u`. A text cannot end with one, so more has to follow it. -/
def readUnit : Reading Nat := fun chars =>
  match chars with
  | _ :: digits =>
    if digits.length ≤ 4 then .error ⟨.brokenCodeEscape, chars⟩
    else match codeUnit? (digits.take 4) with
      | some unit => .ok (unit, digits.drop 4)
      | none => .error ⟨.brokenCodeEscape, chars⟩
  | [] => .error ⟨.brokenCodeEscape, chars⟩

/-- Read an escape by code unit, joining the two halves of a surrogate pair. -/
def readCodeEscape : Reading CodePoint := fun chars => do
  let (unit, rest) ← readUnit chars
  if !isHighHalf unit || rest.length ≤ 6 then return (codePoint unit, rest)
  match rest with
  | '\\' :: 'u' :: _ =>
    let (second, after) ← readUnit (rest.drop 1)
    if isLowHalf second then return (codePoint (joinHalves unit second), after)
    else return (codePoint unit, rest)
  | _ => return (codePoint unit, rest)

/-- Read a text up to its closing quote; `start` is the place of the opening one. -/
def readText (start : List Char) : (steps : Nat) → (done : Text) → Reading Text
  | 0, _, _ => .error ⟨.unterminatedText, start⟩
  | steps + 1, done, chars =>
    match chars with
    | [] => .error ⟨.unterminatedText, start⟩
    | '\x22' :: rest => .ok (done.reverse, rest)
    | ['\\'] => .error ⟨.unterminatedText, start⟩
    | '\\' :: 'u' :: rest => do
      let (code, rest) ← readCodeEscape ('u' :: rest)
      readText start steps (code :: done) rest
    | '\\' :: letter :: rest =>
      match letterEscape? letter with
      | some code => readText start steps (code :: done) rest
      | none => .error ⟨.unknownEscape, chars⟩
    | c :: rest =>
      if c < ' ' then .error ⟨.controlCharacter, chars⟩
      else readText start steps (CodePoint.ofChar c :: done) rest

/-- The length of an exponent at the start of the characters, zero if there is none. -/
def exponentLength : List Char → Nat
  | mark :: sign :: rest =>
    if mark != 'e' && mark != 'E' then 0
    else if sign == '+' || sign == '-' then
      let digits := (rest.takeWhile Char.isDigit).length
      if digits = 0 then 0 else digits + 2
    else
      let digits := ((sign :: rest).takeWhile Char.isDigit).length
      if digits = 0 then 0 else digits + 1
  | _ => 0

/-- The length of a fraction at the start of the characters, zero if there is none. -/
def fractionLength : List Char → Nat
  | '.' :: rest =>
    let digits := (rest.takeWhile Char.isDigit).length
    if digits = 0 then 0 else digits + 1
  | _ => 0

/-- The length of a whole number without superfluous zeros, zero if there is none. -/
def wholeLength : List Char → Nat
  | '0' :: _ => 1
  | chars => (chars.takeWhile Char.isDigit).length

/-- Read a number. -/
def readNumber : Reading Json := fun chars =>
  let (negative, unsigned) := match chars with
    | '-' :: rest => (true, rest)
    | _ => (false, chars)
  let whole := wholeLength unsigned
  let fraction := fractionLength (unsigned.drop whole)
  let exponent := exponentLength (unsigned.drop (whole + fraction))
  let written := unsigned.take (whole + fraction + exponent)
  let rest := unsigned.drop (whole + fraction + exponent)
  if whole = 0 then .error ⟨.expectedValue, chars⟩
  else if fraction + exponent ≠ 0 then
    .ok (.scalar (.real (Decimal.Binary64.readReal negative written)), rest)
  else if Decimal.digitLimit < whole then .error ⟨.tooManyDigits whole, chars⟩
  else
    let value : Int := Decimal.readDigits written
    .ok (.scalar (.int (if negative then -value else value)), rest)

/-- The documents written by a word. -/
def words : List (List Char × Json) :=
  [("null".toList, .scalar .null),
   ("true".toList, .scalar (.bool true)),
   ("false".toList, .scalar (.bool false)),
   ("NaN".toList, .scalar (.real .nan)),
   ("Infinity".toList, .scalar (.real (.infinite false))),
   ("-Infinity".toList, .scalar (.real (.infinite true)))]

/-- Read a document without parts. -/
def readSimple : Reading Json := fun chars =>
  match words.find? (fun word => word.1.isPrefixOf chars) with
  | some word => .ok (word.2, chars.drop word.1.length)
  | none => readNumber chars

mutual

/-- Read a document; `steps` bounds the number of parts. -/
def readValue : (steps : Nat) → Reading Json
  | 0, chars => .error ⟨.expectedValue, chars⟩
  | steps + 1, chars =>
    match chars with
    | '\x22' :: rest => do
      let (value, rest) ← readText chars (rest.length + 1) [] rest
      return (.text value, rest)
    | '[' :: rest =>
      match skipBlanks rest with
      | ']' :: rest => .ok (.list [], rest)
      | rest => readItems steps [] rest
    | '\x7b' :: rest =>
      match skipBlanks rest with
      | '\x7d' :: rest => .ok (.object [], rest)
      | rest => readFields steps [] rest
    | _ => readSimple chars

/-- Read the items of a list from the next one on. -/
def readItems : (steps : Nat) → (done : List Json) → Reading Json
  | 0, _, chars => .error ⟨.expectedValue, chars⟩
  | steps + 1, done, chars => do
    let (item, rest) ← readValue steps chars
    match skipBlanks rest with
    | ']' :: rest => return (.list (item :: done).reverse, rest)
    | ',' :: rest => readItems steps (item :: done) (skipBlanks rest)
    | rest => throw ⟨.expectedComma, rest⟩

/-- Read the fields of an object from the next one on. -/
def readFields : (steps : Nat) → (done : Entries Text Json) → Reading Json
  | 0, _, chars => .error ⟨.expectedName, chars⟩
  | steps + 1, done, chars =>
    match chars with
    | '\x22' :: rest => do
      let (name, rest) ← readText chars (rest.length + 1) [] rest
      match skipBlanks rest with
      | ':' :: rest =>
        let (value, rest) ← readValue steps (skipBlanks rest)
        let done := done.put name value
        match skipBlanks rest with
        | '\x7d' :: rest => return (.object done, rest)
        | ',' :: rest => readFields steps done (skipBlanks rest)
        | rest => throw ⟨.expectedComma, rest⟩
      | rest => throw ⟨.expectedColon, rest⟩
    | _ => .error ⟨.expectedName, chars⟩

end

/-- A problem with the position, counted in characters from zero, where reading stopped. -/
structure ReadError where
  problem : Problem
  position : Nat
  deriving DecidableEq, Repr

/-- The wording of a refusal. All but a number too long are placed by line, column and position. -/
def ReadError.message (error : ReadError) (document : List Char) : String :=
  match error.problem with
  | .tooManyDigits _ => error.problem.message
  | _ =>
    let before := document.take error.position
    let line := before.count '\n' + 1
    let column := (before.reverse.takeWhile (· != '\n')).length + 1
    s!"{error.problem.message}: line {line} column {column} (char {error.position})"

/-- The document that the characters write. -/
def read (document : List Char) : Except ReadError Json :=
  let place (failure : Failure) : ReadError :=
    ⟨failure.problem, document.length - failure.rest.length⟩
  match document with
  | '\ufeff' :: _ => .error ⟨.byteOrderMark, 0⟩
  | _ =>
    match readValue (document.length + 1) (skipBlanks document) with
    | .error failure => .error (place failure)
    | .ok (value, rest) =>
      match skipBlanks rest with
      | [] => .ok value
      | rest => .error (place ⟨.trailingText, rest⟩)

end Stringify.Json
