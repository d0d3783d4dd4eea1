import Stringify.Text.Basic
import Stringify.Text.Hexadecimal
import Stringify.Text.Printable

/-!
# Quoted texts

Messages and type names show a text between quotes. The quotes are single ones, except for a text
with single quotes and no double ones. A backslash, the quote in use and every code point that is
not printable are escaped, with the shortest of the escapes that can name it.
-/

namespace Stringify.Text

/-- The quote that encloses a text: a double one only where that saves escapes. -/
def quoteFor (single double : Bool) : Char :=
  if single && !double then '\x22' else '\x27'

/-- The numbered escape of a code point, as short as its number permits. -/
def numberedEscape (code : Nat) : List Char :=
  if code < 0x100 then '\\' :: 'x' :: hexDigits 2 code
  else if code < 0x10000 then '\\' :: 'u' :: hexDigits 4 code
  else '\\' :: 'U' :: hexDigits 8 code

/-- The escape of a code point: by a letter for the line feed, the carriage return and the tab, by
itself for a backslash, by number for every other one. -/
def escapeCode (code : Nat) : List Char :=
  if code = 0x5c then ['\\', '\\']
  else if code = 0x0a then ['\\', 'n']
  else if code = 0x0d then ['\\', 'r']
  else if code = 0x09 then ['\\', 't']
  else numberedEscape code

/-- A code point inside the given quotes. -/
def quoteCode (quote : Char) (code : CodePoint) : List Char :=
  match code.toChar? with
  | none => escapeCode code.val
  | some c =>
    if c = quote then ['\\', c]
    else if c = '\\' || !isPrintable code.val then escapeCode code.val
    else [c]

/-- The quote that encloses the given text. -/
def quote (text : Text) : Char :=
  quoteFor (text.contains (CodePoint.ofChar '\x27')) (text.contains (CodePoint.ofChar '\x22'))

/-- The characters of a text between quotes. -/
def quotedChars (text : Text) : List Char :=
  text.quote :: text.flatMap (quoteCode text.quote) ++ [text.quote]

/-- A text between quotes. -/
def quoted (text : Text) : String :=
  String.ofList text.quotedChars

/-- A byte inside the given quotes: printable ASCII stands for itself. -/
def quoteByte (quote : Char) (byte : UInt8) : List Char :=
  let c := Char.ofNat byte.toNat
  if c = quote then ['\\', c]
  else if c = '\\' || !(byte.toNat < 0x80 && isPrintable byte.toNat) then escapeCode byte.toNat
  else [c]

/-- The characters of a byte string, marked by a `b` before its quotes. -/
def quotedBytesChars (bytes : List UInt8) : List Char :=
  let quote := quoteFor (bytes.contains 0x27) (bytes.contains 0x22)
  'b' :: quote :: bytes.flatMap (quoteByte quote) ++ [quote]

/-- A byte string between quotes. -/
def quotedBytes (bytes : List UInt8) : String :=
  String.ofList (quotedBytesChars bytes)

/-- The string of a text, in which numbered escapes stand for surrogates. -/
def toStringEscaping (text : Text) : String :=
  String.ofList (text.flatMap fun code =>
    match code.toChar? with
    | some c => [c]
    | none => numberedEscape code.val)

end Stringify.Text

/-- A string between quotes, escaped as a text is. -/
def Stringify.quotedString (string : String) : String :=
  Stringify.Text.quoted (Stringify.Text.ofString string)
