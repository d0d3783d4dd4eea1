import Stringify.Source.Expr.Printer
import Stringify.Text.Utf8
import Stringify.Verdict

/-!
# Faults

A fault stops the work on a stub at once and is no fault of a place in it: a question about an
unknown class, a limit of the number or text formats, a broken promise of the library.
-/

namespace Stringify.Stub

/-- What stops the work on a stub. -/
inductive Fault where
  /-- A class is asked about that is not in the table. -/
  | unknownClass (name : String)
  /-- No class in the line of ancestors declares a conversion to text. -/
  | rootless (name : String)
  /-- A composition without parts. -/
  | emptyComposition (composition : Composition)
  /-- A value that is no literal. -/
  | notALiteral (display : String)
  /-- An integer beyond the real numbers. -/
  | integerOverflow
  /-- Something that cannot be printed. -/
  | unprintable (error : Source.PrintError)
  /-- The name of the file has a null character. -/
  | nullInFileName
  /-- A source or a forward reference with a null character. -/
  | nullCharacter
  /-- A source or a forward reference with surrogates, first at the given position and
  consecutive. -/
  | surrogates (error : Text.Utf8.EncodeError)
  deriving DecidableEq, Repr

namespace Fault

/-- The wording of a fault. -/
def message : Fault → String
  | .unknownClass name => quotedString name
  | .rootless name => s!"MRO of {name} does not end in object"
  | .emptyComposition .union => "empty union"
  | .emptyComposition .intersection => "empty intersection"
  | .notALiteral display => s!"unsupported literal value: {display}"
  | .integerOverflow => "int too large to convert to float"
  | .unprintable error => error.message
  | .nullCharacter => "source code string cannot contain null bytes"
  | .nullInFileName => "embedded null character"
  | .surrogates error => error.message

end Fault

/-- The characters of a source; `none` if it cannot be read for a null character. -/
def sourceChars [Release] (source : Text) : Except Fault (Option (List Char)) := do
  let chars ← (Text.Utf8.characters source).mapError .surrogates
  if !chars.contains '\x00' then return some chars
  else if Release.refusesNull then return none
  else throw .nullCharacter

end Stringify.Stub
