import Stringify.Decimal.Integer
import Stringify.Decimal.Layout
import Stringify.Text.Quoted
import Stringify.Ty.Compose

/-!
# Literals

A literal is a value with a type of its own. The type is named by the value as a message shows it,
and its conversion to text is declared by the built-in type of the value.
-/

namespace Stringify

open Decimal (Binary64)

/-- A value that a type can consist of. -/
inductive Literal where
  | bool (value : Bool)
  | int (value : Int)
  | real (value : Binary64)
  | complex (re im : Binary64)
  | text (value : Text)
  | bytes (value : List UInt8)
  deriving DecidableEq, Repr

namespace Literal

/-- The built-in type of a literal. -/
def kind : Literal → String
  | .bool _ => "bool"
  | .int _ => "int"
  | .real _ => "float"
  | .complex _ _ => "complex"
  | .text _ => "str"
  | .bytes _ => "bytes"

/-- How a message shows the literal; an integer with too many digits cannot be shown. -/
def display? : Literal → Option String
  | .bool true => some "True"
  | .bool false => some "False"
  | .int value => Decimal.integerText? value
  | .real value => some value.realText
  | .complex re im => some (Binary64.complexText re im)
  | .text value => some value.quoted
  | .bytes value => some (Text.quotedBytes value)

/-- The type of the literal alone. -/
def type? (literal : Literal) : Option Ty :=
  literal.display?.map (Ty.ofLiteral · literal.kind)

end Literal

end Stringify
