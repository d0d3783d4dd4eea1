import Stringify.Decimal.Binary64
import Stringify.Text.Basic

/-!
# Constants

The constants of expressions. A written number carries no sign, so integers are naturals here, and a
complex constant has an imaginary part only.
-/

namespace Stringify.Source

/-- A constant of an expression. -/
inductive Constant where
  | nothing
  | ellipsis
  | bool (value : Bool)
  | int (value : Nat)
  | real (value : Decimal.Binary64)
  | imaginary (value : Decimal.Binary64)
  /-- A text; it is marked if it was written with a `u` before its quotes. -/
  | text (value : Text) (isMarked : Bool)
  | bytes (value : List UInt8)
  deriving DecidableEq, Repr

end Stringify.Source
