import Stringify.Source.Expr.Basic
import Stringify.Ty.Literal

/-!
# Literals in annotations

An argument of a literal annotation is evaluated: constants, numbers with a sign, and sums or
differences of a real and an imaginary number give literals. Collections are evaluated too, although
no type can be made of them, because a part of them may be no literal expression or may not fit into
a number.
-/

namespace Stringify.Stub

open Decimal (Binary64)
open Source (Expr Entry)

/-- Why an expression has no value. -/
inductive ValueError where
  /-- The expression is no literal expression. -/
  | unsupported
  /-- An integer does not fit into a real number. -/
  | integerOverflow
  deriving DecidableEq, Repr

/-- The value of a literal expression. -/
inductive Value where
  | nothing
  | literal (value : Literal)
  /-- A value of another kind, which may be a key or not. -/
  | other (isKey : Bool)
  deriving DecidableEq, Repr

/-- Whether a value can be a key of a dictionary or an element of a set. -/
def Value.isKey : Value → Bool
  | .other isKey => isKey
  | _ => true

/-- A number. -/
inductive Number where
  | int (value : Int)
  | real (value : Binary64)
  | complex (re im : Binary64)

namespace Number

/-- The literal of a number. -/
def literal : Number → Literal
  | .int value => .int value
  | .real value => .real value
  | .complex re im => .complex re im

/-- The number with the opposite sign. -/
def neg : Number → Number
  | .int value => .int (-value)
  | .real value => .real value.neg
  | .complex re im => .complex re.neg im.neg

/-- The number that an expression writes without a sign. -/
def ofConstant? : Expr → Option Number
  | .constant _ (.int value) => some (.int value)
  | .constant _ (.real value) => some (.real value)
  | .constant _ (.imaginary value) => some (.complex (Binary64.zero false) value)
  | _ => none

/-- The number that an expression writes, possibly with a sign. -/
def ofSigned? : Expr → Option Number
  | .unary _ .plus operand => ofConstant? operand
  | .unary _ .minus operand => (ofConstant? operand).map neg
  | expression => ofConstant? expression

/-- The real number that is added to an imaginary one, if it is none itself. -/
def realPart? : Number → Option (Except ValueError Binary64)
  | .int value =>
    match Binary64.ofInt? value with
    | some nearest => some (.ok nearest)
    | none => some (.error .integerOverflow)
  | .real value => some (.ok value)
  | .complex _ _ => none

/-- The sum or the difference of two numbers, of which the left one is no complex number and the
right one is. -/
def combine? (isSum : Bool) (left right : Number) : Option (Except ValueError Number) :=
  match left.realPart?, right with
  | some re, .complex _ im =>
    some <| re.map fun re =>
      if isSum then .complex re.addZero im else .complex re im.neg.addZero
  | _, _ => none

end Number

/-- The value of constants other than numbers. -/
def Value.ofConstant : Source.Constant → Value
  | .nothing => .nothing
  | .ellipsis => .other true
  | .bool value => .literal (.bool value)
  | .int value => .literal (.int value)
  | .real value => .literal (.real value)
  | .imaginary value => .literal (.complex (Binary64.zero false) value)
  | .text value _ => .literal (.text value)
  | .bytes value => .literal (.bytes value)

/-- The value of a number with a sign, or of a sum or difference. -/
def numberValue (expression : Expr) : Except ValueError Value :=
  let ofNumber (number : Number) : Value := .literal number.literal
  match expression with
  | .binary _ left operator right =>
    if operator = .add || operator = .sub then
      match Number.ofSigned? left, Number.ofConstant? right with
      | some left, some right =>
        match Number.combine? (operator = .add) left right with
        | some number => number.map ofNumber
        | none => .error .unsupported
      | _, _ => .error .unsupported
    else .error .unsupported
  | other =>
    match Number.ofSigned? other with
    | some number => .ok (ofNumber number)
    | none => .error .unsupported

/-- Refuse a value that cannot be a key. -/
def requireKey (value : Value) : Except ValueError Unit :=
  if value.isKey then .ok () else .error .unsupported

mutual

/-- The value of a literal expression. -/
def evaluate : Expr → Except ValueError Value
  | .constant _ value => .ok (.ofConstant value)
  | .tuple _ items => do
    let values ← evaluateItems items
    return .other (values.all Value.isKey)
  | .list _ items => do
    discard (evaluateItems items)
    return .other false
  | .set _ items => do
    evaluateKeys items
    return .other false
  | .dictionary _ entries => do
    evaluateEntries entries
    return .other false
  | .call _ (.name _ function) [] =>
    if function = "set" then .ok (.other false) else .error .unsupported
  | expression => numberValue expression

/-- The values of several literal expressions. -/
def evaluateItems : List Expr → Except ValueError (List Value)
  | [] => .ok []
  | item :: rest => do
    return (← evaluate item) :: (← evaluateItems rest)

/-- Evaluate the elements of a set one after the other. -/
def evaluateKeys : List Expr → Except ValueError Unit
  | [] => .ok ()
  | item :: rest => do
    requireKey (← evaluate item)
    evaluateKeys rest

/-- Evaluate the entries of a dictionary one after the other. -/
def evaluateEntries : List Entry → Except ValueError Unit
  | [] => .ok ()
  | .pair key value :: rest => do
    let key ← evaluate key
    discard (evaluate value)
    requireKey key
    evaluateEntries rest
  | .unpacked _ :: _ => .error .unsupported

end

end Stringify.Stub
