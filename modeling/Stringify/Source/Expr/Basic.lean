import Stringify.Source.Constant
import Stringify.Source.Level

/-!
# Expressions

The syntax trees of expressions. Each node has the line on which it starts. Parentheses leave no
trace other than the shape of the tree.
-/

namespace Stringify.Source

/-- An operator with one operand. -/
inductive UnaryOp where
  | plus
  | minus
  | invert
  | not
  deriving DecidableEq, Repr

/-- An arithmetical or bitwise operator. -/
inductive BinaryOp where
  | add
  | sub
  | mul
  | matMul
  | div
  | mod
  | floorDiv
  | pow
  | shiftLeft
  | shiftRight
  | bitOr
  | bitXor
  | bitAnd
  deriving DecidableEq, Repr

/-- A logical operator. -/
inductive LogicalOp where
  | and
  | or
  deriving DecidableEq, Repr

/-- A comparison. -/
inductive Comparator where
  | equal
  | notEqual
  | less
  | lessEqual
  | greater
  | greaterEqual
  | is
  | isNot
  | isIn
  | isNotIn
  deriving DecidableEq, Repr

/-- What a comprehension collects its elements in. -/
inductive Collection where
  | list
  | set
  | generator
  deriving DecidableEq, Repr

mutual

/-- An expression. -/
inductive Expr where
  | name (line : Nat) (text : String)
  | constant (line : Nat) (value : Constant)
  | attribute (line : Nat) (value : Expr) (field : String)
  | subscript (line : Nat) (value index : Expr)
  /-- A call; named arguments come after positional ones. -/
  | call (line : Nat) (function : Expr) (arguments : List Argument)
  | unary (line : Nat) (operator : UnaryOp) (operand : Expr)
  | binary (line : Nat) (left : Expr) (operator : BinaryOp) (right : Expr)
  /-- Operands joined by one logical operator. -/
  | logical (line : Nat) (operator : LogicalOp) (operands : List Expr)
  | comparison (line : Nat) (first : Expr) (links : List Link)
  | conditional (line : Nat) (body test orElse : Expr)
  | lambda (line : Nat) (parameters : List Parameter) (body : Expr)
  /-- An assignment inside an expression. -/
  | assignment (line : Nat) (target value : Expr)
  | await (line : Nat) (value : Expr)
  | yield (line : Nat) (value : Option Expr)
  | yieldFrom (line : Nat) (value : Expr)
  | starred (line : Nat) (value : Expr)
  | tuple (line : Nat) (items : List Expr)
  | list (line : Nat) (items : List Expr)
  | set (line : Nat) (items : List Expr)
  | dictionary (line : Nat) (entries : List Entry)
  | comprehension (line : Nat) (collection : Collection) (element : Expr) (clauses : List Clause)
  | dictionaryOf (line : Nat) (key value : Expr) (clauses : List Clause)
  | slice (line : Nat) (lower upper step : Option Expr)
  /-- A text with fields. -/
  | formatted (line : Nat) (pieces : List Piece)

/-- An argument of a call or a class. -/
inductive Argument where
  | positional (value : Expr)
  | named (name : String) (value : Expr)
  | unpacked (value : Expr)

/-- A comparison with the next operand of a chain. -/
inductive Link where
  | mk (comparator : Comparator) (operand : Expr)

/-- An item in a list of parameters. -/
inductive Parameter where
  | required (name : String)
  | optional (name : String) (default : Expr)
  /-- The mark after which parameters may be passed by name. -/
  | endPositional
  /-- The mark after which parameters have to be passed by name. -/
  | startNamed
  | rest (name : String)
  | namedRest (name : String)

/-- An entry of a dictionary. -/
inductive Entry where
  | pair (key value : Expr)
  | unpacked (value : Expr)

/-- A clause of a comprehension. -/
inductive Clause where
  | mk (isAsync : Bool) (target iterable : Expr) (conditions : List Expr)

/-- A piece of a text with fields. -/
inductive Piece where
  | text (value : Text)
  | field (value : Expr) (conversion : Option Char)
  /-- A field with a layout, which may have fields itself. -/
  | laidOut (value : Expr) (conversion : Option Char) (layout : List Piece)

end

namespace Expr

/-- The line on which an expression starts. -/
def line : Expr → Nat
  | .name line _ | .constant line _ | .attribute line _ _ | .subscript line _ _ | .call line _ _
  | .unary line _ _ | .binary line _ _ _ | .logical line _ _ | .comparison line _ _
  | .conditional line _ _ _ | .lambda line _ _ | .assignment line _ _ | .await line _
  | .yield line _ | .yieldFrom line _ | .starred line _ | .tuple line _ | .list line _
  | .set line _ | .dictionary line _ | .comprehension line _ _ _ | .dictionaryOf line _ _ _
  | .slice line _ _ _ | .formatted line _ => line

/-- The name that stands at the root of a chain of attributes and subscripts: the last attribute
before any subscript, or the name itself. -/
def rootName? : Expr → Option String
  | .name _ text => some text
  | .attribute _ _ field => some field
  | .subscript _ value _ => rootName? value
  | _ => none

end Expr

namespace UnaryOp

/-- How the operator is written. -/
def symbol : UnaryOp → String
  | .plus => "+"
  | .minus => "-"
  | .invert => "~"
  | .not => "not "

/-- The level of the operation and of its operand. -/
def level : UnaryOp → Level
  | .not => .not
  | _ => .unary

end UnaryOp

namespace BinaryOp

/-- How the operator is written. -/
def symbol : BinaryOp → String
  | .add => "+"
  | .sub => "-"
  | .mul => "*"
  | .matMul => "@"
  | .div => "/"
  | .mod => "%"
  | .floorDiv => "//"
  | .pow => "**"
  | .shiftLeft => "<<"
  | .shiftRight => ">>"
  | .bitOr => "|"
  | .bitXor => "^"
  | .bitAnd => "&"

/-- The level of the operation. -/
def level : BinaryOp → Level
  | .add | .sub => .sum
  | .mul | .matMul | .div | .mod | .floorDiv => .product
  | .pow => .power
  | .shiftLeft | .shiftRight => .shift
  | .bitOr => .bitOr
  | .bitXor => .bitXor
  | .bitAnd => .bitAnd

/-- The levels of the operands. All operators but powers group to the left. -/
def operandLevels (operator : BinaryOp) : Level × Level :=
  match operator with
  | .pow => (operator.level.next, operator.level)
  | _ => (operator.level, operator.level.next)

end BinaryOp

namespace LogicalOp

/-- How the operator is written. -/
def symbol : LogicalOp → String
  | .and => "and"
  | .or => "or"

/-- The level of the operation. -/
def level : LogicalOp → Level
  | .and => .and
  | .or => .or

end LogicalOp

/-- How a comparison is written. -/
def Comparator.symbol : Comparator → String
  | .equal => "=="
  | .notEqual => "!="
  | .less => "<"
  | .lessEqual => "<="
  | .greater => ">"
  | .greaterEqual => ">="
  | .is => "is"
  | .isNot => "is not"
  | .isIn => "in"
  | .isNotIn => "not in"

/-- The brackets around the elements of a collection. -/
def Collection.brackets : Collection → String × String
  | .list => ("[", "]")
  | .set => ("\x7b", "\x7d")
  | .generator => ("(", ")")

end Stringify.Source
