/-!
# Levels of binding

Expressions are ordered by how tightly they hold together: an operand of an operator stands at least
at the level that the operator asks for, and goes into parentheses where it does not.
-/

namespace Stringify.Source

/-- How tightly an expression holds together, from the loosest to the tightest. -/
inductive Level where
  /-- An assignment inside an expression. -/
  | named
  /-- A tuple without parentheses. -/
  | tuple
  | yield
  /-- A conditional or a lambda. -/
  | test
  | or
  | and
  | not
  | comparison
  | bitOr
  | bitXor
  | bitAnd
  | shift
  | sum
  | product
  /-- A sign or an inversion of bits. -/
  | unary
  | power
  | await
  | atom
  deriving DecidableEq, Repr

namespace Level

/-- The place of a level in the order. -/
def rank : Level → Nat
  | .named => 1
  | .tuple => 2
  | .yield => 3
  | .test => 4
  | .or => 5
  | .and => 6
  | .not => 7
  | .comparison => 8
  | .bitOr => 9
  | .bitXor => 10
  | .bitAnd => 11
  | .shift => 12
  | .sum => 13
  | .product => 14
  | .unary => 15
  | .power => 16
  | .await => 17
  | .atom => 18

/-- The next tighter level; the tightest is its own. -/
def next : Level → Level
  | .named => .tuple
  | .tuple => .yield
  | .yield => .test
  | .test => .or
  | .or => .and
  | .and => .not
  | .not => .comparison
  | .comparison => .bitOr
  | .bitOr => .bitXor
  | .bitXor => .bitAnd
  | .bitAnd => .shift
  | .shift => .sum
  | .sum => .product
  | .product => .unary
  | .unary => .power
  | .power => .await
  | .await => .atom
  | .atom => .atom

/-- Whether the first level is looser than the second. -/
def isBelow (level other : Level) : Bool :=
  level.rank < other.rank

end Level

end Stringify.Source
