import Stringify.Source.Expr.Nested

/-!
# Operators

The rule of each level reads its operands at tighter levels. Operators with two operands group to
the left, except powers.
-/

namespace Stringify.Source.Nested

open Reading

/-- Operands joined by operators that group to the left, after the first one. -/
def leftGrouped (nested : Nested) (operators : List BinaryOp) (operand : Rule) (line : Nat) :
    (steps : Nat) → Expr → Reading Expr
  | 0, left => return left
  | steps + 1, left => do
    let next (operator : BinaryOp) : Reading Expr := do
      symbol operator.symbol
      return .binary line left operator (← nested.read operand)
    match ← perhaps (firstOf (operators.map next)) with
    | some left => nested.leftGrouped operators operand line steps left
    | none => return left

/-- Operands joined by operators that group to the left. -/
def binary (nested : Nested) (operators : List BinaryOp) (operand : Rule) : Reading Expr := do
  let line ← currentLine
  let first ← nested.read operand
  nested.leftGrouped operators operand line (← bound) first

/-- Operands joined by a logical operator. -/
def logical (nested : Nested) (operator : LogicalOp) (operand : Rule) : Reading Expr := do
  let line ← currentLine
  let first ← nested.read operand
  match ← many (do word operator.symbol; nested.read operand) with
  | [] => return first
  | rest => return .logical line operator (first :: rest)

/-- A comparison with its operand. -/
def link (nested : Nested) : Reading Link :=
  let linkBy (spelled : Reading Unit) (comparator : Comparator) : Reading Link := do
    spelled
    return .mk comparator (← nested.read .bitOr)
  firstOf
    [ linkBy (symbol "==") .equal,
      linkBy (symbol "!=") .notEqual,
      linkBy (symbol "<=") .lessEqual,
      linkBy (symbol "<") .less,
      linkBy (symbol ">=") .greaterEqual,
      linkBy (symbol ">") .greater,
      linkBy (do word "not"; word "in") .isNotIn,
      linkBy (word "in") .isIn,
      linkBy (do word "is"; word "not") .isNot,
      linkBy (word "is") .is ]

/-- A chain of comparisons. -/
def comparison (nested : Nested) : Reading Expr := do
  let line ← currentLine
  let first ← nested.read .bitOr
  match ← many nested.link with
  | [] => return first
  | links => return .comparison line first links

/-- An operand that is negated or compared. -/
def inversion (nested : Nested) : Reading Expr :=
  let negated := do
    let line ← wordLine "not"
    return .unary line .not (← nested.read .inversion)
  firstOf [negated, nested.comparison]

/-- A power; its exponent may carry a sign. -/
def power (nested : Nested) : Reading Expr := do
  let line ← currentLine
  let base ← nested.read .awaited
  let raised := do
    symbol "**"
    return .binary line base .pow (← nested.read .factor)
  firstOf [raised, pure base]

/-- An operand with its signs. -/
def factor (nested : Nested) : Reading Expr :=
  let signed (operator : UnaryOp) : Reading Expr := do
    let line ← symbolLine operator.symbol
    return .unary line operator (← nested.read .factor)
  firstOf [signed .plus, signed .minus, signed .invert, nested.power]

/-- An operand of a power, possibly awaited. -/
def awaited (nested : Nested) : Reading Expr :=
  let waiting := do
    let line ← wordLine "await"
    return .await line (← nested.read .primary)
  firstOf [waiting, nested.read .primary]

end Stringify.Source.Nested
