import Stringify.Source.Reading

/-!
# Readers inside expressions

The grammar of expressions is recursive through its rules. What a rule needs of the other rules is a
reader for each of them. The readers here stand between the rules: items of displays and targets,
tuples without brackets, assignments inside expressions.
-/

namespace Stringify.Source

/-- The readers of the expressions inside an expression. -/
structure Nested where
  /-- The reader of a rule. -/
  read : Rule → Reading Expr

namespace Nested

open Reading

/-- A starred operand. -/
def starred (nested : Nested) (operand : Rule) : Reading Expr := do
  let line ← symbolLine "*"
  return .starred line (← nested.read operand)

/-- An assignment to a name inside an expression. -/
def assignment (nested : Nested) : Reading Expr := do
  let line ← currentLine
  let name ← identifier
  symbol ":="
  return .assignment line (.name line name) (← nested.read .expression)

/-- An expression that is not assigned to. -/
def unassigned (nested : Nested) : Reading Expr := do
  let value ← nested.read .expression
  followsNot (symbol ":=")
  return value

/-- An expression or an assignment to a name. -/
def named (nested : Nested) : Reading Expr :=
  firstOf [nested.assignment, explaining (nested.read .misplacedAssignment), nested.unassigned]

/-- An item of a display: an expression, an assignment or a starred operand. -/
def item (nested : Nested) : Reading Expr :=
  firstOf [nested.starred .bitOr, nested.named]

/-- Items of a display with commas between them and possibly at the end. -/
def items (nested : Nested) : Reading (List Expr) := do
  let items ← separated "," nested.item
  skip (symbol ",")
  return items

/-- Items of one kind with commas between them: one alone stands for itself, others form a tuple. -/
def tupleOr (item : Reading Expr) : Reading Expr := do
  let line ← currentLine
  let first ← item
  match ← many (do symbol ","; item) with
  | [] => firstOf [do symbol ","; return .tuple line [first], pure first]
  | rest =>
    skip (symbol ",")
    return .tuple line (first :: rest)

/-- Expressions with commas between them. -/
def expressions (nested : Nested) : Reading Expr :=
  tupleOr (nested.read .expression)

/-- Expressions with commas between them, some of them possibly starred. -/
def starExpressions (nested : Nested) : Reading Expr :=
  tupleOr (nested.read .starExpression)

/-- Targets with commas between them. -/
def targets (nested : Nested) : Reading Expr :=
  tupleOr (nested.read .target)

/-- What a generator gives. -/
def yielded (nested : Nested) : Reading Expr := do
  let line ← currentLine
  let all := do
    word "yield"
    word "from"
    return .yieldFrom line (← nested.read .expression)
  let one := do
    word "yield"
    return .yield line (← perhaps nested.starExpressions)
  firstOf [all, one]

/-- A value that is assigned: what a generator gives, or expressions with commas between them. -/
def assignedValue (nested : Nested) : Reading Expr :=
  firstOf [nested.yielded, nested.starExpressions]

end Nested

end Stringify.Source
