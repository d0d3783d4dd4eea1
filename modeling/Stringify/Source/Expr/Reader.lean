import Stringify.Source.Expr.Operators
import Stringify.Source.Expr.Parameters
import Stringify.Source.Expr.Targets

/-!
# Reading expressions

`readExpr` reads by a rule. Rules refer to one another without end, so their depth is bounded by a
number of steps; each rule but finitely many in a row takes a token, so a bound that grows with the
length of the source is never met.
-/

namespace Stringify.Source

namespace Nested

open Reading

/-- A conditional. -/
def conditional (nested : Nested) : Reading Expr := do
  let line ← currentLine
  let body ← nested.read .disjunction
  word "if"
  let test ← nested.read .disjunction
  word "else"
  return .conditional line body test (← nested.read .expression)

/-- A function that is an expression. -/
def lambda (nested : Nested) : Reading Expr := do
  let line ← wordLine "lambda"
  let parameters ← perhaps (nested.parameters .lambda)
  symbol ":"
  return .lambda line (parameters.getD []) (← nested.read .expression)

/-- An expression of any form. -/
def anyForm (nested : Nested) : Reading Expr :=
  firstOf [nested.conditional, nested.read .disjunction, nested.lambda]

/-- Whether an expression is the name of an old statement. -/
def isOldStatement : Expr → Bool
  | .name _ text => text == "print" || text == "exec"
  | _ => false

/-- A word that is short for one that opens a statement or a pattern, or that word itself. -/
def abbreviation : Reading Unit := do
  let name ← identifier
  if !(["_", "case", "match"].any name.isPrefixOf) then mismatch

/-- The number of brackets open after the last token that was taken. -/
def lastNesting : Reading Nat := do
  let token ← tokenAt? ((← place) - 1)
  return (token.map Token.nesting).getD 0

/-- The mistakes in an expression: another one follows it inside brackets, where a comma is missing;
and a condition has no alternative. A text with an unknown mark before it is neither, nor is an old
statement or one that opens with a word that is not reserved. -/
def expressionMistakes (nested : Nested) : List (Reading Unit) :=
  let marked := do
    discard identifier
    discard quotation
  [ do
      followsNot (firstOf [marked, abbreviation])
      let value ← nested.read .disjunction
      discard (unexplained nested.anyForm)
      if !isOldStatement value && (← lastNesting) ≠ 0 then refuse value.line,
    do
      let body ← nested.read .disjunction
      word "if"
      discard (nested.read .disjunction)
      followsNot (firstOf [word "else", symbol ":"])
      refuse body.line ]

/-- The mistake of an old statement: its name and, without brackets, what it is about. -/
def oldStatementMistake (nested : Nested) : Reading Unit := do
  let name ← plainName
  followsNot (symbol "(")
  discard nested.starExpressions
  if isOldStatement name then refuse name.line

/-- An expression. -/
def expression (nested : Nested) : Reading Expr :=
  firstOf
    [ explaining (mistakes nested.expressionMistakes),
      explaining (mistakes [nested.oldStatementMistake]),
      nested.anyForm ]

/-- The mistakes in an assignment inside an expression: a target that is no name, and a single sign
of equality, unless the whole could be an assignment of its own. -/
def misplacedAssignment (nested : Nested) : Reading Expr :=
  let equals := do
    symbol "="
    discard (nested.read .bitOr)
    followsNot (anySymbol ["=", ":="])
  let constant := firstOf [word "True", word "None", word "False"]
  mistakes
    [ do
        let target ← nested.read .expression
        symbol ":="
        discard (nested.read .expression)
        refuse target.line,
      do
        let line ← identifierLine
        equals
        refuse line,
      do
        followsNot (firstOf
          [discard nested.list, discard nested.tuple, discard nested.generator, constant])
        let target ← nested.read .bitOr
        equals
        refuse target.line ]

/-- What a rule reads. -/
def rule (nested : Nested) : Rule → Reading Expr
  | .expression => nested.expression
  | .starExpression => firstOf [nested.starred .bitOr, nested.read .expression]
  | .misplacedAssignment => nested.misplacedAssignment
  | .disjunction => nested.logical .or .conjunction
  | .conjunction => nested.logical .and .inversion
  | .inversion => nested.inversion
  | .bitOr => nested.binary [.bitOr] .bitXor
  | .bitXor => nested.binary [.bitXor] .bitAnd
  | .bitAnd => nested.binary [.bitAnd] .shift
  | .shift => nested.binary [.shiftLeft, .shiftRight] .sum
  | .sum => nested.binary [.add, .sub] .product
  | .product => nested.binary [.mul, .div, .floorDiv, .mod, .matMul] .factor
  | .factor => nested.factor
  | .awaited => nested.awaited
  | .primary => nested.primary
  | .textLiteral => nested.textLiteral
  | .target => nested.target
  | .unstarredTarget => nested.unstarredTarget
  | .singleTarget => nested.singleTarget
  | .deletedTarget => nested.deletedTarget
  | .targetPrimary => nested.targetPrimary
  | .bracketed => nested.bracketed

end Nested

/-- Read by a rule, with rules inside one another at most `steps` deep. -/
def readExpr : (steps : Nat) → Rule → Reading Expr
  | 0, _ => Reading.mismatch
  | steps + 1, rule =>
    let reader := Nested.rule ⟨readExpr steps⟩ rule
    if rule.isRemembered then Reading.remembered (Memory.expressionSlot rule) reader else reader

/-- A number of steps that reading a source of the given length never exhausts: between two
characters no more than all rules stand inside one another. -/
def stepsFor (length : Nat) : Nat :=
  32 * (length + 4)

/-- The readers of expressions in a source of the given length. -/
def nestedFor (length : Nat) : Nested :=
  ⟨readExpr (stepsFor length)⟩

end Stringify.Source
