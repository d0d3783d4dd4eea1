import Stringify.Source.Expr.Arguments
import Stringify.Source.Expr.TextLiterals
import Stringify.Source.Number

/-!
# Atoms and what follows them

An atom is a name, a constant or a display. Attributes, calls and subscripts follow it. The index of
a subscript is an expression, a slice, or a tuple of these.
-/

namespace Stringify.Source.Nested

open Reading

/-! ## Subscripts -/

/-- An expression or a slice. -/
def slice (nested : Nested) : Reading Expr :=
  let whole := do
    let line ← currentLine
    let lower ← perhaps (nested.read .expression)
    symbol ":"
    let upper ← perhaps (nested.read .expression)
    let step ← perhaps (do symbol ":"; perhaps (nested.read .expression))
    return .slice line lower upper (step.getD none)
  firstOf [whole, nested.named]

/-- The index of a subscript. A single item stands for itself unless it is starred or a comma
follows. -/
def index (nested : Nested) : Reading Expr :=
  let single := do
    let item ← nested.slice
    followsNot (symbol ",")
    return item
  let several := do
    let line ← currentLine
    let items ← separated "," (firstOf [nested.slice, nested.starred .expression])
    skip (symbol ",")
    return .tuple line items
  firstOf [single, several]

/-- The index of a subscript in its brackets. -/
def bracketedIndex (nested : Nested) : Reading Expr := do
  symbol "["
  let index ← nested.index
  symbol "]"
  return index

/-! ## Atoms -/

/-- A number. -/
def number : Reading Expr := do
  let token ← peek
  match token.lexeme with
  | .number written =>
    advance
    match Number.constant? written with
    | some value => return .constant token.line value
    | none => refuse token.line
  | _ => mismatch

/-- An expression that no operator stands in outside of brackets. -/
def atom (nested : Nested) : Reading Expr := do
  let token ← peek
  let constant (value : Constant) : Reading Expr := do
    advance
    return .constant token.line value
  match token.lexeme with
  | .word "None" => constant .nothing
  | .word "True" => constant (.bool true)
  | .word "False" => constant (.bool false)
  | .word _ => return .name token.line (← identifier)
  | .number _ => number
  | .quotation _ => nested.read .textLiteral
  | .symbol "(" => nested.parenthesized
  | .symbol "[" => nested.listDisplay
  | .symbol "\x7b" => nested.braced
  | .symbol "..." => constant .ellipsis
  | _ => mismatch

/-! ## Attributes, calls and subscripts -/

/-- What follows a value that starts in the given line: an attribute, a call or a subscript. A
generator that is the only argument needs no brackets of its own. -/
def trailer (nested : Nested) (line : Nat) (value : Expr) : Reading Expr :=
  firstOf
    [ do
        symbol "."
        return .attribute line value (← identifier),
      do return .call line value [.positional (← nested.generator)],
      do
        symbol "("
        let arguments ← perhaps nested.arguments
        symbol ")"
        return .call line value (arguments.getD []),
      do return .subscript line value (← nested.bracketedIndex) ]

/-- A value with everything that follows it. -/
def trailers (trailer : Expr → Reading Expr) : (steps : Nat) → Expr → Reading Expr
  | 0, value => return value
  | steps + 1, value => do
    match ← perhaps (trailer value) with
    | some value => trailers trailer steps value
    | none => return value

/-- An atom with attributes, calls and subscripts. -/
def primary (nested : Nested) : Reading Expr := do
  let line ← currentLine
  trailers (nested.trailer line) (← bound) (← nested.atom)

/-- Whether an attribute, a call or a subscript comes next. -/
def trailerFollows : Reading Unit :=
  follows (anySymbol ["(", "[", "."])

/-- A value that an attribute, a call or a subscript follows. -/
def targetPrimary (nested : Nested) : Reading Expr := do
  let line ← currentLine
  let value ← nested.atom
  trailerFollows
  let trailer (value : Expr) : Reading Expr := do
    let value ← nested.trailer line value
    trailerFollows
    return value
  trailers trailer (← bound) value

end Stringify.Source.Nested
