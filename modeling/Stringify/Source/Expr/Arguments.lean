import Stringify.Source.Expr.Displays

/-!
# Arguments

A call lists its arguments in the order positional, named, unpacked; a starred argument counts as
positional wherever it stands before the unpacked ones.
-/

namespace Stringify.Source

/-- The value of a positional argument. -/
def Argument.positional? : Argument → Option Expr
  | .positional value => some value
  | _ => none

namespace Nested

open Reading

/-- The mistakes in a named argument: a constant or a whole expression in place of the name, and a
generator as its value. -/
def namedArgumentMistakes (nested : Nested) : List (Reading Unit) :=
  [ do
      let line ← currentLine
      firstOf [word "True", word "False", word "None"]
      symbol "="
      refuse line,
    do
      let line ← identifierLine
      symbol "="
      discard (nested.read .expression)
      discard nested.clauses
      refuse line,
    do
      followsNot (do discard identifier; symbol "=")
      let value ← nested.read .expression
      symbol "="
      refuse value.line ]

/-- A named argument. -/
def namedArgument (nested : Nested) : Reading Argument := do
  let name ← identifier
  symbol "="
  return .named name (← nested.read .expression)

/-- A starred argument. -/
def starredArgument (nested : Nested) : Reading Argument := do
  return .positional (← nested.starred .expression)

/-- An unpacked argument. -/
def unpackedArgument (nested : Nested) : Reading Argument := do
  symbol "**"
  return .unpacked (← nested.read .expression)

/-- A positional argument. -/
def positionalArgument (nested : Nested) : Reading Argument :=
  let plain := do
    let value ← firstOf [nested.assignment, nested.unassigned]
    followsNot (symbol "=")
    return .positional value
  firstOf [nested.starredArgument, plain]

/-- The arguments from the first named or unpacked one on. -/
def namedArguments (nested : Nested) : Reading (List Argument) :=
  let mistake := explaining (mistakes nested.namedArgumentMistakes)
  let named := separated "," (firstOf [mistake, nested.namedArgument, nested.starredArgument])
  let unpacked := separated "," (firstOf [mistake, nested.namedArgument, nested.unpackedArgument])
  let both := do
    let named ← named
    symbol ","
    return named ++ (← unpacked)
  firstOf [both, named, unpacked]

/-- One argument or more in the order written. -/
def argumentList (nested : Nested) : Reading (List Argument) :=
  let fromPositional := do
    let positional ← separated "," nested.positionalArgument
    let named ← perhaps (do symbol ","; nested.namedArguments)
    return positional ++ named.getD []
  firstOf [fromPositional, nested.namedArguments]

/-- The mistakes in a list of arguments: unpacking after unpacking, a generator without brackets
among other arguments or as a named one, and a positional argument out of place. -/
def argumentMistakes (nested : Nested) : List (Reading Unit) :=
  let arguments := nested.argumentList
  let generator := do
    let element ← nested.read .expression
    discard nested.clauses
    return element
  [ do
      let line ← currentLine
      discard arguments
      symbol ","
      symbol "*"
      refuse line,
    do
      let element ← generator
      symbol ","
      skip (firstOf [discard arguments, discard generator])
      refuse element.line,
    do
      let line ← identifierLine
      symbol "="
      discard generator
      refuse line,
    do
      let arguments ← arguments
      discard nested.clauses
      match arguments.filterMap Argument.positional? with
      | _ :: second :: rest => refuse ((second :: rest).getLastD second).line
      | _ => return (),
    do
      discard arguments
      symbol ","
      let element ← generator
      refuse element.line,
    do
      discard arguments
      symbol ","
      discard arguments
      refuseFurthest ]

/-- The arguments up to the closing bracket, which is not taken; the positional ones come first. -/
def arguments (nested : Nested) : Reading (List Argument) :=
  let whole := do
    let items ← nested.argumentList
    skip (symbol ",")
    follows (symbol ")")
    let isPositional (argument : Argument) := argument.positional?.isSome
    return items.filter isPositional ++ items.filter (!isPositional ·)
  remembered Memory.argumentsSlot
    (firstOf [whole, explaining (mistakes nested.argumentMistakes)])

end Nested

end Stringify.Source
