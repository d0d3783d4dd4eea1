import Stringify.Source.Expr.Nested

/-!
# Lists of parameters

Parameters are separated by commas up to the bracket or colon that closes the list. Some may be
passed by position only, those before a slash, and some by name only, those after a star. Among the
others no required one follows an optional one.
-/

namespace Stringify.Source

/-- How the parameters in a list are written. -/
structure ParameterStyle where
  /-- The symbol after the list. -/
  closing : String
  /-- Parameters may have annotations. -/
  isHinted : Bool

namespace ParameterStyle

/-- The style of functions that are defined by statements. -/
def function : ParameterStyle := ⟨")", true⟩

/-- The style of functions that are defined by expressions. -/
def lambda : ParameterStyle := ⟨":", false⟩

end ParameterStyle

/-- A parameter with the line of its name. -/
abbrev LinedParameter := Nat × Parameter

namespace Nested

open Reading

/-- The name of a parameter and its line. An annotation is passed over. -/
def parameterName (nested : Nested) (style : ParameterStyle) : Reading (Nat × String) := do
  let line ← currentLine
  let name ← identifier
  if style.isHinted then
    skip (do symbol ":"; nested.read .expression)
  return (line, name)

/-- The name of a parameter for the rest whose annotation is starred, and its line. -/
def starAnnotatedName (nested : Nested) (style : ParameterStyle) : Reading (Nat × String) := do
  if !style.isHinted then mismatch
  let line ← currentLine
  let name ← identifier
  symbol ":"
  discard (nested.read .starExpression)
  return (line, name)

/-- The comma after an item of a list of parameters, which may be missing at the end. -/
def parameterEnd (style : ParameterStyle) : Reading Unit :=
  firstOf [symbol ",", follows (symbol style.closing)]

/-- The value of an optional parameter. -/
def defaultValue (nested : Nested) : Reading Expr :=
  let value := do
    symbol "="
    nested.read .expression
  let missing := do
    let line ← symbolLine "="
    follows (anySymbol [")", ","])
    refuse line
  firstOf [value, explaining (mistakes [missing])]

/-- A required parameter. -/
def requiredParameter (nested : Nested) (style : ParameterStyle) : Reading LinedParameter := do
  let (line, name) ← nested.parameterName style
  parameterEnd style
  return (line, .required name)

/-- An optional parameter. -/
def optionalParameter (nested : Nested) (style : ParameterStyle) : Reading LinedParameter := do
  let (line, name) ← nested.parameterName style
  let value ← nested.defaultValue
  parameterEnd style
  return (line, .optional name value)

/-- A parameter that may be required or optional. -/
def anyParameter (nested : Nested) (style : ParameterStyle) : Reading LinedParameter := do
  let (line, name) ← nested.parameterName style
  let value ← perhaps nested.defaultValue
  parameterEnd style
  return (line, match value with
    | some value => .optional name value
    | none => .required name)

/-- Required parameters and a slash. -/
def requiredBeforeSlash (nested : Nested) (style : ParameterStyle) : Reading (List Parameter) := do
  let required ← oneOrMore (nested.requiredParameter style)
  symbol "/"
  parameterEnd style
  return required.map Prod.snd ++ [.endPositional]

/-- Parameters of which the last ones are optional, and a slash. -/
def optionalBeforeSlash (nested : Nested) (style : ParameterStyle) : Reading (List Parameter) := do
  let required ← many (nested.requiredParameter style)
  let optional ← oneOrMore (nested.optionalParameter style)
  symbol "/"
  parameterEnd style
  return (required ++ optional).map Prod.snd ++ [.endPositional]

/-- The mistakes in a parameter for named arguments: a value for it, and anything after it. -/
def namedRestMistakes (nested : Nested) (style : ParameterStyle) : List (Reading Unit) :=
  let opening := do
    symbol "**"
    discard (nested.parameterName style)
  [ do
      opening
      refuse (← symbolLine "="),
    do
      opening
      symbol ","
      refuse (← nested.parameterName style).1,
    do
      opening
      symbol ","
      let line ← currentLine
      anySymbol ["*", "**", "/"]
      refuse line ]

/-- The parameter for the rest of the named arguments. -/
def namedRest (nested : Nested) (style : ParameterStyle) : Reading (List Parameter) :=
  let rest := do
    symbol "**"
    match ← nested.requiredParameter style with
    | (_, .required name) => return [.namedRest name]
    | (_, parameter) => return [parameter]
  firstOf [explaining (mistakes (nested.namedRestMistakes style)), rest]

/-- The mistakes after a star: no parameter at all, a value for the one that takes the rest, and
another star. A missing one is blamed on the star in the list of a statement. -/
def starMistakes (nested : Nested) (style : ParameterStyle) : List (Reading Unit) :=
  let required := discard (nested.requiredParameter style)
  [ do
      let line ← symbolLine "*"
      firstOf [symbol style.closing, do symbol ","; anySymbol [style.closing, "**"]]
      if style.isHinted then refuse line else refuseFurthest,
    do
      symbol "*"
      discard (nested.parameterName style)
      refuse (← symbolLine "="),
    do
      symbol "*"
      firstOf [required, symbol ","]
      discard (many (nested.anyParameter style))
      let line ← symbolLine "*"
      firstOf [required, symbol ","]
      refuse line ]

/-- The parameters from a star on. -/
def starParameters (nested : Nested) (style : ParameterStyle) : Reading (List Parameter) :=
  let named := nested.anyParameter style
  let ending (items : List LinedParameter) : Reading (List Parameter) := do
    let rest ← perhaps (nested.namedRest style)
    return items.map Prod.snd ++ rest.getD []
  let rest (name : Reading (Nat × String)) : Reading (List Parameter) := do
    symbol "*"
    let (_, name) ← name
    parameterEnd style
    return .rest name :: (← ending (← many named))
  let bare := do
    symbol "*"
    symbol ","
    return .startNamed :: (← ending (← oneOrMore named))
  firstOf
    [ explaining (mistakes (nested.starMistakes style)),
      rest (nested.parameterName style),
      rest (nested.starAnnotatedName style),
      bare,
      nested.namedRest style ]

/-- The mistakes in a list of parameters: a required one after an optional one, brackets inside the
list, and a slash that is the first item, not the only one, after a star, or joined to a star. -/
def parameterMistakes (nested : Nested) (style : ParameterStyle) : List (Reading Unit) :=
  let required := nested.requiredParameter style
  let beforeSlash := discard (firstOf
    [nested.requiredBeforeSlash style, nested.optionalBeforeSlash style])
  let anyNumber := discard (many (nested.anyParameter style))
  let bracketed :=
    if style.isHinted then discard (oneOrMore required)
    else discard (separated "," (nested.parameterName style))
  [ do
      discard (many required)
      firstOf
        [ discard (nested.optionalBeforeSlash style),
          discard (oneOrMore (nested.optionalParameter style)) ]
      refuse (← required).1,
    do
      discard (many required)
      let line ← symbolLine "("
      bracketed
      skip (symbol ",")
      symbol ")"
      refuse line,
    do
      let line ← symbolLine "/"
      symbol ","
      refuse line,
    do
      beforeSlash
      anyNumber
      refuse (← symbolLine "/"),
    do
      skip beforeSlash
      anyNumber
      symbol "*"
      firstOf [symbol ",", discard required]
      anyNumber
      refuse (← symbolLine "/"),
    do
      discard (oneOrMore (nested.anyParameter style))
      symbol "/"
      refuse (← symbolLine "*") ]

/-- A list of one parameter or more. -/
def parameters (nested : Nested) (style : ParameterStyle) : Reading (List Parameter) :=
  let optional := nested.optionalParameter style
  let ending (before : List Parameter) (items : List LinedParameter) :
      Reading (List Parameter) := do
    let rest ← perhaps (nested.starParameters style)
    return before ++ items.map Prod.snd ++ rest.getD []
  firstOf
    [ explaining (mistakes (nested.parameterMistakes style)),
      do
        let before ← nested.requiredBeforeSlash style
        let required ← many (nested.requiredParameter style)
        ending before (required ++ (← many optional)),
      do
        let before ← nested.optionalBeforeSlash style
        ending before (← many optional),
      do
        let required ← oneOrMore (nested.requiredParameter style)
        ending [] (required ++ (← many optional)),
      do ending [] (← oneOrMore optional),
      nested.starParameters style ]

end Nested

end Stringify.Source
