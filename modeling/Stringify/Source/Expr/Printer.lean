import Stringify.Decimal.Integer
import Stringify.Decimal.Layout
import Stringify.Source.Expr.Basic
import Stringify.Text.Fenced

/-!
# Printed expressions

`Expr.print` writes an expression on one line in a uniform way: one blank around operators and after
commas, parentheses only where the levels of binding ask for them, and texts between the quotes that
`Text.quoted` chooses. An expression in a field of a formatted text is written without backslashes,
and is refused if it needs one.
-/

namespace Stringify.Source

/-- Why an expression cannot be printed. -/
inductive PrintError where
  /-- An integer has too many digits. -/
  | integerTooLong
  /-- A field of a formatted text needs a backslash. -/
  | backslashInField
  deriving DecidableEq, Repr

/-- The wording of a refusal. -/
def PrintError.message : PrintError → String
  | .integerTooLong =>
    s!"Exceeds the limit ({Decimal.digitLimit} digits) for integer string conversion; "
      ++ "use sys.set_int_max_str_digits() to increase the limit"
  | .backslashInField => "Unable to avoid backslash in f-string expression part"

/-- Parentheses around a text if the condition holds. -/
def enclosedIf (condition : Bool) (text : String) : String :=
  if condition then "(" ++ text ++ ")" else text

/-- Items with a comma after each but the last, and also after an item that stands alone. -/
def tupleItems : List String → String
  | [item] => item ++ ","
  | items => ", ".intercalate items

namespace Constant

/-- Numbers are written like reals, but infinity as a decimal beyond all reals. -/
def layout : Decimal.Layout :=
  { Decimal.Layout.real with infinity := "1e309" }

/-- The printed constant; `isField` says that it stands in a field of a formatted text. -/
def print (isField : Bool) : Constant → Except PrintError String
  | .nothing => .ok "None"
  | .ellipsis => .ok "..."
  | .bool true => .ok "True"
  | .bool false => .ok "False"
  | .int value =>
    match Decimal.integerText? value with
    | some digits => .ok digits
    | none => .error .integerTooLong
  | .real value => .ok (layout.text value)
  | .imaginary value => .ok ({ layout with wholeMark := "" }.text value ++ "j")
  | .text value isMarked =>
    .ok ((if isMarked then "u" else "") ++ if isField then value.fenced else value.quoted)
  | .bytes value => .ok (Text.quotedBytes value)

/-- Whether an attribute has to keep a distance from the constant. -/
def isInteger : Constant → Bool
  | .int _ | .bool _ => true
  | _ => false

end Constant

/-- Whether a node is a constant that an attribute has to keep a distance from. -/
def Expr.isInteger : Expr → Bool
  | .constant _ value => value.isInteger
  | _ => false

/-- Braces of a text are doubled between the fields of a formatted text. -/
def doubleBraces (text : Text) : Text :=
  text.flatMap fun code =>
    let isBrace := code = CodePoint.ofChar '\x7b' || code = CodePoint.ofChar '\x7d'
    if isBrace then [code, code] else [code]

/-- A field of a formatted text around a printed expression, a conversion and a layout. -/
def fieldText (value : String) (conversion : Option Char) (layout : Text) :
    Except PrintError Text := do
  if value.toList.contains '\\' then throw .backslashInField
  let gap := if value.toList.head? == some '\x7b' then " " else ""
  let mark := match conversion with
    | some c => "!" ++ String.singleton c
    | none => ""
  return Text.ofString ("\x7b" ++ gap ++ value ++ mark) ++ layout ++ Text.ofString "\x7d"

variable [Release]

mutual

/-- The printed expression at the given level. A tuple with items needs no parentheses as the index
of a subscript. -/
def printAt (isField : Bool) (level : Level) : Expr → Except PrintError String
  | .name _ text => .ok text
  | .constant _ value => value.print isField
  | .attribute _ value field => do
    let gap := if value.isInteger then " " else ""
    return (← printAt isField .atom value) ++ gap ++ "." ++ field
  | .subscript _ value (.tuple _ (item :: rest)) => do
    let value ← printAt isField .atom value
    return value ++ "[" ++ tupleItems (← printItems isField (item :: rest)) ++ "]"
  | .subscript _ value index => do
    return (← printAt isField .atom value) ++ "[" ++ (← printAt isField .test index) ++ "]"
  | .call _ function arguments => do
    let function ← printAt isField .atom function
    return function ++ "(" ++ ", ".intercalate (← printArguments isField arguments) ++ ")"
  | .unary _ operator operand => do
    return enclosedIf (operator.level.isBelow level)
      (operator.symbol ++ (← printAt isField operator.level operand))
  | .binary _ left operator right => do
    let (leftLevel, rightLevel) := operator.operandLevels
    let left ← printAt isField leftLevel left
    let right ← printAt isField rightLevel right
    return enclosedIf (operator.level.isBelow level) (left ++ s!" {operator.symbol} " ++ right)
  | .logical _ operator operands => do
    let operands ← printRising isField operator.level.next operands
    return enclosedIf (operator.level.isBelow level) (s!" {operator.symbol} ".intercalate operands)
  | .comparison _ first links => do
    let first ← printAt isField Level.comparison.next first
    return enclosedIf (Level.comparison.isBelow level) (first ++ (← printLinks isField links))
  | .conditional _ body test orElse => do
    let body ← printAt isField Level.test.next body
    let test ← printAt isField Level.test.next test
    let orElse ← printAt isField .test orElse
    return enclosedIf (Level.test.isBelow level) s!"{body} if {test} else {orElse}"
  | .lambda _ parameters body => do
    let parameters ← printParameters isField parameters
    let gap := if parameters.isEmpty then "" else " "
    let body ← printAt isField .test body
    return enclosedIf (Level.test.isBelow level)
      ("lambda" ++ gap ++ ", ".intercalate parameters ++ ": " ++ body)
  | .assignment _ target value => do
    let target ← printAt isField .atom target
    let value ← printAt isField .atom value
    return enclosedIf (Level.named.isBelow level) s!"{target} := {value}"
  | .await _ value => do
    return enclosedIf (Level.await.isBelow level) ("await " ++ (← printAt isField .atom value))
  | .yield _ value => do
    let value ← printOptional isField .atom value
    return enclosedIf (Level.yield.isBelow level)
      ("yield" ++ (if value.isEmpty then "" else " ") ++ value)
  | .yieldFrom _ value => do
    return enclosedIf (Level.yield.isBelow level)
      ("yield from " ++ (← printAt isField .atom value))
  | .starred _ value => do
    return "*" ++ (← printAt isField .bitOr value)
  | .tuple _ items => do
    return enclosedIf (items.isEmpty || Level.tuple.isBelow level)
      (tupleItems (← printItems isField items))
  | .list _ items => do
    return "[" ++ ", ".intercalate (← printItems isField items) ++ "]"
  | .set _ items => do
    let items ← printItems isField items
    return "\x7b" ++ (if items.isEmpty then "*()" else ", ".intercalate items) ++ "\x7d"
  | .dictionary _ entries => do
    return "\x7b" ++ ", ".intercalate (← printEntries isField entries) ++ "\x7d"
  | .comprehension _ collection element clauses => do
    let element ← printAt isField .test element
    let clauses ← printClauses isField clauses
    return collection.brackets.1 ++ element ++ clauses ++ collection.brackets.2
  | .dictionaryOf _ key value clauses => do
    let key ← printAt isField .test key
    let value ← printAt isField .test value
    return "\x7b" ++ key ++ ": " ++ value ++ (← printClauses isField clauses) ++ "\x7d"
  | .slice _ lower upper step => do
    let lower ← printOptional isField .test lower
    let upper ← printOptional isField .test upper
    let step ← printOptional isField .test step
    return lower ++ ":" ++ upper ++ (if step.isEmpty then "" else ":") ++ step
  | .formatted _ pieces => do
    let pieces ← printPieces pieces
    return "f" ++ if isField then Text.fenced (pieces.flatMap Prod.fst) else Text.fencedParts pieces

/-- The printed expression, or nothing. -/
def printOptional (isField : Bool) (level : Level) : Option Expr → Except PrintError String
  | none => .ok ""
  | some value => printAt isField level value

/-- The printed items of a list. -/
def printItems (isField : Bool) : List Expr → Except PrintError (List String)
  | [] => .ok []
  | item :: rest => do
    return (← printAt isField .test item) :: (← printItems isField rest)

/-- The printed operands of a logical operator, each a level tighter than the one before. -/
def printRising (isField : Bool) (level : Level) : List Expr → Except PrintError (List String)
  | [] => .ok []
  | operand :: rest => do
    return (← printAt isField level operand) :: (← printRising isField level.next rest)

/-- The printed arguments of a call. -/
def printArguments (isField : Bool) : List Argument → Except PrintError (List String)
  | [] => .ok []
  | .positional value :: rest => do
    return (← printAt isField .test value) :: (← printArguments isField rest)
  | .named name value :: rest => do
    return (name ++ "=" ++ (← printAt isField .test value)) :: (← printArguments isField rest)
  | .unpacked value :: rest => do
    return ("**" ++ (← printAt isField .test value)) :: (← printArguments isField rest)

/-- The printed rest of a chain of comparisons. -/
def printLinks (isField : Bool) : List Link → Except PrintError String
  | [] => .ok ""
  | .mk comparator operand :: rest => do
    let operand ← printAt isField Level.comparison.next operand
    return s!" {comparator.symbol} " ++ operand ++ (← printLinks isField rest)

/-- The printed items of a list of parameters. -/
def printParameters (isField : Bool) : List Parameter → Except PrintError (List String)
  | [] => .ok []
  | .required name :: rest => do
    return name :: (← printParameters isField rest)
  | .optional name default :: rest => do
    return (name ++ "=" ++ (← printAt isField .test default)) :: (← printParameters isField rest)
  | .endPositional :: rest => do
    return "/" :: (← printParameters isField rest)
  | .startNamed :: rest => do
    return "*" :: (← printParameters isField rest)
  | .rest name :: rest => do
    return ("*" ++ name) :: (← printParameters isField rest)
  | .namedRest name :: rest => do
    return ("**" ++ name) :: (← printParameters isField rest)

/-- The printed entries of a dictionary. -/
def printEntries (isField : Bool) : List Entry → Except PrintError (List String)
  | [] => .ok []
  | .pair key value :: rest => do
    let key ← printAt isField .test key
    return (key ++ ": " ++ (← printAt isField .test value)) :: (← printEntries isField rest)
  | .unpacked value :: rest => do
    return ("**" ++ (← printAt isField .bitOr value)) :: (← printEntries isField rest)

/-- The printed clauses of a comprehension. -/
def printClauses (isField : Bool) : List Clause → Except PrintError String
  | [] => .ok ""
  | .mk isAsync target iterable conditions :: rest => do
    let mark := if isAsync then " async for " else " for "
    let target ← printAt isField .tuple target
    let iterable ← printAt isField Level.test.next iterable
    let conditions ← printConditions isField conditions
    return mark ++ target ++ " in " ++ iterable ++ conditions ++ (← printClauses isField rest)

/-- The printed conditions of a clause. -/
def printConditions (isField : Bool) : List Expr → Except PrintError String
  | [] => .ok ""
  | condition :: rest => do
    let condition ← printAt isField Level.test.next condition
    return " if " ++ condition ++ (← printConditions isField rest)

/-- The pieces of a formatted text; each one that is a field keeps its line feeds and tabs. -/
def printPieces : List Piece → Except PrintError (List (Text × Bool))
  | [] => .ok []
  | .text value :: rest => do
    return (doubleBraces value, false) :: (← printPieces rest)
  | .field value conversion :: rest => do
    let value ← printAt true Level.test.next value
    return (← fieldText value conversion [], true) :: (← printPieces rest)
  | .laidOut value conversion layout :: rest => do
    let value ← printAt true Level.test.next value
    let layout ← printPieces layout
    let layout := Text.ofString ":" ++ layout.flatMap Prod.fst
    return (← fieldText value conversion layout, true) :: (← printPieces rest)

end

/-- The printed expression. -/
def Expr.print (expression : Expr) : Except PrintError String :=
  printAt false .test expression

end Stringify.Source
