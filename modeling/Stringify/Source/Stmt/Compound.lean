import Stringify.Source.Pattern
import Stringify.Source.Stmt.Guarded

/-!
# Compound statements

Definitions, conditions, loops, entered contexts and matches.
-/

namespace Stringify.Source.Enclosed

open Reading

/-! ## Definitions -/

/-- The decorators before a definition. -/
def decorators (enclosed : Enclosed) : Reading Unit := do
  discard (oneOrMore (do
    symbol "@"
    discard enclosed.nested.named
    expect .newline))

/-- A definition with or without decorators. -/
def decorated (enclosed : Enclosed) (definition : Reading Stmt) : Reading Stmt :=
  firstOf [do enclosed.decorators; definition, definition]

/-- The head of a class: its name and arguments. -/
def classHead (enclosed : Enclosed) : Reading (String × List Argument) := do
  word "class"
  let name ← identifier
  let arguments ← perhaps (Nested.between "(" ")" (perhaps enclosed.nested.arguments))
  return (name, (arguments.bind Prod.snd).getD [])

/-- A class. -/
def classDef (enclosed : Enclosed) : Reading Stmt :=
  spannedStmt (firstOf
    [ colonMistakes (discard enclosed.classHead),
      do
        let (name, arguments) ← enclosed.classHead
        let body ← enclosed.colonBlock
        return fun span => .classDef span name arguments body ])

/-- The parameters and the result of a function after its name. -/
def signature (enclosed : Enclosed) (opening closing : Reading Unit) : Reading Unit := do
  opening
  skip (enclosed.nested.parameters .function)
  closing
  skip (do symbol "->"; enclosed.nested.read .expression)

/-- A function. -/
def functionDef (enclosed : Enclosed) : Reading Stmt :=
  let whole (isAsync : Bool) := do
    if isAsync then word "async"
    word "def"
    let name ← identifier
    enclosed.signature (requireSymbol "(") (symbol ")")
    let body ← enclosed.requiredBlock
    return fun span => .functionDef span isAsync name body
  let head := do
    skip (word "async")
    word "def"
    discard identifier
    enclosed.signature (symbol "(") (symbol ")")
  spannedStmt (firstOf [blockMistake head, whole false, whole true])

/-! ## Conditions and loops -/

/-- The conditional block that a word opens, with the blocks after it. There are at most `steps` of
them. -/
def conditionBlocks (enclosed : Enclosed) (keyword : String) : (steps : Nat) → Reading (List Stmt)
  | 0 => mismatch
  | steps + 1 =>
    let head := do
      word keyword
      discard enclosed.nested.named
    let body := do
      head
      enclosed.colonBlock
    firstOf
      [ colonMistakes head,
        do return (← body) ++ (← enclosed.conditionBlocks "elif" steps),
        do return (← body) ++ (← enclosed.elseBlock?) ]

/-- A conditional statement. -/
def ifStmt (enclosed : Enclosed) : Reading Stmt :=
  blocksStmt (do return (.if, ← enclosed.conditionBlocks "if" (← bound)))

/-- A loop with a condition. -/
def whileStmt (enclosed : Enclosed) : Reading Stmt :=
  let head := do
    word "while"
    discard enclosed.nested.named
  blocksStmt (firstOf
    [ colonMistakes head,
      do
        head
        let body ← enclosed.colonBlock
        return (.while, body ++ (← enclosed.elseBlock?)) ])

/-- A loop over the items of something. -/
def forStmt (enclosed : Enclosed) : Reading Stmt :=
  let opening := do
    word "for"
    discard enclosed.nested.targets
    word "in"
  let asyncOpening := do
    word "async"
    opening
  let rest (kind : StmtKind) : Reading (StmtKind × List Stmt) := do
    discard enclosed.nested.starExpressions
    let body ← enclosed.colonBlock
    return (kind, body ++ (← enclosed.elseBlock?))
  let head := do
    skip (word "async")
    opening
    discard enclosed.nested.starExpressions
  blocksStmt (orElse (colonMistakes head)
    (commit opening (fun _ => rest .for)
      (commit asyncOpening (fun _ => rest .asyncFor) enclosed.nested.loopTargetMistake)))

/-! ## Entered contexts -/

/-- The mistake of a context that is bound to something that cannot be assigned to. -/
def contextMistake (enclosed : Enclosed) : Reading Unit := do
  discard (enclosed.nested.read .expression)
  word "as"
  let target ← enclosed.nested.read .expression
  follows (anySymbol [",", ")", ":"])
  match target.faultyTarget? .assign with
  | some faulty => refuse faulty.line
  | none => return ()

/-- A context, possibly bound to a target. -/
def context (enclosed : Enclosed) : Reading Unit :=
  let bound := do
    discard (enclosed.nested.read .expression)
    word "as"
    discard (enclosed.nested.read .target)
    follows (anySymbol [",", ")", ":"])
  firstOf
    [ bound,
      explaining (mistakes [enclosed.contextMistake]),
      discard (enclosed.nested.read .expression) ]

/-- Contexts in brackets. -/
def bracketedContexts (context : Reading Unit) : Reading Unit := do
  symbol "("
  discard (separated "," context)
  skip (symbol ",")
  symbol ")"

/-- The heads of a statement with contexts, without and with brackets, as far as mistakes need
them. -/
def contextHeads (enclosed : Enclosed) : Reading Unit × Reading Unit :=
  let opening := do
    skip (word "async")
    word "with"
  let bound (value : Reading Expr) : Reading Unit := do
    discard value
    skip (do word "as"; enclosed.nested.read .target)
  let plain := do
    opening
    discard (separated "," (bound (enclosed.nested.read .expression)))
  let bracketed := do
    opening
    bracketedContexts (bound enclosed.nested.expressions)
  (plain, bracketed)

/-- A statement with contexts. -/
def withStmt (enclosed : Enclosed) : Reading Stmt :=
  let (plain, bracketed) := enclosed.contextHeads
  let whole (isAsync : Bool) (contexts : Reading Unit) : Reading (StmtKind × List Stmt) := do
    if isAsync then word "async"
    word "with"
    contexts
    return (if isAsync then .asyncWith else .with, ← enclosed.colonBlock)
  let inBrackets := bracketedContexts enclosed.context
  let without := discard (separated "," enclosed.context)
  blocksStmt (firstOf
    [ explaining (mistakes [missingBlock plain, missingBlock bracketed]),
      whole false inBrackets,
      whole false without,
      whole true inBrackets,
      whole true without,
      explaining (mistakes [missingColon plain, missingColon bracketed]) ])

/-! ## Matches -/

/-- What is matched. -/
def subject (enclosed : Enclosed) : Reading Unit :=
  let several := do
    discard enclosed.nested.item
    symbol ","
    skip enclosed.nested.items
  firstOf [several, discard enclosed.nested.named]

/-- A case of a match. -/
def caseBlock (enclosed : Enclosed) : Reading (List Stmt) :=
  let head := do
    word "case"
    readCasePattern enclosed.nested
    skip (do word "if"; enclosed.nested.named)
  firstOf [colonMistakes head, do head; enclosed.colonBlock]

/-- A match. -/
def matchStmt (enclosed : Enclosed) : Reading Stmt :=
  let head := do
    word "match"
    enclosed.subject
  blocksStmt (firstOf
    [ do
        head
        symbol ":"
        expect .newline
        expect .indent
        let cases ← oneOrMore enclosed.caseBlock
        expect .dedent
        return (.match, cases.flatten),
      colonMistakes head ])

end Stringify.Source.Enclosed
