import Stringify.Source.Expr.Reader

/-!
# Reading simple statements

Simple statements stand side by side on a line, separated by semicolons.
-/

namespace Stringify.Source

/-- Whether a token stands between lines only. -/
def Token.isLayout (token : Token) : Bool :=
  let layout : List Lexeme := [.newline, .indent, .dedent, .finish]
  layout.contains token.lexeme

namespace Reading

/-- The last line of what was taken, whatever stands between lines apart, among the given number of
tokens. -/
def lastTakenLine : (taken : Nat) → Reading Nat
  | 0 => return 0
  | taken + 1 => do
    match ← tokenAt? taken with
    | some token => if token.isLayout then lastTakenLine taken else return token.lastLine
    | none => lastTakenLine taken

/-- What is read together with its span. -/
def spanned {α : Type} (reader : Reading α) : Reading (Span × α) := do
  let first ← currentLine
  let value ← reader
  return (⟨first, ← lastTakenLine (← place)⟩, value)

/-- The statement that is read, once its span is known. -/
def spannedStmt (reader : Reading (Span → Stmt)) : Reading Stmt := do
  let (span, stmt) ← spanned reader
  return stmt span

/-- A statement of the given kind without blocks. -/
def plainStmt {α : Type} (kind : StmtKind) (reader : Reading α) : Reading Stmt :=
  spannedStmt (do
    discard reader
    return fun span => .other span kind [])

/-- An inert statement. -/
def inertStmt {α : Type} (reader : Reading α) : Reading Stmt :=
  spannedStmt (do
    discard reader
    return .inert)

end Reading

namespace Nested

open Reading

/-! ## Assignments -/

/-- The operators that assign to a target what they make of its value. -/
def augmentedOperators : List String :=
  ["+=", "-=", "*=", "@=", "/=", "%=", "&=", "|=", "^=", "<<=", ">>=", "**=", "//="]

/-- An annotation after the given target, with or without a value. -/
def annotated (nested : Nested) (target : Reading Expr) : Reading Stmt :=
  spannedStmt (do
    let target ← target
    symbol ":"
    let hint ← nested.read .expression
    let value ← perhaps (do symbol "="; nested.assignedValue)
    return fun span => .annotated span target hint value)

/-- An assignment to one target or more. -/
def plainAssignment (nested : Nested) : Reading Stmt :=
  plainStmt .assign (do
    discard (oneOrMore (do discard nested.targets; symbol "="))
    discard nested.assignedValue
    followsNot (symbol "="))

/-- The mistakes in an assignment: several targets or none with an annotation, and a target that
cannot be assigned to. -/
def assignmentMistakes (nested : Nested) : List (Reading Unit) :=
  let annotation := do
    symbol ":"
    discard (nested.read .expression)
  let targets := discard (many (do discard nested.targets; symbol "="))
  [ do
      let target ← nested.read .bracketed
      annotation
      refuse target.line,
    do
      let first ← nested.item
      symbol ","
      discard (many nested.items)
      annotation
      refuse first.line,
    do
      let target ← nested.read .expression
      annotation
      refuse target.line,
    do
      targets
      let target ← nested.starExpressions
      symbol "="
      match target.faultyTarget? .assign with
      | some faulty => refuse faulty.line
      | none => return (),
    do
      targets
      let value ← nested.yielded
      symbol "="
      refuse value.line,
    do
      let target ← nested.starExpressions
      anySymbol augmentedOperators
      discard nested.assignedValue
      refuse target.line ]

/-- An annotation or an assignment. -/
def assignmentStmt (nested : Nested) : Reading Stmt :=
  let part := firstOf
    [ Prod.snd <$> between "(" ")" (nested.read .singleTarget),
      nested.partTarget ]
  let opening := do
    let line ← currentLine
    discard (nested.read .singleTarget)
    anySymbol augmentedOperators
    return line
  let augmentedRest (first : Nat) : Reading Stmt := do
    discard nested.assignedValue
    return .other ⟨first, ← lastTakenLine (← place)⟩ .augmentedAssign []
  firstOf
    [ nested.annotated plainName,
      nested.annotated part,
      nested.plainAssignment,
      commit opening augmentedRest (explaining (mistakes nested.assignmentMistakes)) ]

/-! ## Imports -/

/-- Names separated by dots. -/
def dottedName : Reading Unit := do
  discard (separated "." identifier)

/-- A new name after what is imported, if one is given. -/
def localName : Reading Unit :=
  skip (do word "as"; identifier)

/-- An import of modules. -/
def importModules : Reading Unit := do
  word "import"
  discard (separated "," (do dottedName; localName))

/-- Names that are imported from a module. -/
def namesFrom : Reading Unit := do
  discard (separated "," (do discard identifier; localName))

/-- What is imported from a module: some names, with or without brackets, or all. -/
def importedNames : Reading Unit :=
  let bracketed := do
    symbol "("
    namesFrom
    skip (symbol ",")
    symbol ")"
  let plain := do
    namesFrom
    followsNot (symbol ",")
  let endless := do
    namesFrom
    symbol ","
    expect .newline
    refuseFurthest
  firstOf [bracketed, plain, symbol "*", explaining (mistakes [endless])]

/-- An import from a module, which dots make relative. -/
def importFrom : Reading Unit :=
  let dot := anySymbol [".", "..."]
  let fromModule := do
    word "from"
    discard (many dot)
    dottedName
    word "import"
    importedNames
  let fromPackage := do
    word "from"
    discard (oneOrMore dot)
    word "import"
    importedNames
  firstOf [fromModule, fromPackage]

/-! ## Other simple statements -/

/-- Targets that are deleted. -/
def deletion (nested : Nested) : Reading Unit :=
  let whole := do
    word "del"
    discard (targetList (nested.read .deletedTarget))
    follows (firstOf [symbol ";", expect .newline])
  let mistake := do
    word "del"
    let target ← nested.starExpressions
    match target.faultyTarget? .delete with
    | some faulty => refuse faulty.line
    | none => return ()
  firstOf [whole, explaining (mistakes [mistake])]

/-- A word and names after it. -/
def declaration (keyword : String) : Reading Unit := do
  word keyword
  discard (separated "," identifier)

/-- A word and expressions after it, of which the second one follows a mark. -/
def wordWith (nested : Nested) (keyword : String) (mark : Reading Unit) : Reading Unit := do
  word keyword
  discard (nested.read .expression)
  skip (do mark; nested.read .expression)

/-- A simple statement. -/
def simpleStmt (nested : Nested) : Reading Stmt :=
  let returned := do
    word "return"
    skip nested.starExpressions
  remembered Memory.stmtSlot (firstOf
    [ nested.assignmentStmt,
      inertStmt nested.starExpressions,
      plainStmt .return returned,
      inertStmt (firstOf [importModules, importFrom]),
      plainStmt .raise (firstOf [nested.wordWith "raise" (word "from"), word "raise"]),
      inertStmt (word "pass"),
      plainStmt .delete nested.deletion,
      inertStmt nested.yielded,
      plainStmt .assert (nested.wordWith "assert" (symbol ",")),
      plainStmt .break (word "break"),
      plainStmt .continue (word "continue"),
      plainStmt .global (declaration "global"),
      plainStmt .nonlocal (declaration "nonlocal") ])

/-- The simple statements on a line. -/
def simpleStmts (nested : Nested) : Reading (List Stmt) :=
  let single := do
    let stmt ← nested.simpleStmt
    followsNot (symbol ";")
    expect .newline
    return [stmt]
  let several := do
    let stmts ← separated ";" nested.simpleStmt
    skip (symbol ";")
    expect .newline
    return stmts
  firstOf [single, several]

end Nested

end Stringify.Source
