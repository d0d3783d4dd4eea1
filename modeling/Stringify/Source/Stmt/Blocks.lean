import Stringify.Source.Stmt.Simple

/-!
# Blocks

A block is a line of simple statements or indented statements on lines of their own. What opens a
block ends in a colon. If the colon is missing at the end of the line, or no block follows it there,
the furthest token is blamed.
-/

namespace Stringify.Source

/-- The readers of what stands inside a statement. -/
structure Enclosed where
  /-- The readers of expressions. -/
  nested : Nested
  /-- The reader of a statement or of the simple statements on a line. -/
  stmt : Reading (List Stmt)

namespace Enclosed

open Reading

/-- One statement or more. -/
def stmts (enclosed : Enclosed) : Reading (List Stmt) := do
  return (← oneOrMore enclosed.stmt).flatten

/-- A block. -/
def block (enclosed : Enclosed) : Reading (List Stmt) :=
  let indented := do
    expect .newline
    expect .indent
    let stmts ← enclosed.stmts
    expect .dedent
    return stmts
  let missing := do
    expect .newline
    followsNot (expect .indent)
    refuseFurthest
  remembered Memory.blockSlot
    (firstOf [indented, enclosed.nested.simpleStmts, explaining (mistakes [missing])])

/-- A block after a colon. -/
def colonBlock (enclosed : Enclosed) : Reading (List Stmt) := do
  symbol ":"
  enclosed.block

/-- A block after a colon, without which the source is refused. -/
def requiredBlock (enclosed : Enclosed) : Reading (List Stmt) := do
  requireSymbol ":"
  enclosed.block

/-- The mistake of a missing colon at the end of a line. -/
def missingColon (opening : Reading Unit) : Reading Unit := do
  opening
  expect .newline
  refuseFurthest

/-- The mistake of a missing block after a colon at the end of a line. -/
def missingBlock (opening : Reading Unit) : Reading Unit := do
  opening
  symbol ":"
  expect .newline
  followsNot (expect .indent)
  refuseFurthest

/-- What opens a block, and the mistakes after it. -/
def colonMistakes {α : Type} (opening : Reading Unit) : Reading α :=
  explaining (mistakes [missingColon opening, missingBlock opening])

/-- The mistake of a missing block. -/
def blockMistake {α : Type} (opening : Reading Unit) : Reading α :=
  explaining (mistakes [missingBlock opening])

/-- The block after `else`. -/
def elseBlock (enclosed : Enclosed) : Reading (List Stmt) :=
  let whole := do
    word "else"
    enclosed.requiredBlock
  firstOf [blockMistake (word "else"), whole]

/-- The block after `else`, if there is one. -/
def elseBlock? (enclosed : Enclosed) : Reading (List Stmt) := do
  return (← perhaps enclosed.elseBlock).getD []

/-- The statement with blocks that are read, of a kind that they determine. -/
def blocksStmt (reader : Reading (StmtKind × List Stmt)) : Reading Stmt :=
  spannedStmt (do
    let (kind, blocks) ← reader
    return fun span => .other span kind blocks)

end Enclosed

end Stringify.Source
