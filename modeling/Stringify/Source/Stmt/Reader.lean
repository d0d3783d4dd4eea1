import Stringify.Source.Stmt.Compound

/-!
# Reading statements

A statement is a compound one or a line of simple ones. `readStmt` reads the one or the others.
-/

namespace Stringify.Source

namespace Enclosed

open Reading

/-- A compound statement. -/
def compoundStmt (enclosed : Enclosed) : Reading Stmt :=
  let opened (opening : List (Reading Unit)) (reader : Reading Stmt) : Reading Stmt := do
    follows (firstOf opening)
    reader
  firstOf
    [ opened [word "def", symbol "@", word "async"] (enclosed.decorated enclosed.functionDef),
      opened [word "if"] enclosed.ifStmt,
      opened [word "class", symbol "@"] (enclosed.decorated enclosed.classDef),
      opened [word "with", word "async"] enclosed.withStmt,
      opened [word "for", word "async"] enclosed.forStmt,
      opened [word "try"] enclosed.guardedStmt,
      opened [word "while"] enclosed.whileStmt,
      enclosed.matchStmt ]

/-- A compound statement or the simple statements on a line. -/
def anyStmt (enclosed : Enclosed) : Reading (List Stmt) :=
  firstOf [do return [← enclosed.compoundStmt], enclosed.nested.simpleStmts]

end Enclosed

/-- Read a statement or the simple statements of a line, with blocks inside one another at most
`depth` deep. -/
def readStmt (nested : Nested) : (depth : Nat) → Reading (List Stmt)
  | 0 => Reading.mismatch
  | depth + 1 => Enclosed.anyStmt ⟨nested, readStmt nested depth⟩

end Stringify.Source
