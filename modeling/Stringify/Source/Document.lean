import Stringify.Source.Stmt.Reader

/-!
# Whole sources

`readModule` reads the statements of a module, and `readExpression` an expression that is a source
of its own. A source that cannot be read is put down to a line.
-/

namespace Stringify.Source

/-- The statements of a module, or the line to blame if it cannot be read. -/
def readModule (chars : List Char) : Except Nat (List Stmt) :=
  let chars := moduleChars chars
  let stmt := readStmt (nestedFor chars.length) (blockLimit + 1)
  let reader := do
    let stmts ← Reading.many stmt
    Reading.expect .finish
    return stmts.flatten
  Reading.run reader (tokensOf 1 chars)

/-- The expression that a source consists of, or the line to blame if it cannot be read. Unlike in a
module the last line needs no end, and an indentation is out of place. -/
def readExpression (chars : List Char) : Except Nat Expr :=
  let chars := normalizeLineEnds chars
  let reader := do
    let value ← (nestedFor chars.length).expressions
    discard (Reading.many (Reading.expect .newline))
    Reading.expect .finish
    return value
  Reading.run reader (tokensOf 1 chars)

end Stringify.Source
