import Stringify.Source.Expr.Nested
import Stringify.Source.Fields
import Stringify.Source.Lexer

/-!
# Text literals

Literals side by side are one text, or one byte string: the two kinds do not mix. A literal with
fields makes the whole a formatted text, and the expressions of its fields are read from their
sources. A literal that is malformed is blamed on the furthest token, an expression in a field on
the line that it goes wrong in.
-/

namespace Stringify.Source

/-- Join the texts of pieces that stand side by side. -/
def mergePieces : List Piece → List Piece
  | [] => []
  | .text value :: rest =>
    match mergePieces rest with
    | .text other :: rest => .text (value ++ other) :: rest
    | rest => if value.isEmpty then rest else .text value :: rest
  | piece :: rest => piece :: mergePieces rest

namespace Nested

open Reading

/-- A literal with its line. -/
def quotation : Reading (Nat × Quotation) := do
  let token ← peek
  match token.lexeme with
  | .quotation literal =>
    advance
    return (token.line, literal)
  | _ => mismatch

/-- The expression of a field, whose source starts in the given line. Blanks around it do not
matter, as if it stood in brackets. -/
def fieldExpression (nested : Nested) (line : Nat) (source : List Char) : Reading Expr := do
  let stream := tokensOf line (moduleChars ('(' :: source ++ [')']))
  match Reading.run nested.starExpressions stream with
  | .ok value => return value
  | .error line => refuse line

mutual

/-- A piece of a literal in the given line. -/
def readPiece (nested : Nested) (line : Nat) : RawPiece → Reading Piece
  | .text value => return .text value
  | .field source lines conversion => do
    return .field (← nested.fieldExpression (line + lines) source) conversion
  | .laidOut source lines conversion layout => do
    let value ← nested.fieldExpression (line + lines) source
    return .laidOut value conversion (mergePieces (← nested.readPieces line layout))
  | .malformed => refuseFurthest

/-- The pieces of a literal in the given line. -/
def readPieces (nested : Nested) (line : Nat) : List RawPiece → Reading (List Piece)
  | [] => return []
  | piece :: rest => do
    return (← nested.readPiece line piece) :: (← nested.readPieces line rest)

end

/-- The pieces of several literals side by side, none of them of bytes. A text without fields is
one piece. -/
def piecesOf (nested : Nested) : List (Nat × Quotation) → Reading (List Piece)
  | [] => return []
  | (line, literal) :: rest => do
    if literal.isBytes then refuseFurthest
    let pieces ←
      if literal.isFormatted then nested.readPieces line literal.pieces
      else match Quotation.textOf? literal.isRaw literal.body with
        | some value => pure [.text value]
        | none => refuseFurthest
    return pieces ++ (← nested.piecesOf rest)

/-- The bytes of several literals side by side. -/
def bytesOf : List (Nat × Quotation) → Reading (List UInt8)
  | [] => return []
  | (_, literal) :: rest => do
    if !literal.isBytes || literal.body.any (0x80 ≤ ·.toNat) then refuseFurthest
    match literal.bytes? with
    | some bytes => return bytes ++ (← bytesOf rest)
    | none => refuseFurthest

/-- Literals side by side as one expression. -/
def textLiteral (nested : Nested) : Reading Expr := do
  let line ← currentLine
  let literals ← oneOrMore quotation
  if literals.head?.any (·.2.isBytes) then return .constant line (.bytes (← bytesOf literals))
  else
    let pieces := mergePieces (← nested.piecesOf literals)
    let isMarked := literals.head?.any (·.2.isMarked)
    if literals.any (·.2.isFormatted) then return .formatted line pieces
    else match pieces with
      | [.text value] => return .constant line (.text value isMarked)
      | _ => return .constant line (.text [] isMarked)

end Nested

end Stringify.Source
