import Stringify.Source.Stmt.Blocks

/-!
# Guarded blocks

A guarded block has handlers, which are all of groups or none, or at least a block for what is done
in the end.
-/

namespace Stringify.Source.Enclosed

open Reading

/-- A new name, if one is given. -/
def boundName : Reading Unit :=
  Nested.localName

/-- What a handler is for: one expression, possibly bound to a name. -/
def handled (enclosed : Enclosed) : Reading Unit := do
  discard (enclosed.nested.read .expression)
  boundName

/-- The mistakes of a handler: several expressions without brackets, a missing colon, and a star
without an expression. -/
def handlerMistakes (enclosed : Enclosed) : List (Reading Unit) :=
  let star := skip (symbol "*")
  [ do
      word "except"
      star
      let first ← enclosed.nested.read .expression
      symbol ","
      discard enclosed.nested.expressions
      boundName
      symbol ":"
      refuse first.line,
    missingColon (do word "except"; star; enclosed.handled),
    missingColon (word "except"),
    do
      word "except"
      symbol "*"
      firstOf [expect .newline, symbol ":"]
      refuseFurthest ]

/-- A handler. -/
def handler (enclosed : Enclosed) : Reading (List Stmt) :=
  let ofSome := do
    word "except"
    enclosed.handled
  firstOf
    [ explaining (mistakes [missingBlock ofSome, missingBlock (word "except")]),
      do ofSome; enclosed.colonBlock,
      do word "except"; enclosed.colonBlock,
      explaining (mistakes enclosed.handlerMistakes) ]

/-- A handler of groups. -/
def groupHandler (enclosed : Enclosed) : Reading (List Stmt) :=
  let ofSome := do
    word "except"
    symbol "*"
    enclosed.handled
  firstOf
    [ blockMistake ofSome,
      do ofSome; enclosed.colonBlock,
      explaining (mistakes enclosed.handlerMistakes) ]

/-- The block for what is done in the end. -/
def finallyBlock (enclosed : Enclosed) : Reading (List Stmt) :=
  let whole := do
    word "finally"
    enclosed.requiredBlock
  firstOf [blockMistake (word "finally"), whole]

/-- The mistakes of a guarded block: no block, nothing after it, and handlers of both kinds. -/
def guardedMistakes (enclosed : Enclosed) : List (Reading Unit) :=
  let handlers := discard (oneOrMore enclosed.handler)
  let groupHandlers := discard (oneOrMore enclosed.groupHandler)
  [ missingBlock (word "try"),
    do
      word "try"
      discard enclosed.colonBlock
      followsNot (firstOf [word "except", word "finally"])
      refuseFurthest,
    do
      word "try"
      symbol ":"
      discard (many enclosed.block)
      firstOf
        [ do handlers; discard enclosed.groupHandler,
          do groupHandlers; discard enclosed.handler ]
      discard (many enclosed.block)
      refuseFurthest ]

/-- A guarded block with its handlers and what is done in the end. -/
def guardedStmt (enclosed : Enclosed) : Reading Stmt :=
  let guarded := do
    word "try"
    enclosed.requiredBlock
  let handledBy (handler : Reading (List Stmt)) (kind : StmtKind) :
      Reading (StmtKind × List Stmt) := do
    let body ← guarded
    let handlers ← oneOrMore handler
    let otherwise ← enclosed.elseBlock?
    let ending ← perhaps enclosed.finallyBlock
    return (kind, body ++ handlers.flatten ++ otherwise ++ ending.getD [])
  blocksStmt (firstOf
    [ explaining (mistakes enclosed.guardedMistakes),
      do return (.try, (← guarded) ++ (← enclosed.finallyBlock)),
      handledBy enclosed.handler .try,
      handledBy enclosed.groupHandler .tryGroup ])

end Stringify.Source.Enclosed
