import Stringify.Source.Expr.Primaries

/-!
# Reading targets

A target is a name, an attribute or an item of a value, or a list or tuple of targets. One in a list
or tuple may be starred.
-/

namespace Stringify.Source.Nested

open Reading

/-- An attribute or an item of a value. -/
def partTarget (nested : Nested) : Reading Expr :=
  let ofAttribute := do
    let line ← currentLine
    let value ← nested.read .targetPrimary
    symbol "."
    return .attribute line value (← identifier)
  let ofItem := do
    let line ← currentLine
    let value ← nested.read .targetPrimary
    return .subscript line value (← nested.bracketedIndex)
  let alone (target : Reading Expr) : Reading Expr := do
    let target ← target
    followsNot trailerFollows
    return target
  firstOf [alone ofAttribute, alone ofItem]

/-- A name as an expression. -/
def plainName : Reading Expr := do
  let line ← currentLine
  return .name line (← identifier)

/-- Something between brackets, with the line it starts in. -/
def between {α : Type} (opening closing : String) (reader : Reading α) : Reading (Nat × α) := do
  let line ← symbolLine opening
  let value ← reader
  symbol closing
  return (line, value)

/-- Targets with commas between them and possibly at the end. -/
def targetList (target : Reading Expr) : Reading (List Expr) := do
  let targets ← separated "," target
  skip (symbol ",")
  return targets

/-- Two targets or more, or one with a comma. -/
def targetTuple (target : Reading Expr) : Reading (List Expr) := do
  let first ← target
  let rest ← many (do symbol ","; target)
  if rest.isEmpty then symbol "," else skip (symbol ",")
  return first :: rest

/-- A target that is not starred. -/
def unstarredTarget (nested : Nested) : Reading Expr :=
  let target := nested.read .target
  firstOf
    [ nested.partTarget,
      plainName,
      Prod.snd <$> between "(" ")" (nested.read .unstarredTarget),
      do
        let (line, targets) ← between "(" ")" (perhaps (targetTuple target))
        return .tuple line (targets.getD []),
      do
        let (line, targets) ← between "[" "]" (perhaps (targetList target))
        return .list line (targets.getD []) ]

/-- A target, possibly starred. -/
def target (nested : Nested) : Reading Expr :=
  let starred := do
    let line ← symbolLine "*"
    followsNot (symbol "*")
    return .starred line (← nested.read .target)
  firstOf [starred, nested.read .unstarredTarget]

/-- A target that can be annotated or combined with a value. -/
def singleTarget (nested : Nested) : Reading Expr :=
  firstOf
    [ nested.partTarget,
      plainName,
      Prod.snd <$> between "(" ")" (nested.read .singleTarget) ]

/-- A target that can be deleted. -/
def deletedTarget (nested : Nested) : Reading Expr :=
  let target := nested.read .deletedTarget
  firstOf
    [ nested.partTarget,
      plainName,
      Prod.snd <$> between "(" ")" target,
      do
        let (line, targets) ← between "(" ")" (perhaps (targetList target))
        return .tuple line (targets.getD []),
      do
        let (line, targets) ← between "[" "]" (perhaps (targetList target))
        return .list line (targets.getD []) ]

/-- A list or a tuple in any number of brackets. -/
def bracketed (nested : Nested) : Reading Expr :=
  firstOf
    [ nested.list,
      nested.tuple,
      Prod.snd <$> between "(" ")" (nested.read .bracketed) ]

end Stringify.Source.Nested
