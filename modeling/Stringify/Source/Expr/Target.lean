import Stringify.Source.Expr.Basic

/-!
# What cannot be assigned to

A name, an attribute and a subscript can be assigned to, and so can a tuple or list of targets, of
which those that take the rest are starred. Of any other expression the first faulty part is to
blame.
-/

namespace Stringify.Source

/-- What targets are for. -/
inductive TargetUse where
  | assign
  /-- The target of a loop, which may have been read together with what is looped over. -/
  | loop
  | delete
  deriving DecidableEq, Repr

namespace Expr

mutual

/-- The first part of an expression that is no target. -/
def faultyTarget? (use : TargetUse) : Expr → Option Expr
  | .name _ _ | .attribute _ _ _ | .subscript _ _ _ => none
  | .tuple _ items => faultyItem? use items
  | .list _ items => faultyItem? use items
  | .starred line value =>
    if use = .delete then some (.starred line value) else faultyTarget? use value
  | .comparison line first links =>
    if use = .loop then
      match links with
      | .mk .isIn _ :: _ => faultyTarget? use first
      | _ => none
    else some (.comparison line first links)
  | other => some other

/-- The first part among several expressions that is no target. -/
def faultyItem? (use : TargetUse) : List Expr → Option Expr
  | [] => none
  | item :: rest =>
    match faultyTarget? use item with
    | some faulty => some faulty
    | none => faultyItem? use rest

end

end Expr

end Stringify.Source
