import Stringify.Source.Expr.Basic

/-!
# Statements

Of a statement a tree keeps what a stub can mean by it: the classes with their bases and bodies, the
names of functions, the annotated targets, and the statements nested in others. Statements that
declare nothing are inert, and all others keep only their kind.
-/

namespace Stringify.Source

/-- The first and the last line of a statement. -/
structure Span where
  first : Nat
  last : Nat
  deriving DecidableEq, Repr

/-- The kinds of statements that a stub has no use for. -/
inductive StmtKind where
  | assign
  | augmentedAssign
  | delete
  | return
  | raise
  | assert
  | global
  | nonlocal
  | break
  | continue
  | for
  | asyncFor
  | while
  | if
  | with
  | asyncWith
  | match
  | try
  | tryGroup
  deriving DecidableEq, Repr

/-- The name of the kind in messages. -/
def StmtKind.label : StmtKind → String
  | .assign => "Assign"
  | .augmentedAssign => "AugAssign"
  | .delete => "Delete"
  | .return => "Return"
  | .raise => "Raise"
  | .assert => "Assert"
  | .global => "Global"
  | .nonlocal => "Nonlocal"
  | .break => "Break"
  | .continue => "Continue"
  | .for => "For"
  | .asyncFor => "AsyncFor"
  | .while => "While"
  | .if => "If"
  | .with => "With"
  | .asyncWith => "AsyncWith"
  | .match => "Match"
  | .try => "Try"
  | .tryGroup => "TryStar"

/-- A statement. -/
inductive Stmt where
  /-- A class; decorators do not count for its span. -/
  | classDef (span : Span) (name : String) (arguments : List Argument) (body : List Stmt)
  | functionDef (span : Span) (isAsync : Bool) (name : String) (body : List Stmt)
  | annotated (span : Span) (target hint : Expr) (value : Option Expr)
  /-- An import, an expression or a placeholder. -/
  | inert (span : Span)
  /-- Any other statement, with the statements of all its blocks. -/
  | other (span : Span) (kind : StmtKind) (nested : List Stmt)

namespace Stmt

/-- The span of a statement. -/
def span : Stmt → Span
  | .classDef span _ _ _ | .functionDef span _ _ _ | .annotated span _ _ _ | .inert span
  | .other span _ _ => span

end Stmt

end Stringify.Source
