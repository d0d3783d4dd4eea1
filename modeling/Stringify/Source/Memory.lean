import Std.Data.TreeMap
import Stringify.Source.Stmt.Basic

/-!
# What readers remember

The rules of the grammar overlap, and the same tokens are read by many of them. A rule that is
remembered is tried once at each place: what it read there, and the place after that, or that it
read nothing.
-/

namespace Stringify.Source

/-- The rules of expressions and targets that other rules refer to. -/
inductive Rule where
  | expression
  /-- An expression or a starred operand. -/
  | starExpression
  /-- A misplaced assignment, which is no expression but may be a mistake. -/
  | misplacedAssignment
  | disjunction
  | conjunction
  | inversion
  | bitOr
  | bitXor
  | bitAnd
  | shift
  | sum
  | product
  /-- An operand with its signs. -/
  | factor
  /-- An operand of a power. -/
  | awaited
  /-- An atom with attributes, calls and subscripts. -/
  | primary
  | textLiteral
  /-- A target of an assignment, possibly starred. -/
  | target
  | unstarredTarget
  /-- A target that can be annotated or combined with a value. -/
  | singleTarget
  | deletedTarget
  /-- The value in which a target is an attribute or an item. -/
  | targetPrimary
  /-- A list or a tuple in any number of brackets. -/
  | bracketed
  deriving DecidableEq, Repr

instance : Ord Rule := ⟨compareOn Rule.ctorIdx⟩

/-- Whether what a rule read is remembered. -/
def Rule.isRemembered : Rule → Bool
  | .singleTarget | .bracketed => false
  | _ => true

/-- The rules of patterns whose results are remembered. -/
inductive PatternRule where
  | closed
  | starred
  deriving DecidableEq, Repr

instance : Ord PatternRule := ⟨compareOn PatternRule.ctorIdx⟩

/-- What a rule read at a place: a value and the place after it, or nothing. -/
abbrev Recollection (α : Type) := Option (α × Nat)

instance : Ord (Rule × Nat) := lexOrd

instance : Ord (PatternRule × Nat) := lexOrd

/-- What all rules read at the places where they were tried. -/
structure Memory where
  expressions : Std.TreeMap (Rule × Nat) (Recollection Expr)
  arguments : Std.TreeMap Nat (Recollection (List Argument))
  stmts : Std.TreeMap Nat (Recollection Stmt)
  blocks : Std.TreeMap Nat (Recollection (List Stmt))
  /-- Patterns are known by the line that they start in. -/
  patterns : Std.TreeMap (PatternRule × Nat) (Recollection Nat)

/-- A rule that is remembered: where its results are found in the memory. -/
structure Slot (α : Type) where
  result? : Memory → Nat → Option (Recollection α)
  keep : Memory → Nat → Recollection α → Memory

namespace Memory

/-- Nothing was tried yet. -/
def empty : Memory :=
  ⟨∅, ∅, ∅, ∅, ∅⟩

/-- The results of a rule of expressions and targets. -/
def expressionSlot (rule : Rule) : Slot Expr where
  result? memory place := memory.expressions[(rule, place)]?
  keep memory place result :=
    { memory with expressions := memory.expressions.insert (rule, place) result }

/-- The results of the rule of arguments. -/
def argumentsSlot : Slot (List Argument) where
  result? memory place := memory.arguments[place]?
  keep memory place result :=
    { memory with arguments := memory.arguments.insert place result }

/-- The results of the rule of simple statements. -/
def stmtSlot : Slot Stmt where
  result? memory place := memory.stmts[place]?
  keep memory place result := { memory with stmts := memory.stmts.insert place result }

/-- The results of the rule of blocks. -/
def blockSlot : Slot (List Stmt) where
  result? memory place := memory.blocks[place]?
  keep memory place result := { memory with blocks := memory.blocks.insert place result }

/-- The results of a rule of patterns. -/
def patternSlot (rule : PatternRule) : Slot Nat where
  result? memory place := memory.patterns[(rule, place)]?
  keep memory place result :=
    { memory with patterns := memory.patterns.insert (rule, place) result }

end Memory

end Stringify.Source
