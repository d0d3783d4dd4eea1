import Stringify.Source.Expr.Printer
import Stringify.Source.Stmt.Basic

/-!
# Trees without lines

The lines in a tree only serve to report where something is wrong. `forgetLines` puts all of them to
zero, so two trees that are equal without lines are written alike, though in different places. What
is printed of an expression does not depend on its lines.
-/

namespace Stringify.Source

variable {isField : Bool} {level : Level}

/-! ## Forgetting lines -/

mutual

/-- The expression without lines. -/
def Expr.forgetLines : Expr → Expr
  | .name _ text => .name 0 text
  | .constant _ value => .constant 0 value
  | .attribute _ value field => .attribute 0 value.forgetLines field
  | .subscript _ value index => .subscript 0 value.forgetLines index.forgetLines
  | .call _ function arguments => .call 0 function.forgetLines (argumentsWithoutLines arguments)
  | .unary _ operator operand => .unary 0 operator operand.forgetLines
  | .binary _ left operator right => .binary 0 left.forgetLines operator right.forgetLines
  | .logical _ operator operands => .logical 0 operator (withoutLines operands)
  | .comparison _ first links => .comparison 0 first.forgetLines (linksWithoutLines links)
  | .conditional _ body test orElse =>
    .conditional 0 body.forgetLines test.forgetLines orElse.forgetLines
  | .lambda _ parameters body => .lambda 0 (parametersWithoutLines parameters) body.forgetLines
  | .assignment _ target value => .assignment 0 target.forgetLines value.forgetLines
  | .await _ value => .await 0 value.forgetLines
  | .yield _ value => .yield 0 (optionWithoutLines value)
  | .yieldFrom _ value => .yieldFrom 0 value.forgetLines
  | .starred _ value => .starred 0 value.forgetLines
  | .tuple _ items => .tuple 0 (withoutLines items)
  | .list _ items => .list 0 (withoutLines items)
  | .set _ items => .set 0 (withoutLines items)
  | .dictionary _ entries => .dictionary 0 (entriesWithoutLines entries)
  | .comprehension _ collection element clauses =>
    .comprehension 0 collection element.forgetLines (clausesWithoutLines clauses)
  | .dictionaryOf _ key value clauses =>
    .dictionaryOf 0 key.forgetLines value.forgetLines (clausesWithoutLines clauses)
  | .slice _ lower upper step =>
    .slice 0 (optionWithoutLines lower) (optionWithoutLines upper) (optionWithoutLines step)
  | .formatted _ pieces => .formatted 0 (piecesWithoutLines pieces)

/-- The expressions without lines. -/
def withoutLines : List Expr → List Expr
  | [] => []
  | item :: rest => item.forgetLines :: withoutLines rest

/-- The expression, if there is one, without lines. -/
def optionWithoutLines : Option Expr → Option Expr
  | none => none
  | some value => some value.forgetLines

/-- The arguments without lines. -/
def argumentsWithoutLines : List Argument → List Argument
  | [] => []
  | .positional value :: rest => .positional value.forgetLines :: argumentsWithoutLines rest
  | .named name value :: rest => .named name value.forgetLines :: argumentsWithoutLines rest
  | .unpacked value :: rest => .unpacked value.forgetLines :: argumentsWithoutLines rest

/-- The comparisons without lines. -/
def linksWithoutLines : List Link → List Link
  | [] => []
  | .mk comparator operand :: rest => .mk comparator operand.forgetLines :: linksWithoutLines rest

/-- The parameters without lines. -/
def parametersWithoutLines : List Parameter → List Parameter
  | [] => []
  | .optional name default :: rest =>
    .optional name default.forgetLines :: parametersWithoutLines rest
  | .required name :: rest => .required name :: parametersWithoutLines rest
  | .endPositional :: rest => .endPositional :: parametersWithoutLines rest
  | .startNamed :: rest => .startNamed :: parametersWithoutLines rest
  | .rest name :: rest => .rest name :: parametersWithoutLines rest
  | .namedRest name :: rest => .namedRest name :: parametersWithoutLines rest

/-- The entries without lines. -/
def entriesWithoutLines : List Entry → List Entry
  | [] => []
  | .pair key value :: rest => .pair key.forgetLines value.forgetLines :: entriesWithoutLines rest
  | .unpacked value :: rest => .unpacked value.forgetLines :: entriesWithoutLines rest

/-- The clauses without lines. -/
def clausesWithoutLines : List Clause → List Clause
  | [] => []
  | .mk isAsync target iterable conditions :: rest =>
    .mk isAsync target.forgetLines iterable.forgetLines (withoutLines conditions) ::
      clausesWithoutLines rest

/-- The pieces without lines. -/
def piecesWithoutLines : List Piece → List Piece
  | [] => []
  | .text value :: rest => .text value :: piecesWithoutLines rest
  | .field value conversion :: rest =>
    .field value.forgetLines conversion :: piecesWithoutLines rest
  | .laidOut value conversion layout :: rest =>
    .laidOut value.forgetLines conversion (piecesWithoutLines layout) :: piecesWithoutLines rest

end

mutual

/-- The statement without lines. -/
def Stmt.forgetLines : Stmt → Stmt
  | .classDef _ name arguments body =>
    .classDef ⟨0, 0⟩ name (argumentsWithoutLines arguments) (stmtsWithoutLines body)
  | .functionDef _ isAsync name body => .functionDef ⟨0, 0⟩ isAsync name (stmtsWithoutLines body)
  | .annotated _ target hint value =>
    .annotated ⟨0, 0⟩ target.forgetLines hint.forgetLines (optionWithoutLines value)
  | .inert _ => .inert ⟨0, 0⟩
  | .other _ kind nested => .other ⟨0, 0⟩ kind (stmtsWithoutLines nested)

/-- The statements without lines. -/
def stmtsWithoutLines : List Stmt → List Stmt
  | [] => []
  | stmt :: rest => stmt.forgetLines :: stmtsWithoutLines rest

end

theorem withoutLines_eq_map (items : List Expr) :
    withoutLines items = items.map Expr.forgetLines := by
  induction items with
  | nil => rfl
  | cons item rest ih => rw [withoutLines, ih, List.map_cons]

theorem rootName?_forgetLines (value : Expr) : value.forgetLines.rootName? = value.rootName? := by
  fun_induction Expr.rootName? value with
  | case1 => rfl
  | case2 => rfl
  | case3 line value index ih => simpa only [Expr.forgetLines, Expr.rootName?] using ih
  | case4 value noName noAttribute noSubscript =>
      cases value with
      | name => exact absurd rfl (noName _ _)
      | «attribute» => exact absurd rfl (noAttribute _ _ _)
      | subscript => exact absurd rfl (noSubscript _ _ _)
      | _ => rfl

/-! ## Equal but for lines -/

/-- Two expressions are equal but for their lines. -/
def Expr.SameForm (value other : Expr) : Prop :=
  value.forgetLines = other.forgetLines

namespace Expr.SameForm

variable {value other left right index : Expr} {line : Nat}

theorem rootName?_eq (same : value.SameForm other) : value.rootName? = other.rootName? := by
  rw [← rootName?_forgetLines value, same, rootName?_forgetLines]

theorem exists_constant {constant : Constant}
    (same : (Expr.constant line constant).SameForm other) :
    ∃ otherLine, other = .constant otherLine constant := by
  cases other <;> simp_all [SameForm, forgetLines]

theorem exists_name {text : String} (same : (Expr.name line text).SameForm other) :
    ∃ otherLine, other = .name otherLine text := by
  cases other <;> simp_all [SameForm, forgetLines]

theorem exists_attribute {field : String}
    (same : (Expr.attribute line value field).SameForm other) :
    ∃ otherLine otherValue, other = .attribute otherLine otherValue field := by
  cases other <;> simp_all [SameForm, forgetLines]

theorem exists_binary {operator : BinaryOp}
    (same : (Expr.binary line left operator right).SameForm other) :
    ∃ otherLine otherLeft otherRight, other = .binary otherLine otherLeft operator otherRight ∧
      left.SameForm otherLeft ∧ right.SameForm otherRight := by
  cases other with
  | binary otherLine otherLeft otherOperator otherRight =>
      obtain ⟨ofLeft, rfl, ofRight⟩ :
          left.SameForm otherLeft ∧ operator = otherOperator ∧ right.SameForm otherRight := by
        simpa [SameForm, forgetLines] using same
      exact ⟨_, _, _, rfl, ofLeft, ofRight⟩
  | _ => simp [SameForm, forgetLines] at same

theorem exists_subscript (same : (Expr.subscript line value index).SameForm other) :
    ∃ otherLine otherValue otherIndex, other = .subscript otherLine otherValue otherIndex ∧
      value.SameForm otherValue ∧ index.SameForm otherIndex := by
  cases other with
  | subscript otherLine otherValue otherIndex =>
      have parts : value.SameForm otherValue ∧ index.SameForm otherIndex := by
        simpa [SameForm, forgetLines] using same
      exact ⟨_, _, _, rfl, parts⟩
  | _ => simp [SameForm, forgetLines] at same

theorem subscript {otherLine : Nat} {otherValue otherIndex : Expr}
    (sameValue : value.SameForm otherValue) (sameIndex : index.SameForm otherIndex) :
    (Expr.subscript line value index).SameForm (.subscript otherLine otherValue otherIndex) := by
  unfold SameForm forgetLines
  rw [sameValue, sameIndex]

end Expr.SameForm

/-! ## Printing -/

theorem isInteger_forgetLines (value : Expr) : value.forgetLines.isInteger = value.isInteger := by
  cases value <;> rfl

/-- The level of the index of a subscript: a tuple with items goes without parentheses there. -/
def indexLevel : Expr → Level
  | .tuple _ (_ :: _) => .named
  | _ => .test

theorem indexLevel_forgetLines (index : Expr) :
    indexLevel index.forgetLines = indexLevel index := by
  cases index with
  | tuple line items => cases items <;> rfl
  | _ => rfl

variable [Release]

theorem printAt_subscript (line : Nat) (value index : Expr) :
    printAt isField level (.subscript line value index) = do
      return (← printAt isField .atom value) ++ "[" ++
        (← printAt isField (indexLevel index) index) ++ "]" := by
  fun_cases indexLevel index with
  | case1 tupleLine item rest =>
      have unenclosed (text : String) : enclosedIf ((item :: rest).isEmpty ||
          Level.tuple.isBelow .named) text = text := rfl
      simp only [printAt, unenclosed, bind_assoc, pure_bind]
  | case2 _ single => rw [printAt]; exact single

mutual

/-- Lines are not printed. -/
theorem printAt_forgetLines (isField : Bool) (level : Level) :
    (value : Expr) → printAt isField level value.forgetLines = printAt isField level value
  | .name _ _ => rfl
  | .constant _ _ => rfl
  | .attribute _ value field => by
    simp only [Expr.forgetLines, printAt, isInteger_forgetLines,
      printAt_forgetLines isField .atom value]
  | .subscript _ value index => by
    simp only [Expr.forgetLines, printAt_subscript, indexLevel_forgetLines,
      printAt_forgetLines isField .atom value,
      printAt_forgetLines isField (indexLevel index) index]
  | .call _ function arguments => by
    simp only [Expr.forgetLines, printAt, printAt_forgetLines isField .atom function,
      printArguments_forgetLines isField arguments]
  | .unary _ operator operand => by
    simp only [Expr.forgetLines, printAt, printAt_forgetLines isField _ operand]
  | .binary _ left operator right => by
    simp only [Expr.forgetLines, printAt, printAt_forgetLines isField _ left,
      printAt_forgetLines isField _ right]
  | .logical _ operator operands => by
    simp only [Expr.forgetLines, printAt, printRising_forgetLines isField _ operands]
  | .comparison _ first links => by
    simp only [Expr.forgetLines, printAt, printAt_forgetLines isField _ first,
      printLinks_forgetLines isField links]
  | .conditional _ body test orElse => by
    simp only [Expr.forgetLines, printAt, printAt_forgetLines isField _ body,
      printAt_forgetLines isField _ test, printAt_forgetLines isField _ orElse]
  | .lambda _ parameters body => by
    simp only [Expr.forgetLines, printAt, printParameters_forgetLines isField parameters,
      printAt_forgetLines isField _ body]
  | .assignment _ target value => by
    simp only [Expr.forgetLines, printAt, printAt_forgetLines isField _ target,
      printAt_forgetLines isField _ value]
  | .await _ value => by
    simp only [Expr.forgetLines, printAt, printAt_forgetLines isField _ value]
  | .yield _ value => by
    simp only [Expr.forgetLines, printAt, printOptional_forgetLines isField _ value]
  | .yieldFrom _ value => by
    simp only [Expr.forgetLines, printAt, printAt_forgetLines isField _ value]
  | .starred _ value => by
    simp only [Expr.forgetLines, printAt, printAt_forgetLines isField _ value]
  | .tuple _ items => by
    have sameEmpty : (withoutLines items).isEmpty = items.isEmpty := by cases items <;> rfl
    simp only [Expr.forgetLines, printAt, sameEmpty, printItems_forgetLines isField items]
  | .list _ items => by
    simp only [Expr.forgetLines, printAt, printItems_forgetLines isField items]
  | .set _ items => by
    simp only [Expr.forgetLines, printAt, printItems_forgetLines isField items]
  | .dictionary _ entries => by
    simp only [Expr.forgetLines, printAt, printEntries_forgetLines isField entries]
  | .comprehension _ collection element clauses => by
    simp only [Expr.forgetLines, printAt, printAt_forgetLines isField _ element,
      printClauses_forgetLines isField clauses]
  | .dictionaryOf _ key value clauses => by
    simp only [Expr.forgetLines, printAt, printAt_forgetLines isField _ key,
      printAt_forgetLines isField _ value, printClauses_forgetLines isField clauses]
  | .slice _ lower upper step => by
    simp only [Expr.forgetLines, printAt, printOptional_forgetLines isField _ lower,
      printOptional_forgetLines isField _ upper, printOptional_forgetLines isField _ step]
  | .formatted _ pieces => by
    simp only [Expr.forgetLines, printAt, printPieces_forgetLines pieces]

theorem printOptional_forgetLines (isField : Bool) (level : Level) : (value : Option Expr) →
    printOptional isField level (optionWithoutLines value) = printOptional isField level value
  | none => rfl
  | some value => by
    simp only [optionWithoutLines, printOptional, printAt_forgetLines isField level value]

theorem printItems_forgetLines (isField : Bool) : (items : List Expr) →
    printItems isField (withoutLines items) = printItems isField items
  | [] => rfl
  | item :: rest => by
    simp only [withoutLines, printItems, printAt_forgetLines isField _ item,
      printItems_forgetLines isField rest]

theorem printRising_forgetLines (isField : Bool) (level : Level) : (operands : List Expr) →
    printRising isField level (withoutLines operands) = printRising isField level operands
  | [] => rfl
  | operand :: rest => by
    simp only [withoutLines, printRising, printAt_forgetLines isField _ operand,
      printRising_forgetLines isField _ rest]

theorem printArguments_forgetLines (isField : Bool) : (arguments : List Argument) →
    printArguments isField (argumentsWithoutLines arguments) = printArguments isField arguments
  | [] => rfl
  | .positional value :: rest | .named _ value :: rest | .unpacked value :: rest => by
    simp only [argumentsWithoutLines, printArguments, printAt_forgetLines isField _ value,
      printArguments_forgetLines isField rest]

theorem printLinks_forgetLines (isField : Bool) : (links : List Link) →
    printLinks isField (linksWithoutLines links) = printLinks isField links
  | [] => rfl
  | .mk comparator operand :: rest => by
    simp only [linksWithoutLines, printLinks, printAt_forgetLines isField _ operand,
      printLinks_forgetLines isField rest]

theorem printParameters_forgetLines (isField : Bool) : (parameters : List Parameter) →
    printParameters isField (parametersWithoutLines parameters) =
      printParameters isField parameters
  | [] => rfl
  | .optional name default :: rest => by
    simp only [parametersWithoutLines, printParameters, printAt_forgetLines isField _ default,
      printParameters_forgetLines isField rest]
  | .required _ :: rest | .endPositional :: rest | .startNamed :: rest | .rest _ :: rest
  | .namedRest _ :: rest => by
    simp only [parametersWithoutLines, printParameters, printParameters_forgetLines isField rest]

theorem printEntries_forgetLines (isField : Bool) : (entries : List Entry) →
    printEntries isField (entriesWithoutLines entries) = printEntries isField entries
  | [] => rfl
  | .pair key value :: rest => by
    simp only [entriesWithoutLines, printEntries, printAt_forgetLines isField _ key,
      printAt_forgetLines isField _ value, printEntries_forgetLines isField rest]
  | .unpacked value :: rest => by
    simp only [entriesWithoutLines, printEntries, printAt_forgetLines isField _ value,
      printEntries_forgetLines isField rest]

theorem printClauses_forgetLines (isField : Bool) : (clauses : List Clause) →
    printClauses isField (clausesWithoutLines clauses) = printClauses isField clauses
  | [] => rfl
  | .mk isAsync target iterable conditions :: rest => by
    simp only [clausesWithoutLines, printClauses, printAt_forgetLines isField _ target,
      printAt_forgetLines isField _ iterable, printConditions_forgetLines isField conditions,
      printClauses_forgetLines isField rest]

theorem printConditions_forgetLines (isField : Bool) : (conditions : List Expr) →
    printConditions isField (withoutLines conditions) = printConditions isField conditions
  | [] => rfl
  | condition :: rest => by
    simp only [withoutLines, printConditions, printAt_forgetLines isField _ condition,
      printConditions_forgetLines isField rest]

theorem printPieces_forgetLines : (pieces : List Piece) →
    printPieces (piecesWithoutLines pieces) = printPieces pieces
  | [] => rfl
  | .text value :: rest => by
    simp only [piecesWithoutLines, printPieces, printPieces_forgetLines rest]
  | .field value conversion :: rest => by
    simp only [piecesWithoutLines, printPieces, printAt_forgetLines true _ value,
      printPieces_forgetLines rest]
  | .laidOut value conversion layout :: rest => by
    simp only [piecesWithoutLines, printPieces, printAt_forgetLines true _ value,
      printPieces_forgetLines layout, printPieces_forgetLines rest]

end

/-- What is printed of an expression does not depend on its lines. -/
theorem Expr.SameForm.print_eq {value other : Expr} (same : value.SameForm other) :
    value.print = other.print := by
  unfold Expr.print
  rw [← printAt_forgetLines false .test value, same, printAt_forgetLines]

end Stringify.Source
