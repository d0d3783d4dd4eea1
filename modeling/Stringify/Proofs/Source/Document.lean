import Stringify.Proofs.Source.Grammar
import Stringify.Proofs.Source.TextLiterals
import Stringify.Source.Document

/-!
# Expressions that are sources

Each rule of the grammar reads between the places before and after it, for rules that refer to one
another are unfolded only finitely often. So every text in the expression that a source consists of
is shorter than the source.
-/

namespace Stringify.Source

open Stub (longestText)

variable {stream : TokenStream} {value : Expr} {chars : List Char}

namespace Nested

open Reading

variable {nested : Nested} [nested.IsSound stream]

theorem reads_conditional : Reads stream nested.conditional (Expr.IsRead stream) :=
  reads_alone_here fun _ _ => .after fun _ _ _ => .after fun _ _ _ => .after fun _ _ _ =>
    .after fun _ _ _ => .after fun _ _ _ => .pure ⟨rfl, rfl⟩

theorem reads_lambda : Reads stream nested.lambda (Expr.IsRead stream) :=
  reads_alone (reads_wordLine "lambda") fun _ _ => .after fun _ _ _ => .after fun _ _ _ =>
    .after fun _ _ _ => .pure ⟨rfl, rfl⟩

theorem reads_anyForm : Reads stream nested.anyForm (Expr.IsRead stream) :=
  .firstOf ⟨reads_conditional, IsSound.read _, reads_lambda⟩

theorem reads_expression : Reads stream nested.expression (Expr.IsRead stream) :=
  .firstOf ⟨.explaining, .explaining, reads_anyForm⟩

instance : Keeps stream nested.list := reads_list.keeps

instance : Keeps stream nested.tuple := reads_tuple.keeps

theorem reads_misplacedAssignment :
    Reads stream nested.misplacedAssignment (Expr.IsRead stream) := by
  have equals : Keeps stream (do
      symbol "="
      discard (nested.read .bitOr)
      followsNot (anySymbol ["=", ":="])) := by
    infer_instance
  have other : Keeps stream (firstOf [discard nested.list, discard nested.tuple,
      discard nested.generator, firstOf [word "True", word "None", word "False"]]) := by
    infer_instance
  exact fun _ => .mistakes

theorem reads_starExpression :
    Reads stream (firstOf [nested.starred .bitOr, nested.read .expression])
      (Expr.IsRead stream) :=
  .firstOf ⟨reads_starred _, IsSound.read _⟩

/-- Each rule reads between the places before and after it if those that it refers to do. -/
theorem reads_rule (rule : Rule) : Reads stream (nested.rule rule) (Expr.IsRead stream) := by
  cases rule with
  | expression => exact reads_expression
  | starExpression => exact reads_starExpression
  | misplacedAssignment => exact reads_misplacedAssignment
  | disjunction => exact reads_logical _ _
  | conjunction => exact reads_logical _ _
  | inversion => exact reads_inversion
  | bitOr => exact reads_binary _ _
  | bitXor => exact reads_binary _ _
  | bitAnd => exact reads_binary _ _
  | shift => exact reads_binary _ _
  | sum => exact reads_binary _ _
  | product => exact reads_binary _ _
  | factor => exact reads_factor
  | awaited => exact reads_awaited
  | primary => exact reads_primary
  | textLiteral => exact reads_textLiteral
  | target => exact reads_target
  | unstarredTarget => exact reads_unstarredTarget
  | singleTarget => exact reads_singleTarget
  | deletedTarget => exact reads_deletedTarget
  | targetPrimary => exact reads_targetPrimary
  | bracketed => exact reads_bracketed

end Nested

open Reading

theorem reads_readExpr (steps : Nat) (rule : Rule) :
    Reads stream (readExpr steps rule) (Expr.IsRead stream) := by
  induction steps generalizing rule with
  | zero => exact fun _ => .throw _
  | succ steps ih =>
      have sound : Nested.IsSound stream ⟨readExpr steps⟩ := ⟨ih⟩
      rw [readExpr]
      split
      · exact .remembered (isSound_expressionSlot rule) (Nested.reads_rule rule)
      · exact Nested.reads_rule rule

instance (length : Nat) : (nestedFor length).IsSound stream := ⟨reads_readExpr _⟩

/-- What a source is found to be is what the first reading of it gives. -/
theorem Reading.Reads.exists_of_run {α : Type} {reader : Reading α} {kind : Nat → Nat → α → Prop}
    {value : α} (reads : Reads stream reader kind) (ran : Reading.run reader stream = .ok value) :
    ∃ stop, kind 0 stop value := by
  have ends := reads 0 ⟨0, 0, .empty⟩ rfl (Memory.isRead_empty stream)
  unfold Reading.run at ran
  cases first : reader ⟨stream, false⟩ ⟨0, 0, .empty⟩ with
  | ok found progress =>
      rw [first] at ran ends
      cases ran
      exact ⟨_, ends.2.1⟩
  | error failure progress =>
      rw [first] at ran
      cases failure with
      | exhausted => cases ran
      | refusal line => cases ran
      | mismatch =>
          dsimp only at ran
          split at ran <;> cases ran

theorem readExpression_nil : readExpression [] = .error 0 := by
  cbv

/-- The expression that a source consists of is read from its tokens. -/
theorem exists_isRead_of_readExpression (read : readExpression chars = .ok value) :
    ∃ stop, value.IsRead (tokensOf 1 (normalizeLineEnds chars)) 0 stop := by
  refine Reads.exists_of_run (fun start => ?_) read
  refine (Nested.reads_expressions start).bind fun value place _ within => ?_
  exact .after fun _ _ le => .after fun _ _ more => .pure
    (Widens.upTo within (Nat.le_trans le more))

/-- Every text in the expression that a source consists of is shorter than the source. -/
theorem longestText_lt_of_readExpression (read : readExpression chars = .ok value) :
    longestText value < chars.length := by
  obtain ⟨stop, brief, -⟩ := exists_isRead_of_readExpression read
  have bound := room_tokensOf 1 (normalizeLineEnds chars)
  have shorter := normalizeLineEnds_length_le chars
  have positive : 0 < chars.length := by
    refine List.length_pos_iff.mpr fun empty => ?_
    rw [empty, readExpression_nil] at read
    cases read
  omega

/-- The lines in the expression that a source consists of are counted from the start of the
source. -/
theorem exists_token_of_readExpression {line : Nat} (read : readExpression chars = .ok value)
    (member : line ∈ value.hintLines) :
    ∃ token ∈ (tokensOf 1 (normalizeLineEnds chars)).tokens, token.line = line := by
  obtain ⟨stop, -, placed⟩ := exists_isRead_of_readExpression read
  obtain ⟨place, -, ⟨token, found, rfl⟩, -⟩ := placed line member
  exact ⟨token, Array.mem_of_getElem? found, rfl⟩

end Stringify.Source
