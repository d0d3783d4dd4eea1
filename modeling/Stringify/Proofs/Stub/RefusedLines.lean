import Stringify.Proofs.Source.Modules
import Stringify.Proofs.Stub.Failures

/-!
# The lines of refused statements

A stub is refused in a line between the first and the last one of the statement that is refused. An
expression in a text is the exception: its line is counted from the start of the text.
-/

namespace Stringify.Stub

open Source (Argument Expr Stmt)

variable {hint node index argument expression : Expr} {quoted : Bool} {line : Nat}
variable {problem : Problem} {stmt : Stmt} {stmts : List Stmt}

/-! ## Lines in hints -/

section

theorem mem_hintLines_of_mem_argumentsOf (member : argument ∈ argumentsOf index)
    (inside : line ∈ argument.hintLines) : line ∈ index.hintLines := by
  have several {items : List Expr} (member : argument ∈ items) :
      line ∈ Expr.hintLinesOf items := Expr.mem_hintLinesOf_iff.mpr ⟨argument, member, inside⟩
  cases index with
  | tuple place items =>
      rw [Expr.hintLines, List.mem_cons]
      exact .inr (several member)
  | _ =>
      obtain rfl := List.mem_singleton.mp member
      exact inside

/-- The lines in the hint that is kept of a statement are lines in the statement. -/
theorem mem_lines_of_pendingOf? {pending : Pending} (kept : pendingOf? stmt = some pending)
    (inside : line ∈ pending.hint.hintLines) : line ∈ stmt.lines := by
  unfold pendingOf? at kept
  split at kept
  · rw [Stmt.lines, List.mem_cons, List.mem_append]
    split at kept
    · obtain ⟨value, rfl, rfl⟩ := Option.map_eq_some_iff.mp kept
      exact .inr (.inr inside)
    · obtain rfl := Option.some.inj kept
      exact .inr (.inl inside)
  · cases kept

variable [Release]

/-- The lines in what is met in a hint are lines in the hint, unless a text is in between. -/
theorem Meets.mem_hintLines (meets : Meets hint quoted node) (plain : quoted = false)
    (inside : line ∈ node.hintLines) : line ∈ hint.hintLines := by
  induction meets with
  | self => exact inside
  | left _ ih =>
      rw [Expr.hintLines, List.mem_cons, List.mem_append]
      exact .inr (.inl (ih plain inside))
  | right _ ih =>
      rw [Expr.hintLines, List.mem_cons, List.mem_append]
      exact .inr (.inr (ih plain inside))
  | argument member _ ih =>
      rw [Expr.hintLines, List.mem_cons]
      exact .inr (mem_hintLines_of_mem_argumentsOf (mem_of_mem_argumentHints member)
        (ih plain inside))
  | text => cases plain

theorem HintStops.mem_hintLines (stops : HintStops node (.refused line problem)) :
    line ∈ node.hintLines := by
  cases stops with
  | refused => exact node.line_mem_hintLines
  | literal _ member stops =>
      cases stops with
      | refused =>
          rw [Expr.hintLines, List.mem_cons]
          exact .inr (mem_hintLines_of_mem_argumentsOf member (Expr.line_mem_hintLines _))

/-! ## Lines in texts -/

/-- A text that is met in a hint writes an expression. -/
structure Quotes (hint : Expr) (chars : List Char) (written : Expr) : Prop where
  met : ∃ quoted line text isMarked, Meets hint quoted (.constant line (.text text isMarked)) ∧
    Text.Utf8.characters text = .ok chars
  read : Source.readExpression chars = .ok written

/-- A text that is met in a part of a hint is met in the hint. -/
theorem Quotes.of_part {part whole written : Expr} {chars : List Char}
    (quotes : Quotes part chars written)
    (lift : ∀ {quoted node}, Meets part quoted node → ∃ other, Meets whole other node) :
    Quotes whole chars written := by
  obtain ⟨⟨quoted, line, text, isMarked, met, encoded⟩, read⟩ := quotes
  obtain ⟨other, met⟩ := lift met
  exact ⟨⟨other, line, text, isMarked, met, encoded⟩, read⟩

/-- What is met in a text is met in the expression that some innermost text writes. -/
theorem Meets.exists_quotes (meets : Meets hint quoted node) (inText : quoted = true) :
    ∃ chars written, Quotes hint chars written ∧ Meets written false node := by
  induction meets with
  | self => cases inText
  | left _ ih =>
      obtain ⟨chars, written, quotes, inside⟩ := ih inText
      exact ⟨chars, written, quotes.of_part fun met => ⟨_, .left met⟩, inside⟩
  | right _ ih =>
      obtain ⟨chars, written, quotes, inside⟩ := ih inText
      exact ⟨chars, written, quotes.of_part fun met => ⟨_, .right met⟩, inside⟩
  | argument member _ ih =>
      obtain ⟨chars, written, quotes, inside⟩ := ih inText
      exact ⟨chars, written, quotes.of_part fun met => ⟨_, .argument member met⟩, inside⟩
  | @text line value isMarked inner node quoted read inside ih =>
      cases quoted with
      | true =>
          obtain ⟨chars, written, quotes, inside⟩ := ih rfl
          exact ⟨chars, written, quotes.of_part fun met => ⟨_, .text read met⟩, inside⟩
      | false =>
          obtain ⟨chars, scanned, read⟩ := exists_of_readReference read
          have encoded := (sourceChars_eq_some_iff.mp scanned).1
          exact ⟨chars, inner, ⟨⟨false, line, value, isMarked, .self, encoded⟩, read⟩, inside⟩

/-! ## Lines in statements -/

/-- A line is that of a problem in a statement. -/
inductive PointsInto (stmt : Stmt) (line : Nat) (problem : Problem) : Prop where
  /-- It is one of the lines of the statement. -/
  | own (contains : stmt.span.Contains line)
  /-- An expression in a text is refused, and it is a line of that text, counted from the first
  one. -/
  | inText {pending : Pending} {chars : List Char} {written node : Expr}
      (kept : pendingOf? stmt = some pending) (quotes : Quotes pending.hint chars written)
      (met : Meets written false node) (stops : HintStops node (.refused line problem))
      (counted : ∃ token ∈ (Source.tokensOf 1 (Source.normalizeLineEnds chars)).tokens,
        token.line = line)

/-- The line of a problem is one of the statement, or else of an expression in a text. -/
theorem StmtStops.pointsInto (stops : StmtStops stmt (.refused line problem))
    (contains : ∀ line ∈ stmt.lines, stmt.span.Contains line) : PointsInto stmt line problem := by
  cases stops with
  | refused => exact .own (contains _ stmt.first_mem_lines)
  | base member =>
      apply PointsInto.own (contains _ ?_)
      rw [Stmt.lines, List.mem_cons, List.mem_append]
      exact .inr (.inl (List.mem_map_of_mem member))
  | nested member =>
      apply PointsInto.own (contains _ ?_)
      rw [Stmt.lines, List.mem_cons, List.mem_append, List.mem_filterMap]
      exact .inr (.inr ⟨_, member, rfl⟩)
  | @hint _ pending _ kept fails =>
      obtain ⟨quoted, node, met, stops⟩ := fails
      cases quoted with
      | false =>
          have inside := met.mem_hintLines rfl stops.mem_hintLines
          exact .own (contains _ (mem_lines_of_pendingOf? kept inside))
      | true =>
          obtain ⟨chars, written, quotes, met⟩ := met.exists_quotes rfl
          exact .inText kept quotes met stops (Source.exists_token_of_readExpression quotes.read
            (met.mem_hintLines rfl stops.mem_hintLines))

end

/-- A stub that is a sequence of statements is loaded, or a fault ends the work on it, or it is
refused for a statement in a line of that statement, unless an expression in a text is refused. -/
theorem Module.load_line_cases [Release] (file source : Text) :
    (∀ chars, sourceChars source = .ok (some chars) →
      ∃ line, Source.readModule chars = .error line) ∨
    ∃ chars stmts, sourceChars source = .ok (some chars) ∧ Source.readModule chars = .ok stmts ∧
      ((∃ module, Module.load file source = .ok module) ∨
      (∃ fault, Module.load file source = .error (.fault fault)) ∨
      ∃ stmt, ∃ line : Nat, ∃ problem, Module.load file source =
        .error (.refused ⟨file, some line, problem⟩) ∧
        Rejects stmts stmt (.refused line problem) ∧ PointsInto stmt line problem) := by
  by_cases parses : ∃ chars stmts,
      sourceChars source = .ok (some chars) ∧ Source.readModule chars = .ok stmts
  · obtain ⟨chars, stmts, scanned, read⟩ := parses
    refine .inr ⟨chars, stmts, scanned, read, ?_⟩
    cases plain : file.contains .null with
    | true => exact .inr (.inl ⟨.nullInFileName, by rw [Module.load, if_pos plain]⟩)
    | false =>
        rw [Module.load_of_readModule plain scanned read]
        cases made : Module.ofStmts file stmts with
        | ok module => exact .inl ⟨module, rfl⟩
        | error failure =>
            obtain ⟨stmt, stop, rejects, rfl⟩ := Module.ofStmts_eq_error_iff.mp made
            cases stop with
            | fault fault => exact .inr (.inl ⟨fault, rfl⟩)
            | refused line problem =>
                exact .inr (.inr ⟨stmt, line, problem, rfl, rejects, rejects.stmtStops.pointsInto
                  (Source.contains_of_readModule read rejects.mem)⟩)
  · refine .inl fun chars scanned => ?_
    cases read : Source.readModule chars with
    | error line => exact ⟨line, rfl⟩
    | ok stmts => exact absurd ⟨chars, stmts, scanned, read⟩ parses

set_option maxRecDepth 100000 in
/-- An unknown name between quotes in the third line is refused in the first line. -/
theorem Module.refused_outside_of_reference :
    let _release : Release := .late
    let classA : Stmt := .classDef ⟨1, 1⟩ "A" [] [.inert ⟨1, 1⟩]
    let reference : Stmt := .annotated ⟨3, 3⟩ (.name 3 "x")
      (.constant 3 (.text (.ofString "Missing") false)) none
    let problem : Problem := .unknownType "Missing"
    Module.load "<stub>" "class A: ...\n\nx: 'Missing'\n" =
        .error (.refused ⟨"<stub>", some 1, problem⟩) ∧
      Module.ofStmts "<stub>" [classA, reference] =
        .error (.refused ⟨"<stub>", some 1, problem⟩) ∧
      Rejects [classA, reference] reference (.refused 1 problem) ∧
      ¬reference.span.Contains 1 := by
  intro release classA reference problem
  have loaded : Module.load "<stub>" "class A: ...\n\nx: 'Missing'\n" =
      .error (.refused ⟨"<stub>", some 1, problem⟩) :=
    failure?_eq_some_iff.mp (by decide +kernel)
  have read : readReference 3 (.ofString "Missing") = .ok (.name 1 "Missing") := by cbv
  have unknown (scope : Scope) (missing : scope.named 1 "Missing" = .error (.refused 1 problem)) :
      resolve scope (.constant 3 (.text (.ofString "Missing") false)) =
        .error (.refused 1 problem) := by
    rw [resolve_text, read]
    exact missing
  have split : [classA, reference] = [classA] ++ reference :: [] := rfl
  have rejects : Rejects [classA, reference] reference (.refused 1 problem) :=
    .value split rfl rfl rfl rfl rfl (unknown _ rfl)
  refine ⟨loaded, Module.ofStmts_eq_error_iff.mpr ⟨_, _, rejects, rfl⟩, rejects, ?_⟩
  rintro ⟨third, -⟩
  exact absurd third (by decide)

end Stringify.Stub
