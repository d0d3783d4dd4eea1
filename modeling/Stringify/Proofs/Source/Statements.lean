import Stringify.Proofs.Source.Document

/-!
# The grammar of statements

The span of a statement reaches from its first token to its last one, so it contains the lines of
all that is read in between. Nested statements are read between the places of the statement around
them.
-/

namespace Stringify.Source

variable {stream : TokenStream} [stream.IsOrdered] {start stop line : Nat}

/-! ## Spans -/

namespace TokenStream

/-- A line between two places is not in front of that of the token at the former. -/
theorem Covers.le_line {first : Nat} (covers : stream.Covers start stop line)
    (lined : stream.HasLine start first) : first ≤ line := by
  obtain ⟨place, after, ⟨token, found, rfl⟩, _⟩ := covers
  obtain ⟨opening, here, rfl⟩ := lined
  exact line_le_line here found after

end TokenStream

namespace Reading

variable {α : Type}

/-- What is taken ends in no line in front of one that it covers. -/
theorem gives_lastTakenLine {taken place : Nat} :
    Gives stream place (lastTakenLine taken) fun _ last =>
      ∀ start line, stream.Covers start taken line → line ≤ last := by
  induction taken with
  | zero =>
      refine .pure fun start line covers => ?_
      obtain ⟨_, _, _, ⟨_, _, _, before, _⟩⟩ := covers
      exact absurd before (Nat.not_lt_zero _)
  | succ taken ih =>
      -- A token that is no content ends no line, and the content is further in front.
      have earlier (skipped : ∀ token, stream.tokens[taken]? = some token →
          token.isLayout = true) : Gives stream place (lastTakenLine taken) fun _ last =>
          ∀ start line, stream.Covers start (taken + 1) line → line ≤ last := by
        refine ih.mono fun _ last _ bound start line covers => bound start line ?_
        obtain ⟨first, after, lined, ⟨content, token, more, before, found, written⟩⟩ := covers
        refine ⟨first, after, lined, content, token, more, ?_, found, written⟩
        refine Nat.lt_of_le_of_ne (Nat.le_of_lt_succ before) ?_
        rintro rfl
        simp [skipped token found] at written
      rw [lastTakenLine]
      refine .atTokenOf taken ?_
      cases found : stream.tokens[taken]? with
      | none => exact earlier (by simp [found])
      | some token =>
          dsimp only
          split
          · next layout => exact earlier (by simpa [found] using layout)
          · refine .pure fun start line covers => ?_
            obtain ⟨first, _, ⟨opening, here, rfl⟩, ⟨content, _, more, before, _⟩⟩ := covers
            exact Nat.le_trans (TokenStream.line_le_line here found (by omega))
              (TokenStream.line_le_lastLine found)

/-- A statement is made from its span such that it has that span, and no lines but the first line of
the span and those between two places. -/
structure Builds (stream : TokenStream) (start stop : Nat) (build : Span → Stmt) : Prop where
  span : ∀ span, (build span).span = span
  lines : ∀ span, ∀ line ∈ (build span).lines, line = span.first ∨ stream.Covers start stop line

/-- A statement that is made from its span contains its lines. -/
theorem reads_spannedStmt {reader : Reading (Span → Stmt)}
    [Writes stream reader] (reads : Reads stream reader (Builds stream)) :
    Reads stream (spannedStmt reader) (Stmt.IsRead stream) := by
  intro start
  unfold spannedStmt spanned
  simp only [bind_assoc, pure_bind]
  refine .atLine fun first lined => ?_
  refine ((Writes.reads start).and (reads start)).bind fun build place le given => ?_
  obtain ⟨content, builds⟩ := given
  refine .atPlace ?_
  refine gives_lastTakenLine.bind fun last stop more bound => .pure ?_
  have covers := lined.covers content
  have within (line : Nat) (covers : stream.Covers start place line) :
      Span.Contains ⟨first, last⟩ line := ⟨covers.le_line lined, bound start line covers⟩
  have spanned := builds.span ⟨first, last⟩
  refine ⟨?_, fun line member => ?_⟩
  · rw [spanned]
    exact covers.upTo more
  · rw [spanned]
    obtain rfl | inside := builds.lines _ line member
    · exact within _ covers
    · exact within line inside

/-- A statement that keeps no line but its first one. -/
def IsPlain (build : Span → Stmt) : Prop :=
  ∀ span, (build span).span = span ∧ (build span).lines = [span.first]

theorem reads_spannedStmt_of_isPlain {reader : Reading (Span → Stmt)}
    [Writes stream reader] (each : Reads stream reader fun _ _ build => IsPlain build) :
    Reads stream (spannedStmt reader) (Stmt.IsRead stream) := by
  refine reads_spannedStmt fun start => (each start).mono fun stop build _ plain => ?_
  refine ⟨fun span => (plain span).1, fun span line member => .inl ?_⟩
  rwa [(plain span).2, List.mem_singleton] at member

theorem reads_plainStmt (kind : StmtKind) {reader : Reading α}
    [Keeps stream reader] [Writes stream reader] :
    Reads stream (plainStmt kind reader) (Stmt.IsRead stream) :=
  reads_spannedStmt_of_isPlain fun _ => .after fun _ _ _ => .pure fun _ => ⟨rfl, rfl⟩

theorem reads_inertStmt {reader : Reading α} [Keeps stream reader]
    [Writes stream reader] : Reads stream (inertStmt reader) (Stmt.IsRead stream) :=
  reads_spannedStmt_of_isPlain fun _ => .after fun _ _ _ => .pure fun _ => ⟨rfl, rfl⟩

end Reading

/-! ## Simple statements -/

namespace Nested

open Reading

variable {nested : Nested} [nested.IsSound stream]

theorem reads_annotated {target : Reading Expr}
    (reads : Reads stream target (Expr.IsRead stream)) :
    Reads stream (nested.annotated target) (Stmt.IsRead stream) := by
  have keeps := reads.keeps
  refine reads_spannedStmt fun start => .after fun target place le => ?_
  refine .after fun _ further more => (IsSound.read _ further).bind fun hint last most read => ?_
  refine ((reads_assignedValue.behind (symbol "=")) last).perhaps.bind
    fun value stop rest given => .pure ?_
  refine ⟨fun _ => rfl, fun span line member => ?_⟩
  rw [Stmt.lines, List.mem_cons, List.mem_append] at member
  obtain rfl | inHint | inValue := member
  · exact .inl rfl
  · exact .inr ((read.placed line inHint).widen (by omega) rest)
  · cases value with
    | none => simp at inValue
    | some value =>
        exact .inr (((given value rfl).placed line inValue).widen (by omega) (Nat.le_refl _))

theorem reads_plainAssignment :
    Reads stream nested.plainAssignment (Stmt.IsRead stream) :=
  reads_plainStmt _

theorem reads_assignmentStmt :
    Reads stream nested.assignmentStmt (Stmt.IsRead stream) := by
  refine .firstOf ⟨reads_annotated reads_plainName,
    reads_annotated (.firstOf ⟨reads_grouped (IsSound.read _), reads_partTarget⟩),
    reads_plainAssignment, fun start => ?_⟩
  have opening : Gives stream start (do
      let line ← currentLine
      discard (nested.read .singleTarget)
      anySymbol augmentedOperators
      return line) fun place line => stream.Covers start place line :=
    .atLine fun line lined => .written fun _ _ _ content => .after fun _ _ le =>
      .pure (lined.covers (content.upTo le))
  refine opening.commit (fun first place _ covers => ?_) fun _ _ => .explaining
  refine .after fun _ further le => .atPlace ?_
  refine gives_lastTakenLine.bind fun last stop more bound => .pure ?_
  refine ⟨covers.upTo (Nat.le_trans le more), fun line member => ?_⟩
  obtain rfl : line = first := by simpa [Stmt.lines, Stmt.span] using member
  exact ⟨Nat.le_refl _, bound start line (covers.upTo le)⟩

section Imports

instance : Writes stream dottedName := by
  unfold dottedName
  infer_instance

instance : Keeps stream dottedName := Writes.reads.keeps

instance : Keeps stream localName := by
  unfold localName
  infer_instance

instance : Keeps stream namesFrom := by
  unfold namesFrom
  infer_instance

instance : Keeps stream importedNames := by
  unfold importedNames
  infer_instance

instance : Writes stream importModules := by
  unfold importModules
  infer_instance

instance : Writes stream importFrom := by
  unfold importFrom
  infer_instance

instance : Keeps stream importModules := Writes.reads.keeps

instance : Keeps stream importFrom := Writes.reads.keeps

end Imports

instance {reader : Reading Expr} [Keeps stream reader] : Keeps stream (targetList reader) := by
  unfold targetList
  infer_instance

instance : Writes stream nested.deletion := by
  unfold deletion
  infer_instance

instance : Keeps stream nested.deletion := Writes.reads.keeps

instance (keyword : String) : Writes stream (declaration keyword) := by
  unfold declaration
  infer_instance

instance (keyword : String) : Keeps stream (declaration keyword) := Writes.reads.keeps

instance (keyword : String) (mark : Reading Unit) [Keeps stream mark] :
    Writes stream (nested.wordWith keyword mark) := by
  unfold wordWith
  infer_instance

instance (keyword : String) (mark : Reading Unit) [Keeps stream mark] :
    Keeps stream (nested.wordWith keyword mark) := Writes.reads.keeps

theorem reads_simpleStmt :
    Reads stream nested.simpleStmt (Stmt.IsRead stream) := by
  apply Reads.remembered isSound_stmtSlot
  exact .firstOf ⟨reads_assignmentStmt, reads_inertStmt, reads_plainStmt _,
    reads_inertStmt, reads_plainStmt _, reads_inertStmt,
    reads_plainStmt _, reads_inertStmt, reads_plainStmt _,
    reads_plainStmt _, reads_plainStmt _, reads_plainStmt _,
    reads_plainStmt _⟩

theorem reads_simpleStmts :
    Reads stream nested.simpleStmts (Each (Stmt.IsRead stream)) := by
  refine .firstOf ⟨fun start => ?single, fun start => ?several⟩
  case single =>
    refine (reads_simpleStmt start).bind fun stmt place _ read => ?_
    refine .after fun _ further le => .after fun _ stop more => .pure ?_
    have whole : stmt.IsRead stream start stop := Widens.upTo read (Nat.le_trans le more)
    simpa [Each] using whole
  case several =>
    refine ((reads_simpleStmt).separated ";" start).bind fun stmts place _ given => ?_
    exact .after fun _ _ le => .after fun _ _ more => .pure
      (Widens.upTo given.2 (Nat.le_trans le more))

end Nested

end Stringify.Source
