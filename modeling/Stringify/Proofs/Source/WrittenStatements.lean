import Stringify.Proofs.Source.WrittenExpressions

/-!
# The statements of a source are well-written

In the statements of a module what is annotated, the hints, the values of names and the names of
classes are well-written. Of patterns, imports and blocks it only matters that they leave what is
remembered well-written.
-/

set_option linter.unusedSectionVars false

namespace Stringify.Source

variable {stream : TokenStream} [stream.IsSpelled]

/-! ## Spans -/

namespace Reading

variable {α : Type}

instance spares_lastTakenLine (taken : Nat) : Spares stream (lastTakenLine taken) := by
  induction taken with
  | zero =>
      unfold lastTakenLine
      infer_instance
  | succ taken ih =>
      refine ⟨.after fun token => ?_⟩
      split
      · split
        · exact Spares.makes
        · exact .pure trivial
      · exact Spares.makes

theorem makes_spannedStmt {reader : Reading (Span → Stmt)}
    (makes : Makes stream reader fun build => ∀ span, (build span).IsWritten) :
    Makes stream (spannedStmt reader) Stmt.IsWritten := by
  unfold spannedStmt spanned
  simp only [bind_assoc, pure_bind]
  exact .after fun _ => makes.bind fun _ each => .after fun _ => .after fun _ => .pure (each _)

theorem makes_plainStmt (kind : StmtKind) {reader : Reading α} [Spares stream reader] :
    Makes stream (plainStmt kind reader) Stmt.IsWritten :=
  makes_spannedStmt (.after fun _ => .pure fun _ => trivial)

theorem makes_inertStmt {reader : Reading α} [Spares stream reader] :
    Makes stream (inertStmt reader) Stmt.IsWritten :=
  makes_spannedStmt (.after fun _ => .pure fun _ => trivial)

end Reading

/-! ## Simple statements -/

namespace Nested

open Reading

variable {nested : Nested} [nested.MakesTrees stream]

instance : Spares stream nested.items := makes_items.spares

instance : Spares stream nested.expressions := makes_expressions.spares

instance : Spares stream nested.starExpressions := makes_starExpressions.spares

instance : Spares stream nested.targets := makes_targets.spares

instance : Spares stream nested.yielded := makes_yielded.spares

instance : Spares stream nested.assignedValue := makes_assignedValue.spares

instance : Spares stream nested.item := makes_item.spares

instance : Spares stream nested.named := makes_named.spares

instance {α : Type} : Spares stream (nested.loopTargetMistake : Reading α) := ⟨.explaining⟩

theorem makes_annotated {target : Reading Expr} (makes : Makes stream target Expr.IsCompact) :
    Makes stream (nested.annotated target) Stmt.IsWritten := by
  refine makes_spannedStmt (makes.bind fun found ofTarget => .after fun _ => ?_)
  refine (makes_written .expression).bind fun hint ofHint => ?_
  exact (makes_assignedValue.behind (symbol "=")).perhaps.bind fun value ofValue =>
    .pure fun _ => ⟨ofTarget.written, ofHint, ofValue⟩

theorem makes_plainAssignment : Makes stream nested.plainAssignment Stmt.IsWritten :=
  makes_plainStmt _

theorem makes_assignmentStmt : Makes stream nested.assignmentStmt Stmt.IsWritten := by
  have part : Makes stream (firstOf
      [Prod.snd <$> between "(" ")" (nested.read .singleTarget), nested.partTarget])
      Expr.IsCompact :=
    .firstOf ⟨makes_grouped (makes_compact _ rfl), makes_partTarget⟩
  have opening : Spares stream (do
      let line ← currentLine
      discard (nested.read .singleTarget)
      anySymbol augmentedOperators
      return line) := inferInstance
  exact .firstOf ⟨makes_annotated makes_plainName, makes_annotated part, makes_plainAssignment,
    opening.makes.commit (fun _ _ => .after fun _ => .after fun _ => .after fun _ => .pure trivial)
      .explaining⟩

section Imports

instance : Spares stream dottedName := by
  unfold dottedName
  infer_instance

instance : Spares stream localName := by
  unfold localName
  infer_instance

instance : Spares stream namesFrom := by
  unfold namesFrom
  infer_instance

instance : Spares stream importedNames := by
  unfold importedNames
  infer_instance

instance : Spares stream importModules := by
  unfold importModules
  infer_instance

instance : Spares stream importFrom := by
  unfold importFrom
  infer_instance

end Imports

instance {reader : Reading Expr} [Spares stream reader] : Spares stream (targetList reader) := by
  unfold targetList
  infer_instance

instance : Spares stream nested.deletion := by
  unfold deletion
  infer_instance

instance (keyword : String) : Spares stream (declaration keyword) := by
  unfold declaration
  infer_instance

instance (keyword : String) (mark : Reading Unit) [Spares stream mark] :
    Spares stream (nested.wordWith keyword mark) := by
  unfold wordWith
  infer_instance

theorem makes_simpleStmt : Makes stream nested.simpleStmt Stmt.IsWritten := by
  apply Makes.remembered isWrittenSlot_stmtSlot
  exact .firstOf ⟨makes_assignmentStmt, makes_inertStmt, makes_plainStmt _, makes_inertStmt,
    makes_plainStmt _, makes_inertStmt, makes_plainStmt _, makes_inertStmt, makes_plainStmt _,
    makes_plainStmt _, makes_plainStmt _, makes_plainStmt _, makes_plainStmt _⟩

theorem makes_simpleStmts :
    Makes stream nested.simpleStmts fun stmts => ∀ stmt ∈ stmts, stmt.IsWritten :=
  .firstOf ⟨makes_simpleStmt.bind fun _ written => .after fun _ => .after fun _ =>
      .pure (List.forall_mem_singleton.mpr written),
    (makes_simpleStmt.separated ";").bind fun _ each => .after fun _ => .after fun _ =>
      .pure each⟩

end Nested

/-! ## Patterns -/

namespace Subpatterns

open Reading

variable {sub : Subpatterns} [sub.nested.MakesTrees stream] [Spares stream sub.pattern]

instance : Spares stream Nested.number := Nested.makes_number.spares

instance : Spares stream numberKind := by
  refine ⟨.after fun value => ?_⟩
  split
  · exact .pure trivial
  · exact .pure trivial

instance : Spares stream signedNumber := by
  unfold signedNumber
  infer_instance

instance : Spares stream realPart := by
  unfold realPart
  infer_instance

instance : Spares stream complexNumber := by
  unfold complexNumber
  infer_instance

instance : Spares stream sub.literal := by
  unfold literal
  infer_instance

instance (name : Reading Unit) [Spares stream name] : Spares stream (alone name) := by
  unfold alone
  infer_instance

instance : Spares stream capture := by
  unfold capture
  infer_instance

instance : Spares stream dottedName := by
  unfold dottedName
  infer_instance

instance : Spares stream nameOrAttribute := by
  unfold nameOrAttribute
  infer_instance

instance : Spares stream starItem := by
  have item : Spares stream (do
      let line ← symbolLine "*"
      firstOf [capture, word "_"]
      return line) := inferInstance
  exact (item.makes.remembered (isWrittenSlot_patternSlot .starred)).spares

instance : Spares stream sub.sequenceItem := by
  unfold sequenceItem
  infer_instance

instance : Spares stream sub.sequenceItems := by
  unfold sequenceItems
  infer_instance

instance : Spares stream sub.openSequence := by
  unfold openSequence
  infer_instance

instance : Spares stream sub.sequence := by
  unfold sequence
  infer_instance

instance : Spares stream sub.keyedItem := by
  unfold keyedItem
  infer_instance

instance : Spares stream mappingRest := by
  unfold mappingRest
  infer_instance

instance : Spares stream sub.mapping := by
  unfold mapping
  infer_instance

instance : Spares stream sub.positionalItems := by
  unfold positionalItems
  infer_instance

instance : Spares stream sub.namedItems := by
  unfold namedItems
  infer_instance

instance : Spares stream sub.ofClass := by
  have closed (content : Reading Unit) [Spares stream content] : Spares stream (do
      nameOrAttribute
      symbol "("
      content
      symbol ")") := inferInstance
  exact ⟨.firstOf ⟨(closed _).makes, (closed _).makes, (closed _).makes, (closed _).makes,
    .explaining⟩⟩

instance {α : Type} (opening closing : String) {reader : Reading α} [Spares stream reader] :
    Spares stream (Nested.between opening closing reader) := by
  unfold Nested.between
  infer_instance

instance : Spares stream sub.group := by
  unfold group
  infer_instance

instance : Spares stream sub.closed := by
  have here (form : Reading Unit) [Spares stream form] : Spares stream (do
      let line ← currentLine
      form
      return line) := inferInstance
  have forms : Spares stream (firstOf [(do let line ← currentLine; sub.literal; return line),
      (do let line ← currentLine; capture; return line),
      (do let line ← currentLine; word "_"; return line),
      (do let line ← currentLine; alone dottedName; return line), sub.group,
      (do let line ← currentLine; sub.sequence; return line),
      (do let line ← currentLine; sub.mapping; return line),
      (do let line ← currentLine; sub.ofClass; return line)]) := inferInstance
  exact (forms.makes.remembered (isWrittenSlot_patternSlot .closed)).spares

instance : Spares stream sub.alternatives := by
  refine ⟨.after fun line => .after fun found => ?_⟩
  split
  · exact .pure trivial
  · exact .pure trivial

instance : Spares stream sub.bound := by
  unfold Subpatterns.bound
  infer_instance

end Subpatterns

section

open Reading

variable {nested : Nested} [nested.MakesTrees stream]

instance spares_readPattern (steps : Nat) : Spares stream (readPattern nested steps) := by
  induction steps with
  | zero =>
      unfold readPattern
      infer_instance
  | succ steps ih =>
      unfold readPattern
      infer_instance

instance : Spares stream (readCasePattern nested) := by
  unfold readCasePattern
  infer_instance

end

/-! ## Blocks -/

namespace Enclosed

open Reading

/-- What stands inside a statement is well-written. -/
class MakesTrees (stream : TokenStream) (enclosed : Enclosed) : Prop where
  nested : enclosed.nested.MakesTrees stream
  stmt : Makes stream enclosed.stmt fun stmts => ∀ stmt ∈ stmts, stmt.IsWritten

instance {enclosed : Enclosed} [trees : enclosed.MakesTrees stream] :
    enclosed.nested.MakesTrees stream := trees.nested

variable {enclosed : Enclosed} [enclosed.MakesTrees stream] {opening : Reading Unit}

instance : Spares stream enclosed.stmt := MakesTrees.stmt.spares

instance : Spares stream enclosed.nested.simpleStmts := Nested.makes_simpleStmts.spares

instance : Spares stream enclosed.nested.arguments := Nested.makes_arguments.spares

instance {style : ParameterStyle} : Spares stream (enclosed.nested.parameters style) :=
  Nested.makes_parameters.spares

instance : Spares stream enclosed.stmts := by
  unfold stmts
  infer_instance

instance {α : Type} : Spares stream (colonMistakes opening : Reading α) := ⟨.explaining⟩

instance {α : Type} : Spares stream (blockMistake opening : Reading α) := ⟨.explaining⟩

instance : Spares stream enclosed.decorators := by
  unfold decorators
  infer_instance

theorem makes_decorated {definition : Reading Stmt}
    (makes : Makes stream definition Stmt.IsWritten) :
    Makes stream (enclosed.decorated definition) Stmt.IsWritten :=
  .firstOf ⟨makes.behind enclosed.decorators, makes⟩

instance {opening closing : Reading Unit} [Spares stream opening] [Spares stream closing] :
    Spares stream (enclosed.signature opening closing) := by
  unfold signature
  infer_instance

theorem makes_classHead : Makes stream enclosed.classHead fun found => IsWord found.1 :=
  .after fun _ => makes_identifier.bind fun _ word => .after fun _ => .pure word

instance : Spares stream enclosed.context := by
  unfold context
  infer_instance

instance {context : Reading Unit} [Spares stream context] :
    Spares stream (bracketedContexts context) := by
  unfold bracketedContexts
  infer_instance

instance : Spares stream enclosed.subject := by
  unfold subject
  infer_instance

instance : Spares stream boundName := by
  unfold boundName
  infer_instance

instance : Spares stream enclosed.handled := by
  unfold handled
  infer_instance

instance : Spares stream enclosed.block := by
  have forms : Spares stream (firstOf [(do
      expect .newline
      expect .indent
      let stmts ← enclosed.stmts
      expect .dedent
      return stmts), enclosed.nested.simpleStmts, explaining (mistakes [do
        expect .newline
        followsNot (expect .indent)
        refuseFurthest])]) := inferInstance
  exact (forms.makes.remembered isWrittenSlot_blockSlot).spares

instance : Spares stream enclosed.colonBlock := by
  unfold colonBlock
  infer_instance

instance : Spares stream enclosed.requiredBlock := by
  unfold requiredBlock
  infer_instance

instance : Spares stream enclosed.elseBlock := by
  unfold elseBlock
  infer_instance

instance : Spares stream enclosed.elseBlock? := by
  unfold elseBlock?
  infer_instance

/-! ## Statements with blocks -/

theorem makes_blocksStmt {reader : Reading (StmtKind × List Stmt)} [Spares stream reader] :
    Makes stream (blocksStmt reader) Stmt.IsWritten :=
  makes_spannedStmt (.after fun _ => .pure fun _ => trivial)

theorem makes_classDef : Makes stream enclosed.classDef Stmt.IsWritten :=
  makes_spannedStmt (.firstOf ⟨.explaining, makes_classHead.bind fun _ word => .after fun _ =>
    .pure fun _ => word⟩)

theorem makes_functionDef : Makes stream enclosed.functionDef Stmt.IsWritten := by
  have rest (isAsync : Bool) : Makes stream (do
      word "def"
      let name ← identifier
      enclosed.signature (requireSymbol "(") (symbol ")")
      let body ← enclosed.requiredBlock
      return fun span => Stmt.functionDef span isAsync name body)
      fun build => ∀ span, (build span).IsWritten :=
    .after fun _ => .after fun _ => .after fun _ => .after fun _ => .pure fun _ => trivial
  unfold functionDef
  exact makes_spannedStmt (.firstOf ⟨.explaining, rest false, .after fun _ => rest true⟩)

instance (keyword : String) (steps : Nat) :
    Spares stream (enclosed.conditionBlocks keyword steps) := by
  induction steps generalizing keyword with
  | zero =>
      unfold conditionBlocks
      infer_instance
  | succ steps ih =>
      unfold conditionBlocks
      infer_instance

theorem makes_ifStmt : Makes stream enclosed.ifStmt Stmt.IsWritten := makes_blocksStmt

theorem makes_whileStmt : Makes stream enclosed.whileStmt Stmt.IsWritten := makes_blocksStmt

theorem makes_forStmt : Makes stream enclosed.forStmt Stmt.IsWritten := by
  have opening : Spares stream (do
      word "for"
      discard enclosed.nested.targets
      word "in") := inferInstance
  have rest (kind : StmtKind) : Spares stream (do
      discard enclosed.nested.starExpressions
      let body ← enclosed.colonBlock
      return (kind, body ++ (← enclosed.elseBlock?))) := inferInstance
  unfold forStmt
  exact makes_blocksStmt

theorem makes_withStmt : Makes stream enclosed.withStmt Stmt.IsWritten := by
  have rest (contexts : Reading Unit) [Spares stream contexts] (kind : StmtKind) :
      Spares stream (do
        word "with"
        contexts
        return (kind, ← enclosed.colonBlock)) := inferInstance
  have afterAsync (contexts : Reading Unit) [Spares stream contexts] (kind : StmtKind) :
      Spares stream (do
        word "async"
        word "with"
        contexts
        return (kind, ← enclosed.colonBlock)) := inferInstance
  unfold withStmt
  exact @makes_blocksStmt _ _ _ ⟨.firstOf ⟨.explaining, (rest _ _).makes, (rest _ _).makes,
    (afterAsync _ _).makes, (afterAsync _ _).makes, .explaining⟩⟩

instance : Spares stream enclosed.caseBlock := by
  unfold caseBlock
  infer_instance

theorem makes_matchStmt : Makes stream enclosed.matchStmt Stmt.IsWritten := by
  have head : Spares stream (do
      word "match"
      enclosed.subject) := inferInstance
  have cases : Spares stream (do
      symbol ":"
      expect .newline
      expect .indent
      let cases ← oneOrMore enclosed.caseBlock
      expect .dedent
      return (StmtKind.match, cases.flatten)) := inferInstance
  unfold matchStmt
  exact makes_blocksStmt

/-! ## Guarded blocks -/

instance : Spares stream enclosed.handler := by
  unfold handler
  infer_instance

instance : Spares stream enclosed.groupHandler := by
  unfold groupHandler
  infer_instance

instance : Spares stream enclosed.finallyBlock := by
  unfold finallyBlock
  infer_instance

theorem makes_guardedStmt : Makes stream enclosed.guardedStmt Stmt.IsWritten := by
  have guarded : Spares stream (do
      word "try"
      enclosed.requiredBlock) := inferInstance
  have rest (handler : Reading (List Stmt)) [Spares stream handler] (kind : StmtKind)
      (body : List Stmt) : Spares stream (do
        let handlers ← oneOrMore handler
        let otherwise ← enclosed.elseBlock?
        let ending ← perhaps enclosed.finallyBlock
        return (kind, body ++ handlers.flatten ++ otherwise ++ ending.getD [])) := inferInstance
  unfold guardedStmt
  exact makes_blocksStmt

/-! ## Any statements -/

theorem makes_compoundStmt : Makes stream enclosed.compoundStmt Stmt.IsWritten := by
  have opened {opening : List (Reading Unit)} [Spares stream (firstOf opening)]
      {reader : Reading Stmt} (makes : Makes stream reader Stmt.IsWritten) :
      Makes stream (do
        follows (firstOf opening)
        reader) Stmt.IsWritten := makes.behind _
  exact .firstOf ⟨opened (makes_decorated makes_functionDef), opened makes_ifStmt,
    opened (makes_decorated makes_classDef), opened makes_withStmt, opened makes_forStmt,
    opened makes_guardedStmt, opened makes_whileStmt, makes_matchStmt⟩

theorem makes_anyStmt :
    Makes stream enclosed.anyStmt fun stmts => ∀ stmt ∈ stmts, stmt.IsWritten :=
  .firstOf ⟨makes_compoundStmt.bind fun _ written => .pure (List.forall_mem_singleton.mpr written),
    Nested.makes_simpleStmts⟩

end Enclosed

open Reading

theorem makes_readStmt {nested : Nested} [trees : nested.MakesTrees stream] (depth : Nat) :
    Makes stream (readStmt nested depth) fun stmts => ∀ stmt ∈ stmts, stmt.IsWritten := by
  induction depth with
  | zero => exact .throw _
  | succ depth ih =>
      have enclosed : Enclosed.MakesTrees stream ⟨nested, readStmt nested depth⟩ := ⟨trees, ih⟩
      exact Enclosed.makes_anyStmt

/-- The statements of a module that is read are well-written. -/
theorem isWritten_of_readModule {source : List Char} {stmts : List Stmt}
    (read : readModule source = .ok stmts) : ∀ stmt ∈ stmts, stmt.IsWritten := by
  rw [← List.forall_iff_forall_mem]
  refine Makes.of_run ?_ read
  refine (makes_readStmt _).many.bind fun lists each => .after fun _ => .pure ?_
  rw [List.forall_iff_forall_mem]
  intro stmt member
  obtain ⟨stmts, inside, member⟩ := List.mem_flatten.mp member
  exact each stmts inside stmt member

end Stringify.Source
