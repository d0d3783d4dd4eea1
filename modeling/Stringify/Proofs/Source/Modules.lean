import Stringify.Proofs.Source.Statements

/-!
# The statements of a module

Compound statements hold blocks of statements, which are read like those around them. So each
statement of a module has its lines within its span.
-/

namespace Stringify.Source

variable {stream : TokenStream}

/-! ## Patterns -/

namespace Subpatterns

open Reading

variable {sub : Subpatterns} [sub.nested.IsSound stream] [Keeps stream sub.pattern]

instance : Keeps stream Nested.number := Nested.reads_number.keeps

instance : Keeps stream numberKind := by
  refine ⟨fun _ => .after fun value _ _ => ?_⟩
  split
  · exact .pure trivial
  · exact .pure trivial

instance : Keeps stream signedNumber := by
  unfold signedNumber
  infer_instance

instance : Keeps stream realPart := by
  unfold realPart
  infer_instance

instance : Keeps stream complexNumber := by
  unfold complexNumber
  infer_instance

instance : Keeps stream sub.literal := by
  unfold literal
  infer_instance

instance (name : Reading Unit) [Keeps stream name] : Keeps stream (alone name) := by
  unfold alone
  infer_instance

instance : Keeps stream capture := by
  unfold capture
  infer_instance

instance : Keeps stream dottedName := by
  unfold dottedName
  infer_instance

instance : Keeps stream nameOrAttribute := by
  unfold nameOrAttribute
  infer_instance

instance : Keeps stream starItem := by
  have item : Keeps stream (do
      let line ← symbolLine "*"
      firstOf [capture, word "_"]
      return line) := inferInstance
  exact (item.reads.remembered (isSound_patternSlot .starred)).keeps

instance : Keeps stream sub.sequenceItem := by
  unfold sequenceItem
  infer_instance

instance : Keeps stream sub.sequenceItems := by
  unfold sequenceItems
  infer_instance

instance : Keeps stream sub.openSequence := by
  unfold openSequence
  infer_instance

instance : Keeps stream sub.sequence := by
  unfold sequence
  infer_instance

instance : Keeps stream sub.keyedItem := by
  unfold keyedItem
  infer_instance

instance : Keeps stream mappingRest := by
  unfold mappingRest
  infer_instance

instance : Keeps stream sub.mapping := by
  unfold mapping
  infer_instance

instance : Keeps stream sub.positionalItems := by
  unfold positionalItems
  infer_instance

instance : Keeps stream sub.namedItems := by
  unfold namedItems
  infer_instance

instance : Keeps stream sub.ofClass := by
  have closed (content : Reading Unit) [Keeps stream content] : Keeps stream (do
      nameOrAttribute
      symbol "("
      content
      symbol ")") := inferInstance
  exact ⟨.firstOf ⟨(closed _).reads, (closed _).reads, (closed _).reads, (closed _).reads,
    .explaining⟩⟩

instance {α : Type} (opening closing : String) {reader : Reading α} [Keeps stream reader] :
    Keeps stream (Nested.between opening closing reader) := by
  unfold Nested.between
  infer_instance

instance : Keeps stream sub.group := by
  unfold group
  infer_instance

instance : Keeps stream sub.closed := by
  have here (form : Reading Unit) [Keeps stream form] : Keeps stream (do
      let line ← currentLine
      form
      return line) := inferInstance
  have forms : Keeps stream (firstOf [(do let line ← currentLine; sub.literal; return line),
      (do let line ← currentLine; capture; return line),
      (do let line ← currentLine; word "_"; return line),
      (do let line ← currentLine; alone dottedName; return line), sub.group,
      (do let line ← currentLine; sub.sequence; return line),
      (do let line ← currentLine; sub.mapping; return line),
      (do let line ← currentLine; sub.ofClass; return line)]) := inferInstance
  exact (forms.reads.remembered (isSound_patternSlot .closed)).keeps

instance : Keeps stream sub.alternatives := by
  refine ⟨fun _ => .after fun line _ _ => .after fun found _ _ => ?_⟩
  split
  · exact .pure trivial
  · exact .pure trivial

instance : Keeps stream sub.bound := by
  unfold Subpatterns.bound
  infer_instance

end Subpatterns

section

open Reading

variable {nested : Nested} [nested.IsSound stream]

instance keeps_readPattern (steps : Nat) : Keeps stream (readPattern nested steps) := by
  induction steps with
  | zero =>
      unfold readPattern
      infer_instance
  | succ steps ih =>
      unfold readPattern
      infer_instance

instance : Keeps stream (readCasePattern nested) := by
  unfold readCasePattern
  infer_instance

end

/-! ## Blocks -/

namespace Enclosed

open Reading

/-- What stands inside a statement is read between the places before and after it. -/
class IsSound (stream : TokenStream) (enclosed : Enclosed) : Prop where
  nested : enclosed.nested.IsSound stream
  stmt : Reads stream enclosed.stmt (Each (Stmt.IsRead stream))

instance {enclosed : Enclosed} [sound : enclosed.IsSound stream] :
    enclosed.nested.IsSound stream := sound.nested

variable {enclosed : Enclosed} [enclosed.IsSound stream] {opening : Reading Unit}

theorem reads_stmts : Reads stream enclosed.stmts (Each (Stmt.IsRead stream)) := by
  refine fun start => (IsSound.stmt.oneOrMore start).bind fun lists place _ given => .pure ?_
  intro stmt member
  obtain ⟨stmts, inside, member⟩ := List.mem_flatten.mp member
  exact given.2 stmts inside stmt member

instance {α : Type} : Keeps stream (colonMistakes opening : Reading α) := ⟨.explaining⟩

instance {α : Type} : Writes stream (colonMistakes opening : Reading α) := ⟨.explaining⟩

instance {α : Type} : Keeps stream (blockMistake opening : Reading α) := ⟨.explaining⟩

instance {α : Type} : Writes stream (blockMistake opening : Reading α) := ⟨.explaining⟩

instance : Keeps stream enclosed.decorators := by
  unfold decorators
  infer_instance

theorem reads_decorated {definition : Reading Stmt}
    (reads : Reads stream definition (Stmt.IsRead stream)) :
    Reads stream (enclosed.decorated definition) (Stmt.IsRead stream) :=
  .firstOf ⟨reads.behind enclosed.decorators, reads⟩

instance {opening closing : Reading Unit} [Keeps stream opening] [Keeps stream closing] :
    Keeps stream (enclosed.signature opening closing) := by
  unfold signature
  infer_instance

instance : Writes stream enclosed.classHead := by
  unfold classHead
  infer_instance

theorem reads_classHead : Reads stream enclosed.classHead fun start stop found =>
    Each (Argument.IsRead stream) start stop found.2 := by
  have between : Reads stream (Nested.between "(" ")" (perhaps enclosed.nested.arguments))
      fun start stop found =>
        ∀ arguments ∈ found.2, Each (Argument.IsRead stream) start stop arguments := by
    refine fun start => .after fun _ place le => ?_
    refine (Nested.reads_arguments place).perhaps.bind fun found _ _ given => ?_
    exact .after fun _ _ more => .pure fun arguments member =>
      Widens.widen (given arguments member) le more
  refine fun start => .after fun _ place le => .after fun name further more => ?_
  refine (between further).perhaps.bind fun found stop last given => .pure ?_
  cases found with
  | none => simp [Each]
  | some bracketed =>
      cases inside : bracketed.2 with
      | none => simp [Each, inside]
      | some arguments =>
          have each := given bracketed rfl arguments inside
          simpa [inside] using Widens.since each (Nat.le_trans le more)

/-! ## Contexts, matches and handlers -/

instance : Keeps stream enclosed.context := by
  unfold context
  infer_instance

instance {context : Reading Unit} [Keeps stream context] :
    Keeps stream (bracketedContexts context) := by
  unfold bracketedContexts
  infer_instance

instance : Keeps stream enclosed.subject := by
  unfold subject
  infer_instance

instance : Keeps stream boundName := by
  unfold boundName
  infer_instance

instance : Keeps stream enclosed.handled := by
  unfold handled
  infer_instance

/-! ## Statements with blocks -/

variable [stream.IsOrdered]

theorem reads_block : Reads stream enclosed.block (Each (Stmt.IsRead stream)) := by
  refine .remembered isSound_blockSlot (.firstOf ⟨fun start => ?_,
    Nested.reads_simpleStmts, .explaining⟩)
  refine .after fun _ _ le => .after fun _ place more => ?_
  refine (reads_stmts place).bind fun stmts _ _ given => .after fun _ _ last => .pure ?_
  exact Widens.widen given (Nat.le_trans le more) last

theorem reads_colonBlock : Reads stream enclosed.colonBlock (Each (Stmt.IsRead stream)) :=
  reads_block.behind (symbol ":")

instance : Keeps stream enclosed.block := reads_block.keeps

instance : Keeps stream enclosed.colonBlock := reads_colonBlock.keeps

instance : Keeps stream enclosed.requiredBlock := by
  unfold requiredBlock
  infer_instance

instance : Keeps stream enclosed.elseBlock := by
  unfold elseBlock
  infer_instance

instance : Keeps stream enclosed.elseBlock? := by
  unfold elseBlock?
  infer_instance

theorem reads_blocksStmt {reader : Reading (StmtKind × List Stmt)} [writes : Writes stream reader] :
    Reads stream (blocksStmt reader) (Stmt.IsRead stream) := by
  have keeps := writes.reads.keeps
  exact reads_spannedStmt_of_isPlain fun _ => .after fun _ _ _ => .pure fun _ => ⟨rfl, rfl⟩

theorem positional_mem_of_mem_basesOf {arguments : List Argument} {base : Expr}
    (member : base ∈ Stub.basesOf arguments) : .positional base ∈ arguments := by
  obtain ⟨argument, inside, isBase⟩ := List.mem_filterMap.mp member
  cases argument with
  | positional value =>
      cases isBase
      exact inside
  | _ => cases isBase

theorem reads_classDef : Reads stream enclosed.classDef (Stmt.IsRead stream) := by
  refine reads_spannedStmt (.firstOf ⟨.explaining, fun start => ?_⟩)
  refine (reads_classHead start).bind fun found place le ofArguments => ?_
  obtain ⟨name, arguments⟩ := found
  refine (reads_colonBlock place).bind fun body stop more ofBody => .pure ?_
  refine ⟨fun _ => rfl, fun span line member => ?_⟩
  rw [Stmt.lines, List.mem_cons, List.mem_append, List.mem_map, List.mem_filterMap] at member
  obtain rfl | ⟨base, isBase, rfl⟩ | ⟨inner, inside, isClass⟩ := member
  · exact .inl rfl
  · have read := ofArguments _ (positional_mem_of_mem_basesOf isBase)
    exact .inr (read.covers.upTo more)
  · have read := ofBody inner inside
    cases inner with
    | classDef span _ _ _ =>
        obtain rfl : span.first = line := by simpa [Stmt.classLine?] using isClass
        exact .inr (read.begins.widen le (Nat.le_refl _))
    | _ => simp [Stmt.classLine?] at isClass

theorem reads_functionDef : Reads stream enclosed.functionDef (Stmt.IsRead stream) := by
  have rest (isAsync : Bool) : Reads stream (do
      word "def"
      let name ← identifier
      enclosed.signature (requireSymbol "(") (symbol ")")
      let body ← enclosed.requiredBlock
      return fun span => Stmt.functionDef span isAsync name body) fun _ _ build => IsPlain build :=
    fun _ => .after fun _ _ _ => .after fun _ _ _ => .after fun _ _ _ => .after fun _ _ _ =>
      .pure fun _ => ⟨rfl, rfl⟩
  unfold functionDef
  exact reads_spannedStmt_of_isPlain (.firstOf ⟨.explaining, rest false,
    fun _ => .after fun _ place _ => rest true place⟩)

instance (keyword : String) (steps : Nat) :
    Keeps stream (enclosed.conditionBlocks keyword steps) := by
  induction steps generalizing keyword with
  | zero =>
      unfold conditionBlocks
      infer_instance
  | succ steps ih =>
      unfold conditionBlocks
      infer_instance

instance (keyword : String) (steps : Nat) :
    Writes stream (enclosed.conditionBlocks keyword steps) := by
  cases steps with
  | zero =>
      unfold conditionBlocks
      infer_instance
  | succ steps =>
      unfold conditionBlocks
      infer_instance

theorem reads_ifStmt : Reads stream enclosed.ifStmt (Stmt.IsRead stream) := reads_blocksStmt

theorem reads_whileStmt : Reads stream enclosed.whileStmt (Stmt.IsRead stream) := reads_blocksStmt

theorem reads_forStmt : Reads stream enclosed.forStmt (Stmt.IsRead stream) := by
  have opening : Writes stream (do
      word "for"
      discard enclosed.nested.targets
      word "in") := inferInstance
  have rest (kind : StmtKind) : Keeps stream (do
      discard enclosed.nested.starExpressions
      let body ← enclosed.colonBlock
      return (kind, body ++ (← enclosed.elseBlock?))) := inferInstance
  unfold forStmt
  exact reads_blocksStmt

theorem reads_withStmt : Reads stream enclosed.withStmt (Stmt.IsRead stream) := by
  have rest (contexts : Reading Unit) [Keeps stream contexts] (kind : StmtKind) :
      Writes stream (do
        word "with"
        contexts
        return (kind, ← enclosed.colonBlock)) := inferInstance
  have afterAsync (contexts : Reading Unit) [Keeps stream contexts] (kind : StmtKind) :
      Writes stream (do
        word "async"
        word "with"
        contexts
        return (kind, ← enclosed.colonBlock)) := inferInstance
  unfold withStmt
  exact @reads_blocksStmt _ _ _ ⟨.firstOf ⟨.explaining, (rest _ _).reads, (rest _ _).reads,
    (afterAsync _ _).reads, (afterAsync _ _).reads, .explaining⟩⟩

instance : Keeps stream enclosed.caseBlock := by
  unfold caseBlock
  infer_instance

theorem reads_matchStmt : Reads stream enclosed.matchStmt (Stmt.IsRead stream) := by
  have head : Writes stream (do
      word "match"
      enclosed.subject) := inferInstance
  have cases : Keeps stream (do
      symbol ":"
      expect .newline
      expect .indent
      let cases ← oneOrMore enclosed.caseBlock
      expect .dedent
      return (StmtKind.match, cases.flatten)) := inferInstance
  unfold matchStmt
  exact reads_blocksStmt

/-! ## Guarded blocks -/

instance : Keeps stream enclosed.handler := by
  unfold handler
  infer_instance

instance : Keeps stream enclosed.groupHandler := by
  unfold groupHandler
  infer_instance

instance : Keeps stream enclosed.finallyBlock := by
  unfold finallyBlock
  infer_instance

theorem reads_guardedStmt : Reads stream enclosed.guardedStmt (Stmt.IsRead stream) := by
  have guarded : Writes stream (do
      word "try"
      enclosed.requiredBlock) := inferInstance
  have rest (handler : Reading (List Stmt)) [Keeps stream handler] (kind : StmtKind)
      (body : List Stmt) : Keeps stream (do
        let handlers ← oneOrMore handler
        let otherwise ← enclosed.elseBlock?
        let ending ← perhaps enclosed.finallyBlock
        return (kind, body ++ handlers.flatten ++ otherwise ++ ending.getD [])) := inferInstance
  unfold guardedStmt
  exact reads_blocksStmt

/-! ## Any statements -/

theorem reads_compoundStmt : Reads stream enclosed.compoundStmt (Stmt.IsRead stream) := by
  have opened {opening : List (Reading Unit)} [Keeps stream (firstOf opening)]
      {reader : Reading Stmt} (reads : Reads stream reader (Stmt.IsRead stream)) :
      Reads stream (do
        follows (firstOf opening)
        reader) (Stmt.IsRead stream) := reads.behind _
  exact .firstOf ⟨opened (reads_decorated reads_functionDef), opened reads_ifStmt,
    opened (reads_decorated reads_classDef), opened reads_withStmt, opened reads_forStmt,
    opened reads_guardedStmt, opened reads_whileStmt, reads_matchStmt⟩

theorem reads_anyStmt : Reads stream enclosed.anyStmt (Each (Stmt.IsRead stream)) := by
  refine .firstOf ⟨fun start => ?_, Nested.reads_simpleStmts⟩
  exact (reads_compoundStmt start).bind fun stmt _ _ read => .pure (by simpa [Each] using read)

end Enclosed

open Reading

variable [stream.IsOrdered]

theorem reads_readStmt {nested : Nested} [sound : nested.IsSound stream] (depth : Nat) :
    Reads stream (readStmt nested depth) (Each (Stmt.IsRead stream)) := by
  induction depth with
  | zero => exact fun _ => .throw _
  | succ depth ih =>
      have enclosed : Enclosed.IsSound stream ⟨nested, readStmt nested depth⟩ := ⟨sound, ih⟩
      exact Enclosed.reads_anyStmt

/-- In each statement of a module that is read, all lines lie within the span of the statement. -/
theorem contains_of_readModule {source : List Char} {stmts : List Stmt}
    (read : readModule source = .ok stmts) {stmt : Stmt} (member : stmt ∈ stmts) :
    ∀ line ∈ stmt.lines, stmt.span.Contains line := by
  obtain ⟨stop, each⟩ : ∃ stop,
      Each (Stmt.IsRead (tokensOf 1 (moduleChars source))) 0 stop stmts := by
    refine Reads.exists_of_run (fun start => ?_) read
    refine ((reads_readStmt _).many start).bind fun lists place _ given => ?_
    refine .after fun _ stop le => .pure fun stmt member => ?_
    obtain ⟨stmts, inside, member⟩ := List.mem_flatten.mp member
    exact Widens.upTo (given stmts inside stmt member) le
  exact (each stmt member).contains

end Stringify.Source
