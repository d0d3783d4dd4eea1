import Stringify.Proofs.Stub.HintFailures
import Stringify.Proofs.Stub.References
import Stringify.Proofs.Stub.Rejection

/-!
# What stops the work on a stub

A stub is refused at the line of something in the rejected statement, or as a whole, or the work on
it ends in a fault. Some faults can be met, each for a cause in the name of the file, in the source
or in a statement: null characters, surrogates, an integer that does not fit into a real number, and
something that cannot be printed. The others would be broken promises of the library, and no stub
brings them about.
-/

namespace Stringify.Stub

open Source (Argument Expr Stmt)

variable {classes : ClassTable} {body : List Stmt} {draft changed : Draft} {stmt : Stmt}
variable {stmts : List Stmt} {stop : Stop}

/-! ## Classes -/

theorem exists_of_methodNames_eq_error (failed : methodNames body = .error stop) :
    ∃ inner name arguments innerBody, .classDef inner name arguments innerBody ∈ body ∧
      .refused inner.first .nestedClass = stop := by
  induction body with
  | nil => cases failed
  | cons stmt rest ih =>
      have later (failed : methodNames rest = .error stop) :
          ∃ inner name arguments innerBody,
            .classDef inner name arguments innerBody ∈ stmt :: rest ∧
              .refused inner.first .nestedClass = stop := by
        obtain ⟨inner, name, arguments, innerBody, member, cause⟩ := ih failed
        exact ⟨inner, name, arguments, innerBody, by simp [member], cause⟩
      cases stmt with
      | classDef inner name arguments innerBody =>
          exact ⟨inner, name, arguments, innerBody, by simp, refuse_eq_error_iff.mp failed⟩
      | functionDef span isAsync name inside =>
          rw [methodNames] at failed
          rcases bind_eq_error_iff.mp failed with failed | ⟨names, -, failed⟩
          · exact later failed
          · cases failed
      | _ => exact later failed

/-- The ancestors of a class with known bases can be asked for. -/
theorem ancestors?_ne_error {decl : ClassDecl} {fault : Fault} (ordered : classes.WellOrdered)
    (known : ∀ base ∈ decl.bases, classes.contains base = true) :
    classes.ancestors? decl ≠ .error fault := by
  have lines : ∀ names : List String, (∀ name ∈ names, classes.contains name = true) →
      ∃ lines, classes.linesOf names = .ok lines := by
    intro names
    induction names with
    | nil => exact fun _ => ⟨[], rfl⟩
    | cons name rest ih =>
        intro known
        rw [List.forall_mem_cons] at known
        obtain ⟨line, found⟩ := ordered.exists_line known.1
        obtain ⟨others, later⟩ := ih known.2
        rw [ClassTable.linesOf]
        simp only [bind_eq_ok_iff, pure_eq_ok_iff]
        exact ⟨_, line, ClassTable.line_eq_ok_iff.mpr found, others, later, rfl⟩
  obtain ⟨lines, found⟩ := lines decl.bases known
  have answered : classes.ancestors? decl = .ok (linearize decl.name decl.bases lines) := by
    rw [ClassTable.ancestors?, found]
    rfl
  simp [answered]

/-- The bases of a class are known: those that are given, or the root. -/
theorem contains_of_mem_bases {name base : String} {names methods : List String}
    (ordered : classes.WellOrdered) (known : ∀ name ∈ names, classes.contains name = true)
    (member : base ∈ (ClassDecl.of name names methods).bases) : classes.contains base = true := by
  simp only [ClassDecl.of] at member
  split at member
  · obtain rfl := List.mem_singleton.mp member
    obtain ⟨root, found, -⟩ := ordered.root
    exact ClassTable.contains_iff.mpr ⟨root, found⟩
  · exact known base member

namespace Draft

open Drafting

theorem run_ofWork_eq_error_iff {α : Type} {work : Work α} :
    (ofWork work).run draft = (.error stop, changed) ↔ work = .error stop ∧ draft = changed := by
  rw [run_ofWork]
  constructor
  · rintro ⟨⟩
    exact ⟨rfl, rfl⟩
  · rintro ⟨rfl, rfl⟩
    rfl

/-- A class that is not entered is refused at its line. -/
theorem exists_refused_of_enterClass {decl : ClassDecl} {line : Nat}
    (ordered : draft.classes.WellOrdered)
    (known : ∀ base ∈ decl.bases, draft.classes.contains base = true)
    (failed : (enterClass line decl).run draft = (.error stop, changed)) :
    ∃ problem, .refused line problem = stop := by
  simp only [enterClass, run_bind, run_get, run_ofWork] at failed
  cases found : draft.classes.ancestors? decl with
  | error fault => exact absurd found (ancestors?_ne_error ordered known)
  | ok ancestors =>
      rw [found] at failed
      cases ancestors with
      | none =>
          cases failed
          exact ⟨_, rfl⟩
      | some ancestors => cases failed

end Draft

/-! ## Statements -/

section

variable [Release]

/-- A statement stops the work. -/
inductive StmtStops : Stmt → Stop → Prop where
  | refused {stmt : Stmt} (problem : Problem) : StmtStops stmt (.refused stmt.span.first problem)
  | base {span : Source.Span} {name : String} {arguments : List Argument} {body : List Stmt}
      {base : Expr} (member : base ∈ basesOf arguments) (problem : Problem) :
      StmtStops (.classDef span name arguments body) (.refused base.line problem)
  | unprintedBase {span : Source.Span} {name : String} {arguments : List Argument}
      {body : List Stmt} {base : Expr} {error : Source.PrintError}
      (member : base ∈ basesOf arguments) (unprinted : base.print = .error error) :
      StmtStops (.classDef span name arguments body) (.fault (.unprintable error))
  /-- A class stands in the body of a class. -/
  | nested {span inner : Source.Span} {name innerName : String}
      {arguments innerArguments : List Argument} {body innerBody : List Stmt}
      (member : .classDef inner innerName innerArguments innerBody ∈ body) :
      StmtStops (.classDef span name arguments body) (.refused inner.first .nestedClass)
  | unprintedTarget {span : Source.Span} {target hint : Expr} {value : Option Expr}
      {error : Source.PrintError} (unprinted : target.print = .error error) :
      StmtStops (.annotated span target hint value) (.fault (.unprintable error))
  | hint {stmt : Stmt} {pending : Pending} {stop : Stop} (kept : pendingOf? stmt = some pending)
      (fails : Fails pending.hint stop) : StmtStops stmt stop

theorem exists_of_baseNames_eq_error {bases : List Expr}
    (failed : baseNames classes bases = .error stop) :
    ∃ base ∈ bases, (∃ problem, .refused base.line problem = stop) ∨
      ∃ error, base.print = .error error ∧ .fault (.unprintable error) = stop := by
  induction bases with
  | nil => cases failed
  | cons base rest ih =>
      have printed (failed : (do Work.refuse base.line (.notSimpleBase (← Work.print base)) :
          Work (List String)) = .error stop) :
          ∃ base' ∈ base :: rest, (∃ problem, .refused base'.line problem = stop) ∨
            ∃ error, base'.print = .error error ∧ .fault (.unprintable error) = stop := by
        refine ⟨base, by simp, ?_⟩
        simp only [bind_eq_error_iff, print_eq_error_iff, refuse_eq_error_iff] at failed
        rcases failed with unprinted | ⟨_, -, refused⟩
        · exact .inr unprinted
        · exact .inl ⟨_, refused⟩
      cases base with
      | name line text =>
          rw [baseNames] at failed
          cases known : classes.contains text with
          | false =>
              simp only [known, Bool.not_false, if_true, bind_eq_error_iff, refuse_eq_error_iff,
                Work.refuse_ne_ok, false_and, exists_const, or_false] at failed
              exact ⟨_, List.mem_cons_self, .inl ⟨_, failed⟩⟩
          | true =>
              simp only [known, Bool.not_true, Bool.false_eq_true, if_false] at failed
              rcases bind_eq_error_iff.mp failed with failed | ⟨names, -, failed⟩
              · obtain ⟨base, member, cause⟩ := ih failed
                exact ⟨base, by simp [member], cause⟩
              · cases failed
      | _ => exact printed failed

theorem contains_of_baseNames {bases : List Expr} {names : List String}
    (based : baseNames classes bases = .ok names) :
    ∀ name ∈ names, classes.contains name = true := by
  induction bases generalizing names with
  | nil =>
      cases based
      simp
  | cons base rest ih =>
      cases base with
      | name line text =>
          rw [baseNames] at based
          cases known : classes.contains text with
          | false => simp [known, bind_eq_ok_iff] at based
          | true =>
              simp only [known, Bool.not_true, Bool.false_eq_true, if_false, bind_eq_ok_iff,
                pure_eq_ok_iff] at based
              obtain ⟨others, later, rfl⟩ := based
              exact List.forall_mem_cons.mpr ⟨known, ih later⟩
      | _ => simp [baseNames, bind_eq_ok_iff] at based

namespace Draft

open Drafting

theorem stmtStops_of_addClass {span : Source.Span} {name : String} {arguments : List Argument}
    (ordered : draft.classes.WellOrdered)
    (failed : (addClass span.first name arguments body).run draft = (.error stop, changed)) :
    StmtStops (.classDef span name arguments body) stop := by
  rcases run_bind_eq_error_iff.mp failed with failed | ⟨_, _, got, failed⟩
  · cases failed
  cases got
  cases known : draft.classes.contains name with
  | true =>
      simp only [known, if_true] at failed
      rcases run_bind_eq_error_iff.mp failed with failed | ⟨_, _, refused, _⟩
      · obtain ⟨failed, -⟩ := run_ofWork_eq_error_iff.mp failed
        obtain rfl := refuse_eq_error_iff.mp failed
        exact .refused _
      · exact absurd (run_ofWork_eq_ok_iff.mp refused).1 (Work.refuse_ne_ok _ _ _)
  | false =>
      simp only [known, Bool.false_eq_true, if_false] at failed
      rcases run_bind_eq_error_iff.mp failed with failed | ⟨bases, _, looked, failed⟩
      · obtain ⟨failed, -⟩ := run_ofWork_eq_error_iff.mp failed
        obtain ⟨base, member, ⟨problem, rfl⟩ | ⟨error, unprinted, rfl⟩⟩ :=
          exists_of_baseNames_eq_error failed
        · exact .base member problem
        · exact .unprintedBase member unprinted
      · obtain ⟨based, rfl⟩ := run_ofWork_eq_ok_iff.mp looked
        rcases run_bind_eq_error_iff.mp failed with failed | ⟨methods, _, looked, failed⟩
        · obtain ⟨failed, -⟩ := run_ofWork_eq_error_iff.mp failed
          obtain ⟨inner, _, _, _, member, rfl⟩ := exists_of_methodNames_eq_error failed
          exact .nested member
        · obtain ⟨-, rfl⟩ := run_ofWork_eq_ok_iff.mp looked
          obtain ⟨problem, rfl⟩ := exists_refused_of_enterClass ordered
            (fun base => contains_of_mem_bases ordered (contains_of_baseNames based)) failed
          exact .refused problem

theorem stmtStops_of_addHint {span : Source.Span} {target hint : Expr} {value : Option Expr}
    (failed : (addHint span.first target hint value).run draft = (.error stop, changed)) :
    StmtStops (.annotated span target hint value) stop := by
  have printed (failed : (ofWork (do
      Work.refuse span.first (.notSimpleTarget (← Work.print target)))).run draft =
        ((.error stop : Except Stop Unit), changed)) :
      StmtStops (.annotated span target hint value) stop := by
    obtain ⟨failed, -⟩ := run_ofWork_eq_error_iff.mp failed
    simp only [bind_eq_error_iff, print_eq_error_iff, refuse_eq_error_iff] at failed
    rcases failed with ⟨error, unprinted, rfl⟩ | ⟨printed, -, rfl⟩
    · exact .unprintedTarget unprinted
    · exact .refused _
  cases target with
  | name line name =>
      unfold addHint at failed
      dsimp only at failed
      split at failed
      · cases value with
        | none =>
            obtain ⟨failed, -⟩ := run_ofWork_eq_error_iff.mp failed
            obtain rfl := refuse_eq_error_iff.mp failed
            exact .refused _
        | some value => cases failed
      · cases failed
  | _ => exact printed failed

/-- A statement that is not taken in stops the work. -/
theorem stmtStops_of_addStmt (ordered : draft.classes.WellOrdered)
    (failed : (addStmt stmt).run draft = (.error stop, changed)) : StmtStops stmt stop := by
  cases stmt with
  | classDef span name arguments body => exact stmtStops_of_addClass ordered failed
  | annotated span target hint value => exact stmtStops_of_addHint failed
  | inert span => cases failed
  | functionDef span isAsync name body =>
      cases failed
      exact .refused _
  | other span kind nested =>
      cases failed
      exact .refused _

end Draft

/-- A statement that rejects a stub stops the work. -/
theorem Rejects.stmtStops (rejects : Rejects stmts stmt stop) : StmtStops stmt stop := by
  have ordered {stmts : List Stmt} {draft : Draft}
      (run : (Draft.addStmts stmts).run Draft.empty = (.ok (), draft)) :
      draft.classes.WellOrdered := by
    rw [Draft.addStmts_eq_ok run]
    exact Draft.wellOrdered_after ClassTable.wellOrdered_builtin _
  cases rejects with
  | statement split earlier failed => exact Draft.stmtStops_of_addStmt (ordered earlier) failed
  | typeAlias split drafted kept isAlias earlier failed =>
      have normal := isNormal_of_resolveAliases (by simp [Scope.IsNormal]) earlier
      exact .hint kept (fails_of_resolveWithin ⟨ordered drafted, normal⟩ failed)
  | value split drafted kept isValue every earlier failed =>
      have normal := isNormal_of_resolveAliases (by simp [Scope.IsNormal]) every
      exact .hint kept (fails_of_resolveWithin ⟨ordered drafted, normal⟩ failed)

/-! ## Faults -/

/-- The faults that something in a stub or the name of its file brings about: none of a class that
is not known or has no conversion to text, of a composition of nothing, or of a value that is no
literal. -/
inductive Fault.IsOfStub : Fault → Prop where
  | integerOverflow : IsOfStub .integerOverflow
  | unprintable (error : Source.PrintError) : IsOfStub (.unprintable error)
  | nullInFileName : IsOfStub .nullInFileName
  | nullCharacter (keeps : Release.refusesNull = false) : IsOfStub .nullCharacter
  | surrogates (error : Text.Utf8.EncodeError) : IsOfStub (.surrogates error)

theorem LiteralStops.isOfStub {argument : Expr} {fault : Fault}
    (stops : LiteralStops argument (.fault fault)) : fault.IsOfStub := by
  cases stops with
  | unprintable | tooLong => exact .unprintable _
  | overflow => exact .integerOverflow

theorem HintStops.isOfStub {hint : Expr} {fault : Fault} (stops : HintStops hint (.fault fault)) :
    fault.IsOfStub := by
  cases stops with
  | unprintable => exact .unprintable _
  | surrogates => exact .surrogates _
  | nullCharacter keeps => exact .nullCharacter keeps
  | literal _ _ stops => exact stops.isOfStub

theorem StmtStops.isOfStub {fault : Fault} (stops : StmtStops stmt (.fault fault)) :
    fault.IsOfStub := by
  cases stops with
  | unprintedBase | unprintedTarget => exact .unprintable _
  | hint _ fails =>
      obtain ⟨quoted, node, _, stops⟩ := fails
      exact stops.isOfStub

/-- Statements make a module, or are refused in their file, or one of them causes a fault. -/
theorem Module.ofStmts_cases (file : Text) (stmts : List Stmt) :
    (∃ module, Module.ofStmts file stmts = .ok module) ∨
    (∃ line : Nat, ∃ problem,
      Module.ofStmts file stmts = .error (.refused ⟨file, some line, problem⟩)) ∨
    ∃ fault, Module.ofStmts file stmts = .error (.fault fault) ∧
      ∃ stmt ∈ stmts, StmtStops stmt (.fault fault) := by
  cases made : Module.ofStmts file stmts with
  | ok module => exact .inl ⟨module, rfl⟩
  | error failure =>
      obtain ⟨stmt, stop, rejects, rfl⟩ := Module.ofStmts_eq_error_iff.mp made
      cases stop with
      | refused line problem => exact .inr (.inl ⟨line, problem, rfl⟩)
      | fault fault => exact .inr (.inr ⟨fault, rfl, stmt, rejects.mem, rejects.stmtStops⟩)

/-- What brings about a fault of a stub: the name of its file, its source as a whole, or one of its
statements. -/
inductive StubStops (file source : Text) : Fault → Prop where
  | fileName (null : file.contains .null = true) : StubStops file source .nullInFileName
  | surrogates {error : Text.Utf8.EncodeError}
      (unencoded : Text.Utf8.characters source = .error error) :
      StubStops file source (.surrogates error)
  | nullCharacter {chars : List Char} (keeps : Release.refusesNull = false)
      (encoded : Text.Utf8.characters source = .ok chars) (null : '\x00' ∈ chars) :
      StubStops file source .nullCharacter
  | stmt {chars : List Char} {stmts : List Stmt} {stmt : Stmt} {fault : Fault}
      (scanned : sourceChars source = .ok (some chars)) (read : Source.readModule chars = .ok stmts)
      (member : stmt ∈ stmts) (stops : StmtStops stmt (.fault fault)) : StubStops file source fault

theorem StubStops.isOfStub {file source : Text} {fault : Fault}
    (stops : StubStops file source fault) : fault.IsOfStub := by
  cases stops with
  | fileName => exact .nullInFileName
  | surrogates => exact .surrogates _
  | nullCharacter keeps => exact .nullCharacter keeps
  | stmt _ _ _ stops => exact stops.isOfStub

end

/-- Whatever the source and the name of its file, a stub is loaded, or refused with the name of its
file, or a fault ends the work that the name of the file, the source or a statement brings about.
Only a source with a null character is refused without a line. -/
theorem Module.load_cases [Release] (file source : Text) :
    (∃ module, Module.load file source = .ok module) ∨
    (∃ line problem, Module.load file source = .error (.refused ⟨file, line, problem⟩) ∧
      (line = none ↔ Release.refusesNull = true ∧
        ∃ chars, Text.Utf8.characters source = .ok chars ∧ '\x00' ∈ chars)) ∨
    ∃ fault, Module.load file source = .error (.fault fault) ∧ StubStops file source fault ∧
      fault.IsOfStub := by
  rw [← sourceChars_eq_none_iff]
  cases null : file.contains .null with
  | true =>
      have stops : StubStops file source .nullInFileName := .fileName null
      refine .inr (.inr ⟨_, ?_, stops, stops.isOfStub⟩)
      rw [Module.load, if_pos null]
  | false =>
      rw [Module.load_of_plain null]
      cases scanned : sourceChars source with
      | error fault =>
          have stops : StubStops file source fault := by
            obtain ⟨error, unencoded, rfl⟩ | ⟨keeps, rfl, chars, encoded, null⟩ :=
              sourceChars_eq_error_iff.mp scanned
            · exact .surrogates unencoded
            · exact .nullCharacter keeps encoded null
          exact .inr (.inr ⟨fault, rfl, stops, stops.isOfStub⟩)
      | ok chars =>
          cases chars with
          | none => exact .inr (.inl ⟨none, .nullCharacter, rfl, by simp⟩)
          | some chars =>
              cases read : Source.readModule chars with
              | error line => exact .inr (.inl ⟨some line, .syntaxError, by simp [read], by simp⟩)
              | ok stmts =>
                  simp only [read]
                  rcases Module.ofStmts_cases file stmts with made | refused | stopped
                  · exact .inl made
                  · obtain ⟨line, problem, refused⟩ := refused
                    exact .inr (.inl ⟨some line, problem, refused, by simp⟩)
                  · obtain ⟨fault, failed, stmt, member, cause⟩ := stopped
                    have stops : StubStops file source fault := .stmt scanned read member cause
                    exact .inr (.inr ⟨fault, failed, stops, stops.isOfStub⟩)

set_option maxRecDepth 100000 in
/-- A sum of an integer of 310 digits and an imaginary number is a fault and no refusal. -/
theorem Module.not_refused_of_integerOverflow :
    let _release : Release := .late
    let digits : String := "1" ++ String.ofList (List.replicate 309 '0')
    let source : Text := Text.ofString ("x: Literal[" ++ digits ++ "+1j]\n")
    Module.load "<stub>" source = .error (.fault .integerOverflow) ∧
      ¬∃ line problem,
        Module.load "<stub>" source = .error (.refused ⟨"<stub>", line, problem⟩) := by
  intro release digits source
  have failed : Module.load "<stub>" source = .error (.fault .integerOverflow) :=
    failure?_eq_some_iff.mp (by decide +kernel)
  refine ⟨failed, ?_⟩
  rintro ⟨line, problem, refused⟩
  cases failed.symm.trans refused

end Stringify.Stub
