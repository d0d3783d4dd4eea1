import Mathlib
import Stringify.Proofs.Outcome
import Stringify.Proofs.Stub.ClassGraph
import Stringify.Stub.Module

/-!
# Drafts

Taking in a statement either refuses it and leaves the draft alone, or changes it in one of three
ways. So the class table of a draft stays well ordered whatever statements it meets, the classes of
a draft are never changed, and every question about the classes of a loaded stub has an answer.
-/

namespace Stringify.Stub

open Source (Argument Expr Stmt)

variable {draft changed : Draft} {stmts : List Stmt}

namespace Drafting

variable {α β : Type}

/-- Steps in a row come to a value when each of them does, from the draft that the one before it
leaves. -/
theorem run_bind_eq_ok_iff {first : Drafting α} {next : α → Drafting β} {result : β} :
    (first >>= next).run draft = (.ok result, changed) ↔
      ∃ value between, first.run draft = (.ok value, between) ∧
        (next value).run between = (.ok result, changed) := by
  rw [run_bind]
  cases ran : first.run draft with
  | mk outcome between =>
      constructor
      · intro run
        cases outcome with
        | error stop => cases run
        | ok value => exact ⟨value, between, rfl, run⟩
      · rintro ⟨_, _, same, run⟩
        cases same
        exact run

theorem run_ofWork_eq_ok_iff {work : Work α} {result : α} :
    (ofWork work).run draft = (.ok result, changed) ↔ work = .ok result ∧ draft = changed := by
  rw [run_ofWork]
  constructor
  · rintro ⟨⟩
    exact ⟨rfl, rfl⟩
  · rintro ⟨rfl, rfl⟩
    rfl

end Drafting

namespace Draft

open Drafting

/-! ## One statement -/

/-- What taking in a statement may come to: how it ends and the draft after it. -/
inductive Taken (draft : Draft) : Except Stop Unit × Draft → Prop where
  | refused (stop : Stop) : Taken draft (.error stop, draft)
  | inert : Taken draft (.ok (), draft)
  | kept (pending : Pending) :
      Taken draft (.ok (), { draft with pending := draft.pending.push pending })
  | entered {decl : ClassDecl} {ancestors : List String}
      (fresh : draft.classes.IsFresh decl) (based : decl.bases ≠ [])
      (found : draft.classes.ancestors? decl = .ok (some ancestors)) :
      Taken draft (.ok (), { draft with classes := draft.classes.enter decl ancestors })

namespace Taken

variable {outcome : Except Stop Unit}

/-- A statement that is refused leaves no trace. -/
theorem eq_of_error {stop : Stop} (taken : Taken draft (.error stop, changed)) :
    changed = draft := by
  cases taken
  rfl

theorem wellOrdered (taken : Taken draft (outcome, changed))
    (ordered : draft.classes.WellOrdered) : changed.classes.WellOrdered := by
  cases taken with
  | refused stop => exact ordered
  | inert => exact ordered
  | kept pending => exact ordered
  | entered fresh based found => exact ordered.enter fresh based found

/-- What is known of a class never changes. -/
theorem get?_decls {name : String} {decl : ClassDecl} (taken : Taken draft (outcome, changed))
    (found : draft.classes.decls.get? name = some decl) :
    changed.classes.decls.get? name = some decl := by
  cases taken with
  | refused stop => exact found
  | inert => exact found
  | kept pending => exact found
  | entered fresh based ordered =>
      have other := fresh.ne (ClassTable.contains_iff.mpr ⟨decl, found⟩)
      rw [ClassTable.get?_decls_enter, if_neg other]
      exact found

/-- The line of a class never changes. -/
theorem get?_lines {name : String} {line : List String} (taken : Taken draft (outcome, changed))
    (ordered : draft.classes.WellOrdered) (found : draft.classes.lines.get? name = some line) :
    changed.classes.lines.get? name = some line := by
  cases taken with
  | refused stop => exact found
  | inert => exact found
  | kept pending => exact found
  | entered fresh based _ =>
      have other := fresh.ne (ordered.contains_of_line found)
      rw [ClassTable.get?_lines_enter, if_neg other]
      exact found

end Taken

theorem enterClass_taken (line : Nat) {decl : ClassDecl} (fresh : draft.classes.IsFresh decl)
    (based : decl.bases ≠ []) : Taken draft ((enterClass line decl).run draft) := by
  simp only [enterClass, run_bind, run_get, run_ofWork]
  cases found : draft.classes.ancestors? decl with
  | error fault => exact .refused _
  | ok ancestors =>
      cases ancestors with
      | none => exact .refused _
      | some ancestors => exact .entered fresh based found

/-- A class without bases gets the root for a base. -/
theorem bases_of_ne_nil (name : String) (bases methods : List String) :
    (ClassDecl.of name bases methods).bases ≠ [] := by
  simp only [ClassDecl.of]
  split
  · simp
  · next nonempty => simpa using nonempty

variable [Release]

theorem addClass_taken (line : Nat) (name : String) (arguments : List Argument)
    (body : List Stmt) : Taken draft ((addClass line name arguments body).run draft) := by
  simp only [addClass, run_bind, run_get]
  split
  · simp only [run_bind, run_ofWork]
    exact .refused _
  · next fresh =>
      simp only [run_bind, run_ofWork]
      cases baseNames draft.classes (basesOf arguments) with
      | error stop => exact .refused stop
      | ok bases =>
          cases methodNames body with
          | error stop => exact .refused stop
          | ok methods =>
              have unknown : draft.classes.contains name = false := by simpa using fresh
              exact enterClass_taken line unknown (bases_of_ne_nil name bases methods)

theorem addHint_taken (line : Nat) (target hint : Expr) (value : Option Expr) :
    Taken draft ((addHint line target hint value).run draft) := by
  unfold addHint
  split
  · split
    · split
      · exact .kept _
      · exact .refused _
    · exact .kept _
  · rw [run_ofWork]
    cases Work.print target <;> exact .refused _

/-- Taking in a statement comes to one of these. -/
theorem addStmt_taken (draft : Draft) (stmt : Stmt) : Taken draft ((addStmt stmt).run draft) := by
  cases stmt with
  | classDef span name arguments body => exact addClass_taken _ _ _ _
  | annotated span target hint value => exact addHint_taken _ _ _ _
  | inert span => exact .inert
  | functionDef span isAsync name body => exact .refused _
  | other span kind nested => exact .refused _

/-! ## Many statements -/

theorem wellOrdered_after (ordered : draft.classes.WellOrdered) (stmts : List Stmt) :
    (draft.after stmts).classes.WellOrdered := by
  induction stmts generalizing draft with
  | nil => exact ordered
  | cons stmt rest ih => exact ih ((addStmt_taken draft stmt).wellOrdered ordered)

/-- Statements that are all taken in leave the draft after them. -/
theorem addStmts_eq_ok (run : (addStmts stmts).run draft = (.ok (), changed)) :
    changed = draft.after stmts := by
  induction stmts generalizing draft with
  | nil =>
      cases run
      rfl
  | cons stmt rest ih =>
      obtain ⟨_, between, first, later⟩ := run_bind_eq_ok_iff.mp run
      simpa [after, first] using ih later

end Draft

/-- For a module all statements are taken in and all hints are resolved. -/
theorem Module.ofStmts_eq_ok [Release] {file : Text} {module : Module}
    (loaded : Module.ofStmts file stmts = .ok module) :
    ∃ draft values, (Draft.addStmts stmts).run Draft.empty = (.ok (), draft) ∧
      draft.values = .ok values ∧ module = ⟨file, draft.classes, values⟩ := by
  simp only [Module.ofStmts, mapError_eq_ok_iff, bind_eq_ok_iff, pure_eq_ok_iff] at loaded
  obtain ⟨draft, drafted, values, valued, rfl⟩ := loaded
  cases run : (Draft.addStmts stmts).run Draft.empty with
  | mk outcome other =>
      cases outcome with
      | error stop => simp [Draft.ofStmts, run] at drafted
      | ok done =>
          obtain rfl : other = draft := by simpa [Draft.ofStmts, run] using drafted
          exact ⟨other, values, rfl, valued, rfl⟩

/-- A stub that is loaded is read, and its statements make a module. -/
theorem Module.load_eq_ok [Release] {file source : Text} {module : Module}
    (loaded : Module.load file source = .ok module) :
    ∃ chars stmts, sourceChars source = .ok (some chars) ∧ Source.readModule chars = .ok stmts ∧
      Module.ofStmts file stmts = .ok module := by
  unfold Module.load at loaded
  split at loaded
  · cases loaded
  simp only [bind_eq_ok_iff, mapError_eq_ok_iff] at loaded
  obtain ⟨chars, scanned, loaded⟩ := loaded
  cases chars with
  | none => cases loaded
  | some chars =>
      cases read : Source.readModule chars with
      | error line => simp [read] at loaded
      | ok stmts => exact ⟨chars, stmts, scanned, read, by simpa [read] using loaded⟩

/-- Unless the name of its file has a null character, a source is loaded as its statements, once it
has characters and these are read. -/
theorem Module.load_of_plain [Release] {file source : Text} (plain : file.contains .null = false) :
    Module.load file source =
      match sourceChars source with
      | .error fault => .error (.fault fault)
      | .ok none => .error (.refused ⟨file, none, .nullCharacter⟩)
      | .ok (some chars) =>
        match Source.readModule chars with
        | .error line => .error (.refused ⟨file, some line, .syntaxError⟩)
        | .ok stmts => Module.ofStmts file stmts := by
  rw [Module.load, if_neg (by rw [plain]; exact Bool.false_ne_true)]
  cases sourceChars source with
  | error fault => rfl
  | ok chars =>
      cases chars with
      | none => rfl
      | some chars =>
          cases read : Source.readModule chars <;>
            simp [Except.mapError, bind, Except.bind, throw, throwThe, MonadExceptOf.throw, read]

/-- A source that is read is loaded as its statements. -/
theorem Module.load_of_readModule [Release] {file source : Text} {chars : List Char}
    {stmts : List Stmt} (plain : file.contains .null = false)
    (scanned : sourceChars source = .ok (some chars)) (read : Source.readModule chars = .ok stmts) :
    Module.load file source = Module.ofStmts file stmts := by
  simp only [Module.load_of_plain plain, scanned, read]

/-- The classes of a loaded stub are those of the draft after its statements. -/
theorem Module.classes_of_load [Release] {file source : Text} {module : Module}
    (loaded : Module.load file source = .ok module) :
    ∃ stmts, module.classes = (Draft.empty.after stmts).classes := by
  obtain ⟨_, stmts, _, _, loaded⟩ := Module.load_eq_ok loaded
  obtain ⟨draft, values, run, _, rfl⟩ := Module.ofStmts_eq_ok loaded
  exact ⟨stmts, congrArg Draft.classes (Draft.addStmts_eq_ok run)⟩

open Draft in
/-- Whatever statements a draft has met, refused ones included, its classes are well ordered, a
refused statement leaves it as it was, and what is known of a class stays. So the questions about a
class of a loaded stub have answers. -/
theorem classes_wellOrdered_after [Release] (stmts : List Stmt) :
    (empty.after stmts).classes.WellOrdered ∧
    (∀ stmt stop changed, (addStmt stmt).run (empty.after stmts) = (.error stop, changed) →
      changed = empty.after stmts) ∧
    (∀ stmt changed, (addStmt stmt).run (empty.after stmts) = (.ok (), changed) →
      (∀ name decl, (empty.after stmts).classes.decls.get? name = some decl →
        changed.classes.decls.get? name = some decl) ∧
      ∀ name line, (empty.after stmts).classes.lines.get? name = some line →
        changed.classes.lines.get? name = some line) ∧
    ∀ file source module, Module.load file source = .ok module →
      ∀ name, module.classes.contains name = true →
        ∃ context count, module.classes.stringifierContext name = .ok context ∧
          module.classes.callSignatures name = .ok count := by
  have ordered : ∀ stmts, (empty.after stmts).classes.WellOrdered :=
    wellOrdered_after ClassTable.wellOrdered_builtin
  refine ⟨ordered stmts, ?_, ?_, ?_⟩
  · intro stmt stop changed run
    have taken := addStmt_taken (empty.after stmts) stmt
    rw [run] at taken
    exact taken.eq_of_error
  · intro stmt changed run
    have taken := addStmt_taken (empty.after stmts) stmt
    rw [run] at taken
    exact ⟨fun name decl found => taken.get?_decls found,
      fun name line found => taken.get?_lines (ordered stmts) found⟩
  · intro file source module loaded name declared
    obtain ⟨taken, same⟩ := Module.classes_of_load loaded
    rw [same] at declared ⊢
    obtain ⟨line, found⟩ := (ordered taken).exists_line declared
    obtain ⟨context, _, answer⟩ := (ordered taken).stringifierContext_eq found
    exact ⟨context, _, answer, (ordered taken).callSignatures_eq found⟩

set_option maxRecDepth 100000 in
open Draft in
/-- After a class `A` another one of that name is refused, and one that derives from it is not. In a
stub with both, the derived class has the stringifier of `A`. -/
theorem classes_wellOrdered_after_one_class :
    let _release : Release := .late
    let first : Stmt := .classDef ⟨1, 1⟩ "A" [] []
    let again : Stmt := .classDef ⟨2, 2⟩ "A" [] []
    let derived : Stmt := .classDef ⟨3, 3⟩ "B" [.positional (.name 3 "A")] []
    let source : Text := "class A:\n  def __str__(self): ...\nclass B(A): ...\n"
    (∃ changed, (addStmt again).run (empty.after [first]) =
      (.error (.refused 2 (.shadowedClass "A")), changed) ∧ changed = empty.after [first]) ∧
    (∃ changed, (addStmt derived).run (empty.after [first]) = (.ok (), changed) ∧
      (empty.after [first]).classes.lines.get? "A" = some ["A", "object"] ∧
      changed.classes.lines.get? "A" = some ["A", "object"]) ∧
    ∃ module, Module.load "derived.pyi" source = .ok module ∧
      module.classes.contains "B" = true ∧
      ∃ context count, module.classes.stringifierContext "B" = .ok context ∧
        module.classes.callSignatures "B" = .ok count ∧ (context, count) = ("A", 0) := by
  intro release first again derived source
  obtain ⟨-, refused, taken, answered⟩ := classes_wellOrdered_after [first]
  have refusal : (addStmt again).run (empty.after [first]) =
      (.error (.refused 2 (.shadowedClass "A")), empty.after [first]) := by rfl
  have answers : (Module.load "derived.pyi" source).toOption.map (fun module =>
      (module.classes.contains "B", module.classes.stringifierContext "B",
        module.classes.callSignatures "B")) = some (true, .ok "A", .ok 0) := by
    decide +kernel
  obtain ⟨module, loaded, seen⟩ := toOption_map_eq_some_iff.mp answers
  simp only [Prod.mk.injEq] at seen
  obtain ⟨known, stringifier, calls⟩ := seen
  refine ⟨⟨_, refusal, refused again _ _ refusal⟩, ⟨_, by rfl, by decide, ?_⟩,
    module, loaded, known, ?_⟩
  · exact (taken derived _ (by rfl)).2 "A" _ (by decide)
  · obtain ⟨context, count, same, counted⟩ := answered _ _ _ loaded "B" known
    refine ⟨context, count, same, counted, ?_⟩
    cases stringifier.symm.trans same
    cases calls.symm.trans counted
    rfl

end Stringify.Stub
