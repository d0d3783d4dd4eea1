import Mathlib.Data.List.Forall2
import Stringify.Proofs.Stub.Draft

/-!
# What statements declare

The classes in the table of a stub are the built-in ones and those that its statements declare. So a
class declares a conversion to text, makes its instances callable or has a base exactly when it is
said by a class statement of its name: by a function in its own body, and by its arguments.
-/

namespace Stringify.Stub

open Source (Argument Expr Stmt)

variable {stmt : Stmt} {stmts body : List Stmt} {decl other : ClassDecl} {name method base : String}
variable {draft changed : Draft}

/-! ## Class statements -/

/-- An expression that is just a name. -/
def IsName (expression : Expr) (text : String) : Prop :=
  ∃ line, expression = .name line text

/-- A function of the given name stands in a body itself, in no statement of it. -/
def HasFunction (body : List Stmt) (method : String) : Prop :=
  ∃ span isAsync inner, Stmt.functionDef span isAsync method inner ∈ body

/-- The declaration that a class statement makes. -/
inductive Declares : Stmt → ClassDecl → Prop where
  | intro {span : Source.Span} {name : String} {arguments : List Argument} {body : List Stmt}
      {bases methods : List String} (named : List.Forall₂ IsName (basesOf arguments) bases)
      (scanned : methodNames body = .ok methods) :
      Declares (.classDef span name arguments body) (.of name bases methods)

theorem isName_rightUnique : Relator.RightUnique IsName := by
  rintro expression first second ⟨line, rfl⟩ ⟨_, same⟩
  cases same
  rfl

theorem mem_iff_of_forall₂_isName {expressions : List Expr} {bases : List String}
    (named : List.Forall₂ IsName expressions bases) :
    base ∈ bases ↔ ∃ expression ∈ expressions, IsName expression base := by
  induction named with
  | nil => simp
  | @cons expression first _ _ here _ ih =>
      have same : base = first ↔ IsName expression base :=
        ⟨fun equal => equal ▸ here, fun is => isName_rightUnique is here⟩
      simp [ih, same]

/-- A statement makes at most one declaration. -/
theorem Declares.unique (left : Declares stmt decl) (right : Declares stmt other) :
    decl = other := by
  cases left with
  | intro named scanned =>
      cases right with
      | intro otherNamed otherScanned =>
          obtain rfl := Relator.RightUnique.forall₂ isName_rightUnique named otherNamed
          cases scanned.symm.trans otherScanned
          rfl

/-- The scan of a body finds the functions that stand in it. -/
theorem mem_methodNames_iff {methods : List String} (scanned : methodNames body = .ok methods) :
    method ∈ methods ↔ HasFunction body method := by
  fun_induction methodNames body generalizing methods with
  | case1 =>
      cases scanned
      simp [HasFunction]
  | case2 => cases scanned
  | case3 span isAsync name inner rest ih =>
      obtain ⟨others, later, last⟩ := bind_eq_ok_iff.mp scanned
      obtain rfl := pure_eq_ok_iff.mp last
      rw [List.mem_cons, ih later]
      constructor
      · rintro (rfl | ⟨_, _, _, member⟩)
        · exact ⟨span, isAsync, inner, List.mem_cons_self⟩
        · exact ⟨_, _, _, List.mem_cons_of_mem _ member⟩
      · rintro ⟨_, _, _, member⟩
        rcases List.mem_cons.mp member with same | member
        · cases same
          exact .inl rfl
        · exact .inr ⟨_, _, _, member⟩
  | case4 head rest _ unnamed ih =>
      rw [ih scanned]
      constructor
      · rintro ⟨span, isAsync, inner, member⟩
        exact ⟨span, isAsync, inner, List.mem_cons_of_mem _ member⟩
      · rintro ⟨span, isAsync, inner, member⟩
        rcases List.mem_cons.mp member with same | member
        · exact absurd same.symm (unnamed span isAsync method inner)
        · exact ⟨span, isAsync, inner, member⟩

namespace Declares

variable {span : Source.Span} {arguments : List Argument}

theorem name_eq (declares : Declares (.classDef span name arguments body) decl) :
    decl.name = name := by
  cases declares
  rfl

theorem mem_bases_iff (declares : Declares (.classDef span name arguments body) decl) :
    base ∈ decl.bases ↔ (∃ expression ∈ basesOf arguments, IsName expression base) ∨
      basesOf arguments = [] ∧ base = Ty.rootName := by
  cases declares with
  | @intro _ _ _ _ bases _ named _ =>
      by_cases none : bases = []
      · subst none
        simp [ClassDecl.of, List.forall₂_nil_right_iff.mp named]
      · have listed : basesOf arguments ≠ [] := by
          intro unlisted
          rw [unlisted, List.forall₂_nil_left_iff] at named
          exact none named
        simp [ClassDecl.of, none, listed, mem_iff_of_forall₂_isName named]

theorem stringifier_iff (declares : Declares (.classDef span name arguments body) decl) :
    decl.declaresStringifier = true ↔
      HasFunction body "__str__" ∨ HasFunction body "__repr__" := by
  cases declares with
  | intro named scanned =>
      simp [ClassDecl.of, Ty.stringifiers, mem_methodNames_iff scanned]

theorem call_iff (declares : Declares (.classDef span name arguments body) decl) :
    decl.declaresCall = true ↔ HasFunction body "__call__" := by
  cases declares with
  | intro named scanned => simp [ClassDecl.of, mem_methodNames_iff scanned]

end Declares

/-! ## Questions to a table -/

theorem ClassTable.declaresStringifier_iff {table : ClassTable} :
    table.declaresStringifier name = true ↔
      ∃ decl, table.decls.get? name = some decl ∧ decl.declaresStringifier = true := by
  simp [declaresStringifier, Option.any_eq_true]

theorem ClassTable.declaresCall_iff {table : ClassTable} :
    table.declaresCall name = true ↔
      ∃ decl, table.decls.get? name = some decl ∧ decl.declaresCall = true := by
  simp [declaresCall, Option.any_eq_true]

theorem ClassTable.declaresStringifier_builtin :
    builtin.declaresStringifier name = true ↔ name = "object" ∨ name = "BaseException" := by
  rw [builtin_eq]
  simp only [declaresStringifier, builtinDecls, List.map_cons, List.map_nil, Entries.get?]
  grind

theorem ClassTable.declaresCall_builtin : builtin.declaresCall name = false := by
  rw [builtin_eq]
  simp only [declaresCall, builtinDecls, List.map_cons, List.map_nil, Entries.get?]
  grind

/-! ## Entering declarations -/

variable [Release]

theorem forall₂_isName_of_baseNames {classes : ClassTable} {expressions : List Expr}
    {bases : List String} (found : baseNames classes expressions = .ok bases) :
    List.Forall₂ IsName expressions bases := by
  induction expressions generalizing bases with
  | nil =>
      cases found
      exact .nil
  | cons expression rest ih =>
      unfold baseNames at found
      split at found
      · contradiction
      · next line text _ same =>
          obtain ⟨rfl, rfl⟩ := List.cons.inj same
          by_cases known : classes.contains text = true
          · simp only [known, Bool.not_true, Bool.false_eq_true, if_false] at found
            obtain ⟨others, later, last⟩ := bind_eq_ok_iff.mp found
            obtain rfl := pure_eq_ok_iff.mp last
            exact .cons ⟨line, rfl⟩ (ih later)
          · simp [known, bind_eq_ok_iff] at found
      · simp [bind_eq_ok_iff] at found

/-- A class statement is taken in behind some classes. -/
inductive Enters (classes : ClassTable) : Stmt → ClassTable → Prop where
  | intro {span : Source.Span} {name : String} {arguments : List Argument} {body : List Stmt}
      {bases methods ancestors : List String} (fresh : classes.contains name = false)
      (based : baseNames classes (basesOf arguments) = .ok bases)
      (scanned : methodNames body = .ok methods)
      (lined : classes.ancestors? (.of name bases methods) = .ok (some ancestors)) :
      Enters classes (.classDef span name arguments body)
        (classes.enter (.of name bases methods) ancestors)

namespace Draft

open Drafting

/-- A class statement is taken in exactly when it can stand behind the classes before it. -/
theorem addClass_eq_ok_iff {span : Source.Span} {arguments : List Argument} :
    (addClass span.first name arguments body).run draft = (.ok (), changed) ↔
      ∃ table, Enters draft.classes (.classDef span name arguments body) table ∧
        changed = { draft with classes := table } := by
  constructor
  · intro run
    obtain ⟨_, _, got, run⟩ := run_bind_eq_ok_iff.mp run
    cases got
    cases fresh : draft.classes.contains name with
    | true =>
        simp only [fresh, if_true] at run
        obtain ⟨_, _, refused, _⟩ := run_bind_eq_ok_iff.mp run
        exact absurd (run_ofWork_eq_ok_iff.mp refused).1 (Work.refuse_ne_ok _ _ _)
    | false =>
        simp only [fresh, Bool.false_eq_true, if_false] at run
        obtain ⟨bases, _, looked, run⟩ := run_bind_eq_ok_iff.mp run
        obtain ⟨based, rfl⟩ := run_ofWork_eq_ok_iff.mp looked
        obtain ⟨methods, _, looked, run⟩ := run_bind_eq_ok_iff.mp run
        obtain ⟨scanned, rfl⟩ := run_ofWork_eq_ok_iff.mp looked
        obtain ⟨_, _, got, run⟩ := run_bind_eq_ok_iff.mp run
        cases got
        obtain ⟨ancestors, _, looked, run⟩ := run_bind_eq_ok_iff.mp run
        obtain ⟨lined, rfl⟩ := run_ofWork_eq_ok_iff.mp looked
        cases ancestors with
        | none => cases run
        | some ancestors =>
            cases run
            exact ⟨_, .intro fresh based scanned (mapError_eq_ok_iff.mp lined), rfl⟩
  · rintro ⟨table, ⟨fresh, based, scanned, lined⟩, rfl⟩
    simp only [addClass, enterClass, run_bind, run_get, run_ofWork, fresh, based, scanned,
      Work.ofFault, lined, Bool.false_eq_true, if_false]
    rfl

/-- A class statement that is taken in enters its declaration. -/
theorem addClass_eq_ok {span : Source.Span} {arguments : List Argument}
    (run : (addClass span.first name arguments body).run draft = (.ok (), changed)) :
    ∃ decl line, Declares (.classDef span name arguments body) decl ∧
      draft.classes.IsFresh decl ∧
      changed = { draft with classes := draft.classes.enter decl line } := by
  obtain ⟨table, enters, rfl⟩ := addClass_eq_ok_iff.mp run
  cases enters with
  | intro fresh based scanned lined =>
      exact ⟨_, _, .intro (forall₂_isName_of_baseNames based) scanned,
        by simpa [ClassTable.IsFresh, ClassDecl.of] using fresh, rfl⟩

/-- An annotation leaves the classes alone. -/
theorem classes_addHint (line : Nat) (target hint : Expr) (value : Option Expr) :
    ((addHint line target hint value).run draft).2.classes = draft.classes := by
  unfold addHint
  split
  · split
    · split <;> rfl
    · rfl
  · rw [run_ofWork]

/-- A statement that is taken in enters its declaration, if it makes one. -/
theorem addStmt_eq_ok (run : (addStmt stmt).run draft = (.ok (), changed)) :
    (∃ decl line, Declares stmt decl ∧ draft.classes.IsFresh decl ∧
      changed.classes = draft.classes.enter decl line) ∨
    ((∀ span name arguments body, stmt ≠ .classDef span name arguments body) ∧
      changed.classes = draft.classes) := by
  cases stmt with
  | classDef span name arguments body =>
      obtain ⟨decl, line, declares, fresh, rfl⟩ := addClass_eq_ok run
      exact .inl ⟨decl, line, declares, fresh, rfl⟩
  | annotated span target hint value =>
      have same : ((addStmt (.annotated span target hint value)).run draft).2.classes =
          draft.classes := classes_addHint _ _ _ _
      rw [run] at same
      exact .inr ⟨by simp, same⟩
  | inert span =>
      cases run
      exact .inr ⟨by simp, rfl⟩
  | functionDef span isAsync name body => cases run
  | other span kind nested => cases run

/-- After one statement there are the classes before it and the one that it declares. -/
theorem get?_decls_of_addStmt (run : (addStmt stmt).run draft = (.ok (), changed)) :
    changed.classes.decls.get? name = some decl ↔
      draft.classes.decls.get? name = some decl ∨ Declares stmt decl ∧ decl.name = name := by
  rcases addStmt_eq_ok run with ⟨entered, line, declares, fresh, same⟩ | ⟨other, same⟩
  · rw [same, ClassTable.get?_decls_enter]
    by_cases named : entered.name = name
    · subst named
      have unknown : draft.classes.decls.get? entered.name = none := by
        simpa [ClassTable.IsFresh, ClassTable.contains] using fresh
      simp only [if_true, unknown, Option.some.injEq, reduceCtorEq, false_or]
      constructor
      · rintro rfl
        exact ⟨declares, rfl⟩
      · rintro ⟨again, _⟩
        exact declares.unique again
    · rw [if_neg named]
      constructor
      · exact .inl
      · rintro (found | ⟨again, rfl⟩)
        · exact found
        · exact absurd (congrArg ClassDecl.name (declares.unique again)) named
  · rw [same]
    constructor
    · exact .inl
    · rintro (found | ⟨declares, _⟩)
      · exact found
      · cases declares
        exact absurd rfl (other _ _ _ _)

/-- After many statements there are the classes before them and those that they declare. -/
theorem get?_decls_of_addStmts (run : (addStmts stmts).run draft = (.ok (), changed)) :
    changed.classes.decls.get? name = some decl ↔
      draft.classes.decls.get? name = some decl ∨
        ∃ stmt ∈ stmts, Declares stmt decl ∧ decl.name = name := by
  induction stmts generalizing draft with
  | nil =>
      cases run
      simp
  | cons stmt rest ih =>
      obtain ⟨_, between, first, later⟩ := run_bind_eq_ok_iff.mp run
      rw [ih later, get?_decls_of_addStmt first, or_assoc]
      simp

/-- Every class statement among those that are taken in makes a declaration. -/
theorem exists_declares_of_addStmts (run : (addStmts stmts).run draft = (.ok (), changed))
    {span : Source.Span} {arguments : List Argument}
    (member : .classDef span name arguments body ∈ stmts) :
    ∃ decl, Declares (.classDef span name arguments body) decl := by
  induction stmts generalizing draft with
  | nil => cases member
  | cons stmt rest ih =>
      obtain ⟨_, between, first, later⟩ := run_bind_eq_ok_iff.mp run
      rcases List.mem_cons.mp member with rfl | member
      · rcases addStmt_eq_ok first with ⟨decl, _, declares, _⟩ | ⟨other, _⟩
        · exact ⟨decl, declares⟩
        · exact absurd rfl (other span name arguments body)
      · exact ih later member

end Draft

/-! ## Reading a table off the statements -/

/-- A class statement of the given name has the given function in its body. -/
def Defines (stmts : List Stmt) (name method : String) : Prop :=
  ∃ span arguments body, .classDef span name arguments body ∈ stmts ∧ HasFunction body method

/-- A class statement of the given name lists the given base, or lists none and so has the root. -/
def Lists (stmts : List Stmt) (name base : String) : Prop :=
  ∃ span arguments body, .classDef span name arguments body ∈ stmts ∧
    ((∃ expression ∈ basesOf arguments, IsName expression base) ∨
      basesOf arguments = [] ∧ base = Ty.rootName)

/-- What is known of a class after some statements is known of a built-in one or told by a class
statement, when class statements tell what their declarations know. -/
theorem Draft.exists_get?_decls_iff (run : (addStmts stmts).run empty = (.ok (), draft))
    {known : ClassDecl → Prop} {told : List Argument → List Stmt → Prop}
    (agree : ∀ {span arguments body decl}, Declares (.classDef span name arguments body) decl →
      (known decl ↔ told arguments body)) :
    (∃ decl, draft.classes.decls.get? name = some decl ∧ known decl) ↔
      (∃ decl, ClassTable.builtin.decls.get? name = some decl ∧ known decl) ∨
      ∃ span arguments body, .classDef span name arguments body ∈ stmts ∧ told arguments body := by
  constructor
  · rintro ⟨decl, found, holds⟩
    rcases (get?_decls_of_addStmts run).mp found with found | ⟨stmt, member, declares, rfl⟩
    · exact .inl ⟨decl, found, holds⟩
    · cases declares with
      | @intro span name arguments body _ _ named scanned =>
          have declares : Declares (.classDef span name arguments body) _ := .intro named scanned
          exact .inr ⟨span, arguments, body, member, (agree declares).mp holds⟩
  · rintro (⟨decl, found, holds⟩ | ⟨span, arguments, body, member, holds⟩)
    · exact ⟨decl, (get?_decls_of_addStmts run).mpr (.inl found), holds⟩
    · obtain ⟨decl, declares⟩ := exists_declares_of_addStmts run member
      have entered := (get?_decls_of_addStmts run).mpr
        (.inr ⟨_, member, declares, declares.name_eq⟩)
      exact ⟨decl, entered, (agree declares).mpr holds⟩

/-- A table holds the built-in classes and says of the others what the statements say. -/
structure ClassTable.IsOf (table : ClassTable) (stmts : List Stmt) : Prop where
  base : ∀ name base, table.HasBase name base ↔ builtin.HasBase name base ∨ Lists stmts name base
  stringifier : ∀ name, table.declaresStringifier name = true ↔
    name = "object" ∨ name = "BaseException" ∨
      Defines stmts name "__str__" ∨ Defines stmts name "__repr__"
  call : ∀ name, table.declaresCall name = true ↔ Defines stmts name "__call__"

/-- The classes of a loaded stub are those of its statements. -/
theorem Draft.isOf_of_addStmts (run : (addStmts stmts).run empty = (.ok (), draft)) :
    draft.classes.IsOf stmts := by
  refine ⟨fun name base => exists_get?_decls_iff run Declares.mem_bases_iff, fun name => ?_,
    fun name => ?_⟩
  · rw [ClassTable.declaresStringifier_iff, exists_get?_decls_iff run Declares.stringifier_iff,
      ← ClassTable.declaresStringifier_iff, ClassTable.declaresStringifier_builtin, or_assoc]
    simp only [Defines, and_or_left, exists_or]
  · rw [ClassTable.declaresCall_iff, exists_get?_decls_iff run Declares.call_iff,
      ← ClassTable.declaresCall_iff, ClassTable.declaresCall_builtin]
    simp [Defines]

end Stringify.Stub
