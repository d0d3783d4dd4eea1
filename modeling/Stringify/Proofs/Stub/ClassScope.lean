import Stringify.Proofs.Stub.Declarations

/-!
# The scope of a class

What a class statement declares is read off its body, statement by statement. The blocks of compound
statements belong to the scope of the class as well, but the scan of the body does not enter them: a
class statement is taken in as if there were no compound statements in its body. So every function
that is found stands in the scope, and a function is missed, or a nested class let through, exactly
when it stands in the blocks of the body only.
-/

namespace Stringify.Stub

open Source (Argument Span Stmt StmtKind)

variable {body others : List Stmt} {stmt : Stmt} {name method : String} {methods : List String}

/-! ## Scopes -/

/-- A statement stands in the scope of a body, in the body itself or in blocks inside it. The bodies
of functions and classes have scopes of their own. -/
inductive InScope : List Stmt → Stmt → Prop where
  | here {body : List Stmt} {stmt : Stmt} (member : stmt ∈ body) : InScope body stmt
  | nested {body nested : List Stmt} {stmt : Stmt} {span : Span} {kind : StmtKind}
      (member : .other span kind nested ∈ body) (inside : InScope nested stmt) : InScope body stmt

/-- A function of the given name stands in the scope of a body. -/
def ScopeHasFunction (body : List Stmt) (method : String) : Prop :=
  ∃ span isAsync inner, InScope body (.functionDef span isAsync method inner)

/-- A class stands in the scope of a body. -/
def ScopeHasClass (body : List Stmt) : Prop :=
  ∃ span name arguments inner, InScope body (.classDef span name arguments inner)

/-- The statements in the blocks of the compound statements of a body. -/
def blocksOf (body : List Stmt) : List Stmt :=
  body.flatMap fun
    | .other _ _ nested => nested
    | _ => []

theorem mem_blocksOf_iff :
    stmt ∈ blocksOf body ↔ ∃ span kind nested, .other span kind nested ∈ body ∧ stmt ∈ nested := by
  rw [blocksOf, List.mem_flatMap]
  constructor
  · rintro ⟨compound, member, inside⟩
    cases compound with
    | other span kind nested => exact ⟨span, kind, nested, member, inside⟩
    | _ => cases inside
  · rintro ⟨span, kind, nested, member, inside⟩
    exact ⟨_, member, inside⟩

theorem InScope.mono (subset : body ⊆ others) (inside : InScope body stmt) :
    InScope others stmt := by
  cases inside with
  | here member => exact .here (subset member)
  | nested member inside => exact .nested (subset member) inside

/-- What stands in the scope of a body stands in the body or in the scope of its blocks. -/
theorem inScope_iff : InScope body stmt ↔ stmt ∈ body ∨ InScope (blocksOf body) stmt := by
  constructor
  · intro inside
    cases inside with
    | here member => exact .inl member
    | nested member inside =>
        refine .inr (inside.mono fun inner found => ?_)
        exact mem_blocksOf_iff.mpr ⟨_, _, _, member, found⟩
  · rintro (member | inside)
    · exact .here member
    · cases inside with
      | here found =>
          obtain ⟨span, kind, nested, member, found⟩ := mem_blocksOf_iff.mp found
          exact .nested member (.here found)
      | nested found inside =>
          obtain ⟨span, kind, nested, member, found⟩ := mem_blocksOf_iff.mp found
          exact .nested member (.nested found inside)

theorem scopeHasFunction_iff :
    ScopeHasFunction body method ↔
      HasFunction body method ∨ ScopeHasFunction (blocksOf body) method := by
  simp only [ScopeHasFunction, HasFunction, @inScope_iff body, exists_or]

theorem scopeHasClass_iff :
    ScopeHasClass body ↔ (∃ span name arguments inner, .classDef span name arguments inner ∈ body) ∨
      ScopeHasClass (blocksOf body) := by
  simp only [ScopeHasClass, @inScope_iff body, exists_or]

/-! ## The scan of a body -/

/-- A statement that is not compound. -/
def isSimple : Stmt → Bool
  | .other _ _ _ => false
  | _ => true

/-- The scan passes over compound statements. -/
theorem methodNames_filter_isSimple (body : List Stmt) :
    methodNames (body.filter isSimple) = methodNames body := by
  induction body with
  | nil => rfl
  | cons stmt rest ih => cases stmt <;> simp [List.filter_cons, isSimple, methodNames, ih]

/-- No class stands directly in a body that is scanned. -/
theorem classDef_not_mem_of_methodNames (scanned : methodNames body = .ok methods) {span : Span}
    {arguments : List Argument} {inner : List Stmt} :
    .classDef span name arguments inner ∉ body := by
  fun_induction methodNames body generalizing methods with
  | case1 => simp
  | case2 => cases scanned
  | case3 _ _ _ _ rest ih =>
      obtain ⟨others, later, _⟩ := bind_eq_ok_iff.mp scanned
      simp [ih later]
  | case4 head rest notClass _ ih =>
      rw [List.mem_cons, not_or]
      exact ⟨fun same => notClass span name arguments inner same.symm, ih scanned⟩

namespace Draft

variable {draft changed : Draft} {span : Span} {arguments : List Argument}

/-- A class statement is taken in as if there were no compound statements in its body. Once it is
taken in, it declares what the functions in the body itself say, and a class that stands in its
scope stands in the blocks of the body. So it declares what the functions of its scope say, and has
no class in its scope, as far as these do not stand in the blocks. -/
theorem addStmt_classDef_scope [Release] (draft : Draft) (span : Span) (name : String)
    (arguments : List Argument) (body : List Stmt) :
    (addStmt (.classDef span name arguments body)).run draft =
      (addStmt (.classDef span name arguments (body.filter isSimple))).run draft ∧
    ∀ changed, (addStmt (.classDef span name arguments body)).run draft = (.ok (), changed) →
      ∃ decl, changed.classes.decls.get? name = some decl ∧
        (decl.declaresStringifier = true ↔
          HasFunction body "__str__" ∨ HasFunction body "__repr__") ∧
        (decl.declaresCall = true ↔ HasFunction body "__call__") ∧
        (decl.declaresStringifier = true →
          ScopeHasFunction body "__str__" ∨ ScopeHasFunction body "__repr__") ∧
        (decl.declaresCall = true → ScopeHasFunction body "__call__") ∧
        (ScopeHasClass body ↔ ScopeHasClass (blocksOf body)) ∧
        (¬ScopeHasFunction (blocksOf body) "__str__" →
          ¬ScopeHasFunction (blocksOf body) "__repr__" →
          (decl.declaresStringifier = true ↔
            ScopeHasFunction body "__str__" ∨ ScopeHasFunction body "__repr__")) ∧
        (¬ScopeHasFunction (blocksOf body) "__call__" →
          (decl.declaresCall = true ↔ ScopeHasFunction body "__call__")) := by
  refine ⟨?_, fun changed run => ?_⟩
  · rw [addStmt, addStmt, addClass, addClass, methodNames_filter_isSimple]
  obtain ⟨decl, line, declares, fresh, rfl⟩ := addClass_eq_ok run
  have stored : (draft.classes.enter decl line).decls.get? name = some decl := by
    rw [ClassTable.get?_decls_enter, if_pos declares.name_eq]
  have noClass : ∀ span name arguments inner, .classDef span name arguments inner ∉ body := by
    cases declares with
    | intro named scanned => exact fun _ _ _ _ => classDef_not_mem_of_methodNames scanned
  refine ⟨decl, stored, declares.stringifier_iff, declares.call_iff, ?_, ?_, ?_, ?_, ?_⟩
  · rw [declares.stringifier_iff]
    exact Or.imp (scopeHasFunction_iff.mpr <| .inl ·) (scopeHasFunction_iff.mpr <| .inl ·)
  · rw [declares.call_iff]
    exact fun found => scopeHasFunction_iff.mpr (.inl found)
  · rw [scopeHasClass_iff]
    simp [noClass]
  · intro noStr noRepr
    simp [declares.stringifier_iff, @scopeHasFunction_iff body, noStr, noRepr]
  · intro noCall
    simp [declares.call_iff, @scopeHasFunction_iff body, noCall]

/-- A conversion to text between compound statements is found, and what these hold is not. -/
theorem addStmt_classDef_scope_mixed :
    let _release : Release := .late
    let body : List Stmt := [.functionDef ⟨2, 2⟩ false "__str__" [.inert ⟨2, 2⟩],
      .other ⟨3, 4⟩ .while [.functionDef ⟨4, 4⟩ true "close" [.inert ⟨4, 4⟩]]]
    ∃ changed decl, (addStmt (.classDef ⟨1, 4⟩ "A" [] body)).run empty = (.ok (), changed) ∧
      changed.classes.decls.get? "A" = some decl ∧ decl.declaresStringifier = true ∧
      ScopeHasFunction body "__str__" ∧
      (decl.declaresCall = true ↔ ScopeHasFunction body "__call__") := by
  intro release body
  have run : ∃ changed, (addStmt (.classDef ⟨1, 4⟩ "A" [] body)).run empty = (.ok (), changed) :=
    ⟨_, by rfl⟩
  obtain ⟨changed, run⟩ := run
  obtain ⟨decl, stored, stringifier, -, -, -, -, -, call⟩ :=
    (addStmt_classDef_scope empty ⟨1, 4⟩ "A" [] body).2 changed run
  have found : HasFunction body "__str__" := ⟨_, _, _, List.mem_cons_self⟩
  refine ⟨changed, decl, run, stored, stringifier.mpr (.inl found),
    scopeHasFunction_iff.mpr (.inl found), call ?_⟩
  rintro ⟨span, isAsync, inner, inside⟩
  rcases inScope_iff.mp inside with direct | deeper
  · simp [body, blocksOf] at direct
  · cases deeper <;> simp_all [body, blocksOf]

/-- A conversion to text under a condition is missed, and a class under a condition is let
through. -/
theorem addStmt_classDef_misses_blocks :
    let _release : Release := .late
    let function : Stmt := .functionDef ⟨3, 3⟩ false "__str__" [.inert ⟨3, 3⟩]
    let hidden : List Stmt := [.other ⟨2, 3⟩ .if [function]]
    let inner : Stmt := .classDef ⟨6, 6⟩ "C" [] [.inert ⟨6, 6⟩]
    let nesting : List Stmt := [.other ⟨5, 6⟩ .if [inner]]
    (∃ changed decl, (addStmt (.classDef ⟨1, 3⟩ "A" [] hidden)).run empty = (.ok (), changed) ∧
      changed.classes.decls.get? "A" = some decl ∧ decl.declaresStringifier = false ∧
      ScopeHasFunction hidden "__str__") ∧
    ∃ changed, (addStmt (.classDef ⟨4, 6⟩ "B" [] nesting)).run empty = (.ok (), changed) ∧
      ScopeHasClass nesting := by
  intro release function hidden inner nesting
  have inHidden : InScope hidden function := .nested List.mem_cons_self (.here List.mem_cons_self)
  have inNesting : InScope nesting inner := .nested List.mem_cons_self (.here List.mem_cons_self)
  exact ⟨⟨_, _, by rfl, by rfl, by rfl, _, _, _, inHidden⟩, ⟨_, by rfl, _, _, _, _, inNesting⟩⟩

end Draft

end Stringify.Stub
