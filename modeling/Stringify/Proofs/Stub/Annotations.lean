import Stringify.Proofs.Stub.Declarations
import Stringify.Proofs.Stub.Resolution

/-!
# The annotations of stubs

The annotations of a stub are the hints and the aliases among its statements. Each is resolved in a
scope of its own: an alias may refer to the aliases above it, and a hint to all of them. In a stub
that makes a module every annotation stands for a type, and no scope has types that are not normal.
-/

namespace Stringify.Stub

open Source (Argument Expr Stmt)

variable {stmt : Stmt} {stmts : List Stmt} {draft changed : Draft} {scope : Scope} {hint : Expr}

/-- What an annotation keeps for later. -/
def pendingOf? : Stmt → Option Pending
  | .annotated _ (.name _ name) hint value =>
    if hint.rootName? = some "TypeAlias" then value.map (⟨name, ·, true⟩)
    else some ⟨name, hint, false⟩
  | _ => none

variable [Release]

/-- The annotations of a stub, each with the scope that it is resolved in. -/
inductive Annotates (classes : ClassTable) (stmts : List Stmt) : Scope → Expr → Prop where
  | ofAlias {before after : List Pending} {pending : Pending} {aliases : Entries String Ty}
      (split : stmts.filterMap pendingOf? = before ++ pending :: after)
      (isAlias : pending.isAlias = true)
      (earlier : resolveAliases classes [] before = .ok aliases) :
      Annotates classes stmts ⟨classes, aliases⟩ pending.hint
  | ofValue {pending : Pending} {aliases : Entries String Ty}
      (member : pending ∈ stmts.filterMap pendingOf?) (isValue : pending.isAlias = false)
      (every : resolveAliases classes [] (stmts.filterMap pendingOf?) = .ok aliases) :
      Annotates classes stmts ⟨classes, aliases⟩ pending.hint

/-- In a stub of one hint that is no alias, the hint is resolved without aliases. -/
theorem annotates_singleton (classes : ClassTable) (span : Source.Span) (line : Nat) (name : String)
    (value : Option Expr) (unmarked : hint.rootName? ≠ some "TypeAlias") :
    Annotates classes [.annotated span (.name line name) hint value] ⟨classes, []⟩ hint := by
  have kept : [Stmt.annotated span (.name line name) hint value].filterMap pendingOf? =
      [⟨name, hint, false⟩] := by
    simp [pendingOf?, unmarked]
  refine @Annotates.ofValue _ classes _ ⟨name, hint, false⟩ [] ?_ rfl ?_
  · simp [kept]
  · rw [kept]
    rfl

/-! ## Keeping annotations -/

namespace Draft

open Drafting

theorem pending_of_addStmt (run : (addStmt stmt).run draft = (.ok (), changed)) :
    changed.pending.toList = draft.pending.toList ++ (pendingOf? stmt).toList := by
  cases stmt with
  | classDef span name arguments body =>
      obtain ⟨decl, line, _, _, rfl⟩ := addClass_eq_ok run
      simp [pendingOf?]
  | annotated span target hint value =>
      replace run : (addHint span.first target hint value).run draft = (.ok (), changed) := run
      unfold addHint at run
      split at run
      · split at run
        · next marked =>
            split at run
            · cases run
              simp [pendingOf?, marked]
            · cases run
        · next unmarked =>
            cases run
            simp [pendingOf?, unmarked]
      · rw [run_ofWork_eq_ok_iff] at run
        simp [bind_eq_ok_iff] at run
  | inert span =>
      cases run
      simp [pendingOf?]
  | functionDef span isAsync name body => cases run
  | other span kind nested => cases run

/-- A draft keeps the annotations among its statements in their order. -/
theorem pending_of_addStmts (run : (addStmts stmts).run draft = (.ok (), changed)) :
    changed.pending.toList = draft.pending.toList ++ stmts.filterMap pendingOf? := by
  induction stmts generalizing draft with
  | nil =>
      cases run
      simp
  | cons stmt rest ih =>
      obtain ⟨_, between, first, later⟩ := run_bind_eq_ok_iff.mp run
      rw [ih later, pending_of_addStmt first, List.append_assoc]
      cases kept : pendingOf? stmt <;> simp [kept]

end Draft

/-! ## Resolving annotations -/

section Resolving

variable {classes : ClassTable} {aliases earlier resolved : Entries String Ty}
variable {pending : Pending} {before after pendings : List Pending}

/-- Aliases are resolved in parts that follow one another. -/
theorem resolveAliases_append :
    resolveAliases classes aliases (before ++ after) = .ok resolved ↔
      ∃ between, resolveAliases classes aliases before = .ok between ∧
        resolveAliases classes between after = .ok resolved := by
  induction before generalizing aliases with
  | nil => simp [resolveAliases]
  | cons known rest ih =>
      rw [List.cons_append, resolveAliases, resolveAliases]
      split
      · simp only [bind_eq_ok_iff, ih]
        constructor
        · rintro ⟨type, found, between, former, latter⟩
          exact ⟨between, ⟨type, found, former⟩, latter⟩
        · rintro ⟨between, ⟨type, found, former⟩, latter⟩
          exact ⟨type, found, between, former, latter⟩
      · exact ih

/-- When all aliases are resolved, each one is in the scope of those before it. -/
theorem exists_resolve_of_resolveAliases (isAlias : pending.isAlias = true)
    (first : resolveAliases classes aliases before = .ok earlier)
    (run : resolveAliases classes aliases (before ++ pending :: after) = .ok resolved) :
    ∃ type, resolve ⟨classes, earlier⟩ pending.hint = .ok type ∧
      resolveAliases classes (earlier.put pending.name type) after = .ok resolved := by
  rcases resolveAliases_append.mp run with ⟨between, again, rest⟩
  obtain rfl := Except.ok.inj (first.symm.trans again)
  rw [resolveAliases, if_pos isAlias] at rest
  exact bind_eq_ok_iff.mp rest

/-- When all values are resolved, each one is. -/
theorem exists_resolve_of_resolveValues {values : Entries String Ty}
    (run : resolveValues scope values pendings = .ok resolved) (member : pending ∈ pendings)
    (isValue : pending.isAlias = false) : ∃ type, resolve scope pending.hint = .ok type := by
  induction pendings generalizing values with
  | nil => cases member
  | cons known rest ih =>
      rw [resolveValues] at run
      rcases List.mem_cons.mp member with rfl | member
      · rw [isValue] at run
        obtain ⟨type, found, _⟩ := bind_eq_ok_iff.mp run
        exact ⟨type, found⟩
      · split at run
        · exact ih run member
        · obtain ⟨_, _, later⟩ := bind_eq_ok_iff.mp run
          exact ih later member

end Resolving

/-- For a module its aliases are resolved, and its values in the scope of all of them. -/
theorem exists_aliases_of_ofStmts {file : Text} {module : Module}
    (loaded : Module.ofStmts file stmts = .ok module) :
    ∃ aliases, resolveAliases module.classes [] (stmts.filterMap pendingOf?) = .ok aliases ∧
      resolveValues ⟨module.classes, aliases⟩ [] (stmts.filterMap pendingOf?) =
        .ok module.values := by
  rcases Module.ofStmts_eq_ok loaded with ⟨draft, values, run, valued, rfl⟩
  have kept : draft.pending.toList = stmts.filterMap pendingOf? := by
    simpa [Draft.empty] using Draft.pending_of_addStmts run
  rw [← kept]
  exact bind_eq_ok_iff.mp valued

/-- In a stub that makes a module every annotation stands for a type, in a scope of normal types. -/
theorem exists_resolve_of_annotates {file : Text} {module : Module}
    (loaded : Module.ofStmts file stmts = .ok module)
    (annotates : Annotates module.classes stmts scope hint) :
    scope.IsNormal ∧ ∃ type, resolve scope hint = .ok type := by
  obtain ⟨aliases, every, rest⟩ := exists_aliases_of_ofStmts loaded
  have empty : Scope.IsNormal ⟨module.classes, []⟩ := by simp [Scope.IsNormal]
  cases annotates with
  | ofAlias split isAlias earlier =>
      refine ⟨isNormal_of_resolveAliases empty earlier, ?_⟩
      rw [split] at every
      rcases exists_resolve_of_resolveAliases isAlias earlier every with ⟨type, found, _⟩
      exact ⟨type, found⟩
  | ofValue member isValue again =>
      obtain rfl := Except.ok.inj (every.symm.trans again)
      exact ⟨isNormal_of_resolveAliases empty every,
        exists_resolve_of_resolveValues rest member isValue⟩

end Stringify.Stub
