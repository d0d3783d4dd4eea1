import Stringify.Proofs.Stub.Sequences

/-!
# Rejected statements

A stub that makes no module is rejected for one of its statements: one that cannot be taken in
behind those before it, or else the first alias, or else the first annotated name, whose hint stands
for nothing.
-/

namespace Stringify.Stub

open Source (Expr Stmt)

variable {stmt : Stmt} {stmts before after : List Stmt} {draft changed : Draft} {stop : Stop}
variable {classes : ClassTable} {aliases values : Entries String Ty} {scope : Scope}
variable {pendings : List Pending}

/-- A part of the annotations is kept of a part of the statements. -/
theorem filterMap_pendingOf?_eq_append_cons_iff {earlier later : List Pending} {pending : Pending} :
    stmts.filterMap pendingOf? = earlier ++ pending :: later ↔
      ∃ before stmt after, stmts = before ++ stmt :: after ∧
        before.filterMap pendingOf? = earlier ∧ pendingOf? stmt = some pending ∧
        after.filterMap pendingOf? = later := by
  rw [List.filterMap_eq_append_iff]
  constructor
  · rintro ⟨first, rest, rfl, rfl, ofRest⟩
    obtain ⟨skipped, stmt, after, rfl, none, kept, rfl⟩ := List.filterMap_eq_cons_iff.mp ofRest
    refine ⟨first ++ skipped, stmt, after, by simp, ?_, kept, rfl⟩
    rw [List.filterMap_append, List.filterMap_eq_nil_iff.mpr none, List.append_nil]
  · rintro ⟨before, stmt, after, rfl, rfl, kept, rfl⟩
    exact ⟨before, stmt :: after, rfl, rfl, List.filterMap_cons_some kept⟩

/-- A step over the annotations fails for the first statement whose annotation it fails for. -/
theorem foldlM_pendings_eq_error_iff {α : Type} {step : α → Pending → Work α} {start : α} :
    (stmts.filterMap pendingOf?).foldlM step start = .error stop ↔
      ∃ before stmt after pending made, stmts = before ++ stmt :: after ∧
        pendingOf? stmt = some pending ∧
        (before.filterMap pendingOf?).foldlM step start = .ok made ∧
        step made pending = .error stop := by
  rw [foldlM_eq_error_iff]
  constructor
  · rintro ⟨_, pending, _, made, divided, earlier, failed⟩
    obtain ⟨before, stmt, after, split, rfl, kept, -⟩ :=
      filterMap_pendingOf?_eq_append_cons_iff.mp divided
    exact ⟨before, stmt, after, pending, made, split, kept, earlier, failed⟩
  · rintro ⟨before, stmt, after, pending, made, split, kept, earlier, failed⟩
    exact ⟨_, pending, _, made, filterMap_pendingOf?_eq_append_cons_iff.mpr
      ⟨before, stmt, after, split, rfl, kept, rfl⟩, earlier, failed⟩

namespace Draft

open Drafting

theorem run_bind_eq_error_iff {α β : Type} {first : Drafting α} {next : α → Drafting β} :
    (first >>= next).run draft = (.error stop, changed) ↔
      first.run draft = (.error stop, changed) ∨
        ∃ value between, first.run draft = (.ok value, between) ∧
          (next value).run between = (.error stop, changed) := by
  rw [run_bind]
  cases ran : first.run draft with
  | mk outcome between =>
      cases outcome with
      | error other =>
          constructor
          · rintro ⟨⟩
            exact .inl rfl
          · rintro (same | ⟨_, _, same, _⟩)
            · cases same
              rfl
            · cases same
      | ok value =>
          constructor
          · exact fun failed => .inr ⟨value, between, rfl, failed⟩
          · rintro (same | ⟨_, _, same, failed⟩)
            · cases same
            · cases same
              exact failed

variable [Release]

/-- Statements are taken in up to one that is refused. -/
theorem addStmts_eq_error_iff : (addStmts stmts).run draft = (.error stop, changed) ↔
    ∃ before stmt after between, stmts = before ++ stmt :: after ∧
      (addStmts before).run draft = (.ok (), between) ∧
      (addStmt stmt).run between = (.error stop, changed) := by
  induction stmts generalizing draft with
  | nil =>
      constructor
      · rintro ⟨⟩
      · rintro ⟨before, stmt, after, _, split, _⟩
        simp at split
  | cons first rest ih =>
      rw [addStmts, run_bind_eq_error_iff]
      constructor
      · rintro (failed | ⟨⟨⟩, between, first, failed⟩)
        · exact ⟨[], _, rest, draft, rfl, rfl, failed⟩
        · obtain ⟨before, stmt, after, later, rfl, earlier, failed⟩ := ih.mp failed
          exact ⟨_ :: before, stmt, after, later, rfl,
            addStmts_cons_eq_ok_iff.mpr ⟨between, first, earlier⟩, failed⟩
      · rintro ⟨before, stmt, after, later, split, earlier, failed⟩
        cases before with
        | nil =>
            obtain ⟨rfl, rfl⟩ := List.cons.inj split
            cases earlier
            exact .inl failed
        | cons _ before =>
            obtain ⟨rfl, rfl⟩ := List.cons.inj split
            obtain ⟨between, first, earlier⟩ := addStmts_cons_eq_ok_iff.mp earlier
            exact .inr ⟨(), between, first,
              ih.mpr ⟨before, stmt, after, later, rfl, earlier, failed⟩⟩

end Draft

variable [Release]

/-- A statement stops the work on a stub. -/
inductive Rejects (stmts : List Stmt) : Stmt → Stop → Prop where
  /-- The statement cannot be taken in. -/
  | statement {before after : List Stmt} {stmt : Stmt} {draft changed : Draft} {stop : Stop}
      (split : stmts = before ++ stmt :: after)
      (earlier : (Draft.addStmts before).run Draft.empty = (.ok (), draft))
      (failed : (Draft.addStmt stmt).run draft = (.error stop, changed)) :
      Rejects stmts stmt stop
  /-- All statements can, but the alias stands for nothing. -/
  | typeAlias {before after : List Stmt} {stmt : Stmt} {pending : Pending} {draft : Draft}
      {aliases : Entries String Ty} {stop : Stop} (split : stmts = before ++ stmt :: after)
      (drafted : (Draft.addStmts stmts).run Draft.empty = (.ok (), draft))
      (kept : pendingOf? stmt = some pending) (isAlias : pending.isAlias = true)
      (earlier : resolveAliases draft.classes [] (before.filterMap pendingOf?) = .ok aliases)
      (failed : resolve ⟨draft.classes, aliases⟩ pending.hint = .error stop) :
      Rejects stmts stmt stop
  /-- All aliases stand for types, but the hint stands for nothing. -/
  | value {before after : List Stmt} {stmt : Stmt} {pending : Pending} {draft : Draft}
      {aliases values : Entries String Ty} {stop : Stop} (split : stmts = before ++ stmt :: after)
      (drafted : (Draft.addStmts stmts).run Draft.empty = (.ok (), draft))
      (kept : pendingOf? stmt = some pending) (isValue : pending.isAlias = false)
      (every : resolveAliases draft.classes [] (stmts.filterMap pendingOf?) = .ok aliases)
      (earlier : resolveValues ⟨draft.classes, aliases⟩ [] (before.filterMap pendingOf?) =
        .ok values)
      (failed : resolve ⟨draft.classes, aliases⟩ pending.hint = .error stop) :
      Rejects stmts stmt stop

/-! ## Annotations -/

/-- Resolve an alias behind others. -/
def aliasStep (classes : ClassTable) (aliases : Entries String Ty) (pending : Pending) :
    Work (Entries String Ty) :=
  if pending.isAlias then do
    return aliases.put pending.name (← resolve ⟨classes, aliases⟩ pending.hint)
  else return aliases

/-- Resolve an annotated name behind others. -/
def valueStep (scope : Scope) (values : Entries String Ty) (pending : Pending) :
    Work (Entries String Ty) :=
  if pending.isAlias then return values
  else do return values.put pending.name (← resolve scope pending.hint)

theorem resolveAliases_eq_foldlM :
    resolveAliases classes aliases pendings = pendings.foldlM (aliasStep classes) aliases := by
  induction pendings generalizing aliases with
  | nil => rfl
  | cons pending rest ih =>
      rw [resolveAliases, List.foldlM_cons, aliasStep]
      split
      · simp only [ih, bind_assoc, pure_bind]
      · simp only [ih, pure_bind]

theorem resolveValues_eq_foldlM :
    resolveValues scope values pendings = pendings.foldlM (valueStep scope) values := by
  induction pendings generalizing values with
  | nil => rfl
  | cons pending rest ih =>
      rw [resolveValues, List.foldlM_cons, valueStep]
      split
      · simp only [ih, pure_bind]
      · simp only [ih, bind_assoc, pure_bind]

theorem aliasStep_eq_error_iff {pending : Pending} :
    aliasStep classes aliases pending = .error stop ↔
      pending.isAlias = true ∧ resolve ⟨classes, aliases⟩ pending.hint = .error stop := by
  cases isAlias : pending.isAlias <;>
    simp [aliasStep, isAlias, bind_eq_error_iff, pure, Except.pure]

theorem valueStep_eq_error_iff {pending : Pending} : valueStep scope values pending = .error stop ↔
    pending.isAlias = false ∧ resolve scope pending.hint = .error stop := by
  cases isAlias : pending.isAlias <;>
    simp [valueStep, isAlias, bind_eq_error_iff, pure, Except.pure]

theorem resolveAliases_eq_error_iff :
    resolveAliases classes [] (stmts.filterMap pendingOf?) = .error stop ↔
      ∃ before stmt after pending aliases, stmts = before ++ stmt :: after ∧
        pendingOf? stmt = some pending ∧
        resolveAliases classes [] (before.filterMap pendingOf?) = .ok aliases ∧
        pending.isAlias = true ∧ resolve ⟨classes, aliases⟩ pending.hint = .error stop := by
  simp only [resolveAliases_eq_foldlM, foldlM_pendings_eq_error_iff, aliasStep_eq_error_iff]

theorem resolveValues_eq_error_iff :
    resolveValues scope [] (stmts.filterMap pendingOf?) = .error stop ↔
      ∃ before stmt after pending values, stmts = before ++ stmt :: after ∧
        pendingOf? stmt = some pending ∧
        resolveValues scope [] (before.filterMap pendingOf?) = .ok values ∧
        pending.isAlias = false ∧ resolve scope pending.hint = .error stop := by
  simp only [resolveValues_eq_foldlM, foldlM_pendings_eq_error_iff, valueStep_eq_error_iff]

/-! ## Modules -/

theorem Draft.ofStmts_eq_ok_iff :
    Draft.ofStmts stmts = .ok draft ↔ (addStmts stmts).run empty = (.ok (), draft) := by
  unfold Draft.ofStmts
  cases (addStmts stmts).run empty with
  | mk outcome other =>
      cases outcome with
      | error cause => constructor <;> rintro ⟨⟩
      | ok done =>
          constructor
          · rintro ⟨⟩
            rfl
          · rintro ⟨⟩
            rfl

theorem Draft.ofStmts_eq_error_iff : Draft.ofStmts stmts = .error stop ↔
    ∃ changed, (addStmts stmts).run empty = (.error stop, changed) := by
  unfold Draft.ofStmts
  cases (addStmts stmts).run empty with
  | mk outcome other =>
      cases outcome with
      | error cause =>
          constructor
          · rintro ⟨⟩
            exact ⟨other, rfl⟩
          · rintro ⟨_, ⟨⟩⟩
            rfl
      | ok done =>
          constructor
          · rintro ⟨⟩
          · rintro ⟨_, ⟨⟩⟩

/-- The annotations of a draft fail at an alias or, when all aliases stand for types, at a name. -/
theorem Draft.values_eq_error_iff (drafted : (addStmts stmts).run empty = (.ok (), draft)) :
    draft.values = .error stop ↔
      resolveAliases draft.classes [] (stmts.filterMap pendingOf?) = .error stop ∨
      ∃ aliases, resolveAliases draft.classes [] (stmts.filterMap pendingOf?) = .ok aliases ∧
        resolveValues ⟨draft.classes, aliases⟩ [] (stmts.filterMap pendingOf?) = .error stop := by
  have kept : draft.pending.toList = stmts.filterMap pendingOf? := by
    simpa [Draft.empty] using pending_of_addStmts drafted
  rw [Draft.values, kept, bind_eq_error_iff]

/-- There is no module exactly when a statement stops the work. -/
theorem Module.ofStmts_eq_error_iff {file : Text} {failure : LoadFailure} :
    Module.ofStmts file stmts = .error failure ↔
      ∃ stmt stop, Rejects stmts stmt stop ∧ stop.inFile file = failure := by
  simp only [Module.ofStmts, mapError_eq_error_iff, bind_eq_error_iff, Draft.ofStmts_eq_ok_iff,
    Draft.ofStmts_eq_error_iff, Draft.addStmts_eq_error_iff]
  constructor
  · rintro ⟨stop, ⟨changed, before, stmt, after, draft, split, earlier, failed⟩ |
      ⟨draft, drafted, failed | ⟨_, _, failed⟩⟩, rfl⟩
    · exact ⟨stmt, stop, .statement split earlier failed, rfl⟩
    · refine ((Draft.values_eq_error_iff drafted).mp failed).elim ?_ ?_
      · intro failed
        obtain ⟨before, stmt, after, pending, aliases, divided, kept, earlier, isAlias, failed⟩ :=
          resolveAliases_eq_error_iff.mp failed
        exact ⟨stmt, stop, .typeAlias divided drafted kept isAlias earlier failed, rfl⟩
      · rintro ⟨aliases, every, failed⟩
        obtain ⟨before, stmt, after, pending, values, divided, kept, earlier, isValue, failed⟩ :=
          resolveValues_eq_error_iff.mp failed
        exact ⟨stmt, stop, .value divided drafted kept isValue every earlier failed, rfl⟩
    · cases failed
  · rintro ⟨stmt, stop, rejects, rfl⟩
    refine ⟨stop, ?_, rfl⟩
    cases rejects with
    | statement split earlier failed =>
        exact .inl ⟨_, _, _, _, _, split, earlier, failed⟩
    | typeAlias split drafted kept isAlias earlier failed =>
        refine .inr ⟨_, drafted, .inl ((Draft.values_eq_error_iff drafted).mpr (.inl ?_))⟩
        exact resolveAliases_eq_error_iff.mpr
          ⟨_, _, _, _, _, split, kept, earlier, isAlias, failed⟩
    | value split drafted kept isValue every earlier failed =>
        refine .inr ⟨_, drafted,
          .inl ((Draft.values_eq_error_iff drafted).mpr (.inr ⟨_, every, ?_⟩))⟩
        exact resolveValues_eq_error_iff.mpr
          ⟨_, _, _, _, _, split, kept, earlier, isValue, failed⟩

theorem Rejects.mem (rejects : Rejects stmts stmt stop) : stmt ∈ stmts := by
  cases rejects with
  | statement split | typeAlias split | value split => simp [split]

end Stringify.Stub
