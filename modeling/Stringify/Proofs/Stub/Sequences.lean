import Stringify.Proofs.Stub.Aliases

/-!
# The sequences of a stub

A stub is made of three sequences: its classes, its aliases and its annotated names. The classes are
entered in a table that no annotation changes, and the annotations are resolved when all classes are
known, aliases before the others. So it takes three things to make a module of statements, and each
is about one sequence.
-/

namespace Stringify.Stub

open Source (Argument Expr Stmt)

variable {stmt : Stmt} {stmts body : List Stmt} {pendings : List Pending}
variable {draft changed : Draft} {classes table : ClassTable} {scope : Scope}
variable {file : Text} {name : String}
variable {aliases values resolved : Entries String Ty}

/-! ## Sequences -/

/-- What a statement is to a stub. -/
inductive Role where
  | classDef
  | typeAlias
  /-- An annotation that is no alias. -/
  | value
  | inert
  | unsupported
  deriving DecidableEq

/-- The role of a statement. -/
def roleOf : Stmt → Role
  | .classDef _ _ _ _ => .classDef
  | .annotated _ _ hint _ => if hint.rootName? = some "TypeAlias" then .typeAlias else .value
  | .inert _ => .inert
  | .functionDef _ _ _ _ | .other _ _ _ => .unsupported

/-- The statements of one role. -/
def sequence (role : Role) (stmts : List Stmt) : List Stmt :=
  stmts.filter (roleOf · = role)

@[simp] theorem sequence_nil (role : Role) : sequence role [] = [] := rfl

theorem sequence_cons (role : Role) (stmt : Stmt) (rest : List Stmt) :
    sequence role (stmt :: rest) =
      if roleOf stmt = role then stmt :: sequence role rest else sequence role rest := by
  simp [sequence, List.filter_cons]

/-- Only annotations keep something for later. -/
theorem pendingOf?_eq_none (notAlias : roleOf stmt ≠ .typeAlias) (notValue : roleOf stmt ≠ .value) :
    pendingOf? stmt = none := by
  cases stmt with
  | annotated span target hint value =>
      by_cases marked : hint.rootName? = some "TypeAlias"
      · simp [roleOf, marked] at notAlias
      · simp [roleOf, marked] at notValue
  | _ => rfl

/-! ## Annotations -/

/-- What is kept of an annotation tells its role. -/
theorem roleOf_of_pendingOf? {pending : Pending} (kept : pendingOf? stmt = some pending) :
    roleOf stmt = if pending.isAlias then .typeAlias else .value := by
  cases stmt with
  | annotated span target hint value =>
      cases target with
      | name line name =>
          rw [pendingOf?] at kept
          rw [roleOf]
          split_ifs at kept ⊢ with marked isAlias isAlias
          · rfl
          · obtain ⟨_, _, rfl⟩ := Option.map_eq_some_iff.mp kept
            exact absurd rfl isAlias
          · cases kept
            cases isAlias
          · rfl
      | _ => cases kept
  | _ => cases kept

/-- The annotations of a role are those that its sequence keeps. -/
theorem filter_filterMap_pendingOf? {role : Role} {keep : Pending → Bool}
    (fits : ∀ stmt pending, pendingOf? stmt = some pending →
      (keep pending = true ↔ roleOf stmt = role)) (stmts : List Stmt) :
    (stmts.filterMap pendingOf?).filter keep = (sequence role stmts).filterMap pendingOf? := by
  induction stmts with
  | nil => rfl
  | cons stmt rest ih =>
      cases kept : pendingOf? stmt with
      | none =>
          rw [List.filterMap_cons_none kept, ih, sequence_cons]
          split
          · rw [List.filterMap_cons_none kept]
          · rfl
      | some pending =>
          have fit := fits stmt pending kept
          rw [List.filterMap_cons_some kept, List.filter_cons, ih, sequence_cons]
          simp only [fit]
          split
          · rw [List.filterMap_cons_some kept]
          · rfl

/-- The aliases among the annotations of a stub. -/
theorem filter_isAlias_filterMap_pendingOf? (stmts : List Stmt) :
    (stmts.filterMap pendingOf?).filter (·.isAlias) =
      (sequence .typeAlias stmts).filterMap pendingOf? := by
  refine filter_filterMap_pendingOf? (fun stmt pending kept => ?_) stmts
  rw [roleOf_of_pendingOf? kept]
  cases pending.isAlias <;> simp

/-- The annotated names among the annotations of a stub. -/
theorem filter_not_isAlias_filterMap_pendingOf? (stmts : List Stmt) :
    (stmts.filterMap pendingOf?).filter (!·.isAlias) =
      (sequence .value stmts).filterMap pendingOf? := by
  refine filter_filterMap_pendingOf? (fun stmt pending kept => ?_) stmts
  rw [roleOf_of_pendingOf? kept]
  cases pending.isAlias <;> simp

/-- What a statement has to be to be taken in, apart from what a class needs. -/
def Draft.IsAcceptable (stmt : Stmt) : Prop :=
  match roleOf stmt with
  | .classDef | .inert => True
  | .typeAlias | .value => (pendingOf? stmt).isSome = true
  | .unsupported => False

/-! ## Names -/

/-- The name that an annotation is about. -/
def targetName? : Stmt → Option String
  | .annotated _ (.name _ name) _ _ => some name
  | _ => none

/-- The name that a class statement declares. -/
def className? : Stmt → Option String
  | .classDef _ name _ _ => some name
  | _ => none

theorem targetName?_of_pendingOf? {pending : Pending} (kept : pendingOf? stmt = some pending) :
    targetName? stmt = some pending.name := by
  cases stmt with
  | annotated span target hint value =>
      cases target with
      | name line name =>
          rw [pendingOf?] at kept
          split at kept
          · obtain ⟨_, _, rfl⟩ := Option.map_eq_some_iff.mp kept
            rfl
          · cases kept
            rfl
      | _ => cases kept
  | _ => cases kept

/-- Acceptable annotations of a role are about the names that are kept of them. -/
theorem filterMap_targetName? {role : Role} (isHint : role = .typeAlias ∨ role = .value)
    (acceptable : ∀ stmt ∈ stmts, Draft.IsAcceptable stmt) :
    (sequence role stmts).filterMap targetName? =
      ((sequence role stmts).filterMap pendingOf?).map (·.name) := by
  rw [List.map_filterMap]
  refine List.filterMap_congr fun stmt member => ?_
  obtain ⟨member, ofRole⟩ := List.mem_filter.mp member
  have accepted := acceptable stmt member
  have kept : (pendingOf? stmt).isSome = true := by
    rcases isHint with rfl | rfl <;>
      simpa [Draft.IsAcceptable, of_decide_eq_true ofRole] using accepted
  obtain ⟨pending, kept⟩ := Option.isSome_iff_exists.mp kept
  rw [kept, Option.map_some, targetName?_of_pendingOf? kept]

/-- The classes of a stub are those of one sequence. -/
theorem filterMap_className? (stmts : List Stmt) :
    (sequence .classDef stmts).filterMap className? = stmts.filterMap className? := by
  rw [sequence, List.filterMap_filter]
  refine List.filterMap_congr fun stmt _ => ?_
  cases stmt with
  | annotated span target hint value => simp [className?]
  | _ => simp [className?, roleOf]

/-- Nothing is stored twice where nothing is stored. -/
theorem nodup_keys_nil : (Entries.keys ([] : Entries String Ty)).Nodup :=
  List.nodup_nil

/-- Names that are stored under in turn are in the order in which they are first met. -/
theorem keys_put_distinct (name : String) (type : Ty) (distinct : values.keys.Nodup) :
    (values.put name type).keys.Nodup ∧
      ∀ others, ((values.put name type).keys ++ others).eraseDups =
        (values.keys ++ name :: others).eraseDups := by
  rw [Entries.keys_put]
  by_cases known : name ∈ values.keys
  · rw [if_pos known]
    exact ⟨distinct, fun others => (eraseDups_append_cons known).symm⟩
  · rw [if_neg known]
    exact ⟨List.concat_eq_append ▸ distinct.concat known, fun others => by simp⟩

variable [Release]

/-! ## Class statements -/

/-- Class statements are taken in one after the other. -/
inductive EntersAll : ClassTable → List Stmt → ClassTable → Prop where
  | nil {classes : ClassTable} : EntersAll classes [] classes
  | cons {classes between table : ClassTable} {stmt : Stmt} {rest : List Stmt}
      (first : Enters classes stmt between) (later : EntersAll between rest table) :
      EntersAll classes (stmt :: rest) table

theorem entersAll_nil_iff : EntersAll classes [] table ↔ table = classes := by
  constructor
  · rintro ⟨⟩
    rfl
  · rintro rfl
    exact .nil

theorem entersAll_cons_iff : EntersAll classes (stmt :: stmts) table ↔
    ∃ between, Enters classes stmt between ∧ EntersAll between stmts table := by
  constructor
  · rintro ⟨⟩
    exact ⟨_, ‹_›, ‹_›⟩
  · rintro ⟨between, first, later⟩
    exact .cons first later

namespace Draft

open Drafting

/-- An annotation is taken in exactly when there is something to keep of it. -/
theorem addHint_eq_ok_iff {span : Source.Span} {target hint : Expr} {value : Option Expr} :
    (addHint span.first target hint value).run draft = (.ok (), changed) ↔
      ∃ pending, pendingOf? (.annotated span target hint value) = some pending ∧
        changed = { draft with pending := draft.pending.push pending } := by
  have keep (pending : Pending) : (keepPending pending).run draft = (.ok (), changed) ↔
      changed = { draft with pending := draft.pending.push pending } := by
    constructor
    · rintro ⟨⟩
      rfl
    · rintro rfl
      rfl
  cases target with
  | name line name =>
      unfold addHint pendingOf?
      by_cases marked : hint.rootName? = some "TypeAlias"
      · simp only [marked, if_true]
        cases value with
        | none => simp [run_ofWork_eq_ok_iff]
        | some value => simpa using keep _
      · simpa [marked] using keep _
  | _ =>
      simp only [addHint, pendingOf?, run_ofWork_eq_ok_iff, bind_eq_ok_iff, Work.refuse_ne_ok]
      simp

/-- What taking in a statement does, by its role. -/
def Does (stmt : Stmt) (draft changed : Draft) : Role → Prop
  | .classDef => ∃ table, Enters draft.classes stmt table ∧
      changed = { draft with classes := table }
  | .typeAlias | .value => ∃ pending, pendingOf? stmt = some pending ∧
      changed = { draft with pending := draft.pending.push pending }
  | .inert => changed = draft
  | .unsupported => False

/-- A statement that is taken in does what its role says. -/
theorem addStmt_eq_ok_iff :
    (addStmt stmt).run draft = (.ok (), changed) ↔ Does stmt draft changed (roleOf stmt) := by
  cases stmt with
  | classDef span name arguments body => exact addClass_eq_ok_iff
  | annotated span target hint value =>
      rw [addStmt, addHint_eq_ok_iff, roleOf]
      split_ifs <;> rfl
  | inert span =>
      constructor
      · rintro ⟨⟩
        rfl
      · rintro rfl
        rfl
  | functionDef | other =>
      constructor
      · intro run
        cases run
      · intro none
        cases none

theorem addStmts_cons_eq_ok_iff : (addStmts (stmt :: stmts)).run draft = (.ok (), changed) ↔
    ∃ between, (addStmt stmt).run draft = (.ok (), between) ∧
      (addStmts stmts).run between = (.ok (), changed) := by
  rw [addStmts, run_bind_eq_ok_iff]
  constructor
  · rintro ⟨⟨⟩, between, first, later⟩
    exact ⟨between, first, later⟩
  · rintro ⟨between, first, later⟩
    exact ⟨(), between, first, later⟩

/-- Statements are taken in when each of them is acceptable and the classes among them can be
entered. Their annotations are kept. -/
theorem addStmts_eq_ok_iff : (addStmts stmts).run draft = (.ok (), changed) ↔
    (∀ stmt ∈ stmts, IsAcceptable stmt) ∧
      EntersAll draft.classes (sequence .classDef stmts) changed.classes ∧
      changed.pending.toList = draft.pending.toList ++ stmts.filterMap pendingOf? := by
  induction stmts generalizing draft with
  | nil =>
      rw [sequence_nil, entersAll_nil_iff]
      constructor
      · rintro ⟨⟩
        simp
      · obtain ⟨table, pending⟩ := changed
        rintro ⟨_, rfl, same⟩
        obtain rfl : pending = draft.pending := by simpa [Array.toList_inj] using same
        rfl
  | cons stmt rest ih =>
      simp only [addStmts_cons_eq_ok_iff, addStmt_eq_ok_iff, ih, List.forall_mem_cons,
        sequence_cons]
      cases role : roleOf stmt with
      | classDef =>
          have none : pendingOf? stmt = none := pendingOf?_eq_none (by simp [role]) (by simp [role])
          have accepted : IsAcceptable stmt := by simp [IsAcceptable, role]
          simp only [if_true, entersAll_cons_iff, List.filterMap_cons, none, accepted, true_and]
          constructor
          · rintro ⟨_, ⟨table, first, rfl⟩, others, later, kept⟩
            exact ⟨others, ⟨table, first, later⟩, kept⟩
          · rintro ⟨others, ⟨table, first, later⟩, kept⟩
            exact ⟨_, ⟨table, first, rfl⟩, others, later, kept⟩
      | typeAlias | value =>
          have accepted : IsAcceptable stmt ↔ (pendingOf? stmt).isSome = true := by
            simp [IsAcceptable, role]
          simp only [accepted, Option.isSome_iff_exists, reduceCtorEq, if_false]
          constructor
          · rintro ⟨_, ⟨pending, found, rfl⟩, others, later, kept⟩
            exact ⟨⟨⟨pending, found⟩, others⟩, later, by simpa [found] using kept⟩
          · rintro ⟨⟨⟨pending, found⟩, others⟩, later, kept⟩
            exact ⟨_, ⟨pending, found, rfl⟩, others, later, by simpa [found] using kept⟩
      | inert =>
          have none : pendingOf? stmt = none := pendingOf?_eq_none (by simp [role]) (by simp [role])
          have accepted : IsAcceptable stmt := by simp [IsAcceptable, role]
          simp [Does, none, accepted]
      | unsupported =>
          have refused : ¬IsAcceptable stmt := by simp [IsAcceptable, role]
          simp [Does, refused]

end Draft

/-! ## Aliases and values -/

/-- Aliases are resolved apart from annotated names. -/
theorem resolveAliases_filter :
    resolveAliases classes aliases (pendings.filter (·.isAlias)) =
      resolveAliases classes aliases pendings := by
  induction pendings generalizing aliases with
  | nil => rfl
  | cons pending rest ih =>
      cases isAlias : pending.isAlias <;> simp [resolveAliases, isAlias, ih]

/-- Annotated names are resolved apart from aliases. -/
theorem resolveValues_filter :
    resolveValues scope values (pendings.filter (!·.isAlias)) =
      resolveValues scope values pendings := by
  induction pendings generalizing values with
  | nil => rfl
  | cons pending rest ih =>
      cases isAlias : pending.isAlias <;> simp [resolveValues, isAlias, ih]

/-- Statements make a module when each of them is acceptable, the classes can be entered, the
aliases can be resolved behind one another, and the annotated names in the scope of all of them. -/
theorem Module.ofStmts_eq_ok_iff {module : Module} : Module.ofStmts file stmts = .ok module ↔
    (∀ stmt ∈ stmts, Draft.IsAcceptable stmt) ∧ ∃ table aliases values,
      EntersAll .builtin (sequence .classDef stmts) table ∧
      resolveAliases table [] ((sequence .typeAlias stmts).filterMap pendingOf?) = .ok aliases ∧
      resolveValues ⟨table, aliases⟩ [] ((sequence .value stmts).filterMap pendingOf?) =
        .ok values ∧
      module = ⟨file, table, values⟩ := by
  simp only [← filter_isAlias_filterMap_pendingOf?, ← filter_not_isAlias_filterMap_pendingOf?,
    resolveAliases_filter, resolveValues_filter]
  constructor
  · intro made
    obtain ⟨draft, values, run, valued, rfl⟩ := Module.ofStmts_eq_ok made
    obtain ⟨acceptable, entered, kept⟩ := Draft.addStmts_eq_ok_iff.mp run
    obtain ⟨aliases, aliased, found⟩ := bind_eq_ok_iff.mp valued
    rw [kept] at aliased found
    exact ⟨acceptable, _, aliases, values, entered, by simpa [Draft.empty] using aliased,
      by simpa [Draft.empty] using found, rfl⟩
  · rintro ⟨acceptable, table, aliases, values, entered, aliased, found, rfl⟩
    have run : (Draft.addStmts stmts).run Draft.empty =
        (.ok (), ⟨table, (stmts.filterMap pendingOf?).toArray⟩) :=
      Draft.addStmts_eq_ok_iff.mpr ⟨acceptable, entered, by simp [Draft.empty]⟩
    simp only [Module.ofStmts, mapError_eq_ok_iff, bind_eq_ok_iff, pure_eq_ok_iff, Draft.ofStmts,
      run]
    exact ⟨_, rfl, values, bind_eq_ok_iff.mpr ⟨aliases, aliased, found⟩, rfl⟩

/-! ## Names of a module -/

/-- The aliases that are resolved, in the order of their first values. -/
theorem keys_of_resolveAliases (distinct : aliases.keys.Nodup)
    (run : resolveAliases classes aliases pendings = .ok resolved) :
    resolved.keys = (aliases.keys ++ (pendings.filter (·.isAlias)).map (·.name)).eraseDups := by
  induction pendings generalizing aliases with
  | nil =>
      cases run
      simpa using (eraseDups_eq_self distinct).symm
  | cons pending rest ih =>
      rw [resolveAliases] at run
      cases isAlias : pending.isAlias with
      | false =>
          rw [if_neg (by simp [isAlias])] at run
          simpa [isAlias] using ih distinct run
      | true =>
          rw [if_pos isAlias] at run
          obtain ⟨type, _, later⟩ := bind_eq_ok_iff.mp run
          obtain ⟨still, met⟩ := keys_put_distinct pending.name type distinct
          rw [ih still later, met, List.filter_cons_of_pos isAlias, List.map_cons]

/-- The names that are resolved, in the order of their first hints. -/
theorem keys_of_resolveValues (distinct : values.keys.Nodup)
    (run : resolveValues scope values pendings = .ok resolved) :
    resolved.keys = (values.keys ++ (pendings.filter (!·.isAlias)).map (·.name)).eraseDups := by
  induction pendings generalizing values with
  | nil =>
      cases run
      simpa using (eraseDups_eq_self distinct).symm
  | cons pending rest ih =>
      rw [resolveValues] at run
      cases isAlias : pending.isAlias with
      | true =>
          rw [if_pos isAlias] at run
          simpa [isAlias] using ih distinct run
      | false =>
          rw [if_neg (by simp [isAlias])] at run
          obtain ⟨type, _, later⟩ := bind_eq_ok_iff.mp run
          obtain ⟨still, met⟩ := keys_put_distinct pending.name type distinct
          rw [ih still later, met, List.filter_cons_of_pos (by simp [isAlias]), List.map_cons]

/-- A name that gets no more hints keeps its type. -/
theorem get?_of_resolveValues (run : resolveValues scope values pendings = .ok resolved)
    (fresh : ∀ pending ∈ pendings, pending.isAlias = false → pending.name ≠ name) :
    resolved.get? name = values.get? name := by
  induction pendings generalizing values with
  | nil =>
      cases run
      rfl
  | cons pending rest ih =>
      rw [List.forall_mem_cons] at fresh
      rw [resolveValues] at run
      split at run
      · exact ih run fresh.2
      · next isValue =>
          obtain ⟨type, _, later⟩ := bind_eq_ok_iff.mp run
          rw [ih later fresh.2, Entries.get?_put, if_neg (fresh.1 (by simpa using isValue))]

/-- A name has the type that its last hint stands for. -/
theorem exists_resolve_last {pending : Pending} {before after : List Pending}
    (run : resolveValues scope values (before ++ pending :: after) = .ok resolved)
    (isValue : pending.isAlias = false)
    (last : ∀ later ∈ after, later.isAlias = false → later.name ≠ pending.name) :
    ∃ type, resolve scope pending.hint = .ok type ∧ resolved.get? pending.name = some type := by
  induction before generalizing values with
  | nil =>
      rw [List.nil_append, resolveValues, if_neg (by simp [isValue])] at run
      obtain ⟨type, found, later⟩ := bind_eq_ok_iff.mp run
      refine ⟨type, found, ?_⟩
      rw [get?_of_resolveValues later last, Entries.get?_put, if_pos rfl]
  | cons known rest ih =>
      rw [List.cons_append, resolveValues] at run
      split at run
      · exact ih run
      · obtain ⟨_, _, later⟩ := bind_eq_ok_iff.mp run
        exact ih later

theorem Enters.keys (enters : Enters classes stmt table) :
    ∃ name, className? stmt = some name ∧ table.decls.keys = classes.decls.keys ++ [name] := by
  cases enters with
  | @intro span name arguments body bases methods ancestors fresh based scanned lined =>
      have unknown : name ∉ classes.decls.keys := by
        simpa [← Entries.isSome_get?_iff, ClassTable.contains] using fresh
      exact ⟨name, rfl, (Entries.keys_put _ _ _).trans (if_neg unknown)⟩

/-- The classes that are entered stand behind those before them, in their order. -/
theorem EntersAll.keys (enters : EntersAll classes stmts table) :
    table.decls.keys = classes.decls.keys ++ stmts.filterMap className? := by
  induction enters with
  | nil => simp
  | cons first _ ih =>
      obtain ⟨name, named, keys⟩ := first.keys
      rw [ih, keys, List.filterMap_cons_some named, List.append_assoc, List.singleton_append]

end Stringify.Stub
