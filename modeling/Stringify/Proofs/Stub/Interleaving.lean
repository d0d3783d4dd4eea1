import Stringify.Proofs.Stub.Sequences
import Stringify.Proofs.Stub.SameForm

/-!
# The order of statements

Only the three sequences of a stub matter, each on its own. So statements of different sequences may
change places, and statements that declare nothing may stand anywhere.
-/

namespace Stringify.Stub

open Source (Argument Expr Stmt)

variable {stmt other : Stmt} {stmts others left right body otherBody : List Stmt}
variable {classes table : ClassTable} {file : Text}

/-- Two statements are equal but for their lines. -/
def SameStmt (stmt other : Stmt) : Prop :=
  stmt.forgetLines = other.forgetLines

/-- The statements of each role are the same and in the same order, but for lines and for statements
that declare nothing. -/
def SameSequences (left right : List Stmt) : Prop :=
  ∀ role, role ≠ .inert → List.Forall₂ SameStmt (sequence role left) (sequence role right)

theorem SameSequences.symm (same : SameSequences left right) : SameSequences right left :=
  fun role kept => (same role kept).flip.imp fun _ _ => Eq.symm

/-! ## Other places -/

theorem basesOf_forgetLines (arguments : List Argument) :
    basesOf (Source.argumentsWithoutLines arguments) =
      (basesOf arguments).map Expr.forgetLines := by
  induction arguments with
  | nil => rfl
  | cons argument rest ih =>
      cases argument <;> simpa [Source.argumentsWithoutLines, basesOf] using ih

theorem methodNames_forgetLines {methods : List String} :
    methodNames (Source.stmtsWithoutLines body) = .ok methods ↔ methodNames body = .ok methods := by
  induction body generalizing methods with
  | nil => rfl
  | cons stmt rest ih =>
      cases stmt with
      | classDef => simp [Source.stmtsWithoutLines, Source.Stmt.forgetLines, methodNames]
      | functionDef =>
          simp only [Source.stmtsWithoutLines, Source.Stmt.forgetLines, methodNames,
            bind_eq_ok_iff, ih]
      | _ => simpa only [Source.stmtsWithoutLines, Source.Stmt.forgetLines, methodNames] using ih

/-- A kept annotation on no line in particular. -/
def Pending.forgetLines (pending : Pending) : Pending :=
  { pending with hint := pending.hint.forgetLines }

/-- Two kept annotations are equal but for their lines. -/
def SamePending (pending other : Pending) : Prop :=
  pending.forgetLines = other.forgetLines

theorem samePending_iff {pending other : Pending} : SamePending pending other ↔
    pending.name = other.name ∧ pending.hint.SameForm other.hint ∧
      pending.isAlias = other.isAlias := by
  simp [SamePending, Pending.forgetLines, Expr.SameForm]

theorem pendingOf?_forgetLines (stmt : Stmt) :
    pendingOf? stmt.forgetLines = (pendingOf? stmt).map Pending.forgetLines := by
  cases stmt with
  | annotated span target hint value =>
      cases target with
      | name line name =>
          simp only [Source.Stmt.forgetLines, Expr.forgetLines, pendingOf?,
            Source.rootName?_forgetLines]
          cases value <;> split_ifs <;> rfl
      | _ => rfl
  | _ => rfl

/-- What is kept of annotations is the same wherever they stand. -/
theorem filterMap_pendingOf?_of_sameStmt (same : List.Forall₂ SameStmt stmts others) :
    List.Forall₂ SamePending (stmts.filterMap pendingOf?) (others.filterMap pendingOf?) := by
  have forget (stmts : List Stmt) : (stmts.filterMap pendingOf?).map Pending.forgetLines =
      (stmts.map Source.Stmt.forgetLines).filterMap pendingOf? := by
    simp [List.map_filterMap, List.filterMap_map, pendingOf?_forgetLines]
  unfold SamePending SameStmt at *
  rw [← List.forall₂_map_right_iff, ← List.forall₂_map_left_iff, List.forall₂_eq_eq_eq] at same ⊢
  rw [forget, forget, same]

theorem roleOf_of_sameStmt (same : SameStmt stmt other) : roleOf stmt = roleOf other := by
  have forget (stmt : Stmt) : roleOf stmt.forgetLines = roleOf stmt := by
    cases stmt <;> simp [Source.Stmt.forgetLines, roleOf, Source.rootName?_forgetLines]
  rw [← forget stmt, same, forget]

/-- A statement is acceptable wherever it stands. -/
theorem Draft.IsAcceptable.of_sameStmt (accepted : IsAcceptable stmt) (same : SameStmt stmt other) :
    IsAcceptable other := by
  have kept : (pendingOf? other).isSome = (pendingOf? stmt).isSome := by
    have forgotten := congrArg pendingOf? same
    rw [pendingOf?_forgetLines, pendingOf?_forgetLines] at forgotten
    simpa using (congrArg Option.isSome forgotten).symm
  rwa [IsAcceptable, kept, ← roleOf_of_sameStmt same]

theorem Draft.IsAcceptable.of_sameStmts (accepted : ∀ stmt ∈ stmts, IsAcceptable stmt)
    (same : List.Forall₂ SameStmt stmts others) : ∀ stmt ∈ others, IsAcceptable stmt := by
  induction same with
  | nil => exact accepted
  | cons here _ ih =>
      rw [List.forall_mem_cons] at accepted ⊢
      exact ⟨accepted.1.of_sameStmt here, ih accepted.2⟩

/-- Statements are acceptable when those of each role are. -/
theorem Draft.IsAcceptable.of_sameSequences (accepted : ∀ stmt ∈ left, IsAcceptable stmt)
    (same : SameSequences left right) : ∀ stmt ∈ right, IsAcceptable stmt := by
  intro stmt member
  by_cases role : roleOf stmt = .inert
  · simp [IsAcceptable, role]
  · refine of_sameStmts (fun stmt found => accepted stmt (List.mem_of_mem_filter found))
      (same _ role) stmt ?_
    simp [sequence, member]

section

variable [Release]

theorem baseNames_of_sameForms {bases otherBases : List Expr} {names : List String}
    (same : SameForms bases otherBases) (based : baseNames classes bases = .ok names) :
    baseNames classes otherBases = .ok names := by
  induction same generalizing names with
  | nil => exact based
  | @cons base otherBase _ _ here _ ih =>
      cases base with
      | name line text =>
          obtain ⟨_, rfl⟩ := here.exists_name
          cases known : classes.contains text with
          | false => simp [baseNames, known, bind_eq_ok_iff] at based
          | true =>
              simp only [baseNames, known, Bool.not_true, Bool.false_eq_true, if_false,
                bind_eq_ok_iff] at based ⊢
              obtain ⟨later, found, given⟩ := based
              exact ⟨later, ih found, given⟩
      | _ => simp [baseNames, bind_eq_ok_iff] at based

/-- A class statement is taken in wherever it stands. -/
theorem Enters.of_sameStmt (same : SameStmt stmt other) (enters : Enters classes stmt table) :
    Enters classes other table := by
  cases enters with
  | @intro span name arguments body bases methods ancestors fresh based scanned lined =>
      cases other with
      | classDef otherSpan otherName otherArguments otherBody =>
          obtain ⟨rfl, sameArguments, sameBody⟩ : name = otherName ∧
              Source.argumentsWithoutLines arguments = Source.argumentsWithoutLines otherArguments ∧
              Source.stmtsWithoutLines body = Source.stmtsWithoutLines otherBody := by
            simpa [SameStmt, Source.Stmt.forgetLines] using same
          have sameBases : SameForms (basesOf arguments) (basesOf otherArguments) := by
            rw [sameForms_iff, ← basesOf_forgetLines, sameArguments, basesOf_forgetLines]
          refine .intro fresh (baseNames_of_sameForms sameBases based) ?_ lined
          rwa [← methodNames_forgetLines, ← sameBody, methodNames_forgetLines]
      | _ => simp [SameStmt, Source.Stmt.forgetLines] at same

theorem EntersAll.of_sameStmt (same : List.Forall₂ SameStmt stmts others)
    (enters : EntersAll classes stmts table) : EntersAll classes others table := by
  induction same generalizing classes with
  | nil => exact enters
  | cons here _ ih =>
      cases enters with
      | cons first later => exact .cons (first.of_sameStmt here) (ih later)

/-- Aliases stand for the same types wherever they are declared. -/
theorem resolveAliases_of_samePending {pendings others : List Pending}
    {aliases resolved : Entries String Ty} (same : List.Forall₂ SamePending pendings others)
    (run : resolveAliases classes aliases pendings = .ok resolved) :
    resolveAliases classes aliases others = .ok resolved := by
  induction same generalizing aliases with
  | nil => exact run
  | cons here _ ih =>
      obtain ⟨sameName, sameHint, sameKind⟩ := samePending_iff.mp here
      rw [resolveAliases] at run ⊢
      rw [← sameKind, ← sameName]
      split at run
      · next isAlias =>
          obtain ⟨type, found, later⟩ := bind_eq_ok_iff.mp run
          rw [if_pos isAlias]
          exact bind_eq_ok_iff.mpr ⟨type, resolve_of_sameForm sameHint found, ih later⟩
      · next isValue =>
          rw [if_neg isValue]
          exact ih run

/-- Annotated names stand for the same types wherever they are annotated. -/
theorem resolveValues_of_samePending {scope : Scope} {pendings others : List Pending}
    {values resolved : Entries String Ty} (same : List.Forall₂ SamePending pendings others)
    (run : resolveValues scope values pendings = .ok resolved) :
    resolveValues scope values others = .ok resolved := by
  induction same generalizing values with
  | nil => exact run
  | cons here _ ih =>
      obtain ⟨sameName, sameHint, sameKind⟩ := samePending_iff.mp here
      rw [resolveValues] at run ⊢
      rw [← sameKind, ← sameName]
      split at run
      · next isAlias =>
          rw [if_pos isAlias]
          exact ih run
      · next isValue =>
          obtain ⟨type, found, later⟩ := bind_eq_ok_iff.mp run
          rw [if_neg isValue]
          exact bind_eq_ok_iff.mpr ⟨type, resolve_of_sameForm sameHint found, ih later⟩

/-! ## Modules -/

/-- Statements with the same sequences make the same module. -/
theorem Module.ofStmts_of_sameSequences {module : Module} (same : SameSequences left right)
    (made : Module.ofStmts file left = .ok module) : Module.ofStmts file right = .ok module := by
  rw [Module.ofStmts_eq_ok_iff] at made ⊢
  obtain ⟨accepted, table, aliases, values, entered, aliased, valued, rfl⟩ := made
  exact ⟨Draft.IsAcceptable.of_sameSequences accepted same, table, aliases, values,
    entered.of_sameStmt (same _ nofun),
    resolveAliases_of_samePending (filterMap_pendingOf?_of_sameStmt (same _ nofun)) aliased,
    resolveValues_of_samePending (filterMap_pendingOf?_of_sameStmt (same _ nofun)) valued, rfl⟩

/-- The names of a module are the annotated ones in the order of their first annotations. -/
theorem Module.names_eq {stmts : List Stmt} {module : Module}
    (made : Module.ofStmts file stmts = .ok module) :
    module.names = ((sequence .value stmts).filterMap targetName?).eraseDups := by
  obtain ⟨accepted, table, aliases, values, -, -, valued, rfl⟩ := Module.ofStmts_eq_ok_iff.mp made
  rw [filterMap_targetName? (.inr rfl) accepted, ← filter_not_isAlias_filterMap_pendingOf?]
  rw [← filter_not_isAlias_filterMap_pendingOf?, resolveValues_filter] at valued
  exact keys_of_resolveValues nodup_keys_nil valued

/-- A module is told by the sequences of some statements: the classes are the built-in ones and
those that are declared, in their order, and the names are in the order of their first annotations.
Each name has the type that its last annotation stands for, in the scope of all classes and all
aliases. -/
structure Module.GoesBySequences (module : Module) (stmts : List Stmt) : Prop where
  classes : module.classes.decls.keys =
    ClassTable.builtin.decls.keys ++ stmts.filterMap className?
  names : module.names = ((sequence .value stmts).filterMap targetName?).eraseDups
  types : ∃ aliases, resolveAliases module.classes [] (stmts.filterMap pendingOf?) = .ok aliases ∧
    aliases.keys = ((sequence .typeAlias stmts).filterMap targetName?).eraseDups ∧
    ∀ before span line name hint value after,
      stmts = before ++ .annotated span (.name line name) hint value :: after →
      hint.rootName? ≠ some "TypeAlias" →
      (∀ later ∈ sequence .value after, targetName? later ≠ some name) →
      ∃ type, resolve ⟨module.classes, aliases⟩ hint = .ok type ∧ module.value name = .ok type

theorem Module.goesBySequences_of_ofStmts {stmts : List Stmt} {module : Module}
    (made : Module.ofStmts file stmts = .ok module) : module.GoesBySequences stmts := by
  have names := Module.names_eq made
  obtain ⟨accepted, table, aliases, values, entered, aliased, valued, rfl⟩ :=
    Module.ofStmts_eq_ok_iff.mp made
  rw [← filter_isAlias_filterMap_pendingOf?, resolveAliases_filter] at aliased
  rw [← filter_not_isAlias_filterMap_pendingOf?, resolveValues_filter] at valued
  refine ⟨filterMap_className? stmts ▸ entered.keys, names, aliases, aliased, ?_, ?_⟩
  · rw [filterMap_targetName? (.inl rfl) accepted, ← filter_isAlias_filterMap_pendingOf?]
    exact keys_of_resolveAliases nodup_keys_nil aliased
  · intro before span line name hint value after split unmarked last
    have kept : pendingOf? (.annotated span (.name line name) hint value) =
        some ⟨name, hint, false⟩ := by
      rw [pendingOf?, if_neg unmarked]
    rw [split, List.filterMap_append, List.filterMap_cons_some kept] at valued
    have settled : ∀ later ∈ after.filterMap pendingOf?, later.isAlias = false →
        later.name ≠ name := by
      intro later member isValue same
      obtain ⟨stmt, inside, ofStmt⟩ := List.mem_filterMap.mp member
      refine last stmt ?_ (same ▸ targetName?_of_pendingOf? ofStmt)
      simp [sequence, inside, roleOf_of_pendingOf? ofStmt, isValue]
    obtain ⟨type, found, stored⟩ := exists_resolve_last valued rfl settled
    refine ⟨type, found, ?_⟩
    simp only [Module.value, stored]

end

/-- Only the three sequences of a stub matter: two stubs with the same classes, the same aliases and
the same annotated names, each in their order, make the same module or none, however these are mixed
with one another and with statements that declare nothing. And a module that is made, or loaded, is
told by its sequences. -/
theorem Module.only_sequences_matter [Release] :
    (∀ file left right, SameSequences left right → ∀ module,
      Module.ofStmts file left = .ok module ↔ Module.ofStmts file right = .ok module) ∧
    (∀ file source other chars otherChars left right, sourceChars source = .ok (some chars) →
      sourceChars other = .ok (some otherChars) → Source.readModule chars = .ok left →
      Source.readModule otherChars = .ok right → SameSequences left right → ∀ module,
        Module.load file source = .ok module ↔ Module.load file other = .ok module) ∧
    (∀ file stmts module, Module.ofStmts file stmts = .ok module →
      module.GoesBySequences stmts) ∧
    ∀ file source module, Module.load file source = .ok module →
      ∃ chars stmts, sourceChars source = .ok (some chars) ∧ Source.readModule chars = .ok stmts ∧
        module.GoesBySequences stmts := by
  have both (file : Text) (left right : List Stmt) (same : SameSequences left right)
      (module : Module) :
      Module.ofStmts file left = .ok module ↔ Module.ofStmts file right = .ok module :=
    ⟨Module.ofStmts_of_sameSequences same, Module.ofStmts_of_sameSequences same.symm⟩
  refine ⟨both, ?_, fun file stmts module made => Module.goesBySequences_of_ofStmts made, ?_⟩
  · intro file source other chars otherChars left right scanned scannedOther read readOther same
      module
    cases plain : file.contains .null with
    | true => simp only [Module.load, plain, if_true]
    | false =>
        rw [Module.load_of_readModule plain scanned read,
          Module.load_of_readModule plain scannedOther readOther]
        exact both file left right same module
  · intro file source module loaded
    obtain ⟨chars, stmts, scanned, read, made⟩ := Module.load_eq_ok loaded
    exact ⟨chars, stmts, scanned, read, Module.goesBySequences_of_ofStmts made⟩

/-- A statement that is made of names, so that it can be compared. -/
inductive Sketch where
  | inert (span : Source.Span)
  | classDef (span : Source.Span) (name : String) (body : Source.Span)
  | annotated (span : Source.Span) (target hint : Nat × String) (value : Option (Nat × String))
  deriving DecidableEq

namespace Sketch

/-- The statement, with the lines of its names. -/
def toStmt : Sketch → Stmt
  | inert span => .inert span
  | classDef span name body => .classDef span name [] [.inert body]
  | annotated span (line, name) (hintLine, hint) value =>
    .annotated span (.name line name) (.name hintLine hint)
      (value.map fun (line, name) => .name line name)

/-- The sketch of a statement, if it is made of names. -/
def ofStmt? : Stmt → Option Sketch
  | .inert span => some (.inert span)
  | .classDef span name [] [.inert body] => some (.classDef span name body)
  | .annotated span (.name line name) (.name hintLine hint) none =>
    some (.annotated span (line, name) (hintLine, hint) none)
  | .annotated span (.name line name) (.name hintLine hint) (some (.name valueLine value)) =>
    some (.annotated span (line, name) (hintLine, hint) (some (valueLine, value)))
  | _ => none

theorem toStmt_eq {sketch : Sketch} (found : ofStmt? stmt = some sketch) :
    sketch.toStmt = stmt := by
  revert found
  fun_cases ofStmt? stmt with
  | case5 => simp
  | _ =>
      intro found
      cases found
      rfl

theorem map_toStmt_eq {sketches : List Sketch} (found : stmts.mapM ofStmt? = some sketches) :
    sketches.map toStmt = stmts := by
  induction stmts generalizing sketches with
  | nil =>
      cases found
      rfl
  | cons stmt rest ih =>
      simp only [List.mapM_cons, Option.bind_eq_bind, Option.bind_eq_some_iff] at found
      obtain ⟨sketch, here, others, later, same⟩ := found
      cases same
      rw [List.map_cons, toStmt_eq here, ih later]

/-- Statements that are read are told by their sketches. -/
theorem eq_ok_of_sketches {failure : Type} {read : Except failure (List Stmt)}
    {sketches : List Sketch} (seen : read.toOption.bind (List.mapM ofStmt?) = some sketches) :
    read = .ok (sketches.map toStmt) := by
  cases read with
  | error => cases seen
  | ok stmts => rw [map_toStmt_eq seen]

end Sketch

set_option maxRecDepth 100000 in
/-- Two stubs of a class, an alias for it and two names, mixed in different ways. The one name is
annotated twice. -/
theorem Module.only_sequences_matter_of_mixed :
    let _release : Release := .late
    let source := "x: int\ny: B\nclass A: ...\nB: TypeAlias = A\nx: A\n"
    let other := "pass\nB: TypeAlias = A\n\nclass A: ...\nx: int\ny: B\n\nx: A\n"
    ∃ stmts others module, Source.readModule source.toList = .ok stmts ∧
      Source.readModule other.toList = .ok others ∧
      Module.ofStmts "stub.pyi" stmts = .ok module ∧
      Module.ofStmts "stub.pyi" others = .ok module ∧
      Module.load "stub.pyi" source = .ok module ∧ Module.load "stub.pyi" other = .ok module ∧
      module.names = ["x", "y"] ∧
      ∃ aliases, resolveAliases module.classes [] (stmts.filterMap pendingOf?) = .ok aliases ∧
        ∃ type, resolve ⟨module.classes, aliases⟩ (.name 5 "A") = .ok type ∧
          module.value "x" = .ok type := by
  intro release source other
  let sketches : List Sketch := [.annotated ⟨1, 1⟩ (1, "x") (1, "int") none,
    .annotated ⟨2, 2⟩ (2, "y") (2, "B") none, .classDef ⟨3, 3⟩ "A" ⟨3, 3⟩,
    .annotated ⟨4, 4⟩ (4, "B") (4, "TypeAlias") (some (4, "A")),
    .annotated ⟨5, 5⟩ (5, "x") (5, "A") none]
  let otherSketches : List Sketch := [.inert ⟨1, 1⟩,
    .annotated ⟨2, 2⟩ (2, "B") (2, "TypeAlias") (some (2, "A")), .classDef ⟨4, 4⟩ "A" ⟨4, 4⟩,
    .annotated ⟨5, 5⟩ (5, "x") (5, "int") none, .annotated ⟨6, 6⟩ (6, "y") (6, "B") none,
    .annotated ⟨8, 8⟩ (8, "x") (8, "A") none]
  let stmts : List Stmt := sketches.map Sketch.toStmt
  let others : List Stmt := otherSketches.map Sketch.toStmt
  have read : Source.readModule source.toList = .ok stmts :=
    Sketch.eq_ok_of_sketches (by decide +kernel)
  have readOther : Source.readModule other.toList = .ok others :=
    Sketch.eq_ok_of_sketches (by decide +kernel)
  have scanned : sourceChars (source : Text) = .ok (some source.toList) := by decide +kernel
  have scannedOther : sourceChars (other : Text) = .ok (some other.toList) := by decide +kernel
  have sequences : SameSequences stmts others := by
    intro role kept
    cases role with
    | inert => exact absurd rfl kept
    | classDef => exact .cons rfl .nil
    | typeAlias => exact .cons rfl .nil
    | value => exact .cons rfl (.cons rfl (.cons rfl .nil))
    | unsupported => exact .nil
  obtain ⟨same, ofSources, made, loads⟩ := Module.only_sequences_matter
  obtain ⟨module, first⟩ : ∃ module, Module.ofStmts "stub.pyi" stmts = .ok module := ⟨_, by rfl⟩
  have second := (same _ _ _ sequences module).mp first
  have loaded : Module.load "stub.pyi" source = .ok module :=
    (Module.load_of_readModule (by decide) scanned read).trans first
  have loadedOther := (ofSources _ _ _ _ _ _ _ scanned scannedOther read readOther sequences
    module).mp loaded
  obtain ⟨_, _, again, readAgain, told⟩ := loads _ _ _ loaded
  cases scanned.symm.trans again
  cases read.symm.trans readAgain
  obtain ⟨aliases, aliased, -, types⟩ := (made _ _ _ first).types
  refine ⟨stmts, others, module, read, readOther, first, second, loaded, loadedOther,
    told.names.trans (by rfl), aliases, aliased, ?_⟩
  exact types (stmts.take 4) ⟨5, 5⟩ 5 "x" (.name 5 "A") none [] rfl (by decide) (by simp)

end Stringify.Stub
