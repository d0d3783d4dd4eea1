import Stringify.Proofs.Stub.Declarations
import Stringify.Proofs.Ty.Classify
import Stringify.Stub.Hint

/-!
# Inherited conversions and calls

What the instances of a class can do is decided by the classes that are reached from it through
bases, in whatever way they are: the conversion to text is not the one of the root when some other
class that is reached declares one, and instances can be called when some class that is reached
makes them callable. Both the rules and the line of ancestors agree with that, for the line holds
exactly what is reached and ends in the root.
-/

namespace Stringify.Stub

namespace ClassTable

variable {table : ClassTable} {name ancestor context : String} {line : List String}

/-- A class that is reached from the given one, other than the root, declares a conversion to
text. -/
def ConvertsText (table : ClassTable) (name : String) : Prop :=
  ∃ ancestor, table.Reaches name ancestor ∧ ancestor ≠ Ty.rootName ∧
    table.declaresStringifier ancestor = true

/-- A class that is reached from the given one makes its instances callable. -/
def IsCallable (table : ClassTable) (name : String) : Prop :=
  ∃ ancestor, table.Reaches name ancestor ∧ table.declaresCall ancestor = true

/-- A class is the first in a line that declares a conversion to text. -/
def IsFirstDeclaring (table : ClassTable) (line : List String) (context : String) : Prop :=
  table.declaresStringifier context = true ∧ ∃ before after, line = before ++ context :: after ∧
    ∀ ancestor ∈ before, table.declaresStringifier ancestor = false

theorem isFirstDeclaring_of_find? (first : line.find? table.declaresStringifier = some context) :
    table.IsFirstDeclaring line context := by
  obtain ⟨declares, before, after, split, others⟩ := List.find?_eq_some_iff_append.mp first
  refine ⟨declares, before, after, split, fun ancestor member => ?_⟩
  simpa using others ancestor member

namespace WellOrdered

/-- The line of a class holds what is reached from it. -/
theorem mem_line_iff_reaches (ordered : table.WellOrdered)
    (found : table.lines.get? name = some line) :
    ancestor ∈ line ↔ table.Reaches name ancestor := by
  rw [(ordered.ancestry name line found).mem_iff]
  constructor
  · exact fun member => member.2
  · intro reached
    exact ⟨ordered.contains_of_reaches (ordered.contains_of_line found) reached, reached⟩

/-- The root is the first to declare a conversion to text when nothing else that is reached does,
because it stands last. -/
theorem eq_rootName_iff (ordered : table.WellOrdered)
    (found : table.lines.get? name = some line) (first : table.IsFirstDeclaring line context) :
    context = Ty.rootName ↔ ¬table.ConvertsText name := by
  obtain ⟨declares, before, after, split, others⟩ := first
  have ancestry := ordered.ancestry name line found
  constructor
  · rintro rfl ⟨ancestor, reached, other, declared⟩
    have alone : after = [] := by
      cases after with
      | nil => rfl
      | cons next rest =>
          have again : Ty.rootName ∈ next :: rest := by
            apply List.mem_of_getLast?
            simpa [split, List.getLast?_append] using ancestry.last
          have distinct := (List.nodup_append.mp (split ▸ ancestry.nodup)).2.1
          exact absurd again (List.nodup_cons.mp distinct).1
    have member := (ordered.mem_line_iff_reaches found).mpr reached
    have earlier : ancestor ∈ before := by simpa [split, alone, other] using member
    simp [others ancestor earlier] at declared
  · intro none
    by_contra other
    have member : context ∈ line := by simp [split]
    exact none ⟨context, (ordered.mem_line_iff_reaches found).mp member, other, declares⟩

theorem any_declaresCall_iff (ordered : table.WellOrdered)
    (found : table.lines.get? name = some line) :
    line.any table.declaresCall = true ↔ table.IsCallable name := by
  simp [IsCallable, ordered.mem_line_iff_reaches found]

/-- The answers about a class, in terms of the classes that are reached from it. -/
theorem exists_answers (ordered : table.WellOrdered) (declared : table.contains name = true) :
    ∃ line context count, table.line name = .ok line ∧
      table.stringifierContext name = .ok context ∧ table.callSignatures name = .ok count ∧
      table.Reaches name context ∧ table.IsFirstDeclaring line context ∧
      (context = Ty.rootName ↔ ¬table.ConvertsText name) ∧
      (table.IsCallable name → count = 1) ∧ (¬table.IsCallable name → count = 0) := by
  obtain ⟨line, found⟩ := ordered.exists_line declared
  obtain ⟨context, first, answer⟩ := ordered.stringifierContext_eq found
  have firstDeclaring := isFirstDeclaring_of_find? first
  refine ⟨line, context, _, line_eq_ok_iff.mpr found, answer,
    ordered.callSignatures_eq found, ?_, firstDeclaring,
    ordered.eq_rootName_iff found firstDeclaring, ?_, ?_⟩
  · exact (ordered.mem_line_iff_reaches found).mp (List.mem_of_find?_eq_some first)
  · intro callable
    rw [if_pos ((ordered.any_declaresCall_iff found).mpr callable)]
  · intro uncallable
    rw [if_neg (mt (ordered.any_declaresCall_iff found).mp uncallable)]

end WellOrdered

end ClassTable

/-! ## Verdicts -/

/-- The verdict of the instances of a class whose conversion the context declares. -/
theorem classify_ofInstance (settings : Settings) (display context : String) (count : Int) :
    (Ty.ofInstance display (some context) count).classify settings =
      if settings.rejectFunctions = true ∧ 0 < count then .function
      else if context = Ty.rootName ∧ settings.ignores display = false then .never
      else .always := by
  have rooted : (Ty.leaf (.object ⟨display, [some context], count⟩)).isRooted =
      decide (context = Ty.rootName) := by
    simp [Ty.isRooted, Ty.contexts, Leaf.contexts, Ty.isRoot, beq_eq_decide]
  rw [Ty.ofInstance, Ty.classify_leaf, rooted]
  simp [Leaf.hasCallSignatures, Leaf.isBooleanLike, Leaf.name]

/-- What is reached from a class decides the verdict of its instances, under whatever name. -/
theorem exists_instanceOf {classes : ClassTable} (ordered : classes.WellOrdered) {name : String}
    (declared : classes.contains name = true) (aliases : Entries String Ty) (display : String) :
    ∃ type, Scope.instanceOf ⟨classes, aliases⟩ name display = .ok type ∧ ∀ settings : Settings,
      (type.classify settings = .function ↔
        settings.rejectFunctions = true ∧ classes.IsCallable name) ∧
      (¬(settings.rejectFunctions = true ∧ classes.IsCallable name) →
        (type.classify settings = .never ↔
          ¬classes.ConvertsText name ∧ settings.ignores display = false) ∧
        (type.classify settings = .always ↔
          classes.ConvertsText name ∨ settings.ignores display = true)) := by
  obtain ⟨_, context, count, _, answer, counted, _, _, rooted, callable, uncallable⟩ :=
    ordered.exists_answers declared
  have positive : 0 < count ↔ classes.IsCallable name := by
    by_cases called : classes.IsCallable name
    · simp [called, callable called]
    · simp [called, uncallable called]
  refine ⟨.ofInstance display (some context) count, ?_, fun settings => ?_⟩
  · simp only [Scope.instanceOf, Work.ofFault, bind_eq_ok_iff, mapError_eq_ok_iff, pure_eq_ok_iff]
    exact ⟨context, answer, count, counted, rfl⟩
  · have verdict := classify_ofInstance settings display context count
    by_cases rejected : settings.rejectFunctions = true ∧ classes.IsCallable name
    · rw [if_pos (rejected.imp_right positive.mpr)] at verdict
      simp [verdict, rejected]
    · rw [if_neg (mt (And.imp_right positive.mp) rejected)] at verdict
      by_cases useless : context = Ty.rootName ∧ settings.ignores display = false
      · rw [if_pos useless] at verdict
        simp [verdict, rejected, rooted.mp useless.1, useless.2]
      · rw [if_neg useless] at verdict
        have useful : classes.ConvertsText name ∨ settings.ignores display = true := by
          simpa [rooted, imp_iff_not_or] using useless
        rcases useful with converts | ignored
        · simp [verdict, rejected, converts]
        · simp [verdict, rejected, ignored]

/-- Every question about the classes of a table is decided by the classes that are reached, as some
statements have them. -/
structure ClassTable.GoesByReach (table : ClassTable) (stmts : List Source.Stmt) : Prop where
  isOf : table.IsOf stmts
  /-- The conversion to text is the one of the root exactly when no other class that is reached
  declares one, else that of the first class in line that does. Instances can be called exactly when
  some class that is reached says so. -/
  answers : ∀ name, table.contains name = true →
    ∃ line context count, table.line name = .ok line ∧
      table.stringifierContext name = .ok context ∧ table.callSignatures name = .ok count ∧
      table.Reaches name context ∧ table.IsFirstDeclaring line context ∧
      (context = Ty.rootName ↔ ¬table.ConvertsText name) ∧
      (table.IsCallable name → count = 1) ∧ (¬table.IsCallable name → count = 0)
  /-- The verdict of the instances of a class, under whatever name. -/
  verdicts : ∀ name, table.contains name = true → ∀ aliases display, ∃ type,
    Scope.instanceOf ⟨table, aliases⟩ name display = .ok type ∧ ∀ settings : Settings,
      (type.classify settings = .function ↔
        settings.rejectFunctions = true ∧ table.IsCallable name) ∧
      (¬(settings.rejectFunctions = true ∧ table.IsCallable name) →
        (type.classify settings = .never ↔
          ¬table.ConvertsText name ∧ settings.ignores display = false) ∧
        (type.classify settings = .always ↔
          table.ConvertsText name ∨ settings.ignores display = true))

theorem Module.goesByReach_of_ofStmts [Release] {file : Text} {stmts : List Source.Stmt}
    {module : Module} (loaded : Module.ofStmts file stmts = .ok module) :
    module.classes.GoesByReach stmts := by
  obtain ⟨draft, values, run, _, rfl⟩ := Module.ofStmts_eq_ok loaded
  have ordered : draft.classes.WellOrdered := by
    rw [Draft.addStmts_eq_ok run]
    exact Draft.wellOrdered_after ClassTable.wellOrdered_builtin stmts
  exact ⟨Draft.isOf_of_addStmts run, fun name declared => ordered.exists_answers declared,
    fun name declared => exists_instanceOf ordered declared⟩

/-- In the module of some statements, and so in a stub that is loaded, every question about a class
and the verdict of its instances are decided by the classes that are reached from it. -/
theorem Module.verdict_of_reaches [Release] (file : Text) :
    (∀ stmts module, Module.ofStmts file stmts = .ok module →
      module.classes.GoesByReach stmts) ∧
    ∀ source module, Module.load file source = .ok module →
      ∃ chars stmts, sourceChars source = .ok (some chars) ∧ Source.readModule chars = .ok stmts ∧
        Module.ofStmts file stmts = .ok module ∧ module.classes.GoesByReach stmts := by
  refine ⟨fun stmts module loaded => Module.goesByReach_of_ofStmts loaded, ?_⟩
  intro source module loaded
  obtain ⟨chars, stmts, scanned, read, made⟩ := Module.load_eq_ok loaded
  exact ⟨chars, stmts, scanned, read, made, Module.goesByReach_of_ofStmts made⟩

set_option maxRecDepth 100000 in
/-- `B` has the conversion of its base `A` and can be called; `C` has only that of the root. -/
theorem Module.verdict_of_reaches_inherited :
    let _release : Release := .late
    let source : Text :=
      "class A:\n def __str__(self): ...\nclass B(A):\n def __call__(self): ...\nclass C: ...\n"
    ∃ module stmts, Module.load "derived.pyi" source = .ok module ∧
      Module.ofStmts "derived.pyi" stmts = .ok module ∧ module.classes.IsOf stmts ∧
      module.classes.stringifierContext "B" = .ok "A" ∧
      module.classes.callSignatures "B" = .ok 1 ∧ module.classes.Reaches "B" "A" ∧
      module.classes.stringifierContext "C" = .ok "object" ∧ ¬module.classes.ConvertsText "C" ∧
      ∃ b c, Scope.instanceOf ⟨module.classes, []⟩ "B" "B" = .ok b ∧
        Scope.instanceOf ⟨module.classes, []⟩ "C" "C" = .ok c ∧ ∀ settings : Settings,
          (settings.rejectFunctions = true → b.classify settings = .function) ∧
          (settings.rejectFunctions = false → b.classify settings = .always ∧
            (c.classify settings = .never ↔ settings.ignores "C" = false)) := by
  intro release source
  have seen : (Module.load "derived.pyi" source).toOption.map (fun module =>
      ["B", "C"].map fun name => (module.classes.contains name,
        module.classes.stringifierContext name, module.classes.callSignatures name)) =
        some [(true, .ok "A", .ok 1), (true, .ok "object", .ok 0)] := by
    decide +kernel
  obtain ⟨module, loaded, seen⟩ := toOption_map_eq_some_iff.mp seen
  simp only [List.map_cons, List.map_nil, List.cons.injEq, Prod.mk.injEq, and_true] at seen
  obtain ⟨⟨knownB, textB, callsB⟩, knownC, textC, callsC⟩ := seen
  obtain ⟨-, read⟩ := Module.verdict_of_reaches "derived.pyi"
  obtain ⟨_, stmts, _, _, made, is, answers, verdicts⟩ := read source module loaded
  obtain ⟨_, b, calls, _, sameB, countB, reachesB, _, rootB, _, uncalledB⟩ := answers "B" knownB
  obtain ⟨_, c, _, _, sameC, countC, _, _, rootC, _, _⟩ := answers "C" knownC
  obtain ⟨typeB, builtB, verdictB⟩ := verdicts "B" knownB [] "B"
  obtain ⟨typeC, builtC, verdictC⟩ := verdicts "C" knownC [] "C"
  cases sameB.symm.trans textB
  cases sameC.symm.trans textC
  cases countB.symm.trans callsB
  cases countC.symm.trans callsC
  have convertsB : module.classes.ConvertsText "B" := by
    by_contra none
    exact absurd (rootB.mpr none) (by decide)
  have callableB : module.classes.IsCallable "B" := by
    by_contra none
    exact absurd (uncalledB none) (by decide)
  have plainC : ¬module.classes.ConvertsText "C" := rootC.mp rfl
  refine ⟨module, stmts, loaded, made, is, textB, callsB, reachesB, textC, plainC, typeB, typeC,
    builtB, builtC, fun settings => ⟨?_, ?_⟩⟩
  · exact fun rejects => (verdictB settings).1.mpr ⟨rejects, callableB⟩
  · intro accepts
    have notRejected : ∀ {callable : Prop}, ¬(settings.rejectFunctions = true ∧ callable) := by
      simp [accepts]
    refine ⟨((verdictB settings).2 notRejected).2.mpr (.inl convertsB), ?_⟩
    rw [((verdictC settings).2 notRejected).1]
    exact and_iff_right plainC

end Stringify.Stub
