import Stringify.Proofs.Stub.Aliases
import Stringify.Proofs.Stub.Inheritance
import Stringify.Proofs.Stub.References

/-!
# Class names in hints

A class may have any name that no class above it has, and so the name of a built-in type as well.
Hints look up the built-in scalar types before the classes, and the special forms of subscripts
before the generic ones. For a class of any other name, the name and each subscript of it stand for
the instances of the class; a name that is looked up first keeps what it means without the class.
-/

namespace Stringify.Stub

open Source (Argument Expr Stmt)

variable {scope : Scope} {classes : ClassTable} {aliases : Entries String Ty} {stmts : List Stmt}
variable {value index hint : Expr} {name context : String} {file : Text} {count : Int} {form : Form}

/-! ## Names that are looked up before classes -/

/-- The type that a bare name stands for whether or not there is a class of that name. -/
def reservedType? (name : String) : Option Ty :=
  if scalarNames.contains name then some (.ofScalar name)
  else if name = "None" then some .nothing
  else if name = "Any" then some .unknown
  else none

/-- What a subscript of the given root builds whether or not there is a class of that name. -/
def reservedForm? (root : String) : Option Form :=
  if root = "Union" then some .union
  else if root = "Optional" then some .optional
  else if root = "Intersection" then some .intersection
  else if root = callableName then some .callable
  else if root = "Literal" then some .literal
  else if root = "Annotated" then some .annotated
  else none

/-- A name that is given to no alias is looked up among the reserved ones, and then as a class. -/
theorem Scope.named_of_declared (line : Nat) (unaliased : scope.aliases.get? name = none)
    (declared : scope.classes.contains name = true) :
    scope.named line name =
      match reservedType? name with
      | some type => .ok type
      | none => scope.instanceOf name name := by
  unfold Scope.named reservedType?
  simp only [unaliased, declared, if_true]
  split_ifs <;> rfl

/-- A root that is a class has one of the special forms, or else builds instances of the class. -/
theorem Scope.form_of_declared (declared : scope.classes.contains name = true) :
    scope.form (some name) = (reservedForm? name).getD (.instanceOf name) := by
  unfold reservedForm?
  simp only [Scope.form, declared, if_true]
  split_ifs <;> rfl

/-! ## Classes in the scope of annotations -/

theorem Scope.instanceOf_eq (answer : scope.classes.stringifierContext name = .ok context)
    (counted : scope.classes.callSignatures name = .ok count) (display : String) :
    scope.instanceOf name display = .ok (.ofInstance display (some context) count) := by
  rw [Scope.instanceOf, answer, counted]
  rfl

section

variable [Release]

/-- A subscript of a class has the type of its instances, under its printed form. -/
theorem resolve_instanceOf (line : Nat) (root : scope.form value.rootName? = .instanceOf name)
    (nonempty : argumentsOf index ≠ [])
    (answer : scope.classes.stringifierContext name = .ok context)
    (counted : scope.classes.callSignatures name = .ok count) :
    resolve scope (.subscript line value index) =
      (Work.print (.subscript line value index)).map (.ofInstance · (some context) count) := by
  have given : (argumentsOf index).isEmpty = false := by simpa using nonempty
  rw [resolve_eq, resolveWith_subscript]
  simp only [Scope.subscripted, given, root, Bool.false_eq_true, if_false,
    Scope.instanceOf_eq answer counted]
  cases Work.print (.subscript line value index) <;> rfl

/-- No annotation of a stub is resolved where a name that is given to no alias stands for one. -/
theorem Annotates.get?_aliases (annotates : Annotates classes stmts scope hint)
    (unaliased : ∀ pending ∈ stmts.filterMap pendingOf?, pending.isAlias = true →
      pending.name ≠ name) : scope.aliases.get? name = none := by
  cases annotates with
  | ofAlias split isAlias earlier =>
      refine get?_of_resolveAliases earlier fun pending member => unaliased pending ?_
      simp [split, member]
  | ofValue member isValue every => exact get?_of_resolveAliases every unaliased

theorem Annotates.classes_eq (annotates : Annotates classes stmts scope hint) :
    scope.classes = classes := by
  cases annotates <;> rfl

end

/-- In a stub that makes a module, take a class whose name is given to no alias. Wherever hints are
resolved, its name stands for its instances, unless it is the name of a type that is looked up
first, and then it stands for that type. A subscript of the name stands for the instances under its
printed form, unless it is the name of a special form, and then it is of that form. So an annotation
that is such a subscript can be printed. -/
theorem Module.resolve_class_names [Release] {module : Module}
    (made : Module.ofStmts file stmts = .ok module)
    (declared : module.classes.contains name = true)
    (unaliased : ∀ pending ∈ stmts.filterMap pendingOf?, pending.isAlias = true →
      pending.name ≠ name) :
    ∃ context count, module.classes.stringifierContext name = .ok context ∧
      module.classes.callSignatures name = .ok count ∧
      ∀ scope hint, Annotates module.classes stmts scope hint →
        (∀ line, resolve scope (.name line name) =
          .ok ((reservedType? name).getD (.ofInstance name (some context) count))) ∧
        ∀ line value index, value.rootName? = some name → argumentsOf index ≠ [] →
          (reservedForm? name = none →
            resolve scope (.subscript line value index) =
              (Work.print (.subscript line value index)).map (.ofInstance · (some context) count) ∧
            (hint = .subscript line value index → ∃ display, Work.print hint = .ok display ∧
              resolve scope hint = .ok (.ofInstance display (some context) count))) ∧
          ∀ form, reservedForm? name = some form → scope.form value.rootName? = form := by
  obtain ⟨draft, values, run, _, rfl⟩ := Module.ofStmts_eq_ok made
  have ordered : draft.classes.WellOrdered := by
    rw [Draft.addStmts_eq_ok run]
    exact Draft.wellOrdered_after ClassTable.wellOrdered_builtin stmts
  obtain ⟨_, context, count, _, answer, counted, _⟩ := ordered.exists_answers declared
  refine ⟨context, count, answer, counted, fun scope hint annotates => ?_⟩
  obtain ⟨_, type, resolved⟩ := exists_resolve_of_annotates made annotates
  have free := annotates.get?_aliases unaliased
  dsimp only at annotates declared
  rw [← annotates.classes_eq] at declared answer counted
  refine ⟨fun line => ?_, fun line value index root nonempty => ⟨fun unreserved => ?_, ?_⟩⟩
  · rw [resolve_name, Scope.named_of_declared line free declared]
    cases reservedType? name with
    | some type => rfl
    | none => exact Scope.instanceOf_eq answer counted name
  · have form : scope.form value.rootName? = .instanceOf name := by
      rw [root, Scope.form_of_declared declared, unreserved]
      rfl
    have built := resolve_instanceOf line form nonempty answer counted
    refine ⟨built, ?_⟩
    rintro rfl
    rw [built] at resolved ⊢
    cases printed : Work.print (.subscript line value index) with
    | error stop =>
        rw [printed] at resolved
        cases resolved
    | ok display => exact ⟨display, rfl, rfl⟩
  · intro form reserved
    rw [root, Scope.form_of_declared declared, reserved]
    rfl

/-- The subscripts of a class that declares its own conversion to text stand for its instances. -/
theorem Module.resolve_class_names_subscript :
    let _release : Release := .late
    let hint : Expr := .subscript 3 (.name 3 "Box") (.name 3 "int")
    let stmts : List Stmt := [.classDef ⟨1, 2⟩ "Box" [] [.functionDef ⟨2, 2⟩ false "__str__" []],
      .annotated ⟨3, 3⟩ (.name 3 "x") hint none]
    ∃ module, Module.ofStmts "stub.pyi" stmts = .ok module ∧
      module.classes.contains "Box" = true ∧
      (∀ pending ∈ stmts.filterMap pendingOf?, pending.isAlias = true → pending.name ≠ "Box") ∧
      Annotates module.classes stmts ⟨module.classes, []⟩ hint ∧
      module.classes.stringifierContext "Box" = .ok "Box" ∧
      resolve ⟨module.classes, []⟩ (.name 3 "Box") = .ok (.ofInstance "Box" (some "Box") 0) ∧
      resolve ⟨module.classes, []⟩ hint = .ok (.ofInstance "Box[int]" (some "Box") 0) := by
  intro release hint stmts
  have made : ∃ module, Module.ofStmts "stub.pyi" stmts = .ok module ∧
      module.classes.contains "Box" = true ∧
      module.classes.stringifierContext "Box" = .ok "Box" ∧
      module.classes.callSignatures "Box" = .ok 0 := ⟨_, by rfl, by rfl, by rfl, by rfl⟩
  obtain ⟨module, made, declared, converted, uncalled⟩ := made
  have kept : stmts.filterMap pendingOf? = [⟨"x", hint, false⟩] := by rfl
  have unaliased : ∀ pending ∈ stmts.filterMap pendingOf?,
      pending.isAlias = true → pending.name ≠ "Box" := by
    simp [kept]
  have annotates : Annotates module.classes stmts ⟨module.classes, []⟩ hint := by
    refine @Annotates.ofValue _ module.classes stmts ⟨"x", hint, false⟩ [] ?_ rfl ?_
    · simp [kept]
    · rw [kept]
      rfl
  obtain ⟨context, count, answer, counted, resolved⟩ :=
    Module.resolve_class_names made declared unaliased
  obtain rfl := Except.ok.inj (answer.symm.trans converted)
  obtain rfl := Except.ok.inj (counted.symm.trans uncalled)
  obtain ⟨bare, subscripts⟩ := resolved _ hint annotates
  obtain ⟨display, printed, built⟩ :=
    ((subscripts 3 (.name 3 "Box") (.name 3 "int") rfl (by simp [argumentsOf])).1 (by rfl)).2 rfl
  have shown : Work.print hint = .ok "Box[int]" := by rfl
  obtain rfl := Except.ok.inj (printed.symm.trans shown)
  exact ⟨module, made, declared, unaliased, annotates, converted, bare 3, built⟩

/-- A class may be named like a scalar type, and its name still stands for that type: values that no
class converts to text are then taken for useful. The subscripts of the name stand for the class. -/
theorem Module.resolve_scalar_class_name :
    let _release : Release := .late
    let hint : Expr := .name 2 "int"
    let subscript : Expr := .subscript 3 hint (.name 3 "str")
    let stmts : List Stmt := [.classDef ⟨1, 1⟩ "int" [] [.inert ⟨1, 1⟩],
      .annotated ⟨2, 2⟩ (.name 2 "x") hint none, .annotated ⟨3, 3⟩ (.name 3 "y") subscript none]
    ∃ module, Module.ofStmts "stub.pyi" stmts = .ok module ∧
      module.classes.contains "int" = true ∧
      (∀ pending ∈ stmts.filterMap pendingOf?, pending.isAlias = false) ∧
      module.classes.stringifierContext "int" = .ok Ty.rootName ∧
      module.classes.callSignatures "int" = .ok 0 ∧
      module.values = [("x", .ofScalar "int"), ("y", .ofInstance "int[str]" (some Ty.rootName) 0)] ∧
      resolve ⟨module.classes, []⟩ hint = .ok (.ofScalar "int") ∧
      Ty.ofScalar "int" ≠ .ofInstance "int" (some Ty.rootName) 0 ∧
      (Ty.ofScalar "int").classify ⟨[], [], false⟩ = .always ∧
      (Ty.ofInstance "int" (some Ty.rootName) 0).classify ⟨[], [], false⟩ = .never := by
  intro release hint subscript stmts
  refine ⟨_, by rfl, by rfl, ?_, by rfl, by rfl, by rfl, by rfl, by decide, by rfl, by rfl⟩
  have kept : stmts.filterMap pendingOf? = [⟨"x", hint, false⟩, ⟨"y", subscript, false⟩] := by rfl
  simp [kept]

/-- Likewise a class may be named like a special form: its name stands for the instances, and a
subscript of it for the type that the form builds. -/
example [Release] :
    let scope : Scope := ⟨ClassTable.builtin.enter ⟨"Callable", ["object"], false, false⟩
      ["Callable", "object"], []⟩
    resolve scope (.name 1 "Callable") = .ok (.ofInstance "Callable" (some "object") 0) ∧
      resolve scope (.subscript 1 (.name 1 "Callable") (.name 1 "int")) =
        .ok (.ofFunction "Callable[int]") :=
  ⟨by rfl, by rfl⟩

end Stringify.Stub
