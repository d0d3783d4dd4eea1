import Stringify.Proofs.Stub.Annotations
import Stringify.Proofs.Ty.Grouping

/-!
# The types of annotated names

The annotated names of a stub have normal types, like everything the constructors make. Normal types
may be composed in any grouping.
-/

namespace Stringify.Stub

open Source (Expr Stmt)

variable {scope : Scope} {pendings : List Pending} {values resolved : Entries String Ty}

/-- Annotated names are given normal types. -/
theorem normal_of_resolveValues [Release] (normal : scope.IsNormal)
    (known : ∀ name type, values.get? name = some type → type.Normal)
    (run : resolveValues scope values pendings = .ok resolved) :
    ∀ name type, resolved.get? name = some type → type.Normal :=
  forall_of_resolveValues (fun _ _ _ found => normal_of_resolveWithin normal found) known run

theorem Module.normal_of_ofStmts [Release] {file : Text} {stmts : List Stmt} {module : Module}
    (made : Module.ofStmts file stmts = .ok module) :
    ∀ name type, module.values.get? name = some type → type.Normal := by
  rcases exists_aliases_of_ofStmts made with ⟨aliases, every, rest⟩
  have empty : Scope.IsNormal ⟨module.classes, []⟩ := by simp [Scope.IsNormal]
  refine normal_of_resolveValues (isNormal_of_resolveAliases empty every) ?_ rest
  simp

/-- What the constructors make is normal, and so is what the statements of a stub, a loaded one in
particular, annotate a name with. A normal type alone or twice is its own composition, a repeated
operand adds nothing, and any grouping of the operands gives the composition of all of them. -/
theorem normal_types_compose_in_any_grouping [Release] :
    (∀ type, Ty.Built type → type.Normal) ∧
    (∀ file stmts module, Module.ofStmts file stmts = .ok module →
      ∀ name type, module.values.get? name = some type → type.Normal) ∧
    (∀ file source module, Module.load file source = .ok module →
      ∀ name type, module.values.get? name = some type → type.Normal) ∧
    (∀ composition (a b c : Ty), a.Normal → b.Normal → c.Normal →
      Ty.compose? composition [a] = some a ∧ Ty.compose? composition [a, a] = some a ∧
      (∃ ab, Ty.compose? composition [a, b] = some ab ∧
        Ty.compose? composition [a, b, a] = some ab) ∧
      ∃ ab bc abc, Ty.compose? composition [a, b] = some ab ∧
        Ty.compose? composition [b, c] = some bc ∧ Ty.compose? composition [ab, c] = some abc ∧
        Ty.compose? composition [a, bc] = some abc ∧
        Ty.compose? composition [a, b, c] = some abc) ∧
    ∀ composition operands type, (∀ operand ∈ operands, operand.Normal) →
      Ty.Grouping composition operands type → Ty.compose? composition operands = some type := by
  refine ⟨fun _ built => built.normal, fun _ _ _ made => Module.normal_of_ofStmts made, ?_, ?_,
    fun _ _ _ normal grouping => grouping.compose?_eq normal⟩
  · intro file source module loaded
    rcases Module.load_eq_ok loaded with ⟨_, stmts, _, _, made⟩
    exact Module.normal_of_ofStmts made
  · intro composition a b c normalA normalB normalC
    have nonempty : ∀ (first : Ty) rest, first :: rest ≠ [] := by simp
    have pairAB : ∀ part ∈ [a, b], part.Normal := by simp [normalA, normalB]
    have pairBC : ∀ part ∈ [b, c], part.Normal := by simp [normalB, normalC]
    have alone (type : Ty) (normal : type.Normal) := normal.compose?_singleton composition
    rcases Ty.exists_compose? (nonempty a [b]) pairAB with ⟨ab, madeAB⟩
    rcases Ty.exists_compose? (nonempty b [c]) pairBC with ⟨bc, madeBC⟩
    have twice : Ty.compose? composition [a, a] = some a := by
      rw [← alone a normalA]
      exact Ty.compose?_congr (Ty.flatten_append_of_subset (List.Subset.refl [a]))
    have again : Ty.compose? composition [a, b, a] = some ab := by
      rw [← madeAB]
      exact Ty.compose?_congr (Ty.flatten_append_of_subset (by simp : [a] ⊆ [a, b]))
    rcases Ty.exists_compose?_pair pairAB (by simp [normalC]) madeAB (alone c normalC) with
      ⟨abc, leftFirst, whole⟩
    rcases Ty.exists_compose?_pair (by simp [normalA]) pairBC (alone a normalA) madeBC with
      ⟨_, rightFirst, wholeToo⟩
    obtain rfl := Option.some.inj (wholeToo.symm.trans whole)
    exact ⟨alone a normalA, twice, ⟨ab, madeAB, again⟩,
      ab, bc, _, madeAB, madeBC, leftFirst, rightFirst, whole⟩

/-- A number or a text, written with the number on both sides, is composed of two parts. -/
theorem normal_types_compose_in_any_grouping_intOrStr :
    let _release : Release := .late
    let number : Ty := .ofScalar "int"
    let text : Ty := .ofScalar "str"
    let either : Ty := .composite .union [number, text]
    let hint : Expr := .binary 1 (.binary 1 (.name 1 "int") .bitOr (.name 1 "str")) .bitOr
      (.name 1 "int")
    let stmts : List Stmt := [.annotated ⟨1, 1⟩ (.name 1 "x") hint none]
    (Ty.Built either ∧ either.Normal) ∧
    (∃ module, Module.ofStmts "stub.pyi" stmts = .ok module ∧
      module.values.get? "x" = some either ∧ either.Normal) ∧
    (∃ ab bc abc, Ty.compose? .union [number, text] = some ab ∧
      Ty.compose? .union [text, number] = some bc ∧ Ty.compose? .union [ab, number] = some abc ∧
      Ty.compose? .union [number, bc] = some abc ∧
      Ty.compose? .union [number, text, number] = some abc) ∧
    Ty.Grouping .union [number, text, number] either ∧
    Ty.compose? .union [number, text, number] = some either := by
  intro release number text either hint stmts
  rcases normal_types_compose_in_any_grouping with ⟨ofBuilt, ofMade, -, algebra, ofGrouping⟩
  have composed : Ty.compose? .union [number, text] = some either := by rfl
  have builtNumber : Ty.Built number := .ofScalar "int"
  have builtText : Ty.Built text := .ofScalar "str"
  have built : Ty.Built either :=
    .composed (by simp [builtNumber, builtText]) composed
  have made : Module.ofStmts "stub.pyi" stmts = .ok ⟨"stub.pyi", .builtin, [("x", either)]⟩ := by
    rfl
  have groups : ∀ group ∈ [([number, text], either), ([number], number)],
      Ty.Grouping .union group.1 group.2 := by
    simp [Ty.Grouping.of_compose? composed, Ty.Grouping.operand]
  have grouping : Ty.Grouping .union [number, text, number] either := .composed groups (by rfl)
  have normalNumber := ofBuilt number builtNumber
  have normalText := ofBuilt text builtText
  refine ⟨⟨built, ofBuilt either built⟩, ⟨_, made, rfl, ofMade _ _ _ made "x" either rfl⟩, ?_,
    grouping, ofGrouping _ _ _ (by simp [normalNumber, normalText]) grouping⟩
  exact (algebra .union number text number normalNumber normalText normalNumber).2.2.2

end Stringify.Stub
