import Stringify.Proofs.Ty.Normal
import Stringify.Ty.Literal

/-!
# Compositions of compositions

A composition depends on its operands only through their members, each counted where it is met
first. The members of a composition of normal types are those of its operands together. So operands
may be composed in groups, the groups in groups again, and operands may be repeated: the composed
type is the same.
-/

namespace Stringify.Ty

variable {composition : Composition} {type : Ty} {types others : List Ty}

/-! ## Flattening -/

theorem flatten_append_of_subset (known : others ⊆ types) :
    flatten composition (types ++ others) = flatten composition types := by
  rw [flatten, List.flatMap_append]
  apply eraseDups_append_of_subset
  intro member inside
  rcases List.mem_flatMap.mp inside with ⟨type, given, contributed⟩
  exact List.mem_flatMap.mpr ⟨type, known given, contributed⟩

/-- Types with the members of a group each are flattened like the groups put together. -/
theorem flatten_groups {groups : List (List Ty × Ty)}
    (each : ∀ group ∈ groups, members composition group.2 = flatten composition group.1) :
    flatten composition (groups.map Prod.snd) =
      flatten composition (groups.flatMap Prod.fst) := by
  induction groups with
  | nil => rfl
  | cons group rest ih =>
      rw [List.forall_mem_cons] at each
      simp only [flatten, List.map_cons, List.flatMap_cons, List.flatMap_append] at ih each ⊢
      apply eraseDups_append_congr
      · rw [each.1, eraseDups_eq_self (nodup_eraseDups _)]
      · exact ih each.2

theorem compose?_congr (same : flatten composition types = flatten composition others) :
    compose? composition types = compose? composition others := by
  unfold compose?
  rw [same]

theorem Normal.nodup_members (normal : type.Normal) (composition : Composition) :
    (members composition type).Nodup := by
  cases normal with
  | leaf shape => simp
  | @composite own parts several nodup flat each =>
      by_cases same : own = composition
      · subst same
        rwa [members_composite_self]
      · simp [members_composite_of_ne same]

/-- A normal type alone is its own composition. -/
theorem Normal.compose?_singleton (normal : type.Normal) (composition : Composition) :
    compose? composition [type] = some type := by
  have flattened : flatten composition [type] = members composition type := by
    rw [flatten, List.flatMap_singleton, eraseDups_eq_self (normal.nodup_members composition)]
  unfold compose?
  rw [flattened]
  cases normal with
  | leaf shape => rfl
  | @composite own parts several nodup flat each =>
      by_cases same : own = composition
      · subst same
        rw [members_composite_self]
        cases parts with
        | nil => simp at several
        | cons first rest =>
            cases rest with
            | nil => simp at several
            | cons second rest => rfl
      · rw [members_composite_of_ne same]

/-! ## Groups -/

/-- A type is made of operands by compositions of one kind: an operand alone is, and so is the
composition of types that are made of a group of operands each. -/
inductive Grouping (composition : Composition) : List Ty → Ty → Prop where
  | operand (type : Ty) : Grouping composition [type] type
  | composed {groups : List (List Ty × Ty)} {type : Ty}
      (each : ∀ group ∈ groups, Grouping composition group.1 group.2)
      (built : compose? composition (groups.map Prod.snd) = some type) :
      Grouping composition (groups.flatMap Prod.fst) type

/-- However the operands are grouped, the type is the composition of all of them. -/
theorem Grouping.compose?_eq {operands : List Ty} (grouping : Grouping composition operands type)
    (normal : ∀ operand ∈ operands, operand.Normal) :
    compose? composition operands = some type := by
  induction grouping with
  | operand type => exact (normal type (by simp)).compose?_singleton composition
  | @composed groups type each built ih =>
      rw [← built]
      apply compose?_congr
      refine (flatten_groups fun group member => ?_).symm
      have inside : ∀ operand ∈ group.1, operand.Normal := by
        intro operand given
        exact normal operand (List.mem_flatMap.mpr ⟨group, member, given⟩)
      exact (normal_of_compose? inside (ih group member inside)).2

/-- Without groups inside one another, the operands are composed at once. -/
theorem Grouping.of_compose? (built : compose? composition types = some type) :
    Grouping composition types type := by
  have alone : ∀ group ∈ types.map (fun operand => ([operand], operand)),
      Grouping composition group.1 group.2 := by
    intro group member
    rcases List.mem_map.mp member with ⟨operand, _, rfl⟩
    exact .operand operand
  have whole : compose? composition
      ((types.map fun operand => ([operand], operand)).map Prod.snd) = some type := by
    simpa [Function.comp_def] using built
  simpa [List.flatMap_map] using Grouping.composed alone whole

/-- Two groups that are composed each are composed together to what all operands are. -/
theorem exists_compose?_pair {former latter : List Ty} {one other : Ty}
    (normalFormer : ∀ operand ∈ former, operand.Normal)
    (normalLatter : ∀ operand ∈ latter, operand.Normal)
    (ofFormer : compose? composition former = some one)
    (ofLatter : compose? composition latter = some other) :
    ∃ type, compose? composition [one, other] = some type ∧
      compose? composition (former ++ latter) = some type := by
  have normal : ∀ part ∈ [one, other], part.Normal := by
    simp [(normal_of_compose? normalFormer ofFormer).1,
      (normal_of_compose? normalLatter ofLatter).1]
  have whole : ∃ type, compose? composition [one, other] = some type :=
    exists_compose? (by simp) normal
  rcases whole with ⟨type, built⟩
  have both : ∀ group ∈ [(former, one), (latter, other)],
      Grouping composition group.1 group.2 := by
    simp [Grouping.of_compose? ofFormer, Grouping.of_compose? ofLatter]
  have grouping : Grouping composition (former ++ latter) type := by
    simpa using Grouping.composed both built
  have each := List.forall_mem_append.mpr ⟨normalFormer, normalLatter⟩
  exact ⟨type, built, grouping.compose?_eq each⟩

/-! ## Constructors -/

/-- The types that the constructors make of each other. -/
inductive Built : Ty → Prop where
  | ofScalar (name : String) : Built (.ofScalar name)
  | ofLiteral {literal : Literal} {type : Ty} (shown : literal.type? = some type) : Built type
  | ofInstance (name : String) (context : Option String) (callSignatures : Int) :
      Built (.ofInstance name context callSignatures)
  | ofFunction (name : String) : Built (.ofFunction name)
  | nothing : Built .nothing
  | unknown : Built .unknown
  | object : Built .object
  | composed {composition : Composition} {types : List Ty} {type : Ty}
      (each : ∀ part ∈ types, Built part) (built : compose? composition types = some type) :
      Built type

theorem Built.normal (built : Built type) : type.Normal := by
  induction built with
  | ofScalar name => exact .leaf _
  | ofLiteral shown =>
      rcases Option.map_eq_some_iff.mp shown with ⟨display, _, rfl⟩
      exact .leaf _
  | ofInstance name context callSignatures => exact .leaf _
  | ofFunction name => exact .leaf _
  | nothing => exact .leaf _
  | unknown => exact .leaf _
  | object => exact .leaf _
  | composed each built ih => exact (normal_of_compose? ih built).1

end Stringify.Ty
