import Stringify.Proofs.Ty.Compositional
import Stringify.Proofs.Ty.Normal

/-!
# What compositions answer

A composition is built flat and without repetitions, and may be one of its members or a type that is
composed in another way. What it answers nevertheless depends on the composed types alone: values of
a union can be called when those of every type can, values of an intersection when those of some
type can, and a member is declared where the types together declare it, unless a type in a union
does not declare it at all.
-/

namespace Stringify.Ty

variable {composition : Composition} {type : Ty} {types parts : List Ty} {property : Ty → Prop}

/-! ## Properties of all parts -/

theorem Full.members_ne_nil (full : type.Full) (composition : Composition) :
    members composition type ≠ [] := by
  cases full with
  | leaf shape => simp
  | @composite own parts nonempty each =>
      by_cases same : own = composition
      · subst same
        simpa using nonempty
      · simp [members_composite_of_ne same]

/-- A composed type that is not empty has the property when all of its parts have it. -/
def GoesByAll (property : Ty → Prop) (composition : Composition) : Prop :=
  ∀ parts : List Ty, parts ≠ [] →
    (property (.composite composition parts) ↔ ∀ part ∈ parts, property part)

namespace GoesByAll

theorem iff_members (byAll : GoesByAll property composition) (full : type.Full) :
    property type ↔ ∀ member ∈ members composition type, property member := by
  cases full with
  | leaf shape => simp
  | @composite own parts nonempty each =>
      by_cases same : own = composition
      · subst same
        rw [members_composite_self]
        exact byAll parts nonempty
      · simp [members_composite_of_ne same]

/-- The composition has the property when all of the composed types have it, whatever is spliced,
dropped or left alone. -/
theorem iff_compose? (byAll : GoesByAll property composition)
    (full : ∀ type ∈ types, type.Full) (built : compose? composition types = some type) :
    property type ↔ ∀ part ∈ types, property part := by
  have flattened : (∀ member ∈ flatten composition types, property member) ↔
      ∀ part ∈ types, property part := by
    constructor
    · intro all part given
      rw [byAll.iff_members (full part given)]
      exact fun member inside => all member (mem_flatten_iff.mpr ⟨part, given, inside⟩)
    · intro all member inside
      obtain ⟨part, given, contributed⟩ := mem_flatten_iff.mp inside
      exact (byAll.iff_members (full part given)).mp (all part given) member contributed
  rw [← flattened]
  unfold compose? at built
  split at built
  · cases built
  · next only single =>
      obtain rfl := Option.some.inj built
      simp [single]
  · next nonempty _ =>
      obtain rfl := Option.some.inj built
      exact byAll _ nonempty

end GoesByAll

/-! ## Calls and declarations -/

theorem goesByAll_callable : GoesByAll (fun type => type.hasCallSignatures = true) .union := by
  intro parts _
  simp [hasCallSignatures]

theorem goesByAll_not_callable :
    GoesByAll (fun type => ¬type.hasCallSignatures = true) .intersection := by
  intro parts _
  simp [hasCallSignatures]

theorem contexts_union_ne_nil_iff (nonempty : parts ≠ []) :
    (composite .union parts).contexts ≠ [] ↔ ∀ part ∈ parts, part.contexts ≠ [] := by
  have empty := contexts_isEmpty_union nonempty
  rw [Bool.eq_iff_iff, List.isEmpty_iff, List.any_eq_true] at empty
  simp [empty]

theorem goesByAll_declared : GoesByAll (fun type => type.contexts ≠ []) .union :=
  fun _ nonempty => contexts_union_ne_nil_iff nonempty

/-- To declare the conversion without a given context goes by all parts of a union. -/
theorem goesByAll_declared_without (context : Option String) :
    GoesByAll (fun type => type.contexts ≠ [] ∧ context ∉ type.contexts) .union := by
  intro parts nonempty
  show _ ∧ _ ↔ ∀ part ∈ parts, _ ∧ _
  rw [contexts_union_ne_nil_iff nonempty, forall₂_and]
  refine and_congr_right fun declared => ?_
  have each : parts.any (·.contexts.isEmpty) = false := by
    simpa using declared
  rw [contexts_union, each]
  simp

theorem goesByAll_not_declared (context : Option String) :
    GoesByAll (fun type => context ∉ type.contexts) .intersection := by
  intro parts _
  show context ∉ _ ↔ _
  rw [contexts_intersection]
  simp

/-! ## Answers of compositions -/

/-- The answers of a union of types. -/
structure AnswersAsUnion (union : Ty) (types : List Ty) : Prop where
  callable : union.hasCallSignatures = true ↔ ∀ type ∈ types, type.hasCallSignatures = true
  missing : ∀ member, union.memberContexts member = [] ↔
    ∃ type ∈ types, type.memberContexts member = []
  declared : ∀ member, union.memberContexts member ≠ [] → ∀ context,
    context ∈ union.memberContexts member ↔ ∃ type ∈ types, context ∈ type.memberContexts member

/-- The answers of an intersection of types. -/
structure AnswersAsIntersection (intersection : Ty) (types : List Ty) : Prop where
  callable : intersection.hasCallSignatures = true ↔
    ∃ type ∈ types, type.hasCallSignatures = true
  missing : ∀ member, intersection.memberContexts member = [] ↔
    ∀ type ∈ types, type.memberContexts member = []
  declared : ∀ member context, context ∈ intersection.memberContexts member ↔
    ∃ type ∈ types, context ∈ type.memberContexts member

theorem answersAsUnion_of_compose? (full : ∀ type ∈ types, type.Full)
    (built : compose? .union types = some type) : type.AnswersAsUnion types := by
  have declared := goesByAll_declared.iff_compose? full built
  refine ⟨goesByAll_callable.iff_compose? full built, fun member => ?_, fun member => ?_⟩
  · by_cases known : member ∈ stringifiers
    · simpa [memberContexts, known] using not_congr declared
    · simpa [memberContexts, known] using
        List.exists_mem_of_ne_nil types (ne_nil_of_compose? built)
  · by_cases known : member ∈ stringifiers
    · simp only [memberContexts, if_pos known]
      intro some context
      have without := (goesByAll_declared_without context).iff_compose? full built
      have absent : context ∉ type.contexts ↔ ∀ part ∈ types, context ∉ part.contexts := by
        constructor
        · intro absent part given
          exact (without.mp ⟨some, absent⟩ part given).2
        · intro absent
          exact (without.mpr fun part given => ⟨declared.mp some part given, absent part given⟩).2
      simpa using not_congr absent
    · simp [memberContexts, known]

theorem answersAsIntersection_of_compose? (full : ∀ type ∈ types, type.Full)
    (built : compose? .intersection types = some type) : type.AnswersAsIntersection types := by
  have uncallable := goesByAll_not_callable.iff_compose? full built
  have declared : ∀ member context, context ∈ type.memberContexts member ↔
      ∃ part ∈ types, context ∈ part.memberContexts member := by
    intro member context
    by_cases known : member ∈ stringifiers
    · have absent := (goesByAll_not_declared context).iff_compose? full built
      simpa [memberContexts, known] using not_congr absent
    · simp [memberContexts, known]
  refine ⟨by simpa using not_congr uncallable, fun member => ?_, declared⟩
  -- There is no declaration when no context declares, so this is a case of the line before.
  simp only [List.eq_nil_iff_forall_not_mem, declared, not_exists, not_and]
  exact ⟨fun none part given context => none context part given,
    fun none context part given => none part given context⟩

/-- Types whose compositions are not empty have a union and an intersection, and these answer for
the types as they were given. -/
theorem compositions_answer_for_their_types (types : List Ty) (nonempty : types ≠ [])
    (full : ∀ type ∈ types, type.Full) :
    (∃ union, compose? .union types = some union ∧ union.AnswersAsUnion types) ∧
      ∃ intersection, compose? .intersection types = some intersection ∧
        intersection.AnswersAsIntersection types := by
  have exists_compose (composition : Composition) :
      ∃ type, compose? composition types = some type :=
    exists_compose?_of_members nonempty fun type given =>
      (full type given).members_ne_nil composition
  obtain ⟨union, united⟩ := exists_compose .union
  obtain ⟨intersection, intersected⟩ := exists_compose .intersection
  exact ⟨⟨union, united, answersAsUnion_of_compose? full united⟩,
    intersection, intersected, answersAsIntersection_of_compose? full intersected⟩

/-- A union of copies of an intersection, beside the intersection: their union is the intersection
alone, and their intersection has the parts of one operand beside the other operand. -/
theorem compositions_answer_for_their_types_copies :
    let handler : Ty := ofInstance "Handler" (some "object") 1
    let both : Ty := .composite .intersection [handler, unknown]
    let copies : Ty := .composite .union [both, both]
    let all : Ty := .composite .intersection [copies, handler, unknown]
    [copies, both] ≠ [] ∧ (∀ type ∈ [copies, both], type.Full) ∧
      (compose? .union [copies, both] = some both ∧ both.AnswersAsUnion [copies, both]) ∧
      compose? .intersection [copies, both] = some all ∧
        all.AnswersAsIntersection [copies, both] := by
  intro handler both copies all
  have nonempty : [copies, both] ≠ [] := by simp
  have full : ∀ type ∈ [copies, both], type.Full := by
    simp [copies, both, handler, ofInstance, unknown]
  have united : compose? .union [copies, both] = some both := by decide
  have intersected : compose? .intersection [copies, both] = some all := by decide
  obtain ⟨⟨union, built, answers⟩, intersection, builtToo, answersToo⟩ :=
    compositions_answer_for_their_types [copies, both] nonempty full
  obtain rfl := Option.some.inj (built.symm.trans united)
  obtain rfl := Option.some.inj (builtToo.symm.trans intersected)
  exact ⟨nonempty, full, ⟨united, answers⟩, intersected, answersToo⟩

end Stringify.Ty
