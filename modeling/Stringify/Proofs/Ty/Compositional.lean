import Stringify.Proofs.Ty.Classify

/-!
# Verdicts by structure

The rules look at all the declarations of a composed type before they look at its parts, and often
decide without the parts. For types whose compositions are not empty, the verdict is nevertheless
the one that goes by the structure of the type alone: a leaf decides for itself, and a composed type
merges its parts unless its name is ignored or, in a union, a part has no conversion to text.
-/

namespace Stringify.Ty

variable {settings : Settings} {type : Ty} {parts : List Ty}

/-- Every composition inside the type has a part. -/
inductive Full : Ty → Prop where
  | leaf (shape : Leaf) : Full (.leaf shape)
  | composite (composition : Composition) {parts : List Ty} (nonempty : parts ≠ [])
      (each : ∀ part ∈ parts, Full part) : Full (.composite composition parts)

@[simp] theorem full_leaf (shape : Leaf) : (leaf shape).Full :=
  .leaf shape

@[simp] theorem full_composite_iff {composition : Composition} :
    (composite composition parts).Full ↔ parts ≠ [] ∧ ∀ part ∈ parts, part.Full := by
  constructor
  · rintro ⟨⟩
    exact ⟨‹_›, ‹_›⟩
  · rintro ⟨nonempty, each⟩
    exact .composite composition nonempty each

/-- Whether a type has no conversion to text. A union has none when some part has none, and an
intersection when no part has one. -/
def isMemberless : Ty → Bool :=
  fold (·.contexts.isEmpty) fun
    | .union, parts => parts.any id
    | .intersection, parts => parts.all id

mutual

/-- The verdict of a type by its structure. -/
def value (settings : Settings) : Ty → Verdict
  | .leaf shape =>
    if !shape.contexts.isEmpty && shape.contexts.any isRoot && !shape.isBooleanLike &&
      !settings.ignores shape.name then .never else .always
  | .composite .intersection parts =>
    if settings.ignores (composite .intersection parts).name then .always
    else Verdict.mergeIntersection (values settings parts)
  | .composite .union parts =>
    if settings.ignores (composite .union parts).name || parts.any isMemberless then .always
    else Verdict.mergeUnion (values settings parts)

/-- `value` of every type of a list. -/
def values (settings : Settings) : List Ty → List Verdict
  | [] => []
  | part :: rest => value settings part :: values settings rest

end

@[simp] theorem values_eq_map (settings : Settings) (parts : List Ty) :
    values settings parts = parts.map (value settings) := by
  induction parts with
  | nil => rfl
  | cons part rest ih => simp [values, ih]

/-! ## Declarations of composed types -/

theorem contexts_union (parts : List Ty) : (composite .union parts).contexts =
    if parts.any (·.contexts.isEmpty) then [] else parts.flatMap contexts := by
  simp [contexts, List.flatMap]

theorem contexts_intersection (parts : List Ty) :
    (composite .intersection parts).contexts = parts.flatMap contexts := by
  simp [contexts, List.flatMap]

theorem isRooted_union (parts : List Ty) : (composite .union parts).isRooted =
    (!parts.any (·.contexts.isEmpty) && parts.any isRooted) := by
  rw [isRooted, contexts_union]
  cases parts.any (·.contexts.isEmpty) with
  | true => rfl
  | false => exact List.any_flatMap

theorem isRooted_intersection (parts : List Ty) :
    (composite .intersection parts).isRooted = parts.any isRooted := by
  rw [isRooted, contexts_intersection]
  exact List.any_flatMap

theorem contexts_isEmpty_union (nonempty : parts ≠ []) :
    (composite .union parts).contexts.isEmpty = parts.any (·.contexts.isEmpty) := by
  rw [contexts_union]
  cases bare : parts.any (·.contexts.isEmpty) with
  | true => rfl
  | false =>
      obtain ⟨part, member⟩ := List.exists_mem_of_ne_nil parts nonempty
      have declared : part.contexts.isEmpty = false := by
        simpa using List.any_eq_false.mp bare part member
      have notNil : parts.flatMap contexts ≠ [] := by
        intro nil
        simp [List.flatMap_eq_nil_iff.mp nil part member] at declared
      simpa using notNil

theorem contexts_isEmpty_intersection (parts : List Ty) :
    (composite .intersection parts).contexts.isEmpty = parts.all (·.contexts.isEmpty) := by
  rw [contexts_intersection, Bool.eq_iff_iff, List.isEmpty_iff, List.flatMap_eq_nil_iff,
    List.all_eq_true]
  simp only [List.isEmpty_iff]

theorem isMemberless_union (parts : List Ty) :
    (composite .union parts).isMemberless = parts.any isMemberless := by
  simp [isMemberless]

theorem isMemberless_intersection (parts : List Ty) :
    (composite .intersection parts).isMemberless = parts.all isMemberless := by
  simp [isMemberless]

/-- A type has no conversion to text exactly when it has no declaration of one. -/
theorem Full.isMemberless_eq (full : type.Full) : type.isMemberless = type.contexts.isEmpty := by
  induction full with
  | leaf shape => rfl
  | @composite composition parts nonempty each ih =>
      have same : parts.map isMemberless = parts.map (·.contexts.isEmpty) := List.map_congr_left ih
      cases composition with
      | union =>
          rw [contexts_isEmpty_union nonempty, isMemberless_union]
          simpa [Function.comp_def] using congrArg (·.any id) same
      | intersection =>
          rw [contexts_isEmpty_intersection, isMemberless_intersection]
          simpa [Function.comp_def] using congrArg (·.all id) same

theorem any_isMemberless_eq (each : ∀ part ∈ parts, part.Full) :
    parts.any isMemberless = parts.any (·.contexts.isEmpty) := by
  rw [Bool.eq_iff_iff, List.any_eq_true, List.any_eq_true]
  exact exists_congr fun part => and_congr_right fun member => by
    rw [(each part member).isMemberless_eq]

/-- A type with no declaration on the root is useful, whatever its parts. -/
theorem Full.value_of_unrooted (full : type.Full) (unrooted : type.isRooted = false) :
    type.value settings = .always := by
  induction full with
  | leaf shape =>
      have noRoot : shape.contexts.any isRoot = false := unrooted
      simp [value, noRoot]
  | @composite composition parts nonempty each ih =>
      cases composition with
      | union =>
          simp only [value, values_eq_map, any_isMemberless_eq each]
          rw [isRooted_union] at unrooted
          split
          · rfl
          · next declared =>
              simp only [Bool.or_eq_true, not_or, Bool.not_eq_true] at declared
              rw [declared.2, Bool.not_false, Bool.true_and, List.any_eq_false] at unrooted
              rw [Verdict.mergeUnion_eq_always_iff]
              refine ⟨by simpa using nonempty, ?_⟩
              intro verdict member
              obtain ⟨part, inside, rfl⟩ := List.mem_map.mp member
              exact ih part inside (by simpa using unrooted part inside)
      | intersection =>
          simp only [value, values_eq_map]
          rw [isRooted_intersection, List.any_eq_false] at unrooted
          split
          · rfl
          · obtain ⟨part, member⟩ := List.exists_mem_of_ne_nil parts nonempty
            rw [Verdict.mergeIntersection_eq_always_iff, List.mem_map]
            exact ⟨part, member, ih part member (by simpa using unrooted part member)⟩

theorem value_leaf (settings : Settings) (shape : Leaf) : (leaf shape).value settings =
    if (leaf shape).isRooted && !shape.isBooleanLike && !settings.ignores shape.name
      then .never else .always := by
  have onRoot : (!shape.contexts.isEmpty && shape.contexts.any isRoot) = (leaf shape).isRooted := by
    show _ = shape.contexts.any isRoot
    cases shape.contexts <;> rfl
  rw [value, onRoot]

theorem value_of_ignored (composition : Composition)
    (ignored : settings.ignores (composite composition parts).name = true) :
    (composite composition parts).value settings = .always := by
  cases composition <;> simp [value, ignored]

/-- A composed type that comes to the merge is valued by it: in a union no part is without a
conversion to text, or else there would be no declaration on the root. -/
theorem value_of_rooted {composition : Composition} (each : ∀ part ∈ parts, part.Full)
    (rooted : (composite composition parts).isRooted = true)
    (named : settings.ignores (composite composition parts).name = false) :
    (composite composition parts).value settings =
      composition.merge (parts.map (value settings)) := by
  cases composition with
  | union =>
      rw [isRooted_union, Bool.and_eq_true, Bool.not_eq_true', ← any_isMemberless_eq each] at rooted
      simp [value, named, rooted.1, Composition.merge]
  | intersection => simp [value, named, Composition.merge]

/-- With callables not reported, the verdict of a type whose compositions are not empty is the one
that goes by its structure. -/
theorem classify_eq_value (settings : Settings) (accepted : settings.rejectFunctions = false)
    (type : Ty) (full : type.Full) : type.classify settings = type.value settings := by
  induction full with
  | leaf shape =>
      rw [classify_leaf, accepted, value_leaf]
      rfl
  | @composite composition parts nonempty each ih =>
      have merged : parts.map (classify settings) = parts.map (value settings) :=
        List.map_congr_left ih
      rw [classify_composite, accepted, merged, Bool.false_and, if_neg Bool.false_ne_true]
      cases named : settings.ignores (composite composition parts).name with
      | true => rw [value_of_ignored composition named, Bool.not_true, Bool.and_false,
          if_neg Bool.false_ne_true]
      | false =>
          rw [Bool.not_false, Bool.and_true]
          cases rooted : (composite composition parts).isRooted with
          | true => rw [if_pos rfl, value_of_rooted each rooted named]
          | false =>
              rw [if_neg Bool.false_ne_true]
              exact ((Full.composite composition nonempty each).value_of_unrooted rooted).symm

/-- A boolean declared on the root, a union with a part that has no conversion to text, and an
ignored intersection of placeholders, beside a placeholder. -/
theorem classify_eq_value_nested :
    let odd : Ty := .leaf (.scalar ⟨"bool", [some "object"], true, false⟩)
    let plain : Ty := ofInstance "Plain" (some "object") 0
    let part : Ty := .composite .union [plain, unknown]
    let ignored : Ty := .composite .intersection [plain, object]
    let type : Ty := .composite .union
      [.composite .intersection [plain, part], .composite .union [odd, plain], ignored]
    let settings : Settings := ⟨[Text.ofString "Plain & object"], [], false⟩
    settings.rejectFunctions = false ∧ type.Full ∧
      type.classify settings = type.value settings ∧ type.value settings = .sometimes := by
  intro odd plain part ignored type settings
  have full : type.Full := by
    simp [type, odd, plain, part, ignored, ofInstance, unknown, object]
  exact ⟨rfl, full, classify_eq_value settings rfl type full, by decide⟩

end Stringify.Ty
