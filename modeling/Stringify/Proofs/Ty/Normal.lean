import Stringify.Proofs.Repetition
import Stringify.Ty.Compose

/-!
# Normal types

The types that are built are normal: a composed type has at least two parts, no two of them equal
and none composed in the same way. So the members of a normal type are what it contributes to a
composition, and those of a composition are those of the composed types together.
-/

namespace Stringify.Ty

variable {composition : Composition} {type part member : Ty} {types parts : List Ty}

/-- A type whose compositions are flat, without repetition, and of two parts or more. -/
inductive Normal : Ty → Prop where
  | leaf (shape : Leaf) : Normal (.leaf shape)
  | composite {composition : Composition} {parts : List Ty} (several : 2 ≤ parts.length)
      (nodup : parts.Nodup) (flat : ∀ part ∈ parts, part.parts? composition = none)
      (each : ∀ part ∈ parts, Normal part) : Normal (.composite composition parts)

/-! ## Members -/

@[simp] theorem members_leaf (composition : Composition) (shape : Leaf) :
    members composition (.leaf shape) = [.leaf shape] := rfl

@[simp] theorem members_composite_self (composition : Composition) (parts : List Ty) :
    members composition (.composite composition parts) = parts := by
  simp [members, parts?]

theorem parts?_eq_some_iff :
    type.parts? composition = some parts ↔ type = .composite composition parts := by
  cases type with
  | leaf shape => simp [parts?]
  | composite own inside => simp [parts?]

theorem members_of_parts?_eq_none (single : type.parts? composition = none) :
    members composition type = [type] := by
  simp [members, single]

theorem members_composite_of_ne {other : Composition} (different : other ≠ composition)
    (parts : List Ty) :
    members composition (.composite other parts) = [.composite other parts] :=
  members_of_parts?_eq_none (by simp [parts?, different])

theorem mem_flatten_iff :
    member ∈ flatten composition types ↔ ∃ type ∈ types, member ∈ members composition type := by
  rw [flatten, List.mem_eraseDups, List.mem_flatMap]

namespace Normal

/-- The members of a normal type are normal and have no members of their own. -/
theorem of_mem_members (normal : type.Normal) (inside : member ∈ members composition type) :
    member.Normal ∧ member.parts? composition = none := by
  cases normal with
  | leaf shape =>
      obtain rfl : member = .leaf shape := by simpa using inside
      exact ⟨.leaf shape, rfl⟩
  | @composite own parts several nodup flat each =>
      by_cases same : own = composition
      · subst same
        rw [members_composite_self] at inside
        exact ⟨each member inside, flat member inside⟩
      · rw [members_composite_of_ne same, List.mem_singleton] at inside
        subst inside
        exact ⟨.composite several nodup flat each, by simp [parts?, same]⟩

theorem members_ne_nil (normal : type.Normal) (composition : Composition) :
    members composition type ≠ [] := by
  cases normal with
  | leaf shape => simp
  | @composite own parts several nodup flat each =>
      by_cases same : own = composition
      · subst same
        rw [members_composite_self]
        rintro rfl
        simp at several
      · simp [members_composite_of_ne same]

/-- A type whose only member is a given one is that member. -/
theorem eq_of_members (normal : type.Normal)
    (only : ∀ inside ∈ members composition type, inside = member) : type = member := by
  cases normal with
  | leaf shape => exact only _ (by simp)
  | @composite own parts several nodup flat each =>
      by_cases same : own = composition
      · subst same
        rw [members_composite_self] at only
        match parts, several, nodup with
        | first :: second :: rest, _, nodup =>
            have equal : first = second :=
              (only first (by simp)).trans (only second (by simp)).symm
            simp [equal] at nodup
      · exact only _ (by simp [members_composite_of_ne same])

end Normal

/-! ## Compositions -/

/-- A composition of normal types is normal, and its members are theirs. -/
theorem normal_of_compose? (each : ∀ part ∈ types, part.Normal)
    (built : compose? composition types = some type) :
    type.Normal ∧ members composition type = flatten composition types := by
  have inside : ∀ member ∈ flatten composition types,
      member.Normal ∧ member.parts? composition = none := by
    intro member flattened
    obtain ⟨part, given, contributed⟩ := mem_flatten_iff.mp flattened
    exact (each part given).of_mem_members contributed
  unfold compose? at built
  split at built
  · cases built
  · next only flattened =>
      obtain rfl := Option.some.inj built
      have alone := inside only (by simp [flattened])
      exact ⟨alone.1, (members_of_parts?_eq_none alone.2).trans flattened.symm⟩
  · next nonempty nonsingle =>
      obtain rfl := Option.some.inj built
      refine ⟨.composite ?_ (nodup_eraseDups _) (fun part given => (inside part given).2)
        (fun part given => (inside part given).1), members_composite_self ..⟩
      match flattened : flatten composition types with
      | [] => exact absurd flattened nonempty
      | [only] => exact absurd flattened (nonsingle only)
      | _ :: _ :: _ => simp

/-- There is a composition of any types that contribute something. -/
theorem exists_compose?_of_members (nonempty : types ≠ [])
    (each : ∀ part ∈ types, members composition part ≠ []) :
    ∃ type, compose? composition types = some type := by
  obtain ⟨part, given⟩ := List.exists_mem_of_ne_nil types nonempty
  obtain ⟨member, contributed⟩ := List.exists_mem_of_ne_nil _ (each part given)
  have flattened : member ∈ flatten composition types :=
    mem_flatten_iff.mpr ⟨part, given, contributed⟩
  unfold compose?
  split
  · next empty => simp [empty] at flattened
  · exact ⟨_, rfl⟩
  · exact ⟨_, rfl⟩

/-- There is a composition of any normal types. -/
theorem exists_compose? (nonempty : types ≠ []) (each : ∀ part ∈ types, part.Normal) :
    ∃ type, compose? composition types = some type :=
  exists_compose?_of_members nonempty fun part given => (each part given).members_ne_nil composition

theorem mem_members_of_compose? (each : ∀ part ∈ types, part.Normal)
    (built : compose? composition types = some type) :
    member ∈ members composition type ↔ ∃ part ∈ types, member ∈ members composition part := by
  rw [(normal_of_compose? each built).2, mem_flatten_iff]

theorem ne_nil_of_compose? (built : compose? composition types = some type) : types ≠ [] := by
  rintro rfl
  simp [compose?, flatten] at built

/-- A composition that is not composed in its own way is of nothing but copies of it. -/
theorem eq_of_compose? (each : ∀ part ∈ types, part.Normal)
    (built : compose? composition types = some type) (single : type.parts? composition = none) :
    ∀ part ∈ types, part = type := by
  intro part given
  apply (each part given).eq_of_members
  intro member inside
  have contributed := (mem_members_of_compose? each built).mpr ⟨part, given, inside⟩
  simpa [members_of_parts?_eq_none single] using contributed

end Stringify.Ty
