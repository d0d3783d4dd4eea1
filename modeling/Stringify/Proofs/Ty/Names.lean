import Stringify.Proofs.Source.Unambiguous
import Stringify.Proofs.Ty.Outline

/-!
# Names of composed types

The name of a composed type joins the names of its parts, and brackets of the composition leave no
trace in it. As long as no union is a part of an intersection, the name can nevertheless be taken
apart: first at the bars and then at the ampersands, as far as the names of leaves are closed.
-/

namespace Stringify.Ty

open Source

variable {composition : Composition} {type part left right : Ty} {types parts others : List Ty}
variable {settings : Settings} {shape : Leaf}

/-! ## Leaves -/

/-- The leaves of a type from left to right. -/
def leaves : Ty → List Leaf :=
  fold (fun shape => [shape]) fun _ parts => parts.flatten

@[simp] theorem leaves_leaf (shape : Leaf) : (leaf shape).leaves = [shape] := rfl

@[simp] theorem leaves_composite (composition : Composition) (parts : List Ty) :
    (composite composition parts).leaves = parts.flatMap leaves := by
  simp [leaves, List.flatMap]

theorem mem_leaves_of_mem_members (member : part ∈ members composition type)
    (inside : shape ∈ part.leaves) : shape ∈ type.leaves := by
  cases type with
  | leaf own =>
      obtain rfl : part = .leaf own := by simpa using member
      exact inside
  | composite own parts =>
      by_cases same : own = composition
      · subst same
        rw [members_composite_self] at member
        rw [leaves_composite]
        exact List.mem_flatMap.mpr ⟨part, member, inside⟩
      · rw [members_composite_of_ne same, List.mem_singleton] at member
        exact member ▸ inside

/-- The leaves of a composition are leaves of the composed types. -/
theorem exists_mem_leaves_of_compose? (built : compose? composition types = some type)
    (inside : shape ∈ type.leaves) : ∃ part ∈ types, shape ∈ part.leaves := by
  have contributed : ∃ member ∈ flatten composition types, shape ∈ member.leaves := by
    unfold compose? at built
    split at built
    · cases built
    · next only flattened =>
        obtain rfl := Option.some.inj built
        exact ⟨only, by simp [flattened], inside⟩
    · obtain rfl := Option.some.inj built
      rw [leaves_composite] at inside
      exact List.mem_flatMap.mp inside
  obtain ⟨member, flattened, inside⟩ := contributed
  obtain ⟨part, given, member⟩ := mem_flatten_iff.mp flattened
  exact ⟨part, given, mem_leaves_of_mem_members member inside⟩

/-- No intersection inside has a union among its parts. -/
inductive UnionsOutside : Ty → Prop where
  | leaf (shape : Leaf) : UnionsOutside (.leaf shape)
  | union {parts : List Ty} (each : ∀ part ∈ parts, UnionsOutside part) :
      UnionsOutside (.composite .union parts)
  | intersection {parts : List Ty} (noUnion : ∀ part ∈ parts, part.parts? .union = none)
      (each : ∀ part ∈ parts, UnionsOutside part) : UnionsOutside (.composite .intersection parts)

theorem UnionsOutside.of_mem_members (outside : type.UnionsOutside)
    (member : part ∈ members composition type) : part.UnionsOutside := by
  have split : part = type ∨ ∃ own parts, type = composite own parts ∧ part ∈ parts := by
    cases type with
    | leaf shape => exact .inl (by simpa using member)
    | composite own parts =>
        by_cases same : own = composition
        · subst same
          rw [members_composite_self] at member
          exact .inr ⟨_, _, rfl, member⟩
        · rw [members_composite_of_ne same, List.mem_singleton] at member
          exact .inl member
  obtain rfl | ⟨own, parts, rfl, inside⟩ := split
  · exact outside
  · cases outside with
    | union each => exact each part inside
    | intersection _ each => exact each part inside

/-- A normal type that is no union is a leaf or an intersection of leaves, as long as no union is a
part of an intersection. -/
theorem exists_leaves_of_noUnion (normal : type.Normal) (outside : type.UnionsOutside)
    (noUnion : type.parts? .union = none) :
    members .intersection type = type.leaves.map leaf := by
  have leaves_eq {parts : List Ty} (each : ∀ part ∈ parts, ∃ shape, part = leaf shape) :
      parts = (parts.flatMap leaves).map leaf := by
    induction parts with
    | nil => rfl
    | cons first rest ih =>
        obtain ⟨⟨shape, rfl⟩, later⟩ := List.forall_mem_cons.mp each
        rw [List.flatMap_cons, leaves_leaf, List.singleton_append, List.map_cons, ← ih later]
  cases normal with
  | leaf shape => simp
  | @composite own parts several nodup flat each =>
      cases own with
      | union => simp [parts?] at noUnion
      | intersection =>
          cases outside with
          | intersection free _ =>
          rw [members_composite_self, leaves_composite]
          refine leaves_eq fun part member => ?_
          have noUnion := free part member
          have noIntersection := flat part member
          cases part with
          | leaf shape => exact ⟨shape, rfl⟩
          | composite own inside => cases own <;> simp [parts?] at noUnion noIntersection

/-! ## Types that look alike -/

/-- Two types have the same name, and the rules cannot tell them apart. -/
structure LooksLike (left right : Ty) : Prop where
  name_eq : left.name = right.name
  outline_eq : ∀ settings, outline settings left = outline settings right

theorem LooksLike.classify_eq (alike : LooksLike left right) (settings : Settings) :
    left.classify settings = right.classify settings :=
  congrArg Outline.verdict (alike.outline_eq settings)

theorem name_composite (composition : Composition) (parts : List Ty) :
    (composite composition parts).name = joinNames composition (parts.map name) := by
  simp [name]

/-- The name of a type joins those of its members in any composition. -/
theorem name_eq_joinNames (composition : Composition) (type : Ty) :
    type.name = joinNames composition ((members composition type).map name) := by
  have alone (type : Ty) : joinNames composition [type.name] = type.name := by
    cases composition <;> simp [joinNames]
  cases type with
  | leaf shape => exact (alone _).symm
  | composite own parts =>
      by_cases same : own = composition
      · subst same
        rw [members_composite_self, name_composite]
      · rw [members_composite_of_ne same]
        exact (alone _).symm

theorem map_eq_of_looksLike {α : Type} {question : Ty → α}
    (same : ∀ left right, LooksLike left right → question left = question right)
    (alike : List.Forall₂ LooksLike parts others) : parts.map question = others.map question := by
  induction alike with
  | nil => rfl
  | cons first _ ih => rw [List.map_cons, List.map_cons, same _ _ first, ih]

/-- Compositions of types that look alike look alike. -/
theorem LooksLike.composite (nonempty : parts ≠ [])
    (alike : List.Forall₂ LooksLike parts others) :
    LooksLike (.composite composition parts) (.composite composition others) := by
  have nonemptyToo : others ≠ [] := by
    rintro rfl
    cases alike
    exact nonempty rfl
  have names : (Ty.composite composition parts).name = (Ty.composite composition others).name := by
    rw [name_composite, name_composite, map_eq_of_looksLike (fun _ _ same => same.name_eq) alike]
  have outlines (settings : Settings) :
      parts.map (outline settings) = others.map (outline settings) :=
    map_eq_of_looksLike (fun _ _ same => same.outline_eq settings) alike
  -- Where no name is ignored, the outlines of the parts say it all, and but for the verdict an
  -- outline is the same everywhere.
  have joined : outline ⟨[], [], false⟩ (.composite composition parts) =
      outline ⟨[], [], false⟩ (.composite composition others) := by
    rw [outline_composite nonempty rfl, outline_composite nonemptyToo rfl, outlines]
  have calls := congrArg Outline.isCallable joined
  have bare := congrArg Outline.isMemberless joined
  have rooted := congrArg Outline.isRooted joined
  simp only [outline] at calls bare rooted
  refine ⟨names, fun settings => ?_⟩
  have verdicts : parts.map (classify settings) = others.map (classify settings) := by
    simpa [outline, Function.comp_def] using congrArg (List.map Outline.verdict) (outlines settings)
  rw [outline, outline, classify_composite, classify_composite, calls, bare, rooted, names,
    verdicts]

/-- Normal types look alike if their members do. -/
theorem LooksLike.of_members (normal : left.Normal) (normalToo : right.Normal)
    (alike : List.Forall₂ LooksLike (members composition left) (members composition right)) :
    LooksLike left right := by
  have cases_members {type : Ty} (normal : type.Normal) : members composition type = [type] ∨
      ∃ parts, type = .composite composition parts ∧ 2 ≤ parts.length := by
    cases normal with
    | leaf shape => exact .inl rfl
    | @composite own parts several nodup flat each =>
        by_cases same : own = composition
        · subst same
          exact .inr ⟨parts, rfl, several⟩
        · exact .inl (members_composite_of_ne same parts)
  have lengths := alike.length_eq
  rcases cases_members normal with alone | ⟨parts, rfl, several⟩ <;>
    rcases cases_members normalToo with aloneToo | ⟨others, rfl, severalToo⟩
  · rw [alone, aloneToo] at alike
    cases alike with
    | cons same _ => exact same
  · rw [alone, members_composite_self, List.length_singleton] at lengths
    omega
  · rw [aloneToo, members_composite_self, List.length_singleton] at lengths
    omega
  · rw [members_composite_self, members_composite_self] at alike
    refine .composite ?_ alike
    rintro rfl
    simp at several

/-! ## Taking names apart -/

variable [Release]

/-- What has the same joined names is related part by part. -/
theorem forall₂_of_joined {α : Type} {stops : List Char} {separator : String} {stop : Char}
    {named : α → String} {related : α → α → Prop} {items partners : List α}
    (joint : IsJoint stops separator stop) (blank : ' ' ∉ stops) (gap : IsGap [] separator)
    (nonempty : items ≠ []) (nonemptyToo : partners ≠ [])
    (closed : ∀ item ∈ items, IsClosed stops (named item))
    (closedToo : ∀ item ∈ partners, IsClosed stops (named item))
    (same : separator.intercalate (items.map named) = separator.intercalate (partners.map named))
    (legible : IsLegible (separator.intercalate (items.map named)))
    (each : ∀ item ∈ items, ∀ partner ∈ partners, named item = named partner →
      IsLegible (named item) → related item partner) : List.Forall₂ related items partners := by
  have parts := isBalanced_of_intercalate gap (List.forall_mem_map.mpr closed) legible
  have partsToo := isBalanced_of_intercalate gap (List.forall_mem_map.mpr closedToo)
    (same ▸ legible)
  have names : items.map named = partners.map named :=
    intercalate_injective joint blank (by simpa using nonempty) (by simpa using nonemptyToo)
      (fun text member => (parts text member).1) (fun text member => (partsToo text member).1) same
  have legibleItems := List.forall_mem_map.mp fun text member => (parts text member).2
  clear parts partsToo same legible nonempty nonemptyToo closed closedToo
  induction items generalizing partners with
  | nil =>
      obtain rfl := List.map_eq_nil_iff.mp names.symm
      exact .nil
  | cons item rest ih =>
      cases partners with
      | nil => cases names
      | cons partner others =>
          obtain ⟨first, later⟩ := List.cons.inj names
          refine .cons (each item List.mem_cons_self partner List.mem_cons_self first
            (legibleItems item List.mem_cons_self)) (ih ?_ later ?_)
          · exact fun item member partner inside => each item (List.mem_cons_of_mem _ member)
              partner (List.mem_cons_of_mem _ inside)
          · exact fun item member => legibleItems item (List.mem_cons_of_mem _ member)

theorem isJoint_union : IsJoint ['|'] " | " '|' := ⟨rfl, fun _ => rfl⟩

theorem isJoint_intersection : IsJoint ['&'] " & " '&' := ⟨rfl, fun _ => rfl⟩

/-- What the names of leaves in two types have to keep to, if names are to tell the types apart. -/
structure NamesLeaves (left right : Ty) : Prop where
  closed : ∀ shape ∈ left.leaves, IsClosed compositionStops shape.name
  closedToo : ∀ shape ∈ right.leaves, IsClosed compositionStops shape.name
  alike : ∀ shape ∈ left.leaves, ∀ other ∈ right.leaves, shape.name = other.name →
    IsLegible shape.name → LooksLike (leaf shape) (leaf other)

theorem NamesLeaves.mono {first second : Ty} (names : NamesLeaves left right)
    (ofFirst : ∀ shape ∈ first.leaves, shape ∈ left.leaves)
    (ofSecond : ∀ shape ∈ second.leaves, shape ∈ right.leaves) : NamesLeaves first second where
  closed shape member := names.closed shape (ofFirst shape member)
  closedToo shape member := names.closedToo shape (ofSecond shape member)
  alike shape member other inside :=
    names.alike shape (ofFirst shape member) other (ofSecond other inside)

/-- Types that are no unions look alike if they have the same name. -/
theorem looksLike_of_noUnion (names : NamesLeaves left right) (normal : left.Normal)
    (normalToo : right.Normal) (outside : left.UnionsOutside) (outsideToo : right.UnionsOutside)
    (noUnion : left.parts? .union = none) (noUnionToo : right.parts? .union = none)
    (same : left.name = right.name) (legible : IsLegible left.name) : LooksLike left right := by
  have members_eq := exists_leaves_of_noUnion normal outside noUnion
  have members_eqToo := exists_leaves_of_noUnion normalToo outsideToo noUnionToo
  have named (shapes : List Leaf) : (shapes.map leaf).map name = shapes.map Leaf.name := by
    rw [List.map_map]
    rfl
  rw [name_eq_joinNames .intersection left, members_eq, named] at same legible
  rw [name_eq_joinNames .intersection right, members_eqToo, named] at same
  have subset : ['&'] ⊆ compositionStops := by simp [compositionStops]
  have nonempty {type : Ty} (normal : type.Normal)
      (members_eq : members .intersection type = type.leaves.map leaf) : type.leaves ≠ [] := by
    intro none
    exact normal.members_ne_nil .intersection (by rw [members_eq, none, List.map_nil])
  have alike := forall₂_of_joined isJoint_intersection (by decide) (fun _ => rfl)
    (nonempty normal members_eq) (nonempty normalToo members_eqToo)
    (fun shape member => (names.closed shape member).mono subset)
    (fun shape member => (names.closedToo shape member).mono subset) same legible names.alike
  refine @LooksLike.of_members .intersection _ _ normal normalToo ?_
  rw [members_eq, members_eqToo, List.forall₂_map_left_iff, List.forall₂_map_right_iff]
  exact alike

/-- The name of a type that is no union is closed for bars. -/
theorem isClosed_name_of_noUnion (closed : ∀ shape ∈ type.leaves,
      IsClosed compositionStops shape.name) (normal : type.Normal) (outside : type.UnionsOutside)
    (noUnion : type.parts? .union = none) : IsClosed ['|'] type.name := by
  rw [name_eq_joinNames .intersection, exists_leaves_of_noUnion normal outside noUnion]
  refine isClosed_intercalate (fun _ => rfl) ?_
  rw [List.map_map, List.forall_mem_map]
  exact fun shape member => (closed shape member).mono (by simp [compositionStops])

/-- Types in which no union is a part of an intersection look alike if they have the same name. -/
theorem looksLike_of_name_eq (names : NamesLeaves left right) (normal : left.Normal)
    (normalToo : right.Normal) (outside : left.UnionsOutside) (outsideToo : right.UnionsOutside)
    (same : left.name = right.name) (legible : IsLegible left.name) : LooksLike left right := by
  rw [name_eq_joinNames .union left] at same legible
  rw [name_eq_joinNames .union right] at same
  refine @LooksLike.of_members .union _ _ normal normalToo ?_
  refine forall₂_of_joined isJoint_union (by decide) (fun _ => rfl) (normal.members_ne_nil _)
    (normalToo.members_ne_nil _) (fun part member => ?_) (fun part member => ?_) same legible ?_
  · obtain ⟨normalPart, noUnion⟩ := normal.of_mem_members member
    exact isClosed_name_of_noUnion (fun shape inside => names.closed shape
      (mem_leaves_of_mem_members member inside)) normalPart (outside.of_mem_members member) noUnion
  · obtain ⟨normalPart, noUnion⟩ := normalToo.of_mem_members member
    exact isClosed_name_of_noUnion (fun shape inside => names.closedToo shape
      (mem_leaves_of_mem_members member inside)) normalPart (outsideToo.of_mem_members member)
      noUnion
  · intro part member partner inside sameName legiblePart
    obtain ⟨normalPart, noUnion⟩ := normal.of_mem_members member
    obtain ⟨normalPartner, noUnionToo⟩ := normalToo.of_mem_members inside
    exact looksLike_of_noUnion (names.mono (fun _ => mem_leaves_of_mem_members member)
      fun _ => mem_leaves_of_mem_members inside) normalPart normalPartner
      (outside.of_mem_members member) (outsideToo.of_mem_members inside) noUnion noUnionToo sameName
      legiblePart

end Stringify.Ty
