import Stringify.Proofs.Ty.Compositional
import Stringify.Proofs.Ty.Normal

/-!
# Outlines

As far as the rules can tell, a part of a composed type is its outline: whether its values can be
called, whether it has no conversion to text, whether some declaration is on the root, and its own
verdict. The outline of a composed type is a function of the set of outlines of its parts, so
neither their order nor repetitions matter, unless its name is ignored. The sketch of a type is its
outline as if no name of a composed type were. What does matter is whether the parts of an
intersection collapse to a single union, which is useful at times while no intersection of several
parts is.
-/

namespace Stringify.Ty

variable {settings : Settings} {composition : Composition} {type part left right : Ty}
variable {types others parts : List Ty}

/-- What the rules can tell of a part of a composed type. -/
structure Outline where
  isCallable : Bool
  isMemberless : Bool
  isRooted : Bool
  verdict : Verdict

/-- The outline of a type. -/
def outline (settings : Settings) (type : Ty) : Outline :=
  ⟨type.hasCallSignatures, type.contexts.isEmpty, type.isRooted, type.classify settings⟩

namespace Outline

variable {outlines : List Outline}

/-- The verdict of a composition that can be called or not, and is rooted or not. -/
def judge (settings : Settings) (composition : Composition) (isCallable isRooted : Bool)
    (verdicts : List Verdict) : Verdict :=
  if settings.rejectFunctions && isCallable then .function
  else if isRooted then composition.merge verdicts
  else .always

/-- The outline of a composition, from those of its parts. -/
def join (settings : Settings) (composition : Composition) (outlines : List Outline) : Outline :=
  match composition with
  | .union =>
    let isCallable := outlines.all isCallable
    let isMemberless := outlines.any isMemberless
    let isRooted := !isMemberless && outlines.any isRooted
    ⟨isCallable, isMemberless, isRooted,
      judge settings .union isCallable isRooted (outlines.map verdict)⟩
  | .intersection =>
    let isCallable := outlines.any isCallable
    let isRooted := outlines.any isRooted
    ⟨isCallable, outlines.all isMemberless, isRooted,
      judge settings .intersection isCallable isRooted (outlines.map verdict)⟩

section SameElements

variable {α : Type} {first second : List α}

theorem any_eq_of_mem_iff (same : ∀ element, element ∈ first ↔ element ∈ second)
    (question : α → Bool) : first.any question = second.any question := by
  rw [Bool.eq_iff_iff, List.any_eq_true, List.any_eq_true]
  simp only [same]

theorem all_eq_of_mem_iff (same : ∀ element, element ∈ first ↔ element ∈ second)
    (question : α → Bool) : first.all question = second.all question := by
  rw [Bool.eq_iff_iff, List.all_eq_true, List.all_eq_true]
  simp only [same]

end SameElements

theorem merge_eq_of_mem_iff {verdicts others : List Verdict} (composition : Composition)
    (same : ∀ verdict, verdict ∈ verdicts ↔ verdict ∈ others) :
    composition.merge verdicts = composition.merge others := by
  cases composition with
  | union =>
      simp only [Composition.merge, Verdict.mergeUnion, any_eq_of_mem_iff same,
        all_eq_of_mem_iff same]
  | intersection => simp only [Composition.merge, Verdict.mergeIntersection, same]

/-- The join of outlines goes by the set of them. -/
theorem join_eq_of_mem_iff {others : List Outline} (composition : Composition)
    (same : ∀ outline, outline ∈ outlines ↔ outline ∈ others) :
    join settings composition outlines = join settings composition others := by
  have merged : composition.merge (outlines.map verdict) = composition.merge (others.map verdict) :=
    merge_eq_of_mem_iff composition fun verdict => by simp only [List.mem_map, same]
  cases composition with
  | union =>
      simp only [join, judge, any_eq_of_mem_iff same, all_eq_of_mem_iff same, merged]
  | intersection =>
      simp only [join, judge, any_eq_of_mem_iff same, all_eq_of_mem_iff same, merged]

/-- Callables are told first and what has no declaration on the root last; only in between does the
rest of a type matter, and then it is not a callable. Nothing is rooted without a conversion to
text. -/
structure IsSettled (settings : Settings) (outline : Outline) : Prop where
  verdict_eq : ∃ verdict, verdict ≠ .function ∧ outline.verdict =
    if settings.rejectFunctions && outline.isCallable then .function
    else if outline.isRooted then verdict
    else .always
  unrooted : outline.isMemberless = true → outline.isRooted = false

/-- A join of settled outlines is settled. -/
theorem isSettled_join (composition : Composition)
    (each : ∀ outline ∈ outlines, IsSettled settings outline) :
    IsSettled settings (join settings composition outlines) := by
  have merged : composition.merge (outlines.map verdict) ≠ .function :=
    composition.merge_ne_function _
  cases composition with
  | union => exact ⟨⟨_, merged, rfl⟩, fun memberless => by simp_all [join]⟩
  | intersection =>
      refine ⟨⟨_, merged, rfl⟩, fun memberless => ?_⟩
      simp only [join, List.all_eq_true] at memberless
      simp only [join, List.any_eq_false]
      intro outline given
      simp [(each outline given).unrooted (memberless outline given)]

section Single

variable {single : Outline}

/-- A composition of one part has the verdict of the part, if the merge keeps it. -/
theorem judge_singleton (settled : IsSettled settings single)
    (kept : single.verdict ≠ .function → composition.merge [single.verdict] = single.verdict) :
    judge settings composition single.isCallable single.isRooted [single.verdict] =
      single.verdict := by
  obtain ⟨verdict, noFunction, same⟩ := settled.verdict_eq
  unfold judge
  split
  · next rejected => simp [same, rejected]
  · next accepted =>
      split
      · next rooted =>
          have settled : single.verdict = verdict := by simp [same, accepted, rooted]
          exact kept (settled ▸ noFunction)
      · next unrooted => simp [same, accepted, unrooted]

/-- The join of one outline in a union is the outline. -/
theorem join_union_singleton (settled : IsSettled settings single) :
    join settings .union [single] = single := by
  have rooted : (!single.isMemberless && single.isRooted) = single.isRooted := by
    cases bare : single.isMemberless with
    | false => rfl
    | true => rw [settled.unrooted bare]; rfl
  have kept : single.verdict ≠ .function →
      Composition.merge .union [single.verdict] = single.verdict := by
    cases single.verdict <;> simp [Composition.merge, Verdict.mergeUnion]
  simp [join, rooted, judge_singleton settled kept]

/-- The join of one outline in an intersection is the outline, unless that is useful at times. -/
theorem join_intersection_singleton (settled : IsSettled settings single)
    (certain : single.verdict ≠ .sometimes) : join settings .intersection [single] = single := by
  have kept : single.verdict ≠ .function →
      Composition.merge .intersection [single.verdict] = single.verdict := by
    cases found : single.verdict <;>
      simp_all [Composition.merge, Verdict.mergeIntersection]
  simp [join, judge_singleton settled kept]

end Single

end Outline

open Outline

/-! ## Outlines of types -/

/-- The outline of a composed type is the join of those of its parts, unless its name is ignored. -/
theorem outline_composite (nonempty : parts ≠ [])
    (spared : settings.ignores (composite composition parts).name = false) :
    outline settings (.composite composition parts) =
      join settings composition (parts.map (outline settings)) := by
  have verdict := classify_composite settings composition parts
  cases composition with
  | union =>
      simp [outline, join, judge, verdict, spared, contexts_isEmpty_union nonempty, isRooted_union,
        hasCallSignatures, Function.comp_def]
  | intersection =>
      simp [outline, join, judge, verdict, spared, contexts_isEmpty_intersection,
        isRooted_intersection, hasCallSignatures, Function.comp_def]

/-- The outline of a leaf is settled. -/
theorem isSettled_leaf (settings : Settings) (shape : Leaf) :
    IsSettled settings (outline settings (.leaf shape)) := by
  refine ⟨⟨if !shape.isBooleanLike && !settings.ignores shape.name then .never else .always,
    by split <;> simp, ?_⟩, fun memberless => isRooted_of_contexts_isEmpty memberless⟩
  change (leaf shape).classify settings =
    if settings.rejectFunctions && shape.hasCallSignatures then .function
    else if (leaf shape).isRooted then _ else .always
  rw [classify_leaf]
  cases (leaf shape).isRooted <;> simp

/-- No leaf is useful at times. -/
theorem classify_leaf_ne_sometimes (settings : Settings) (shape : Leaf) :
    (leaf shape).classify settings ≠ .sometimes := by
  rw [classify_leaf]
  split
  · simp
  · split <;> simp

/-! ## Sketches -/

/-- The outline of a type as if no composed type had a name that is ignored. -/
def sketch (settings : Settings) : Ty → Outline :=
  fold (fun shape => outline settings (.leaf shape)) (join settings)

@[simp] theorem sketch_leaf (settings : Settings) (shape : Leaf) :
    sketch settings (.leaf shape) = outline settings (.leaf shape) := rfl

@[simp] theorem sketch_composite (settings : Settings) (composition : Composition)
    (parts : List Ty) : sketch settings (.composite composition parts) =
      join settings composition (parts.map (sketch settings)) := by
  simp [sketch]

/-- No composed type in a type, itself included, has a name that is ignored. -/
inductive SparesComposed (settings : Settings) : Ty → Prop where
  | leaf (shape : Leaf) : SparesComposed settings (.leaf shape)
  | composite {composition : Composition} {parts : List Ty}
      (spared : settings.ignores (Ty.composite composition parts).name = false)
      (each : ∀ part ∈ parts, SparesComposed settings part) :
      SparesComposed settings (.composite composition parts)

/-- Where no name is ignored, no composed one is. -/
theorem SparesComposed.of_none (none : ∀ name, settings.ignores name = false) :
    (type : Ty) → SparesComposed settings type
  | .leaf shape => .leaf shape
  | .composite _ _ => .composite (none _) fun part _ => of_none none part

theorem isSettled_sketch (normal : type.Normal) : IsSettled settings (sketch settings type) := by
  induction normal with
  | leaf shape => exact isSettled_leaf settings shape
  | composite _ _ _ _ ih =>
      rw [sketch_composite]
      exact isSettled_join _ (List.forall_mem_map.mpr ih)

/-- A type of which no composed name is ignored has the outline of its sketch. -/
theorem sketch_eq_outline (normal : type.Normal) (spares : SparesComposed settings type) :
    sketch settings type = outline settings type := by
  induction normal with
  | leaf shape => rfl
  | @composite composition parts several _ _ _ ih =>
      cases spares with
      | composite spared each =>
          have nonempty : parts ≠ [] := by
            rintro rfl
            simp at several
          rw [sketch_composite, outline_composite nonempty spared]
          exact congrArg _ (List.map_congr_left fun part given => ih part given (each part given))

/-! ## Sketches of members -/

/-- The sketch of a type is the join of those of its members in a union. -/
theorem sketch_eq_join_members (normal : type.Normal) :
    sketch settings type = join settings .union ((members .union type).map (sketch settings)) := by
  have settled : IsSettled settings (sketch settings type) := isSettled_sketch normal
  have alone := join_union_singleton settled
  cases type with
  | leaf shape => exact alone.symm
  | composite composition parts =>
      cases composition with
      | union => rw [members_composite_self, sketch_composite]
      | intersection =>
          rw [members_composite_of_ne (by simp)]
          exact alone.symm

theorem any_members_intersection (question : Ty → Bool)
    (spread : ∀ parts, question (.composite .intersection parts) = parts.any question)
    (type : Ty) : (members .intersection type).any question = question type := by
  cases type with
  | leaf shape => simp
  | composite composition parts =>
      cases composition with
      | union => simp [members_composite_of_ne]
      | intersection => rw [members_composite_self, spread]

theorem all_members_intersection (question : Ty → Bool)
    (spread : ∀ parts, question (.composite .intersection parts) = parts.all question)
    (type : Ty) : (members .intersection type).all question = question type := by
  cases type with
  | leaf shape => simp
  | composite composition parts =>
      cases composition with
      | union => simp [members_composite_of_ne]
      | intersection => rw [members_composite_self, spread]

/-- Unless it is rejected as a callable, a type is useful when a member in an intersection is. -/
theorem verdict_eq_always_iff_members (normal : type.Normal)
    (accepted : (settings.rejectFunctions && (sketch settings type).isCallable) = false) :
    (sketch settings type).verdict = .always ↔
      ∃ member ∈ members .intersection type, (sketch settings member).verdict = .always := by
  cases normal with
  | leaf shape => simp
  | @composite composition parts several nodup flat each =>
      cases composition with
      | union => simp [members_composite_of_ne]
      | intersection =>
          have settled : ∀ part ∈ parts, IsSettled settings (sketch settings part) :=
            fun part given => isSettled_sketch (each part given)
          rw [sketch_composite] at accepted ⊢
          rw [members_composite_self]
          simp only [join, List.any_map] at accepted
          simp only [join, judge, List.any_map, accepted, Bool.false_eq_true, if_false]
          split
          · simp [Composition.merge, Verdict.mergeIntersection_eq_always_iff]
          · next unrooted =>
              -- No part is rooted, so each of them is useful, and there is one.
              cases parts with
              | nil => simp at several
              | cons first rest =>
                  obtain ⟨verdict, _, same⟩ := (settled first List.mem_cons_self).verdict_eq
                  have useful : (sketch settings first).verdict = .always := by
                    simp_all
                  simp [useful]

/-- Among accepted types, some member is useful exactly when some type is. -/
theorem always_mem_flatMap_members (each : ∀ part ∈ types, part.Normal)
    (accepted : ∀ part ∈ types,
      (settings.rejectFunctions && (sketch settings part).isCallable) = false) :
    .always ∈ (types.flatMap (members .intersection)).map (fun part =>
        (sketch settings part).verdict) ↔
      .always ∈ types.map fun part => (sketch settings part).verdict := by
  simp only [List.mem_map, List.mem_flatMap]
  constructor
  · rintro ⟨member, ⟨part, given, inside⟩, same⟩
    exact ⟨part, given, (verdict_eq_always_iff_members (each part given)
      (accepted part given)).mpr ⟨member, inside, same⟩⟩
  · rintro ⟨part, given, same⟩
    obtain ⟨member, inside, same⟩ := (verdict_eq_always_iff_members (each part given)
      (accepted part given)).mp same
    exact ⟨member, ⟨part, given, inside⟩, same⟩

/-- In an intersection a type stands for its members. -/
theorem join_flatMap_members (each : ∀ part ∈ types, part.Normal) :
    join settings .intersection ((types.flatMap (members .intersection)).map (sketch settings)) =
      join settings .intersection (types.map (sketch settings)) := by
  have callable : (types.flatMap (members .intersection)).any
      (fun part => (sketch settings part).isCallable) =
        types.any fun part => (sketch settings part).isCallable := by
    rw [List.any_flatMap]
    exact congrArg _ (funext (any_members_intersection _ fun parts => by
      simp [join, Function.comp_def]))
  have memberless : (types.flatMap (members .intersection)).all
      (fun part => (sketch settings part).isMemberless) =
        types.all fun part => (sketch settings part).isMemberless := by
    rw [List.all_flatMap]
    exact congrArg _ (funext (all_members_intersection _ fun parts => by
      simp [join, Function.comp_def]))
  have rooted : (types.flatMap (members .intersection)).any
      (fun part => (sketch settings part).isRooted) =
        types.any fun part => (sketch settings part).isRooted := by
    rw [List.any_flatMap]
    exact congrArg _ (funext (any_members_intersection _ fun parts => by
      simp [join, Function.comp_def]))
  have verdicts (isRooted : Bool) : judge settings .intersection
      (types.any fun part => (sketch settings part).isCallable) isRooted
        ((types.flatMap (members .intersection)).map fun part => (sketch settings part).verdict) =
      judge settings .intersection
        (types.any fun part => (sketch settings part).isCallable) isRooted
        (types.map fun part => (sketch settings part).verdict) := by
    unfold judge
    split
    · rfl
    · next accepted =>
        have eachAccepted : ∀ part ∈ types,
            (settings.rejectFunctions && (sketch settings part).isCallable) = false := by
          intro part given
          cases called : (sketch settings part).isCallable with
          | false => simp
          | true =>
              have some : (types.any fun part => (sketch settings part).isCallable) = true :=
                List.any_eq_true.mpr ⟨part, given, called⟩
              simpa [some] using accepted
        simp only [Composition.merge, Verdict.mergeIntersection,
          always_mem_flatMap_members each eachAccepted]
  simpa [join, Function.comp_def, callable, memberless, rooted] using verdicts _

/-- The sketch of an intersection is the join of those of the types it is made of, unless they
collapse to a single union. -/
theorem sketch_of_intersection (each : ∀ part ∈ types, part.Normal)
    (built : compose? .intersection types = some type) (noUnion : type.parts? .union = none) :
    sketch settings type = join settings .intersection (types.map (sketch settings)) := by
  obtain ⟨normal, same⟩ := normal_of_compose? each built
  cases normal with
  | leaf shape =>
      have copies := eq_of_compose? each built rfl
      obtain ⟨part, given⟩ := List.exists_mem_of_ne_nil types (ne_nil_of_compose? built)
      rw [← join_intersection_singleton (isSettled_sketch (.leaf shape))
        (classify_leaf_ne_sometimes settings shape)]
      apply join_eq_of_mem_iff
      intro found
      rw [List.mem_singleton, List.mem_map]
      constructor
      · rintro rfl
        exact ⟨part, given, by rw [copies part given]⟩
      · rintro ⟨other, given, rfl⟩
        rw [copies other given]
  | @composite composition parts several nodup flat _ =>
      cases composition with
      | union => simp [parts?] at noUnion
      | intersection =>
          rw [members_composite_self] at same
          rw [sketch_composite, ← join_flatMap_members each]
          apply join_eq_of_mem_iff
          intro found
          simp only [same, flatten, List.mem_map, List.mem_eraseDups]

/-! ## Types that the rules cannot tell apart -/

/-- The members of two types in a union have the same sketches. -/
def Alike (settings : Settings) (left right : Ty) : Prop :=
  ∀ found, found ∈ (members .union left).map (sketch settings) ↔
    found ∈ (members .union right).map (sketch settings)

/-- Everything on either side is related to something on the other. -/
def Matched {α : Type} (related : α → α → Prop) (first second : α → Prop) : Prop :=
  (∀ element, first element → ∃ partner, second partner ∧ related element partner) ∧
    ∀ partner, second partner → ∃ element, first element ∧ related element partner

namespace Alike

theorem refl (settings : Settings) (type : Ty) : Alike settings type type :=
  fun _ => Iff.rfl

theorem sketch_eq (alike : Alike settings left right) (leftNormal : left.Normal)
    (rightNormal : right.Normal) : sketch settings left = sketch settings right := by
  rw [sketch_eq_join_members leftNormal, sketch_eq_join_members rightNormal]
  exact join_eq_of_mem_iff .union alike

/-- Alike types have the same verdict, if none of their composed names is ignored. -/
theorem classify_eq (alike : Alike settings left right) (leftNormal : left.Normal)
    (rightNormal : right.Normal) (leftSpares : SparesComposed settings left)
    (rightSpares : SparesComposed settings right) :
    left.classify settings = right.classify settings := by
  have same := alike.sketch_eq leftNormal rightNormal
  rw [sketch_eq_outline leftNormal leftSpares, sketch_eq_outline rightNormal rightSpares] at same
  exact congrArg Outline.verdict same

/-- Types that are no unions are alike when their sketches agree. -/
theorem of_sketch_eq (leftNoUnion : left.parts? .union = none)
    (rightNoUnion : right.parts? .union = none)
    (same : sketch settings left = sketch settings right) : Alike settings left right := by
  intro found
  rw [members_of_parts?_eq_none leftNoUnion, members_of_parts?_eq_none rightNoUnion]
  simp [same]

/-- Unions of alike types are alike, however they are built. -/
theorem of_members {first second : Ty → Prop} (matched : Matched (Alike settings) first second)
    (ofLeft : ∀ member, member ∈ members .union left ↔
      ∃ part, first part ∧ member ∈ members .union part)
    (ofRight : ∀ member, member ∈ members .union right ↔
      ∃ part, second part ∧ member ∈ members .union part) : Alike settings left right := by
  intro found
  simp only [List.mem_map, ofLeft, ofRight]
  constructor
  · rintro ⟨member, ⟨part, given, inside⟩, same⟩
    obtain ⟨partner, taken, alike⟩ := matched.1 part given
    obtain ⟨other, otherInside, otherSame⟩ :=
      List.mem_map.mp ((alike found).mp (List.mem_map.mpr ⟨member, inside, same⟩))
    exact ⟨other, ⟨partner, taken, otherInside⟩, otherSame⟩
  · rintro ⟨member, ⟨partner, taken, inside⟩, same⟩
    obtain ⟨part, given, alike⟩ := matched.2 partner taken
    obtain ⟨other, otherInside, otherSame⟩ :=
      List.mem_map.mp ((alike found).mpr (List.mem_map.mpr ⟨member, inside, same⟩))
    exact ⟨other, ⟨part, given, otherInside⟩, otherSame⟩

/-- Unions of alike types are alike. -/
theorem compose_union (matched : Matched (Alike settings) (· ∈ types) (· ∈ others))
    (each : ∀ part ∈ types, part.Normal) (eachOther : ∀ part ∈ others, part.Normal)
    (built : compose? .union types = some left) (builtOther : compose? .union others = some right) :
    Alike settings left right :=
  of_members matched (fun _ => mem_members_of_compose? each built)
    fun _ => mem_members_of_compose? eachOther builtOther

/-- Intersections of alike types are alike, if both or none of them collapse to a single union. -/
theorem compose_intersection (matched : Matched (Alike settings) (· ∈ types) (· ∈ others))
    (each : ∀ part ∈ types, part.Normal) (eachOther : ∀ part ∈ others, part.Normal)
    (built : compose? .intersection types = some left)
    (builtOther : compose? .intersection others = some right)
    (collapse : left.parts? .union = none ↔ right.parts? .union = none) :
    Alike settings left right := by
  by_cases noUnion : left.parts? .union = none
  · have same : ∀ found, found ∈ types.map (sketch settings) ↔
        found ∈ others.map (sketch settings) := by
      intro found
      simp only [List.mem_map]
      constructor
      · rintro ⟨part, given, same⟩
        obtain ⟨partner, taken, alike⟩ := matched.1 part given
        have equal := alike.sketch_eq (each part given) (eachOther partner taken)
        exact ⟨partner, taken, equal ▸ same⟩
      · rintro ⟨partner, taken, same⟩
        obtain ⟨part, given, alike⟩ := matched.2 partner taken
        have equal := alike.sketch_eq (each part given) (eachOther partner taken)
        exact ⟨part, given, equal.trans same⟩
    apply of_sketch_eq noUnion (collapse.mp noUnion)
    rw [sketch_of_intersection each built noUnion,
      sketch_of_intersection eachOther builtOther (collapse.mp noUnion)]
    exact join_eq_of_mem_iff .intersection same
  · -- Both are unions, so all the types of either side are copies of one of them.
    have single : ∀ {type : Ty}, ¬type.parts? .union = none → type.parts? .intersection = none := by
      intro type union
      cases type with
      | leaf shape => rfl
      | composite composition parts => cases composition <;> simp_all [parts?]
    obtain ⟨part, given⟩ := List.exists_mem_of_ne_nil types (ne_nil_of_compose? built)
    obtain ⟨partner, taken, alike⟩ := matched.1 part given
    rw [eq_of_compose? each built (single noUnion) part given,
      eq_of_compose? eachOther builtOther (single (mt collapse.mpr noUnion)) partner taken] at alike
    exact alike

end Alike

end Stringify.Ty
