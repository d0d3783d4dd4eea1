import Mathlib.Logic.Function.Iterate
import Stringify.Proofs.Ty.Offending

/-!
# Explanations of findings

The parts to blame for a finding can be asked for the parts to blame for them, and so on. For a type
whose compositions are not empty this comes to an end, at leaves that are to blame by themselves: a
finding is explained by callables that are not wanted and by values that only have the placeholder.
-/

namespace Stringify.Ty

variable {settings : Settings} {composition : Composition} {type : Ty}
variable {types others parts : List Ty}
variable {shape : Leaf} {shapes otherShapes : List Leaf} {bound : Nat}

/-- A leaf is to blame by itself when it is a callable and callables are reported, or when the root
declares its conversion, it is not boolean, and its name is not ignored. -/
def IsCulprit (settings : Settings) (shape : Leaf) : Prop :=
  settings.rejectFunctions = true ∧ shape.hasCallSignatures = true ∨
    some rootName ∈ shape.contexts ∧ shape.isBooleanLike = false ∧
      settings.ignores shape.name = false

/-- The parts to blame for each of several types. -/
def blameEach (settings : Settings) (types : List Ty) : List Ty :=
  types.flatMap (offending settings)

/-! ## One step -/

theorem isRooted_leaf_iff : (leaf shape).isRooted = true ↔ some rootName ∈ shape.contexts := by
  show shape.contexts.any isRoot = true ↔ _
  simp [isRoot]

/-- The leaves that are findings are those to blame by themselves. -/
theorem classify_leaf_ne_always_iff :
    (leaf shape).classify settings ≠ .always ↔ IsCulprit settings shape := by
  rw [classify_leaf, IsCulprit, ← isRooted_leaf_iff]
  cases settings.rejectFunctions <;> cases shape.hasCallSignatures <;>
    cases (leaf shape).isRooted <;> cases shape.isBooleanLike <;>
    cases settings.ignores shape.name <;> simp

/-- Nothing is to blame exactly for what is useful. -/
theorem offending_eq_nil_iff (full : type.Full) :
    type.offending settings = [] ↔ type.classify settings = .always := by
  constructor
  · intro none
    by_contra finding
    exact offending_ne_nil full finding none
  · exact Host.offending_of_useful

theorem offending_leaf (finding : (leaf shape).classify settings ≠ .always) :
    (leaf shape).offending settings = [leaf shape] := by
  simp [offending_of_finding finding, Host.breakdown, Verdict.isFinding, finding]

theorem offending_composite
    (finding : (composite composition parts).classify settings ≠ .always) :
    (composite composition parts).offending settings =
      parts.filter fun part => (part.classify settings).isFinding := by
  simp [offending_of_finding finding, Host.breakdown]

theorem offending_composite_sublist :
    ((composite composition parts).offending settings).Sublist parts := by
  by_cases finding : (composite composition parts).classify settings = .always
  · rw [offending, Host.offending_of_useful finding]
    exact List.nil_sublist parts
  · rw [offending_composite finding]
    exact List.filter_sublist

/-- A composed type that is never useful has no useful part. -/
theorem classify_part_of_never
    (never : (composite composition parts).classify settings = .never) :
    ∀ part ∈ parts, part.classify settings ≠ .always := by
  intro part member useful
  have inside : .always ∈ parts.map (classify settings) :=
    List.mem_map.mpr ⟨part, member, useful⟩
  rw [classify_composite] at never
  split at never
  · cases never
  · split at never
    · cases composition with
      | union =>
          have some : (parts.map (classify settings)).any (· != .never) = true :=
            List.any_eq_true.mpr ⟨_, inside, rfl⟩
          simp only [Composition.merge, Verdict.mergeUnion, some, if_true] at never
          split at never <;> cases never
      | intersection =>
          simp [Composition.merge, Verdict.mergeIntersection, inside] at never
    · cases never

/-- All parts are to blame for what is never useful. -/
theorem offending_of_never (never : (composite composition parts).classify settings = .never) :
    (composite composition parts).offending settings = parts := by
  rw [offending_composite (by simp [never]), List.filter_eq_self]
  intro part member
  simpa [Verdict.isFinding] using classify_part_of_never never part member

/-- Every part that can be called is to blame for a callable. -/
theorem callable_sublist_offending
    (function : (composite composition parts).classify settings = .function) :
    (parts.filter hasCallSignatures).Sublist
      ((composite composition parts).offending settings) := by
  have rejected : settings.rejectFunctions = true := by
    by_contra accepted
    rw [classify_composite] at function
    simp only [accepted, Bool.false_and, Bool.false_eq_true, if_false] at function
    split at function
    · exact composition.merge_ne_function _ function
    · cases function
  rw [offending_composite (by simp [function])]
  apply List.monotone_filter_right
  intro part callable
  simp [classify_of_callable rejected callable, Verdict.isFinding]

/-! ## All steps -/

/-- From some round on, what is to blame for some types are given leaves. -/
def ExplainedBy (settings : Settings) (bound : Nat) (types : List Ty) (shapes : List Leaf) : Prop :=
  ∀ rounds ≥ bound, (blameEach settings)^[rounds] types = shapes.map leaf

theorem iterate_blameEach_append (rounds : Nat) : (blameEach settings)^[rounds] (types ++ others) =
    (blameEach settings)^[rounds] types ++ (blameEach settings)^[rounds] others := by
  induction rounds generalizing types others with
  | zero => rfl
  | succ rounds ih =>
      rw [Function.iterate_succ_apply, Function.iterate_succ_apply, Function.iterate_succ_apply,
        blameEach, List.flatMap_append, ih]
      rfl

namespace ExplainedBy

theorem nil (settings : Settings) (bound : Nat) : ExplainedBy settings bound [] [] := by
  intro rounds _
  exact Function.iterate_fixed rfl rounds

theorem append (first : ExplainedBy settings bound types shapes)
    (second : ExplainedBy settings bound others otherShapes) :
    ExplainedBy settings bound (types ++ others) (shapes ++ otherShapes) := by
  intro rounds enough
  rw [iterate_blameEach_append, first rounds enough, second rounds enough, List.map_append]

theorem step (later : ExplainedBy settings bound (type.offending settings) shapes) :
    ExplainedBy settings (bound + 1) [type] shapes := by
  intro rounds enough
  obtain ⟨rounds, rfl⟩ : ∃ fewer, rounds = fewer + 1 := ⟨rounds - 1, by omega⟩
  have unfolded : blameEach settings [type] = type.offending settings := by simp [blameEach]
  rw [Function.iterate_succ_apply, unfolded]
  exact later rounds (by omega)

/-- A leaf that is to blame by itself explains itself. -/
theorem leaf (finding : (leaf shape).classify settings ≠ .always) (bound : Nat) :
    ExplainedBy settings bound [.leaf shape] [shape] := by
  intro rounds _
  apply Function.iterate_fixed
  simp [blameEach, offending_leaf finding]

end ExplainedBy

/-- Several findings are explained together by what explains each of them. -/
theorem exists_culprits_of_each (each : ∀ part ∈ types, ∃ shapes, shapes ≠ [] ∧
      (∀ shape ∈ shapes, IsCulprit settings shape) ∧ ExplainedBy settings bound [part] shapes) :
    ∃ shapes, (types ≠ [] → shapes ≠ []) ∧ (∀ shape ∈ shapes, IsCulprit settings shape) ∧
      ExplainedBy settings bound types shapes := by
  induction types with
  | nil => exact ⟨[], by simp, by simp, .nil settings bound⟩
  | cons part rest ih =>
      obtain ⟨first, nonempty, culprits, explained⟩ := each part List.mem_cons_self
      obtain ⟨others, -, otherCulprits, othersExplained⟩ :=
        ih fun other member => each other (List.mem_cons_of_mem part member)
      refine ⟨first ++ others, by simp [nonempty], ?_, explained.append othersExplained⟩
      exact List.forall_mem_append.mpr ⟨culprits, otherCulprits⟩

/-- A finding is explained by leaves in fewer rounds than the type is deep. -/
theorem exists_culprits (full : type.Full) (finding : type.classify settings ≠ .always)
    (enough : type.depth ≤ bound + 1) :
    ∃ shapes, shapes ≠ [] ∧ (∀ shape ∈ shapes, IsCulprit settings shape) ∧
      ExplainedBy settings bound [type] shapes := by
  induction full generalizing bound with
  | leaf shape =>
      refine ⟨[shape], by simp, ?_, .leaf finding bound⟩
      simpa using classify_leaf_ne_always_iff.mp finding
  | @composite composition parts nonempty each ih =>
      have shallower : ∀ part ∈ parts, part.depth ≤ bound := by
        intro part member
        have less := depth_lt_of_mem composition member
        omega
      obtain ⟨part, member⟩ := List.exists_mem_of_ne_nil parts nonempty
      obtain ⟨bound, rfl⟩ : ∃ fewer, bound = fewer + 1 :=
        ⟨bound - 1, by have := shallower part member; have := part.depth_pos; omega⟩
      have blamed : ∀ part ∈ (composite composition parts).offending settings,
          ∃ shapes, shapes ≠ [] ∧ (∀ shape ∈ shapes, IsCulprit settings shape) ∧
            ExplainedBy settings bound [part] shapes := by
        intro part blamed
        rw [offending_composite finding, List.mem_filter] at blamed
        obtain ⟨member, isFinding⟩ := blamed
        exact ih part member (by simpa [Verdict.isFinding] using isFinding)
          (shallower part member)
      obtain ⟨shapes, some, culprits, explained⟩ := exists_culprits_of_each blamed
      exact ⟨shapes, some (offending_ne_nil (.composite composition nonempty each) finding),
        culprits, explained.step⟩

/-- Findings have a complete explanation. Nothing is to blame exactly for what is useful, a leaf
that is a finding is to blame itself, and of a composed type some parts are, in their order: all of
them if the type is never useful, and every callable one if it is a callable. What is to blame for
the parts to blame, and so on, is from some round on the same leaves, of which there are some and
each is to blame by itself. -/
theorem findings_are_explained (settings : Settings) {type : Ty} (full : type.Full) :
    (type.offending settings = [] ↔ type.classify settings = .always) ∧
    (∀ shape, type = .leaf shape → type.classify settings ≠ .always →
      type.offending settings = [type]) ∧
    (∀ composition parts, type = .composite composition parts →
      (type.offending settings).Sublist parts ∧
      (type.classify settings = .never → type.offending settings = parts) ∧
      (type.classify settings = .function →
        (parts.filter hasCallSignatures).Sublist (type.offending settings))) ∧
    (type.classify settings ≠ .always → ∃ shapes, shapes ≠ [] ∧
      (∀ shape ∈ shapes, IsCulprit settings shape) ∧
      ∀ rounds ≥ type.depth, (blameEach settings)^[rounds] [type] = shapes.map leaf) := by
  refine ⟨offending_eq_nil_iff full, ?_, ?_, fun finding => ?_⟩
  · rintro shape rfl finding
    exact offending_leaf finding
  · rintro composition parts rfl
    exact ⟨offending_composite_sublist, offending_of_never, callable_sublist_offending⟩
  · exact exists_culprits full finding (Nat.le_succ _)

/-- Callables are reported. A union of a useful class, a placeholder and an intersection of the
placeholder with a callable is explained by the placeholder and by both parts of the
intersection. -/
theorem findings_are_explained_handler :
    let plain : Leaf := .object ⟨"Plain", [some "object"], 0⟩
    let handler : Leaf := .object ⟨"Handler", [some "Handler"], 1⟩
    let both : Ty := .composite .intersection [.leaf plain, .leaf handler]
    let type : Ty := .composite .union [ofScalar "int", .leaf plain, both]
    let settings : Settings := ⟨[], [], true⟩
    type.Full ∧ both.Full ∧ type.classify settings = .sometimes ∧
      both.classify settings = .function ∧
      ([leaf handler] : List Ty).Sublist (both.offending settings) ∧
      (type.offending settings).Sublist [ofScalar "int", .leaf plain, both] ∧
      ∃ shapes, shapes = [plain, plain, handler] ∧ (∀ shape ∈ shapes, IsCulprit settings shape) ∧
        (blameEach settings)^[type.depth] [type] = shapes.map leaf := by
  intro plain handler both type settings
  have bothFull : both.Full := by simp [both]
  have full : type.Full := by simp [type, both, ofScalar]
  have finding : type.classify settings = .sometimes := by decide
  have callable : both.classify settings = .function := by decide
  obtain ⟨-, -, ofBoth, -⟩ := findings_are_explained settings bothFull
  obtain ⟨-, -, ofParts, explained⟩ := findings_are_explained settings full
  obtain ⟨shapes, -, culprits, ends⟩ := explained (by simp [finding])
  have leaves : shapes.map leaf = [plain, plain, handler].map leaf := by
    rw [← ends _ (Nat.le_refl _)]
    decide
  have same : shapes = [plain, plain, handler] :=
    List.map_injective_iff.mpr (fun _ _ equal => Ty.leaf.inj equal) leaves
  exact ⟨full, bothFull, finding, callable, (ofBoth _ _ rfl).2.2 callable, (ofParts _ _ rfl).1,
    shapes, same, culprits, ends _ (Nat.le_refl _)⟩

end Stringify.Ty
