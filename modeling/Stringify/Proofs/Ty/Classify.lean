import Stringify.Proofs.Host.Classify
import Stringify.Ty.Classify

/-!
# The verdicts of types

The parts of a type are smaller than the type, so types are a graph without cycles. The verdict of a
type is what the rules say of it with the verdicts of its parts.
-/

namespace Stringify.Ty

variable {settings : Settings} {composition : Composition} {parts : List Ty} {part type : Ty}

/-! ## Parts -/

theorem le_foldl_max (numbers : List Nat) (start : Nat) :
    start ≤ numbers.foldl max start ∧ ∀ number ∈ numbers, number ≤ numbers.foldl max start := by
  induction numbers generalizing start with
  | nil => simp
  | cons first rest ih =>
      obtain ⟨above, members⟩ := ih (max start first)
      rw [List.foldl_cons]
      refine ⟨(le_max_left ..).trans above, ?_⟩
      intro number member
      rcases List.mem_cons.mp member with rfl | member
      · exact (le_max_right ..).trans above
      · exact members number member

theorem depth_pos (type : Ty) : 0 < type.depth := by
  cases type with
  | leaf shape => exact Nat.one_pos
  | composite composition parts =>
      rw [depth, fold_composite]
      exact Nat.succ_pos _

/-- A part is less deep than the type that it is a part of. -/
theorem depth_lt_of_mem (composition : Composition) (member : part ∈ parts) :
    part.depth < (composite composition parts).depth := by
  have bound := (le_foldl_max (parts.map depth) 0).2 part.depth (List.mem_map_of_mem member)
  have unfolded : (composite composition parts).depth = (parts.map depth).foldl max 0 + 1 :=
    fold_composite ..
  omega

@[simp] theorem decomposition?_leaf (shape : Leaf) : host.decomposition? (.leaf shape) = none := rfl

@[simp] theorem decomposition?_composite (composition : Composition) (parts : List Ty) :
    host.decomposition? (.composite composition parts) = some (composition, parts) := by
  cases composition <;> rfl

theorem isPart_composite : host.IsPart part (.composite composition parts) ↔ part ∈ parts := by
  simp [Host.IsPart]

theorem depth_lt_of_isPart (isPart : host.IsPart part type) : part.depth < type.depth := by
  cases type with
  | leaf shape => simp [Host.IsPart] at isPart
  | composite composition parts => exact depth_lt_of_mem composition (isPart_composite.mp isPart)

theorem acyclic (type : Ty) : host.Acyclic type :=
  Host.acyclic_of_rank depth (fun _ _ => depth_lt_of_isPart) type

/-! ## The rules -/

/-- A visit as deep as the type gives its label. -/
theorem labels_of_depth_le {label : Ty → Verdict}
    (consistent : host.Consistent settings Set.univ label) {depth : Nat}
    (enough : type.depth ≤ depth) : Host.Labels host settings label depth type := by
  induction depth generalizing type with
  | zero =>
      have positive := type.depth_pos
      omega
  | succ depth ih =>
      refine Host.Labels.step consistent type.acyclic fun part isPart => ih ?_
      have less := depth_lt_of_isPart isPart
      omega

/-- The verdicts of types are a consistent labelling. -/
theorem classify_consistent (settings : Settings) :
    host.Consistent settings Set.univ (classify settings) := by
  obtain ⟨label, consistent⟩ := Host.exists_consistent host settings
  have same : classify settings = label :=
    funext fun type => (labels_of_depth_le consistent (le_refl type.depth)).classify
  exact same ▸ consistent

/-- Whether some declaration of the conversion to text is on the root. -/
def isRooted (type : Ty) : Bool :=
  type.contexts.any isRoot

theorem isRooted_of_contexts_isEmpty (empty : type.contexts.isEmpty = true) :
    type.isRooted = false := by
  simp [isRooted, List.isEmpty_iff.mp empty]

@[simp] theorem declarations_host (type : Ty) : host.declarations type = type.contexts := rfl

@[simp] theorem isRoot_host : host.isRoot = isRoot := rfl

/-- A type without declarations has none on the root, so one condition says whether the rules come
to the parts. -/
theorem textRuling_eq (settings : Settings) (type : Ty) :
    host.textRuling settings type =
      if type.isRooted && !type.isBooleanLike && !settings.ignores type.name then
        match host.decomposition? type with
        | some (composition, parts) => .merged composition parts
        | none => .settled .never
      else .settled .always := by
  have boolean : host.isBooleanLike type = type.isBooleanLike := rfl
  have name : host.name type = type.name := rfl
  have onRoot : type.contexts.any isRoot = type.isRooted := rfl
  rw [Host.textRuling, declarations_host, isRoot_host, boolean, name, onRoot]
  cases rooted : type.isRooted with
  | false => simp
  | true =>
      have declared : type.contexts.isEmpty = false := by
        cases empty : type.contexts.isEmpty with
        | false => rfl
        | true => simp [isRooted_of_contexts_isEmpty empty] at rooted
      cases host.decomposition? type <;> cases type.isBooleanLike <;>
        cases settings.ignores type.name <;> simp [declared]

/-- The verdict of a leaf. -/
theorem classify_leaf (settings : Settings) (shape : Leaf) :
    (leaf shape).classify settings =
      if settings.rejectFunctions && shape.hasCallSignatures then .function
      else if (leaf shape).isRooted && !shape.isBooleanLike && !settings.ignores shape.name
        then .never
      else .always := by
  have ruled := classify_consistent settings (.leaf shape) trivial
  have callable : host.hasCallSignatures (.leaf shape) = shape.hasCallSignatures := rfl
  rw [Host.ruling, callable, textRuling_eq] at ruled
  rw [ruled]
  split
  · rfl
  · show Ruling.outcome _ (if (leaf shape).isRooted && !shape.isBooleanLike &&
      !settings.ignores shape.name then _ else _) = _
    split <;> rfl

/-- The verdict of a composed type: of the constituents' verdicts, unless none of their
declarations is on the root or the name of the whole is ignored. -/
theorem classify_composite (settings : Settings) (composition : Composition) (parts : List Ty) :
    (composite composition parts).classify settings =
      if settings.rejectFunctions && (composite composition parts).hasCallSignatures then .function
      else if (composite composition parts).isRooted &&
          !settings.ignores (composite composition parts).name
        then composition.merge (parts.map (classify settings))
      else .always := by
  have ruled := classify_consistent settings (.composite composition parts) trivial
  have callable : host.hasCallSignatures (.composite composition parts) =
      (composite composition parts).hasCallSignatures := rfl
  have boolean : (composite composition parts).isBooleanLike = false := rfl
  rw [Host.ruling, callable, textRuling_eq, boolean, decomposition?_composite] at ruled
  rw [ruled]
  split
  · rfl
  · simp only [Bool.not_false, Bool.and_true]
    split <;> rfl

end Stringify.Ty
