import Stringify.Proofs.Host.Offending
import Stringify.Proofs.Ty.Compositional
import Stringify.Proofs.Ty.Normal

/-!
# The parts of a type to blame

Types have no cycles, so the parts to blame for a finding are those that are findings themselves. A
type whose compositions are not empty has one for every finding: a callable or placeholder leaf is
to blame itself, and a merge of useful parts is useful.
-/

namespace Stringify.Ty

variable {settings : Settings} {composition : Composition} {type : Ty} {parts : List Ty}

/-- The types that are built have no empty compositions. -/
theorem Normal.full (normal : type.Normal) : type.Full := by
  induction normal with
  | leaf shape => exact .leaf shape
  | composite several _ _ _ ih =>
      refine .composite _ ?_ ih
      rintro rfl
      simp at several

/-- The parts to blame for a finding are those that are findings themselves. -/
theorem offending_of_finding (finding : type.classify settings ≠ .always) :
    type.offending settings =
      (host.breakdown type).filter fun part => (part.classify settings).isFinding := by
  have labels (part : Ty) (shallow : part.depth ≤ type.depth) :
      Host.Labels host settings (classify settings) type.depth part :=
    labels_of_depth_le (classify_consistent settings) shallow
  refine Host.offending_of_labels (labels type le_rfl) (fun part isPart => labels part ?_) finding
  cases type with
  | leaf shape =>
      obtain rfl : part = .leaf shape := by simpa [Host.breakdown] using isPart
      exact le_rfl
  | composite composition parts =>
      have member : part ∈ parts := by simpa [Host.breakdown] using isPart
      exact (depth_lt_of_mem composition member).le

/-! ## Callables -/

/-- A composed type that can be called has a part that can. -/
theorem exists_callable_part (nonempty : parts ≠ [])
    (callable : (composite composition parts).hasCallSignatures = true) :
    ∃ part ∈ parts, part.hasCallSignatures = true := by
  cases composition with
  | union =>
      have every : ∀ part ∈ parts, part.hasCallSignatures = true := by
        simpa [hasCallSignatures] using callable
      obtain ⟨part, member⟩ := List.exists_mem_of_ne_nil parts nonempty
      exact ⟨part, member, every part member⟩
  | intersection => simpa [hasCallSignatures] using callable

/-- A callable is a finding when callables are reported. -/
theorem classify_of_callable (rejected : settings.rejectFunctions = true)
    (callable : type.hasCallSignatures = true) : type.classify settings = .function := by
  cases type with
  | leaf shape =>
      have called : shape.hasCallSignatures = true := callable
      rw [classify_leaf, rejected, called, Bool.and_self, if_pos rfl]
  | composite composition parts =>
      rw [classify_composite, rejected, callable, Bool.and_self, if_pos rfl]

/-- A composed type of useful parts is useful. -/
theorem classify_of_useful_parts (nonempty : parts ≠ [])
    (useful : ∀ part ∈ parts, part.classify settings = .always) :
    (composite composition parts).classify settings = .always := by
  have uncalled : (settings.rejectFunctions &&
      (composite composition parts).hasCallSignatures) = false := by
    by_contra called
    obtain ⟨rejected, callable⟩ : settings.rejectFunctions = true ∧
        (composite composition parts).hasCallSignatures = true := by simpa using called
    obtain ⟨part, member, callable⟩ := exists_callable_part nonempty callable
    exact absurd (classify_of_callable rejected callable) (by simp [useful part member])
  rw [classify_composite, uncalled, if_neg Bool.false_ne_true]
  split
  · cases composition with
    | union =>
        refine Verdict.mergeUnion_eq_always_iff.mpr ⟨by simpa using nonempty, ?_⟩
        simpa using useful
    | intersection =>
        obtain ⟨part, member⟩ := List.exists_mem_of_ne_nil parts nonempty
        refine Verdict.mergeIntersection_eq_always_iff.mpr ?_
        exact List.mem_map.mpr ⟨part, member, useful part member⟩
  · rfl

/-- Every finding has a part to blame. -/
theorem offending_ne_nil (full : type.Full) (finding : type.classify settings ≠ .always) :
    type.offending settings ≠ [] := by
  rw [offending_of_finding finding]
  intro none
  have useful : ∀ part ∈ host.breakdown type, part.classify settings = .always := by
    intro part isPart
    simpa [Verdict.isFinding] using List.filter_eq_nil_iff.mp none part isPart
  cases full with
  | leaf shape => exact finding (useful _ (by simp [Host.breakdown]))
  | composite composition nonempty each =>
      exact finding (classify_of_useful_parts nonempty (by simpa [Host.breakdown] using useful))

end Stringify.Ty
