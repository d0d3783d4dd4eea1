import Mathlib.Data.Fintype.Order
import Mathlib.Data.List.Forall2
import Stringify.Verdict

/-!
# The order of verdicts

Verdicts are ordered by how useful the text is: the useless verdict is the least, the useful one the
greatest, and the two in between are not comparable. Both merges are monotone in this order, and no
merge makes a callable of its constituents.
-/

namespace Stringify

namespace Verdict

/-- One verdict is at most as useful as another. -/
instance : LE Verdict :=
  ⟨fun left right => left = .never ∨ right = .always ∨ left = right⟩

instance : DecidableLE Verdict := fun left right =>
  inferInstanceAs (Decidable (left = .never ∨ right = .always ∨ left = right))

instance : PartialOrder Verdict where
  le_refl verdict := .inr (.inr rfl)
  le_trans := by
    intro first second third
    cases first <;> cases second <;> cases third <;> decide
  le_antisymm := by
    intro left right
    cases left <;> cases right <;> decide

/-- The more useful of two verdicts, or the useful one if neither is. -/
def sup (left right : Verdict) : Verdict :=
  if left ≤ right then right else if right ≤ left then left else .always

/-- The less useful of two verdicts, or the useless one if neither is. -/
def inf (left right : Verdict) : Verdict :=
  if left ≤ right then left else if right ≤ left then right else .never

instance : Lattice Verdict where
  sup := sup
  inf := inf
  le_sup_left := by
    intro left right
    cases left <;> cases right <;> decide
  le_sup_right := by
    intro left right
    cases left <;> cases right <;> decide
  sup_le := by
    intro left right bound
    cases left <;> cases right <;> cases bound <;> decide
  inf_le_left := by
    intro left right
    cases left <;> cases right <;> decide
  inf_le_right := by
    intro left right
    cases left <;> cases right <;> decide
  le_inf := by
    intro bound left right
    cases bound <;> cases left <;> cases right <;> decide

instance : BoundedOrder Verdict where
  top := .always
  le_top _ := .inr (.inl rfl)
  bot := .never
  bot_le _ := .inl rfl

instance : Fintype Verdict where
  elems := {.always, .never, .sometimes, .function}
  complete verdict := by cases verdict <;> decide

noncomputable instance : CompleteLattice Verdict :=
  Fintype.toCompleteLattice Verdict

theorem le_always (verdict : Verdict) : verdict ≤ .always :=
  .inr (.inl rfl)

theorem always_le_iff {verdict : Verdict} : .always ≤ verdict ↔ verdict = .always := by
  cases verdict <;> decide

theorem le_never_iff {verdict : Verdict} : verdict ≤ .never ↔ verdict = .never := by
  cases verdict <;> decide

theorem le_sometimes_iff {verdict : Verdict} :
    verdict ≤ .sometimes ↔ verdict = .never ∨ verdict = .sometimes := by
  cases verdict <;> decide

/-! ## Merges -/

variable {verdicts : List Verdict}

theorem mergeIntersection_eq_always_iff :
    mergeIntersection verdicts = .always ↔ .always ∈ verdicts := by
  unfold mergeIntersection
  split <;> simp_all

/-- A union is useful when it has constituents and every one is useful. -/
theorem mergeUnion_eq_always_iff :
    mergeUnion verdicts = .always ↔ verdicts ≠ [] ∧ ∀ verdict ∈ verdicts, verdict = .always := by
  unfold mergeUnion
  split
  · next some =>
      obtain ⟨verdict, member, _⟩ := List.any_eq_true.mp some
      have nonempty : verdicts ≠ [] := List.ne_nil_of_mem member
      simp [nonempty]
  · next none =>
      simp only [reduceCtorEq, false_iff, not_and]
      intro nonempty useful
      obtain ⟨verdict, member⟩ := List.exists_mem_of_ne_nil verdicts nonempty
      exact none (List.any_eq_true.mpr ⟨verdict, member, by simp [useful verdict member]⟩)

variable {lower upper : List Verdict} {relation : Verdict → Verdict → Prop}

/-- Every verdict of the lower list has one above it in the upper list. -/
theorem exists_mem_above {verdict : Verdict} (below : List.Forall₂ relation lower upper)
    (member : verdict ∈ lower) : ∃ other ∈ upper, relation verdict other := by
  induction below with
  | nil => simp at member
  | @cons first other _ _ less _ ih =>
      rcases List.mem_cons.mp member with rfl | member
      · exact ⟨other, List.mem_cons_self, less⟩
      · obtain ⟨above, aboveMem, more⟩ := ih member
        exact ⟨above, List.mem_cons_of_mem _ aboveMem, more⟩

/-- Every verdict of the upper list has one below it in the lower list. -/
theorem exists_mem_below {verdict : Verdict} (below : List.Forall₂ relation lower upper)
    (member : verdict ∈ upper) : ∃ other ∈ lower, relation other verdict := by
  induction below with
  | nil => simp at member
  | @cons first other _ _ less _ ih =>
      rcases List.mem_cons.mp member with rfl | member
      · exact ⟨first, List.mem_cons_self, less⟩
      · obtain ⟨under, underMem, more⟩ := ih member
        exact ⟨under, List.mem_cons_of_mem _ underMem, more⟩

theorem mergeIntersection_mono (below : List.Forall₂ (· ≤ ·) lower upper) :
    mergeIntersection lower ≤ mergeIntersection upper := by
  unfold mergeIntersection
  split
  · next member =>
      obtain ⟨other, otherMem, useful⟩ := exists_mem_above below member
      obtain rfl := always_le_iff.mp useful
      rw [if_pos otherMem]
  · exact bot_le

theorem mergeUnion_mono (below : List.Forall₂ (· ≤ ·) lower upper) :
    mergeUnion lower ≤ mergeUnion upper := by
  unfold mergeUnion
  split
  · next some =>
      obtain ⟨verdict, member, notNever⟩ := List.any_eq_true.mp some
      obtain ⟨other, otherMem, less⟩ := exists_mem_above below member
      have someUpper : upper.any (· != .never) = true := by
        refine List.any_eq_true.mpr ⟨other, otherMem, bne_iff_ne.mpr ?_⟩
        rintro rfl
        exact bne_iff_ne.mp notNever (le_never_iff.mp less)
      rw [if_pos someUpper]
      split
      · next all =>
          have allUpper : upper.all (· == .always) = true := by
            refine List.all_eq_true.mpr fun other otherMem => ?_
            obtain ⟨verdict, member, less⟩ := exists_mem_below below otherMem
            have useful := beq_iff_eq.mp (List.all_eq_true.mp all verdict member)
            exact beq_iff_eq.mpr (always_le_iff.mp (useful ▸ less))
          rw [if_pos allUpper]
      · split
        · exact le_always _
        · exact le_refl _
  · exact bot_le

end Verdict

namespace Composition

theorem merge_mono (composition : Composition) {lower upper : List Verdict}
    (below : List.Forall₂ (· ≤ ·) lower upper) :
    composition.merge lower ≤ composition.merge upper := by
  cases composition with
  | union => exact Verdict.mergeUnion_mono below
  | intersection => exact Verdict.mergeIntersection_mono below

/-- A merge depends on which verdicts there are, not on their order or number. -/
theorem merge_congr (composition : Composition) {left right : List Verdict}
    (same : ∀ verdict, verdict ∈ left ↔ verdict ∈ right) :
    composition.merge left = composition.merge right := by
  cases composition with
  | union =>
      have any : left.any (· != .never) = right.any (· != .never) := by
        rw [Bool.eq_iff_iff, List.any_eq_true, List.any_eq_true]
        simp only [same]
      have all : left.all (· == .always) = right.all (· == .always) := by
        rw [Bool.eq_iff_iff, List.all_eq_true, List.all_eq_true]
        simp only [same]
      rw [merge, Verdict.mergeUnion, Verdict.mergeUnion, any, all]
  | intersection =>
      simp only [merge, Verdict.mergeIntersection, same]

/-- A merge never says that the composed type is a callable. -/
theorem merge_ne_function (composition : Composition) (verdicts : List Verdict) :
    composition.merge verdicts ≠ .function := by
  cases composition with
  | union =>
      simp only [merge, Verdict.mergeUnion]
      split
      · split <;> simp
      · simp
  | intersection =>
      simp only [merge, Verdict.mergeIntersection]
      split <;> simp

end Composition

end Stringify
