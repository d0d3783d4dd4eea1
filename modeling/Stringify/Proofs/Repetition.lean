import Mathlib.Data.List.Basic

/-!
# Repetitions

`List.eraseDups` keeps the first of equal elements. What has been met before leaves no trace, and
what is left out may be left out before or after repetitions are erased.
-/

namespace Stringify

universe u

variable {α : Type u} [BEq α] [LawfulBEq α] {element : α}
variable {elements others first second left right : List α}

/-- Erasing repetitions leaves none. -/
theorem nodup_eraseDups : (elements : List α) → elements.eraseDups.Nodup
  | [] => by simp
  | first :: rest => by
    rw [List.eraseDups_cons, List.nodup_cons]
    exact ⟨by simp, nodup_eraseDups _⟩
termination_by elements => elements.length
decreasing_by exact Nat.lt_succ_of_le (List.length_filter_le ..)

theorem eraseDups_eq_self (nodup : elements.Nodup) : elements.eraseDups = elements := by
  induction elements with
  | nil => rfl
  | cons first rest ih =>
      rcases List.nodup_cons.mp nodup with ⟨fresh, nodup⟩
      have kept : rest.filter (fun other => !other == first) = rest := by
        apply List.filter_eq_self.mpr
        intro other member
        have different : other ≠ first := by
          rintro rfl
          exact fresh member
        simpa using different
      rw [List.eraseDups_cons, kept, ih nodup]

/-- What is left out may be left out before or after repetitions are erased. -/
theorem filter_eraseDups (keep : α → Bool) :
    (elements : List α) → elements.eraseDups.filter keep = (elements.filter keep).eraseDups
  | [] => rfl
  | first :: rest => by
    rw [List.eraseDups_cons, List.filter_cons, filter_eraseDups keep, List.filter_filter]
    cases kept : keep first with
    | true =>
        simp only [if_true, List.filter_cons_of_pos kept, List.eraseDups_cons, List.filter_filter]
        congr 3
        funext other
        exact Bool.and_comm ..
    | false =>
        have same :
            (rest.filter fun other => keep other && !other == first) = rest.filter keep := by
          apply List.filter_congr
          intro other _
          by_cases equal : other = first
          · simp [equal, kept]
          · simp [equal]
        simp [kept, same]
termination_by elements => elements.length
decreasing_by exact Nat.lt_succ_of_le (List.length_filter_le ..)

/-- Repetitions may be erased before or after elements are replaced, as long as different elements
are replaced by different ones. -/
theorem eraseDups_map {β : Type u} [BEq β] [LawfulBEq β] {replace : α → β} :
    (elements : List α) →
    (∀ first ∈ elements, ∀ second ∈ elements, replace first = replace second → first = second) →
      (elements.map replace).eraseDups = elements.eraseDups.map replace
  | [], _ => rfl
  | first :: rest, different => by
    have same : (rest.map replace).filter (fun other => !other == replace first) =
        (rest.filter fun other => !other == first).map replace := by
      rw [List.filter_map]
      congr 1
      apply List.filter_congr
      intro other member
      have iff : replace other = replace first ↔ other = first :=
        ⟨different other (List.mem_cons_of_mem _ member) first List.mem_cons_self,
          congrArg replace⟩
      simp [iff]
    have kept : ∀ other ∈ rest.filter (fun other => !other == first), other ∈ first :: rest :=
      fun other member => List.mem_cons_of_mem _ (List.mem_of_mem_filter member)
    rw [List.map_cons, List.eraseDups_cons, same, List.eraseDups_cons, List.map_cons,
      eraseDups_map (rest.filter fun other => !other == first) fun one inside other insideToo =>
        different one (kept one inside) other (kept other insideToo)]
termination_by elements => elements.length
decreasing_by exact Nat.lt_succ_of_le (List.length_filter_le ..)

theorem eraseDups_append_congr (sameLeft : first.eraseDups = left.eraseDups)
    (sameRight : second.eraseDups = right.eraseDups) :
    (first ++ second).eraseDups = (left ++ right).eraseDups := by
  have known : ∀ member, member ∈ first ↔ member ∈ left := by
    intro member
    rw [← List.mem_eraseDups, sameLeft, List.mem_eraseDups]
  have removed : ∀ elements : List α, elements.removeAll first = elements.removeAll left := by
    intro elements
    apply List.filter_congr
    intro member _
    simp [known]
  rw [List.eraseDups_append, List.eraseDups_append, sameLeft, removed, List.removeAll,
    List.removeAll, ← filter_eraseDups, ← filter_eraseDups, sameRight]

/-- Repetitions of what has been met before leave no trace. -/
theorem eraseDups_append_of_subset (known : second ⊆ first) :
    (first ++ second).eraseDups = first.eraseDups := by
  have none : second.removeAll first = [] := by
    apply List.filter_eq_nil_iff.mpr
    intro member inside
    simpa using known inside
  rw [List.eraseDups_append, none, List.eraseDups_nil, List.append_nil]

theorem eraseDups_append_cons (known : element ∈ elements) :
    (elements ++ element :: others).eraseDups = (elements ++ others).eraseDups := by
  have alone : (elements ++ [element]).eraseDups = elements.eraseDups :=
    eraseDups_append_of_subset (by simpa using known)
  simpa using eraseDups_append_congr alone (rfl : others.eraseDups = others.eraseDups)

end Stringify
