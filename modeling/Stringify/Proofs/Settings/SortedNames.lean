import Mathlib.Data.List.Sort
import Mathlib.Data.List.Lex
import Stringify.Settings.Basic

/-!
# Sorted names

Texts are in lexicographic order by their code points. A list of names that is strictly increasing
is the only one with these names, so names that are inserted one by one make one list, in whatever
order they come.
-/

namespace Stringify

variable {name other : Text} {names sorted : List Text}

/-- The order of texts is the lexicographic one. -/
theorem Text.before_iff_lt : name.before other = true ↔ name < other := by
  induction name generalizing other with
  | nil => cases other <;> simp [before]
  | cons code rest ih =>
      cases other with
      | nil => simp [before]
      | cons first others =>
          rw [before, List.cons_lt_cons_iff]
          by_cases same : code = first
          · simp [same, ih]
          · simp [same]

theorem mem_insertName : other ∈ insertName name sorted ↔ other = name ∨ other ∈ sorted := by
  induction sorted with
  | nil => simp [insertName]
  | cons first rest ih =>
      rw [insertName]
      split
      · next same => simp [same]
      · split
        · simp
        · simp [ih, or_left_comm]

theorem increasing_insertName (increasing : sorted.Pairwise (· < ·)) (name : Text) :
    (insertName name sorted).Pairwise (· < ·) := by
  induction sorted with
  | nil => simp [insertName]
  | cons first rest ih =>
      rw [insertName]
      obtain ⟨least, later⟩ := List.pairwise_cons.mp increasing
      split
      · exact increasing
      · next different =>
          split
          · next before =>
              have less : name < first := Text.before_iff_lt.mp before
              refine List.pairwise_cons.mpr ⟨fun member inside => ?_, increasing⟩
              rcases List.mem_cons.mp inside with rfl | inside
              · exact less
              · exact less.trans (least member inside)
          · next notBefore =>
              have notLess : ¬name < first := fun less => notBefore (Text.before_iff_lt.mpr less)
              refine List.pairwise_cons.mpr ⟨fun member inside => ?_, ih later⟩
              rcases mem_insertName.mp inside with rfl | inside
              · exact lt_of_le_of_ne (not_lt.mp notLess) (Ne.symm different)
              · exact least member inside

theorem mem_insertNames : other ∈ insertNames sorted names ↔ other ∈ sorted ∨ other ∈ names := by
  unfold insertNames
  induction names generalizing sorted with
  | nil => simp
  | cons first rest ih => simp [ih, mem_insertName, or_assoc, or_left_comm]

theorem increasing_insertNames (increasing : sorted.Pairwise (· < ·)) (names : List Text) :
    (insertNames sorted names).Pairwise (· < ·) := by
  unfold insertNames
  induction names generalizing sorted with
  | nil => exact increasing
  | cons first rest ih => exact ih (increasing_insertName increasing first)

@[simp] theorem mem_sortedNames : name ∈ sortedNames names ↔ name ∈ names := by
  simp [sortedNames, mem_insertNames]

theorem increasing_sortedNames (names : List Text) : (sortedNames names).Pairwise (· < ·) :=
  increasing_insertNames List.Pairwise.nil names

/-- An increasing list is not changed by sorting. -/
theorem sortedNames_eq_self (increasing : names.Pairwise (· < ·)) : sortedNames names = names :=
  (increasing_sortedNames names).eq_of_mem_iff increasing fun _ => mem_sortedNames

end Stringify
