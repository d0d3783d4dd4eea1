/-!
# Linearization

The ancestors of a class are put in one line: the class itself, then a merge of the lines of its
bases and of the bases as listed. The merge takes, again and again, the first head of a sequence
that stands in no other sequence's tail. It fails when every head stands in some tail.
-/

namespace Stringify.Stub

namespace Linearization

variable {α : Type}

/-- The sequences with elements left. -/
def live (sequences : List (List α)) : List (List α) :=
  sequences.filter (!·.isEmpty)

theorem flatten_live_length (sequences : List (List α)) :
    (live sequences).flatten.length = sequences.flatten.length := by
  induction sequences with
  | nil => rfl
  | cons sequence rest ih =>
      cases sequence with
      | nil => simpa [live] using ih
      | cons first others => simpa [live] using ih

variable [DecidableEq α]

/-- Whether an element stands in the tail of none of the sequences. -/
def isFree (sequences : List (List α)) (element : α) : Bool :=
  sequences.all fun sequence => !sequence.tail.contains element

/-- The first head that is free. -/
def nextHead? (sequences : List (List α)) : Option α :=
  (sequences.filterMap List.head?).find? (isFree sequences)

/-- Take an element off the sequences that it heads. -/
def advance (element : α) (sequences : List (List α)) : List (List α) :=
  sequences.map fun sequence =>
    if sequence.head? = some element then sequence.tail else sequence

/-! ## Steps leave less -/

theorem flatten_advance_length_le (head : α) (sequences : List (List α)) :
    (advance head sequences).flatten.length ≤ sequences.flatten.length := by
  induction sequences with
  | nil => simp [advance]
  | cons sequence rest ih =>
      simp only [advance, List.map_cons, List.flatten_cons, List.length_append] at ih ⊢
      split
      · have shorter : sequence.tail.length ≤ sequence.length := by simp
        omega
      · omega

/-- Taking a head off the sequences leaves fewer elements. -/
theorem flatten_advance_length_lt {sequences : List (List α)} {head : α}
    (headed : ∃ sequence ∈ sequences, sequence.head? = some head) :
    (advance head sequences).flatten.length < sequences.flatten.length := by
  induction sequences with
  | nil => simp at headed
  | cons sequence rest ih =>
      have others := flatten_advance_length_le head rest
      simp only [advance, List.map_cons, List.flatten_cons, List.length_append] at ih others ⊢
      by_cases same : sequence.head? = some head
      · have nonempty : sequence ≠ [] := by
          rintro rfl
          simp at same
        have shorter : sequence.tail.length < sequence.length := by
          have positive := List.length_pos_iff.mpr nonempty
          rw [List.length_tail]
          omega
        simp only [same, if_true]
        omega
      · have later : ∃ other ∈ rest, other.head? = some head := by
          obtain ⟨other, member, headOf⟩ := headed
          rcases List.mem_cons.mp member with rfl | member
          · exact absurd headOf same
          · exact ⟨other, member, headOf⟩
        have less := ih later
        simp only [same, if_false]
        omega

/-- A head that is taken heads some sequence. -/
theorem exists_of_nextHead? {sequences : List (List α)} {head : α}
    (next : nextHead? sequences = some head) :
    ∃ sequence ∈ sequences, sequence.head? = some head := by
  have found := List.mem_of_find?_eq_some next
  exact List.mem_filterMap.mp found

/-- What a step leaves is shorter than what it found. -/
theorem rest_length_lt {sequences : List (List α)} {head : α}
    (next : nextHead? (live sequences) = some head) :
    (advance head (live sequences)).flatten.length < sequences.flatten.length := by
  rw [← flatten_live_length sequences]
  exact flatten_advance_length_lt (exists_of_nextHead? next)

/-! ## The merge -/

/-- Merge sequences, as long as some head is free. Each step takes an element off at least one of
them. -/
@[semireducible]
def merge (sequences : List (List α)) : Option (List α) :=
  let left := live sequences
  if left.isEmpty then some []
  else match _next : nextHead? left with
    | none => none
    | some head => (merge (advance head left)).map (head :: ·)
termination_by sequences.flatten.length
decreasing_by exact rest_length_lt _next

end Linearization

/-- The line of ancestors of a class with the given bases, whose own lines are given in the same
order. -/
def linearize {α : Type} [DecidableEq α] (name : α) (bases : List α) (lines : List (List α)) :
    Option (List α) :=
  (Linearization.merge (lines ++ [bases])).map (name :: ·)

end Stringify.Stub
