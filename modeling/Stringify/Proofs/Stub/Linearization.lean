import Mathlib.Data.List.Nodup
import Stringify.Stub.Linearization

/-!
# Linearization

The merge behind a line of ancestors is seen as a run that takes one element after the other. A run
exists exactly when some order without repetition keeps the order of every sequence, its outcome is
such an order of exactly the elements of the sequences, and at each step it takes the first head
that nothing left has to precede.
-/

namespace Stringify.Stub

namespace Linearization

variable {α : Type} {sequences : List (List α)} {head element : α} {order : List α}

/-! ## Ready elements -/

/-- An element is ready when it is not taken and all its predecessors in every sequence are. -/
structure IsReady (sequences : List (List α)) (taken : List α) (element : α) : Prop where
  offered : ∃ sequence ∈ sequences, element ∈ sequence
  left : element ∉ taken
  preceded : ∀ sequence ∈ sequences, ∀ before after, sequence = before ++ element :: after →
    ∀ other ∈ before, other ∈ taken

/-- An element of none of the sequences may be counted as taken. -/
theorem IsReady.cons_of_absent {taken : List α} {name : α}
    (absent : ∀ sequence ∈ sequences, name ∉ sequence) :
    IsReady sequences (name :: taken) element ↔ IsReady sequences taken element := by
  constructor
  · rintro ⟨offered, left, preceded⟩
    refine ⟨offered, fun member => left (List.mem_cons_of_mem name member), ?_⟩
    intro sequence member before after split other otherMem
    have inside : other ∈ sequence := split ▸ List.mem_append_left _ otherMem
    rcases List.mem_cons.mp (preceded sequence member before after split other otherMem) with
      rfl | gone
    · exact absurd inside (absent sequence member)
    · exact gone
  · rintro ⟨⟨sequence, member, inside⟩, left, preceded⟩
    refine ⟨⟨sequence, member, inside⟩, ?_, ?_⟩
    · rw [List.mem_cons, not_or]
      exact ⟨fun same => absent sequence member (same ▸ inside), left⟩
    · intro other otherMem before after split predecessor predecessorMem
      exact List.mem_cons_of_mem name
        (preceded other otherMem before after split predecessor predecessorMem)

/-! ## One step -/

theorem mem_live {sequence : List α} :
    sequence ∈ live sequences ↔ sequence ∈ sequences ∧ sequence ≠ [] := by
  simp [live]

theorem flatten_live (sequences : List (List α)) :
    (live sequences).flatten = sequences.flatten := by
  induction sequences with
  | nil => rfl
  | cons sequence rest ih =>
      cases sequence with
      | nil => simpa [live] using ih
      | cons first others => simpa [live] using ih

/-- Sequences without elements left have none to offer. -/
theorem exists_mem_live :
    (∃ sequence ∈ live sequences, element ∈ sequence) ↔
      ∃ sequence ∈ sequences, element ∈ sequence := by
  rw [← List.mem_flatten, flatten_live, List.mem_flatten]

theorem filterMap_head?_live (sequences : List (List α)) :
    (live sequences).filterMap List.head? = sequences.filterMap List.head? := by
  induction sequences with
  | nil => rfl
  | cons sequence rest ih =>
      cases sequence with
      | nil => simpa [live, List.filterMap_cons] using ih
      | cons first others => simpa [live] using ih

theorem live_map_live {image : List α → List α} (blank : image [] = []) :
    live ((live sequences).map image) = live (sequences.map image) := by
  induction sequences with
  | nil => rfl
  | cons sequence rest ih =>
      cases sequence with
      | nil => simpa [live, blank] using ih
      | cons first others =>
          by_cases gone : image (first :: others) = []
          · simpa [live, gone] using ih
          · simpa [live, gone] using ih

variable [DecidableEq α]

theorem isFree_eq_true :
    isFree sequences element = true ↔ ∀ sequence ∈ sequences, element ∉ sequence.tail := by
  simp [isFree]

/-- A head that is taken stands in no tail. -/
theorem not_mem_tail_of_nextHead? (next : nextHead? sequences = some head) :
    ∀ sequence ∈ sequences, head ∉ sequence.tail := by
  have free := List.find?_some next
  exact isFree_eq_true.mp free

/-- Taking a free element off a sequence takes all of it away. -/
theorem advance_eq_filter (free : ∀ sequence ∈ sequences, head ∉ sequence.tail) :
    advance head sequences = sequences.map fun sequence => sequence.filter (· ≠ head) := by
  apply List.map_congr_left
  intro sequence member
  have absent := free sequence member
  cases sequence with
  | nil => simp
  | cons first rest =>
      have kept : rest.filter (· ≠ head) = rest := by
        apply List.filter_eq_self.mpr
        intro other otherMem
        have different : other ≠ head := fun equal => absent (equal ▸ otherMem)
        simp [different]
      by_cases same : first = head
      · rw [List.filter_cons_of_neg (by simp [same]), kept]
        simp [same]
      · rw [List.filter_cons_of_pos (by simp [same]), kept]
        simp [same]

/-! ## Runs -/

/-- A run of the merge: it takes the first free head until every sequence is empty. -/
inductive Run : List (List α) → List α → Prop where
  | done {sequences : List (List α)} : live sequences = [] → Run sequences []
  | take {sequences : List (List α)} {head : α} {rest : List α} :
      nextHead? (live sequences) = some head → Run (advance head (live sequences)) rest →
      Run sequences (head :: rest)

theorem run_iff_of_live_eq_nil (empty : live sequences = []) :
    Run sequences order ↔ order = [] := by
  constructor
  · intro run
    cases run with
    | done _ => rfl
    | take next _ => simp [empty, nextHead?] at next
  · rintro rfl
    exact .done empty

/-- A run that gets stuck: at some point elements are left and no head is free. -/
inductive Fails : List (List α) → Prop where
  | stuck {sequences : List (List α)} :
      live sequences ≠ [] → nextHead? (live sequences) = none → Fails sequences
  | take {sequences : List (List α)} {head : α} :
      nextHead? (live sequences) = some head → Fails (advance head (live sequences)) →
      Fails sequences

/-- One round of the merge. -/
theorem merge_eq (left : live sequences ≠ []) :
    merge sequences =
      (nextHead? (live sequences)).bind fun head =>
        (merge (advance head (live sequences))).map (head :: ·) := by
  rw [merge, if_neg (by simpa using left)]
  split
  · next none => simp [none]
  · next head next => simp [next]

theorem merge_of_live_eq_nil (empty : live sequences = []) : merge sequences = some [] := by
  rw [merge, if_pos (by simpa using empty)]

/-- The loop of the merge ends on all sequences: with the outcome of a run, or stuck. -/
theorem merge_ends (sequences : List (List α)) :
    (∃ order, Run sequences order ∧ merge sequences = some order) ∨
      (Fails sequences ∧ merge sequences = none) := by
  induction measured : sequences.flatten.length using Nat.strongRecOn generalizing sequences with
  | ind size ih =>
      by_cases empty : live sequences = []
      · exact .inl ⟨[], .done empty, merge_of_live_eq_nil empty⟩
      rw [merge_eq empty]
      cases next : nextHead? (live sequences) with
      | none => exact .inr ⟨.stuck empty next, rfl⟩
      | some head =>
          have less := rest_length_lt next
          rcases ih _ (measured ▸ less) _ rfl with ⟨rest, run, merged⟩ | ⟨fails, merged⟩
          · exact .inl ⟨head :: rest, .take next run, by simp [merged]⟩
          · exact .inr ⟨.take next fails, by simp [merged]⟩

/-- A run leads to one outcome. -/
theorem Run.unique {other : List α} (run : Run sequences order) (again : Run sequences other) :
    order = other := by
  induction run generalizing other with
  | done empty => exact ((run_iff_of_live_eq_nil empty).mp again).symm
  | take next _ ih =>
      cases again with
      | done empty => simp [empty, nextHead?] at next
      | take nextAgain rest =>
          obtain rfl := Option.some.inj (next.symm.trans nextAgain)
          rw [ih rest]

/-- A run that gets stuck has no outcome. -/
theorem Fails.not_run (fails : Fails sequences) : ¬Run sequences order := by
  induction fails generalizing order with
  | stuck left none =>
      rintro (⟨empty⟩ | ⟨next, -⟩)
      · exact left empty
      · simp [none] at next
  | take next _ ih =>
      rintro (⟨empty⟩ | ⟨nextAgain, rest⟩)
      · simp [empty, nextHead?] at next
      · obtain rfl := Option.some.inj (next.symm.trans nextAgain)
        exact ih rest

theorem merge_eq_some_iff : merge sequences = some order ↔ Run sequences order := by
  rcases merge_ends sequences with ⟨outcome, run, merged⟩ | ⟨fails, merged⟩
  · rw [merged, Option.some.injEq]
    exact ⟨fun same => same ▸ run, run.unique⟩
  · simp [merged, fails.not_run]

/-! ## What a run puts out -/

/-- After a step the element taken is in no sequence. -/
theorem not_mem_advance (next : nextHead? sequences = some head) :
    ∀ sequence ∈ advance head sequences, head ∉ sequence := by
  rw [advance_eq_filter (not_mem_tail_of_nextHead? next)]
  intro sequence member
  obtain ⟨whole, _, rfl⟩ := List.mem_map.mp member
  simp

theorem Run.mem_iff (run : Run sequences order) :
    element ∈ order ↔ ∃ sequence ∈ sequences, element ∈ sequence := by
  induction run with
  | done empty => simp [← exists_mem_live, empty]
  | @take sequences head rest next run ih =>
      rw [advance_eq_filter (not_mem_tail_of_nextHead? next)] at ih
      rw [List.mem_cons, ih, ← @exists_mem_live α sequences element]
      constructor
      · rintro (rfl | ⟨left, member, inside⟩)
        · obtain ⟨sequence, member, heads⟩ := exists_of_nextHead? next
          exact ⟨sequence, member, List.mem_of_head? heads⟩
        · obtain ⟨sequence, unfiltered, rfl⟩ := List.mem_map.mp member
          exact ⟨sequence, unfiltered, List.mem_of_mem_filter inside⟩
      · rintro ⟨sequence, member, inside⟩
        by_cases same : element = head
        · exact .inl same
        · exact .inr ⟨_, List.mem_map_of_mem member, List.mem_filter.mpr ⟨inside, by simp [same]⟩⟩

theorem Run.nodup (run : Run sequences order) : order.Nodup := by
  induction run with
  | done _ => exact .nil
  | take next run ih =>
      refine List.nodup_cons.mpr ⟨?_, ih⟩
      intro again
      obtain ⟨sequence, member, inside⟩ := run.mem_iff.mp again
      exact not_mem_advance next sequence member inside

/-- A run keeps the order of every sequence. -/
theorem Run.sublist (run : Run sequences order) :
    ∀ sequence ∈ sequences, sequence.Sublist order := by
  induction run with
  | @done sequences empty =>
      intro sequence member
      by_cases blank : sequence = []
      · exact blank ▸ List.Sublist.refl []
      · have left := mem_live.mpr ⟨member, blank⟩
        simp [empty] at left
  | @take sequences head rest next run ih =>
      intro sequence member
      cases sequence with
      | nil => exact List.nil_sublist _
      | cons first others =>
          have left := mem_live.mpr ⟨member, List.cons_ne_nil first others⟩
          have kept := ih _ (List.mem_map_of_mem left)
          by_cases same : first = head
          · subst same
            simp only [List.head?_cons, if_true, List.tail_cons] at kept
            exact kept.cons_cons first
          · simp only [List.head?_cons, Option.some.injEq, same, if_false] at kept
            exact kept.cons head

/-! ## When there is a run -/

/-- What an order without repetition puts before the head of its sequences is in none of them. -/
theorem exists_free_head (nodup : order.Nodup)
    (kept : ∀ sequence ∈ sequences, sequence.Sublist order)
    (left : ∃ sequence ∈ sequences, sequence ≠ []) : ∃ head, nextHead? sequences = some head := by
  induction order with
  | nil =>
      obtain ⟨sequence, member, nonempty⟩ := left
      exact absurd (List.sublist_nil.mp (kept sequence member)) nonempty
  | cons first rest ih =>
      have tailFree : ∀ sequence ∈ sequences, first ∉ sequence.tail := by
        intro sequence member inside
        have inRest := (kept sequence member).tail.subset inside
        exact (List.nodup_cons.mp nodup).1 inRest
      by_cases heads : ∃ sequence ∈ sequences, sequence.head? = some first
      · -- The first element of the order that is left is free, so some head is.
        have candidate : first ∈ sequences.filterMap List.head? := List.mem_filterMap.mpr heads
        have found := List.find?_isSome.mpr ⟨first, candidate, isFree_eq_true.mpr tailFree⟩
        exact Option.isSome_iff_exists.mp found
      · refine ih (List.nodup_cons.mp nodup).2 ?_
        intro sequence member
        cases sequence with
        | nil => exact List.nil_sublist _
        | cons head others =>
            have different : head ≠ first := by
              rintro rfl
              exact heads ⟨_, member, rfl⟩
            cases kept _ member with
            | cons _ shorter => exact shorter
            | cons_cons _ _ => exact absurd rfl different

/-- The merge succeeds when some order without repetition keeps the order of every sequence. -/
theorem exists_run (nodup : order.Nodup) (kept : ∀ sequence ∈ sequences, sequence.Sublist order) :
    ∃ outcome, Run sequences outcome := by
  induction measured : sequences.flatten.length using Nat.strongRecOn generalizing sequences with
  | ind size ih =>
      by_cases empty : live sequences = []
      · exact ⟨[], .done empty⟩
      have keptLive : ∀ sequence ∈ live sequences, sequence.Sublist order :=
        fun sequence member => kept sequence (mem_live.mp member).1
      obtain ⟨first, member⟩ := List.exists_mem_of_ne_nil _ empty
      obtain ⟨head, next⟩ := exists_free_head nodup keptLive
        ⟨first, member, (mem_live.mp member).2⟩
      have keptRest : ∀ sequence ∈ advance head (live sequences), sequence.Sublist order := by
        intro sequence member
        obtain ⟨whole, wholeMem, rfl⟩ := List.mem_map.mp member
        split
        · exact (List.tail_sublist whole).trans (keptLive whole wholeMem)
        · exact keptLive whole wholeMem
      obtain ⟨outcome, run⟩ := ih _ (measured ▸ rest_length_lt next) keptRest rfl
      exact ⟨head :: outcome, .take next run⟩

/-! ## Which element a step takes -/

/-- What is left of the sequences once some elements are taken. -/
def remaining (sequences : List (List α)) (taken : List α) : List (List α) :=
  sequences.map fun sequence => sequence.filter (· ∉ taken)

/-- The ready element that heads the earliest of the remaining sequences. -/
structure IsNext (sequences : List (List α)) (taken : List α) (element : α) : Prop where
  ready : IsReady sequences taken element
  earliest : ∃ earlier later,
    (remaining sequences taken).filterMap List.head? = earlier ++ element :: later ∧
      ∀ other ∈ earlier, ¬IsReady sequences taken other

theorem remaining_nil (sequences : List (List α)) : remaining sequences [] = sequences := by
  simp [remaining]

theorem remaining_remaining (sequences : List (List α)) (taken more : List α) :
    remaining (remaining sequences taken) more = remaining sequences (taken ++ more) := by
  simp [remaining, List.filter_filter, not_or, Bool.and_comm]

/-- An element stands in the tail of what is left of a sequence exactly when something before it is
left. -/
theorem mem_tail_filter_iff {sequence taken : List α} (left : element ∉ taken) :
    element ∈ (sequence.filter (· ∉ taken)).tail ↔
      ∃ before after, sequence = before ++ element :: after ∧ ∃ other ∈ before, other ∉ taken := by
  constructor
  · intro inside
    induction sequence with
    | nil => simp at inside
    | cons first rest ih =>
        by_cases gone : first ∈ taken
        · rw [List.filter_cons_of_neg (by simpa using gone)] at inside
          obtain ⟨before, after, rfl, witness⟩ := ih inside
          obtain ⟨other, otherMem, otherLeft⟩ := witness
          exact ⟨first :: before, after, rfl, other, List.mem_cons_of_mem _ otherMem, otherLeft⟩
        · rw [List.filter_cons_of_pos (by simpa using gone), List.tail_cons] at inside
          obtain ⟨before, after, rfl⟩ := List.append_of_mem (List.mem_of_mem_filter inside)
          exact ⟨first :: before, after, rfl, first, List.mem_cons_self, gone⟩
  · rintro ⟨before, after, rfl, other, otherMem, otherLeft⟩
    have kept : before.filter (· ∉ taken) ≠ [] := by
      apply List.ne_nil_of_mem (a := other)
      exact List.mem_filter.mpr ⟨otherMem, by simpa using otherLeft⟩
    rw [List.filter_append, List.tail_append_of_ne_nil kept,
      List.filter_cons_of_pos (by simpa using left)]
    exact List.mem_append_right _ List.mem_cons_self

/-- The heads that a step may take are the ready ones. -/
theorem isFree_remaining_iff {taken : List α}
    (heads : element ∈ (remaining sequences taken).filterMap List.head?) :
    isFree (remaining sequences taken) element = true ↔ IsReady sequences taken element := by
  obtain ⟨rest, restMem, head⟩ := List.mem_filterMap.mp heads
  obtain ⟨sequence, member, rfl⟩ := List.mem_map.mp restMem
  have inside := List.mem_filter.mp (List.mem_of_head? head)
  have left : element ∉ taken := by simpa using inside.2
  rw [isFree_eq_true]
  constructor
  · intro free
    refine ⟨⟨sequence, member, inside.1⟩, left, ?_⟩
    intro other otherMem before after split predecessor predecessorMem
    by_contra predecessorLeft
    refine free _ (List.mem_map_of_mem otherMem) ?_
    exact (mem_tail_filter_iff left).mpr
      ⟨before, after, split, predecessor, predecessorMem, predecessorLeft⟩
  · intro ready rest restMem inTail
    obtain ⟨other, otherMem, rfl⟩ := List.mem_map.mp restMem
    obtain ⟨before, after, split, predecessor, predecessorMem, predecessorLeft⟩ :=
      (mem_tail_filter_iff left).mp inTail
    exact predecessorLeft (ready.preceded other otherMem before after split _ predecessorMem)

/-- Sequences without elements left block no head. -/
theorem isFree_live (sequences : List (List α)) (element : α) :
    isFree (live sequences) element = isFree sequences element := by
  rw [Bool.eq_iff_iff, isFree_eq_true, isFree_eq_true]
  constructor
  · intro free sequence member
    by_cases blank : sequence = []
    · simp [blank]
    · exact free sequence (mem_live.mpr ⟨member, blank⟩)
  · intro free sequence member
    exact free sequence (mem_live.mp member).1

theorem nextHead?_live (sequences : List (List α)) :
    nextHead? (live sequences) = nextHead? sequences := by
  have same : isFree (live sequences) = isFree sequences := funext (isFree_live sequences)
  rw [nextHead?, nextHead?, filterMap_head?_live, same]

/-- The element that a step takes is the next one in the sense of the order alone. -/
theorem isNext_of_nextHead? {taken : List α}
    (next : nextHead? (remaining sequences taken) = some element) :
    IsNext sequences taken element := by
  have heads := List.mem_of_find?_eq_some next
  obtain ⟨free, earlier, later, split, blocked⟩ := List.find?_eq_some_iff_append.mp next
  refine ⟨(isFree_remaining_iff heads).mp free, earlier, later, split, ?_⟩
  intro other otherMem ready
  have otherHeads : other ∈ (remaining sequences taken).filterMap List.head? := by
    rw [split]
    exact List.mem_append_left _ otherMem
  have otherFree := (isFree_remaining_iff otherHeads).mpr ready
  have notFree := blocked other otherMem
  simp [otherFree] at notFree

/-- Runs do not see sequences without elements left. -/
theorem run_of_live_eq {others : List (List α)} (same : live sequences = live others)
    (run : Run sequences order) : Run others order := by
  cases run with
  | done empty => exact .done (same ▸ empty)
  | take next rest => exact .take (same ▸ next) (same ▸ rest)

/-- After its first elements a run goes on with what is left of the sequences. -/
theorem Run.drop {taken rest : List α} (run : Run sequences (taken ++ rest)) :
    Run (remaining sequences taken) rest := by
  induction taken generalizing sequences with
  | nil => rwa [remaining_nil]
  | cons head taken ih =>
      cases run with
      | take next tail =>
          have same : live (advance head (live sequences)) = live (remaining sequences [head]) := by
            rw [advance_eq_filter (not_mem_tail_of_nextHead? next), live_map_live (by simp)]
            simp [remaining]
          have later := ih (run_of_live_eq same tail)
          rwa [remaining_remaining] at later

theorem Run.isNext {taken rest : List α} (run : Run sequences (taken ++ element :: rest)) :
    IsNext sequences taken element := by
  cases run.drop with
  | take next _ =>
      rw [nextHead?_live] at next
      exact isNext_of_nextHead? next

theorem remaining_cons_of_absent {taken : List α} {name : α}
    (absent : ∀ sequence ∈ sequences, name ∉ sequence) :
    remaining sequences (name :: taken) = remaining sequences taken := by
  apply List.map_congr_left
  intro sequence member
  apply List.filter_congr
  intro other otherMem
  have different : other ≠ name := fun same => absent sequence member (same ▸ otherMem)
  simp [different]

theorem IsNext.cons_of_absent {taken : List α} {name : α}
    (absent : ∀ sequence ∈ sequences, name ∉ sequence) (next : IsNext sequences taken element) :
    IsNext sequences (name :: taken) element := by
  obtain ⟨ready, earlier, later, split, blocked⟩ := next
  refine ⟨(IsReady.cons_of_absent absent).mpr ready, earlier, later, ?_, ?_⟩
  · rw [remaining_cons_of_absent absent]
    exact split
  · intro other member otherReady
    exact blocked other member ((IsReady.cons_of_absent absent).mp otherReady)

end Linearization

/-! ## Lines of ancestors -/

open Linearization

variable {α : Type} {name : α} {bases : List α} {lines : List (List α)}

/-- What a line of ancestors has to be: it starts with the class, repeats nothing, holds the class
and the ancestors of its bases, and keeps the order of their lines and of the bases. -/
structure IsLine (name : α) (bases : List α) (lines : List (List α)) (line : List α) : Prop where
  head : line.head? = some name
  nodup : line.Nodup
  mem_iff : ∀ element, element ∈ line ↔ element = name ∨ ∃ own ∈ lines, element ∈ own
  lines : ∀ own ∈ lines, own.Sublist line
  bases : bases.Sublist line

/-- Bases that head their lines add no ancestors. -/
theorem exists_mem_append_bases {element : α} (heads : ∀ base ∈ bases, ∃ own ∈ lines, base ∈ own) :
    (∃ sequence ∈ lines ++ [bases], element ∈ sequence) ↔ ∃ own ∈ lines, element ∈ own := by
  constructor
  · rintro ⟨sequence, member, inside⟩
    rcases List.mem_append.mp member with member | member
    · exact ⟨sequence, member, inside⟩
    · exact heads element (List.mem_singleton.mp member ▸ inside)
  · rintro ⟨own, member, inside⟩
    exact ⟨own, List.mem_append_left _ member, inside⟩

variable [DecidableEq α]

theorem linearize_eq_some_iff {line : List α} :
    linearize name bases lines = some line ↔
      ∃ rest, Run (lines ++ [bases]) rest ∧ name :: rest = line := by
  rw [linearize, Option.map_eq_some_iff]
  simp only [merge_eq_some_iff]

theorem linearize_ends (name : α) (bases : List α) (lines : List (List α)) :
    (∃ rest, Run (lines ++ [bases]) rest ∧ linearize name bases lines = some (name :: rest)) ∨
      (Fails (lines ++ [bases]) ∧ linearize name bases lines = none) := by
  rcases merge_ends (lines ++ [bases]) with ⟨rest, run, merged⟩ | ⟨fails, merged⟩
  · exact .inl ⟨rest, run, by simp [linearize, merged]⟩
  · exact .inr ⟨fails, by simp [linearize, merged]⟩

/-- Every outcome is a line of ancestors. -/
theorem isLine_of_linearize {line : List α} (fresh : ∀ own ∈ lines, name ∉ own)
    (heads : ∀ base ∈ bases, ∃ own ∈ lines, base ∈ own)
    (ordered : linearize name bases lines = some line) : IsLine name bases lines line := by
  obtain ⟨rest, run, rfl⟩ := linearize_eq_some_iff.mp ordered
  have members : ∀ element, element ∈ rest ↔ ∃ own ∈ lines, element ∈ own := fun element =>
    run.mem_iff.trans (exists_mem_append_bases heads)
  refine ⟨rfl, List.nodup_cons.mpr ⟨?_, run.nodup⟩, ?_, ?_, ?_⟩
  · intro again
    obtain ⟨own, member, inside⟩ := (members name).mp again
    exact fresh own member inside
  · intro element
    rw [List.mem_cons, members]
  · intro own member
    exact (run.sublist own (List.mem_append_left _ member)).cons name
  · exact (run.sublist bases (by simp)).cons name

/-- There is an outcome when there is a line of ancestors. -/
theorem exists_linearize {line : List α} (is : IsLine name bases lines line) :
    ∃ outcome, linearize name bases lines = some outcome := by
  have kept : ∀ sequence ∈ lines ++ [bases], sequence.Sublist line := by
    intro sequence member
    rcases List.mem_append.mp member with member | member
    · exact is.lines sequence member
    · exact List.mem_singleton.mp member ▸ is.bases
  obtain ⟨rest, run⟩ := exists_run is.nodup kept
  exact ⟨name :: rest, linearize_eq_some_iff.mpr ⟨rest, run, rfl⟩⟩

/-- Linearization finds a line of ancestors exactly when there is one, in particular none for bases
that repeat a class. The line it finds goes on, at each place, with the ready class that heads the
earliest remaining sequence. The loop behind it always ends: it takes all classes and leaves them in
a line, or it gets stuck and leaves none. -/
theorem linearize_line_of_ancestors (name : α) (bases : List α) (lineOf : α → List α)
    (headed : ∀ base ∈ bases, (lineOf base).head? = some base)
    (fresh : ∀ base ∈ bases, name ∉ lineOf base) :
    let lines := bases.map lineOf
    let sequences := lines ++ [bases]
    (∀ line, linearize name bases lines = some line → IsLine name bases lines line) ∧
    (linearize name bases lines = none ↔ ¬∃ line, IsLine name bases lines line) ∧
    (¬bases.Nodup → linearize name bases lines = none) ∧
    (∀ line, linearize name bases lines = some line → ∀ taken next rest, taken ≠ [] →
      line = taken ++ next :: rest → IsNext sequences taken next) ∧
    ((∃ rest, Run sequences rest ∧ linearize name bases lines = some (name :: rest)) ∨
      (Fails sequences ∧ linearize name bases lines = none)) := by
  intro lines sequences
  have freshLines : ∀ own ∈ lines, name ∉ own := by
    intro own member
    obtain ⟨base, baseMem, rfl⟩ := List.mem_map.mp member
    exact fresh base baseMem
  have heads : ∀ base ∈ bases, ∃ own ∈ lines, base ∈ own := fun base member =>
    ⟨lineOf base, List.mem_map_of_mem member, List.mem_of_head? (headed base member)⟩
  have sound : ∀ line, linearize name bases lines = some line → IsLine name bases lines line :=
    fun line ordered => isLine_of_linearize freshLines heads ordered
  have absent : ∀ sequence ∈ sequences, name ∉ sequence := by
    intro sequence member inside
    obtain ⟨own, ownMem, inOwn⟩ :=
      (exists_mem_append_bases heads).mp ⟨sequence, member, inside⟩
    exact freshLines own ownMem inOwn
  refine ⟨sound, ?_, ?_, ?_, linearize_ends name bases lines⟩
  · constructor
    · rintro refused ⟨line, is⟩
      obtain ⟨outcome, ordered⟩ := exists_linearize is
      simp [ordered] at refused
    · intro none
      by_contra found
      obtain ⟨line, ordered⟩ := Option.ne_none_iff_exists'.mp found
      exact none ⟨line, sound line ordered⟩
  · intro repeated
    by_contra found
    obtain ⟨line, ordered⟩ := Option.ne_none_iff_exists'.mp found
    have is := sound line ordered
    exact repeated (is.nodup.sublist is.bases)
  · intro line ordered taken next rest started split
    obtain ⟨outcome, run, rfl⟩ := linearize_eq_some_iff.mp ordered
    cases taken with
    | nil => exact absurd rfl started
    | cons first taken =>
        obtain ⟨rfl, rfl⟩ := List.cons.inj split
        exact run.isNext.cons_of_absent absent

/-- Both bases of `D` derive from `A`, whose own base comes last in every line. -/
theorem linearize_line_of_ancestors_diamond :
    let lineOf : String → List String := fun base => [base, "A", "object"]
    (∀ base ∈ ["B", "C"], (lineOf base).head? = some base) ∧
    (∀ base ∈ ["B", "C"], "D" ∉ lineOf base) ∧
    linearize "D" ["B", "C"] (["B", "C"].map lineOf) = some ["D", "B", "C", "A", "object"] ∧
    IsLine "D" ["B", "C"] (["B", "C"].map lineOf) ["D", "B", "C", "A", "object"] ∧
    IsNext (["B", "C"].map lineOf ++ [["B", "C"]]) ["D", "B"] "C" := by
  intro lineOf
  have headed : ∀ base ∈ ["B", "C"], (lineOf base).head? = some base := by simp [lineOf]
  have fresh : ∀ base ∈ ["B", "C"], "D" ∉ lineOf base := by simp [lineOf]
  have ordered : linearize "D" ["B", "C"] (["B", "C"].map lineOf) =
      some ["D", "B", "C", "A", "object"] := by decide
  obtain ⟨sound, -, -, next, -⟩ := linearize_line_of_ancestors "D" ["B", "C"] lineOf headed fresh
  exact ⟨headed, fresh, ordered, sound _ ordered,
    next _ ordered ["D", "B"] "C" ["A", "object"] (by simp) rfl⟩

end Stringify.Stub
