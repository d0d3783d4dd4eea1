import Mathlib.Logic.Relation
import Stringify.Proofs.Outcome
import Stringify.Proofs.Stub.Linearization
import Stringify.Stub.ClassTable
import Stringify.Ty.Compose

/-!
# The graph of classes

The bases of the classes in a table make a graph. A table is well ordered when the line of every
class holds exactly the classes that are reached from it, ends in the root of all classes, and keeps
the line and the bases of every ancestor in their order. Entering a new class, with the line that
its bases give, keeps a table well ordered.
-/

namespace Stringify.Stub

namespace ClassTable

variable {table : ClassTable} {decl : ClassDecl} {name ancestor : String}
variable {line own : List String}

/-! ## Bases -/

/-- The class of the first name lists the second one among its bases. -/
def HasBase (table : ClassTable) (name base : String) : Prop :=
  ∃ decl, table.decls.get? name = some decl ∧ base ∈ decl.bases

/-- The second name is reached from the first through bases, in any number of steps. -/
def Reaches (table : ClassTable) : String → String → Prop :=
  Relation.ReflTransGen table.HasBase

/-- What the line of ancestors of a class has to be in a table. -/
structure IsAncestry (table : ClassTable) (name : String) (line : List String) : Prop where
  head : line.head? = some name
  last : line.getLast? = some Ty.rootName
  nodup : line.Nodup
  mem_iff : ∀ ancestor, ancestor ∈ line ↔
    table.contains ancestor = true ∧ table.Reaches name ancestor
  lines : ∀ ancestor ∈ line, ∃ own, table.lines.get? ancestor = some own ∧ own.Sublist line
  bases : ∀ ancestor ∈ line, ∃ decl, table.decls.get? ancestor = some decl ∧
    decl.bases.Sublist line

/-- The classes and the lines of a table have the same names, every line is one of ancestors, and
the root declares a conversion to text. -/
structure WellOrdered (table : ClassTable) : Prop where
  keys : table.decls.keys = table.lines.keys
  ancestry : ∀ name line, table.lines.get? name = some line → table.IsAncestry name line
  root : ∃ decl, table.decls.get? Ty.rootName = some decl ∧ decl.declaresStringifier = true

theorem contains_iff : table.contains name = true ↔ ∃ decl, table.decls.get? name = some decl := by
  rw [contains, Option.isSome_iff_exists]

namespace WellOrdered

/-- Every class has a line of ancestors. -/
theorem exists_line (ordered : table.WellOrdered) (declared : table.contains name = true) :
    ∃ line, table.lines.get? name = some line := by
  have named : name ∈ table.decls.keys := Entries.isSome_get?_iff.mp declared
  rw [ordered.keys] at named
  exact Option.isSome_iff_exists.mp (Entries.isSome_get?_iff.mpr named)

theorem contains_of_line (ordered : table.WellOrdered)
    (found : table.lines.get? name = some line) : table.contains name = true := by
  have named : name ∈ table.lines.keys := Entries.isSome_get?_iff.mp (by simp [found])
  rw [← ordered.keys] at named
  exact Entries.isSome_get?_iff.mpr named

/-- The bases of a class are classes. -/
theorem contains_base (ordered : table.WellOrdered) {base : String}
    (has : table.HasBase name base) : table.contains base = true := by
  obtain ⟨decl, found, member⟩ := has
  obtain ⟨line, lineFound⟩ := ordered.exists_line (contains_iff.mpr ⟨decl, found⟩)
  have ancestry := ordered.ancestry name line lineFound
  obtain ⟨other, otherFound, kept⟩ := ancestry.bases name (List.mem_of_head? ancestry.head)
  obtain rfl : decl = other := Option.some.inj (found.symm.trans otherFound)
  exact ((ancestry.mem_iff base).mp (kept.subset member)).1

theorem contains_of_reaches (ordered : table.WellOrdered) (declared : table.contains name = true)
    (reached : table.Reaches name ancestor) : table.contains ancestor = true := by
  induction reached with
  | refl => exact declared
  | tail _ has _ => exact ordered.contains_base has

end WellOrdered

/-! ## Looking up lines -/

theorem line_eq_ok_iff : table.line name = .ok line ↔ table.lines.get? name = some line := by
  unfold ClassTable.line
  split
  · next found => simp [found]
  · next unknown => simp [unknown]

/-- The lines of several classes are those in the table, in the order of the classes. -/
theorem linesOf_eq_ok {names : List String} {lines : List (List String)}
    (found : table.linesOf names = .ok lines) :
    names.map table.lines.get? = lines.map some := by
  induction names generalizing lines with
  | nil =>
      cases found
      rfl
  | cons name rest ih =>
      rw [linesOf] at found
      obtain ⟨line, here, found⟩ := bind_eq_ok_iff.mp found
      obtain ⟨restLines, others, last⟩ := bind_eq_ok_iff.mp found
      obtain rfl := pure_eq_ok_iff.mp last
      simp [line_eq_ok_iff.mp here, ih others]

/-- The line of a new class is a linearization of the lines of its bases. -/
theorem ancestors?_eq_ok {ancestors : Option (List String)}
    (found : table.ancestors? decl = .ok ancestors) :
    ∃ lines, decl.bases.map table.lines.get? = lines.map some ∧
      linearize decl.name decl.bases lines = ancestors := by
  obtain ⟨lines, looked, last⟩ := bind_eq_ok_iff.mp found
  exact ⟨lines, linesOf_eq_ok looked, pure_eq_ok_iff.mp last⟩

theorem exists_line_of_mem {names : List String} {lines : List (List String)}
    (looked : names.map table.lines.get? = lines.map some) (member : name ∈ names) :
    ∃ own ∈ lines, table.lines.get? name = some own := by
  have inside := List.mem_map_of_mem (f := table.lines.get?) member
  rw [looked] at inside
  obtain ⟨own, ownMem, same⟩ := List.mem_map.mp inside
  exact ⟨own, ownMem, same.symm⟩

theorem exists_name_of_mem {names : List String} {lines : List (List String)}
    (looked : names.map table.lines.get? = lines.map some) (member : own ∈ lines) :
    ∃ name ∈ names, table.lines.get? name = some own := by
  have inside := List.mem_map_of_mem (f := some) member
  rw [← looked] at inside
  exact List.mem_map.mp inside

/-! ## Entering a class -/

theorem get?_decls_enter (table : ClassTable) (decl : ClassDecl) (line : List String)
    (wanted : String) :
    (table.enter decl line).decls.get? wanted =
      if decl.name = wanted then some decl else table.decls.get? wanted :=
  Entries.get?_put _ _ _ _

theorem get?_lines_enter (table : ClassTable) (decl : ClassDecl) (line : List String)
    (wanted : String) :
    (table.enter decl line).lines.get? wanted =
      if decl.name = wanted then some line else table.lines.get? wanted :=
  Entries.get?_put _ _ _ _

theorem contains_enter :
    (table.enter decl line).contains name = true ↔
      name = decl.name ∨ table.contains name = true := by
  rw [contains, get?_decls_enter]
  by_cases same : decl.name = name
  · simp [same]
  · have other : ¬name = decl.name := fun equal => same equal.symm
    simp [same, other, contains]

/-- A name that is entered for the first time. -/
abbrev IsFresh (table : ClassTable) (decl : ClassDecl) : Prop :=
  table.contains decl.name = false

theorem IsFresh.ne (fresh : table.IsFresh decl) (declared : table.contains name = true) :
    decl.name ≠ name := by
  rintro rfl
  simp [fresh] at declared

/-- A new class leaves the bases of the others alone. -/
theorem hasBase_enter_iff {base : String} (fresh : table.IsFresh decl)
    (declared : table.contains name = true) :
    (table.enter decl line).HasBase name base ↔ table.HasBase name base := by
  simp only [HasBase, get?_decls_enter, fresh.ne declared, if_false]

theorem hasBase_enter_self {base : String} :
    (table.enter decl line).HasBase decl.name base ↔ base ∈ decl.bases := by
  simp [HasBase, get?_decls_enter]

/-- What is reached from the other classes stays the same. -/
theorem reaches_enter_iff (ordered : table.WellOrdered) (fresh : table.IsFresh decl)
    (declared : table.contains name = true) :
    (table.enter decl line).Reaches name ancestor ↔ table.Reaches name ancestor := by
  constructor
  · intro reached
    induction reached with
    | refl => exact .refl
    | tail _ has ih =>
        have known := ordered.contains_of_reaches declared ih
        exact ih.tail ((hasBase_enter_iff fresh known).mp has)
  · intro reached
    induction reached with
    | refl => exact .refl
    | tail before has ih =>
        have known := ordered.contains_of_reaches declared before
        exact ih.tail ((hasBase_enter_iff fresh known).mpr has)

/-- From the new class its bases and what they reach are reached. -/
theorem reaches_enter_self (ordered : table.WellOrdered) (fresh : table.IsFresh decl)
    (known : ∀ base ∈ decl.bases, table.contains base = true) :
    (table.enter decl line).Reaches decl.name ancestor ↔
      ancestor = decl.name ∨ ∃ base ∈ decl.bases, table.Reaches base ancestor := by
  constructor
  · intro reached
    rcases Relation.ReflTransGen.cases_head reached with same | ⟨base, has, further⟩
    · exact .inl same.symm
    · have member := hasBase_enter_self.mp has
      exact .inr ⟨base, member, (reaches_enter_iff ordered fresh (known base member)).mp further⟩
  · rintro (rfl | ⟨base, member, further⟩)
    · exact .refl
    · exact .head (hasBase_enter_self.mpr member)
        ((reaches_enter_iff ordered fresh (known base member)).mpr further)

/-- The lines of the other classes stay lines of ancestors. -/
theorem IsAncestry.enter {own : List String} (ordered : table.WellOrdered)
    (fresh : table.IsFresh decl) (ancestry : table.IsAncestry name own)
    (declared : table.contains name = true) :
    (table.enter decl line).IsAncestry name own := by
  have known : ∀ ancestor ∈ own, table.contains ancestor = true := fun ancestor member =>
    ((ancestry.mem_iff ancestor).mp member).1
  refine ⟨ancestry.head, ancestry.last, ancestry.nodup, ?_, ?_, ?_⟩
  · intro ancestor
    rw [ancestry.mem_iff, reaches_enter_iff ordered fresh declared, contains_enter]
    constructor
    · rintro ⟨contained, reached⟩
      exact ⟨.inr contained, reached⟩
    · rintro ⟨_, reached⟩
      exact ⟨ordered.contains_of_reaches declared reached, reached⟩
  · intro ancestor member
    rw [get?_lines_enter, if_neg (fresh.ne (known ancestor member))]
    exact ancestry.lines ancestor member
  · intro ancestor member
    rw [get?_decls_enter, if_neg (fresh.ne (known ancestor member))]
    exact ancestry.bases ancestor member

/-- An order ends in an element when the sequences that it keeps do and cover it. -/
theorem getLast?_of_sublists {order : List String} {root : String} (nodup : order.Nodup)
    (nonempty : order ≠ [])
    (covered : ∀ element ∈ order, ∃ sequence : List String, element ∈ sequence ∧
      sequence.Sublist order ∧ sequence.getLast? = some root) :
    order.getLast? = some root := by
  rcases List.eq_nil_or_concat' order with rfl | ⟨before, last, rfl⟩
  · exact absurd rfl nonempty
  obtain ⟨sequence, member, kept, ends⟩ := covered last (by simp)
  obtain ⟨left, right, rfl, leftKept, rightKept⟩ := List.sublist_append_iff.mp kept
  have unique : last ∉ before := by
    intro again
    exact (List.nodup_append.mp nodup).2.2 last again last List.mem_cons_self rfl
  cases rightKept with
  | cons _ none =>
      obtain rfl := List.sublist_nil.mp none
      rw [List.append_nil] at member
      exact absurd (leftKept.subset member) unique
  | cons_cons _ none =>
      obtain rfl := List.sublist_nil.mp none
      simpa using ends

/-- What the first class of a line precedes can be kept together with it. -/
theorem cons_sublist_of_head {order sequence : List String} (head : order.head? = some name)
    (kept : sequence.Sublist order) (absent : name ∉ sequence) :
    (name :: sequence).Sublist order := by
  obtain ⟨rest, rfl⟩ := List.head?_eq_some_iff.mp head
  cases kept with
  | cons _ kept => exact kept.cons_cons name
  | cons_cons _ _ => exact absurd List.mem_cons_self absent

section NewClass

variable {lines : List (List String)}

/-- The line of a new class holds the class and what its bases reach. -/
theorem mem_line_iff (ordered : table.WellOrdered)
    (looked : decl.bases.map table.lines.get? = lines.map some)
    (is : IsLine decl.name decl.bases lines line) :
    ancestor ∈ line ↔ ancestor = decl.name ∨
      ∃ base ∈ decl.bases, table.contains ancestor = true ∧ table.Reaches base ancestor := by
  rw [is.mem_iff]
  apply or_congr_right
  constructor
  · rintro ⟨own, member, inside⟩
    obtain ⟨base, baseMem, found⟩ := exists_name_of_mem looked member
    exact ⟨base, baseMem, ((ordered.ancestry base own found).mem_iff ancestor).mp inside⟩
  · rintro ⟨base, baseMem, reached⟩
    obtain ⟨own, member, found⟩ := exists_line_of_mem looked baseMem
    exact ⟨own, member, ((ordered.ancestry base own found).mem_iff ancestor).mpr reached⟩

/-- The other classes in the line of a new class come from the line of one of its bases. -/
theorem exists_base_of_mem_line (ordered : table.WellOrdered)
    (looked : decl.bases.map table.lines.get? = lines.map some)
    (is : IsLine decl.name decl.bases lines line) (member : ancestor ∈ line)
    (other : ancestor ≠ decl.name) :
    ∃ base own, table.IsAncestry base own ∧ ancestor ∈ own ∧ own.Sublist line := by
  rcases (is.mem_iff ancestor).mp member with same | ⟨own, ownMem, inside⟩
  · exact absurd same other
  · obtain ⟨base, _, found⟩ := exists_name_of_mem looked ownMem
    exact ⟨base, own, ordered.ancestry base own found, inside, is.lines own ownMem⟩

/-- The line of a new class ends in the root, because the lines of its bases do. -/
theorem getLast?_line (ordered : table.WellOrdered) (fresh : table.IsFresh decl)
    (based : decl.bases ≠ []) (looked : decl.bases.map table.lines.get? = lines.map some)
    (is : IsLine decl.name decl.bases lines line) : line.getLast? = some Ty.rootName := by
  have nonempty : line ≠ [] := by
    rintro rfl
    exact absurd is.head (by simp)
  refine getLast?_of_sublists is.nodup nonempty ?_
  intro ancestor member
  by_cases same : ancestor = decl.name
  · obtain ⟨base, baseMem⟩ := List.exists_mem_of_ne_nil _ based
    obtain ⟨own, ownMem, found⟩ := exists_line_of_mem looked baseMem
    have ancestry := ordered.ancestry base own found
    have absent : decl.name ∉ own := fun inside =>
      fresh.ne ((ancestry.mem_iff decl.name).mp inside).1 rfl
    refine ⟨decl.name :: own, ?_, cons_sublist_of_head is.head (is.lines own ownMem) absent, ?_⟩
    · simp [same]
    · simp [List.getLast?_cons, ancestry.last]
  · obtain ⟨base, own, ancestry, inside, kept⟩ :=
      exists_base_of_mem_line ordered looked is member same
    exact ⟨own, inside, kept, ancestry.last⟩

/-- The line that the bases of a new class give is its line of ancestors. -/
theorem isAncestry_enter_self (ordered : table.WellOrdered) (fresh : table.IsFresh decl)
    (based : decl.bases ≠ []) (looked : decl.bases.map table.lines.get? = lines.map some)
    (is : IsLine decl.name decl.bases lines line) :
    (table.enter decl line).IsAncestry decl.name line := by
  have known : ∀ base ∈ decl.bases, table.contains base = true := by
    intro base member
    obtain ⟨own, _, found⟩ := exists_line_of_mem looked member
    exact ordered.contains_of_line found
  refine ⟨is.head, getLast?_line ordered fresh based looked is, is.nodup, ?_, ?_, ?_⟩
  · intro ancestor
    rw [mem_line_iff ordered looked is, contains_enter, reaches_enter_self ordered fresh known]
    constructor
    · rintro (same | ⟨base, member, contained, reached⟩)
      · exact ⟨.inl same, .inl same⟩
      · exact ⟨.inr contained, .inr ⟨base, member, reached⟩⟩
    · rintro ⟨_, same | ⟨base, member, reached⟩⟩
      · exact .inl same
      · have contained := ordered.contains_of_reaches (known base member) reached
        exact .inr ⟨base, member, contained, reached⟩
  · intro ancestor member
    by_cases same : ancestor = decl.name
    · exact ⟨line, by simp [get?_lines_enter, same], List.Sublist.refl line⟩
    · obtain ⟨base, own, ancestry, inside, kept⟩ :=
        exists_base_of_mem_line ordered looked is member same
      obtain ⟨inner, found, innerKept⟩ := ancestry.lines ancestor inside
      refine ⟨inner, ?_, innerKept.trans kept⟩
      rw [get?_lines_enter, if_neg (Ne.symm same)]
      exact found
  · intro ancestor member
    by_cases same : ancestor = decl.name
    · exact ⟨decl, by simp [get?_decls_enter, same], is.bases⟩
    · obtain ⟨base, own, ancestry, inside, kept⟩ :=
        exists_base_of_mem_line ordered looked is member same
      obtain ⟨inner, found, innerKept⟩ := ancestry.bases ancestor inside
      refine ⟨inner, ?_, innerKept.trans kept⟩
      rw [get?_decls_enter, if_neg (Ne.symm same)]
      exact found

end NewClass

/-- Entering a new class with the line that its bases give keeps a table well ordered. -/
theorem WellOrdered.enter (ordered : table.WellOrdered) (fresh : table.IsFresh decl)
    (based : decl.bases ≠ []) (found : table.ancestors? decl = .ok (some line)) :
    (table.enter decl line).WellOrdered := by
  obtain ⟨lines, looked, linearized⟩ := ancestors?_eq_ok found
  have heads : ∀ base ∈ decl.bases, ∃ own ∈ lines, base ∈ own := by
    intro base member
    obtain ⟨own, ownMem, ownFound⟩ := exists_line_of_mem looked member
    exact ⟨own, ownMem, List.mem_of_head? (ordered.ancestry base own ownFound).head⟩
  have absent : ∀ own ∈ lines, decl.name ∉ own := by
    intro own member inside
    obtain ⟨base, _, ownFound⟩ := exists_name_of_mem looked member
    have contained := ((ordered.ancestry base own ownFound).mem_iff decl.name).mp inside
    exact fresh.ne contained.1 rfl
  have is : IsLine decl.name decl.bases lines line := isLine_of_linearize absent heads linearized
  refine ⟨?_, ?_, ?_⟩
  · simp only [ClassTable.enter, Entries.keys_put, ordered.keys]
  · intro name own ownFound
    rw [get?_lines_enter] at ownFound
    split at ownFound
    · next same =>
        obtain rfl := Option.some.inj ownFound
        exact same ▸ isAncestry_enter_self ordered fresh based looked is
    · exact (ordered.ancestry name own ownFound).enter ordered fresh
        (ordered.contains_of_line ownFound)
  · obtain ⟨root, rootFound, declares⟩ := ordered.root
    have other := fresh.ne (contains_iff.mpr ⟨root, rootFound⟩)
    refine ⟨root, ?_, declares⟩
    rw [get?_decls_enter, if_neg other]
    exact rootFound

/-! ## The built-in classes -/

/-- The root of all classes, alone in a table. -/
theorem wellOrdered_root (declaresCall : Bool) :
    (enter ⟨[], []⟩ ⟨Ty.rootName, [], true, declaresCall⟩ [Ty.rootName]).WellOrdered := by
  refine ⟨rfl, ?_, ⟨_, rfl, rfl⟩⟩
  intro name line found
  rw [get?_lines_enter] at found
  split at found
  · next same =>
      obtain rfl := Option.some.inj found
      subst same
      refine ⟨rfl, rfl, by simp, ?_, ?_, ?_⟩
      · intro ancestor
        rw [List.mem_singleton, contains_enter]
        constructor
        · rintro rfl
          exact ⟨.inl rfl, .refl⟩
        · rintro ⟨same | other, _⟩
          · exact same
          · simp [contains] at other
      · simp [get?_lines_enter]
      · simp [get?_decls_enter]
  · simp at found

theorem wellOrdered_builtin : builtin.WellOrdered := by
  let root := enter ⟨[], []⟩ ⟨Ty.rootName, [], true, false⟩ [Ty.rootName]
  have first : (root.enter ⟨"BaseException", ["object"], true, false⟩
      ["BaseException", "object"]).WellOrdered :=
    (wellOrdered_root false).enter (by decide) (by simp) (by decide)
  rw [builtin_eq]
  exact WellOrdered.enter first
    (by decide : IsFresh _ ⟨"Exception", ["BaseException"], false, false⟩)
    (by simp) (by decide)

/-! ## Asking about classes -/

/-- Whether the class of the given name declares a conversion to text itself. -/
def declaresStringifier (table : ClassTable) (name : String) : Bool :=
  (table.decls.get? name).any (·.declaresStringifier)

/-- Whether the class of the given name makes its instances callable itself. -/
def declaresCall (table : ClassTable) (name : String) : Bool :=
  (table.decls.get? name).any (·.declaresCall)

theorem firstDeclaring_eq_find? {names : List String}
    (known : ∀ name ∈ names, table.contains name = true) :
    table.firstDeclaring names = .ok (names.find? table.declaresStringifier) := by
  induction names with
  | nil => rfl
  | cons name rest ih =>
      obtain ⟨decl, found⟩ := contains_iff.mp (known name List.mem_cons_self)
      have later := ih fun name member => known name (List.mem_cons_of_mem _ member)
      simp only [firstDeclaring, ClassTable.decl, found, bind, Except.bind, later]
      by_cases own : decl.declaresStringifier = true
      · simp [declaresStringifier, found, own, pure, Except.pure]
      · simp [declaresStringifier, found, own]

theorem anyCallable_eq_any {names : List String}
    (known : ∀ name ∈ names, table.contains name = true) :
    table.anyCallable names = .ok (names.any table.declaresCall) := by
  induction names with
  | nil => rfl
  | cons name rest ih =>
      obtain ⟨decl, found⟩ := contains_iff.mp (known name List.mem_cons_self)
      have later := ih fun name member => known name (List.mem_cons_of_mem _ member)
      simp only [anyCallable, ClassTable.decl, found, bind, Except.bind, later]
      by_cases own : decl.declaresCall = true
      · simp [declaresCall, found, own, pure, Except.pure]
      · simp [declaresCall, found, own]

namespace WellOrdered

theorem contains_of_mem_line (ordered : table.WellOrdered)
    (found : table.lines.get? name = some line) :
    ∀ ancestor ∈ line, table.contains ancestor = true := by
  intro ancestor member
  exact (((ordered.ancestry name line found).mem_iff ancestor).mp member).1

/-- The conversion to text is declared by the first ancestor that declares one; the root does. -/
theorem stringifierContext_eq (ordered : table.WellOrdered)
    (found : table.lines.get? name = some line) :
    ∃ context, line.find? table.declaresStringifier = some context ∧
      table.stringifierContext name = .ok context := by
  obtain ⟨root, rootFound, declares⟩ := ordered.root
  have rootMem := List.mem_of_getLast? (ordered.ancestry name line found).last
  have some : (line.find? table.declaresStringifier).isSome = true :=
    List.find?_isSome.mpr ⟨Ty.rootName, rootMem, by simp [declaresStringifier, rootFound, declares]⟩
  obtain ⟨context, first⟩ := Option.isSome_iff_exists.mp some
  refine ⟨context, first, ?_⟩
  have answer := firstDeclaring_eq_find? (ordered.contains_of_mem_line found)
  simp [stringifierContext, ClassTable.line, found, answer, first, bind, Except.bind, pure,
    Except.pure]

/-- Instances can be called when some ancestor says so. -/
theorem callSignatures_eq (ordered : table.WellOrdered)
    (found : table.lines.get? name = some line) :
    table.callSignatures name = .ok (if line.any table.declaresCall then 1 else 0) := by
  have answer := anyCallable_eq_any (ordered.contains_of_mem_line found)
  simp [callSignatures, ClassTable.line, found, answer, bind, Except.bind, pure, Except.pure]

end WellOrdered

end ClassTable

end Stringify.Stub
