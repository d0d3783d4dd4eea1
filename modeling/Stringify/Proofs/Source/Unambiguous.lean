import Stringify.Proofs.Source.ClosedExpressions

/-!
# Printed names are unambiguous

A text that the scanner comes to the end of can be taken apart: closed texts that a stop stands
between are split at the first stop that the scanner comes to, and the brackets of the last index of
a subscript are those that the scanner matches. So the name at the root of a subscript can be told
from what is printed.
-/

namespace Stringify.Source

open Spot

variable {stops : List Char} {first second text front inner : String} {value index other : Expr}

/-! ## Roots and words -/

/-- What has a root is a name, an attribute, or a subscript of something with that root. -/
theorem rooted_cases {root : String} (rooted : value.rootName? = some root) :
    (∃ line, value = .name line root) ∨ (∃ line inner, value = .attribute line inner root) ∨
      ∃ line inner index, value = .subscript line inner index ∧ inner.rootName? = some root := by
  cases value with
  | name line text =>
      obtain rfl := Option.some.inj rooted
      exact .inl ⟨line, rfl⟩
  | «attribute» line inner field =>
      obtain rfl := Option.some.inj rooted
      exact .inr (.inl ⟨line, inner, rfl⟩)
  | subscript line inner index => exact .inr (.inr ⟨line, inner, index, rfl, rooted⟩)
  | _ => cases rooted

/-- A word has no point in it. -/
theorem word_ne_append_point {word : String} (isWord : IsWord word) (before after : List Char) :
    word.toList ≠ before ++ '.' :: after := by
  intro same
  cases isWord.chars '.' (by simp [same])

/-- Behind the last point of a text a word is found. -/
theorem eq_of_append_word {before after : List Char} {word ending : String} (isWord : IsWord word)
    (isWordToo : IsWord ending)
    (same : before ++ '.' :: word.toList = after ++ '.' :: ending.toList) : word = ending := by
  rcases List.append_eq_append_iff.mp same with ⟨more, -, here⟩ | ⟨more, -, here⟩
  · cases more with
    | nil => exact String.toList_inj.mp (List.cons.inj here).2
    | cons point more => exact absurd (List.cons.inj here).2 (word_ne_append_point isWord _ _)
  · cases more with
    | nil => exact (String.toList_inj.mp (List.cons.inj here).2).symm
    | cons point more => exact absurd (List.cons.inj here).2 (word_ne_append_point isWordToo _ _)

/-- What ends in a word does not end in a bracket. -/
theorem append_word_ne_append_bracket {word : String} (isWord : IsWord word)
    (before inner : List Char) : before ++ word.toList ≠ inner ++ [']'] := by
  intro same
  have last : word.toList.getLast? = some ']' := by
    rw [← List.getLast?_append_of_ne_nil before isWord.nonempty, same, List.getLast?_concat]
  cases isWord.chars ']' (List.mem_of_getLast? last)

/-! ## Legible texts -/

variable [Release]

/-- The scanner comes to the end of a text and does not give up. -/
def IsLegible (text : String) : Prop :=
  scan? [] (.outside 0 .clear) text.toList ≠ some .formatted

instance : Decidable (IsLegible text) :=
  inferInstanceAs (Decidable (scan? [] (.outside 0 .clear) text.toList ≠ some .formatted))

/-- The scanner gives up only where releases do not fall back to other quotes. -/
theorem Spot.next?_ne_formatted (fallsBack : Release.fallsBack = true) {spot : Spot}
    (followed : spot ≠ .formatted) (c : Char) : next? stops spot c ≠ some .formatted := by
  cases spot with
  | outside depth trail =>
      rw [next?]
      split_ifs
      · cases trail <;> simp [enter, fallsBack]
      · simp
      · cases depth <;> simp [closed?]
      · simp
      · simp
  | opened | inside =>
      simp only [next?, within]
      split_ifs <;> simp
  | escaped => simp [next?]
  | formatted => exact absurd rfl followed

theorem Spot.scan?_ne_formatted (fallsBack : Release.fallsBack = true) {spot : Spot}
    (followed : spot ≠ .formatted) (chars : List Char) :
    scan? stops spot chars ≠ some .formatted := by
  induction chars generalizing spot with
  | nil => simpa using followed
  | cons c rest ih =>
      intro gaveUp
      rw [scan?_cons, Option.bind_eq_some_iff] at gaveUp
      obtain ⟨between, here, later⟩ := gaveUp
      refine ih ?_ later
      rintro rfl
      exact next?_ne_formatted fallsBack followed c here

/-- Where releases fall back to other quotes, every text is legible. -/
theorem isLegible_of_fallsBack (fallsBack : Release.fallsBack = true) (text : String) :
    IsLegible text :=
  scan?_ne_formatted fallsBack Spot.noConfusion text.toList

/-- The scanner comes back to where it started, and gives up nowhere. -/
def IsBalanced (stops : List Char) (text : String) : Prop :=
  ∃ trail, scan? stops (.outside 0 .clear) text.toList = some (.outside 0 trail)

theorem IsBalanced.mono {fewer : List Char} (subset : fewer ⊆ stops)
    (balanced : IsBalanced stops text) : IsBalanced fewer text := by
  obtain ⟨trail, scanned⟩ := balanced
  exact ⟨trail, scan?_mono subset scanned⟩

/-- A closed and legible text is balanced. -/
theorem IsClosed.isBalanced (closed : IsClosed stops text) (legible : IsLegible text) :
    IsBalanced stops text := by
  obtain ⟨spot, scanned, free⟩ := closed
  cases free with
  | outside trail => exact ⟨trail, scanned⟩
  | formatted => exact absurd (scan?_mono (List.nil_subset _) scanned) legible

theorem IsLegible.left (legible : IsLegible (first ++ second)) : IsLegible first := by
  intro formatted
  apply legible
  rw [String.toList_append, scan?_append_of formatted, scan?_formatted]

/-- What stands behind a balanced text and a gap is legible too. -/
theorem IsLegible.right {separator : String} (legible : IsLegible (first ++ separator ++ second))
    (balanced : IsBalanced [] first) (gap : IsGap [] separator) : IsLegible second := by
  obtain ⟨trail, scanned⟩ := balanced
  intro formatted
  apply legible
  rwa [String.append_assoc, String.toList_append, String.toList_append, scan?_append_of scanned,
    scan?_append_of (gap trail)]

/-! ## Splitting at stops -/

/-- The scanner stops at the character where it is in no brackets and no quotes. -/
def StopsAt (stops : List Char) (c : Char) : Prop :=
  ∀ trail, next? stops (.outside 0 trail) c = none

section Splitting

variable {c : Char} {before after rest others : List Char} {trail behind : Trail}

/-- What the scanner passes over has no stop behind something balanced. -/
theorem not_scan?_of_stopsAt (stopped : StopsAt stops c)
    (scanned : scan? stops (.outside 0 .clear) before = some (.outside 0 trail)) :
    scan? stops (.outside 0 .clear) (before ++ c :: rest) = none := by
  rw [scan?_append_of scanned, scan?_cons, stopped trail, Option.bind_none]

/-- A text is split in one way at the first stop that the scanner comes to. -/
theorem eq_of_append_stop (stopped : StopsAt stops c)
    (ofBefore : scan? stops (.outside 0 .clear) before = some (.outside 0 trail))
    (ofAfter : scan? stops (.outside 0 .clear) after = some (.outside 0 behind))
    (same : before ++ c :: rest = after ++ c :: others) : before = after ∧ rest = others := by
  rcases List.append_eq_append_iff.mp same with ⟨more, split, here⟩ | ⟨more, split, here⟩
  · cases more with
    | nil => simp_all
    | cons stop more =>
        obtain ⟨rfl, -⟩ := List.cons.inj here
        rw [split, not_scan?_of_stopsAt stopped ofBefore] at ofAfter
        cases ofAfter
  · cases more with
    | nil => simp_all
    | cons stop more =>
        obtain ⟨rfl, -⟩ := List.cons.inj here
        rw [split, not_scan?_of_stopsAt stopped ofAfter] at ofBefore
        cases ofBefore

end Splitting

/-- Texts are joined by a stop with a blank on either side. -/
structure IsJoint (stops : List Char) (separator : String) (stop : Char) : Prop where
  toList_eq : separator.toList = [' ', stop, ' ']
  stopsAt : StopsAt stops stop

section Joining

variable {separator : String} {stop : Char} {texts others : List String}

theorem scan?_append_blank {chars : List Char} {trail : Trail} (blank : ' ' ∉ stops)
    (scanned : scan? stops (.outside 0 .clear) chars = some (.outside 0 trail)) :
    scan? stops (.outside 0 .clear) (chars ++ [' ']) = some (.outside 0 .clear) := by
  have plain : isPlain stops ' ' = true := by
    simpa [isPlain, Text.isQuote, isOpening, isClosing] using blank
  rw [scan?_append_of scanned, scan?_cons, next?_of_isPlain plain]
  rfl

theorem toList_intercalate_cons_cons (joint : IsJoint stops separator stop) (first second : String)
    (rest : List String) : (separator.intercalate (first :: second :: rest)).toList =
      (first.toList ++ [' ']) ++
        stop :: (' ' :: (separator.intercalate (second :: rest)).toList) := by
  rw [String.intercalate_cons_cons, String.toList_append, String.toList_append, joint.toList_eq]
  simp

/-- Balanced texts can be told from what they are joined to. -/
theorem intercalate_injective (joint : IsJoint stops separator stop) (blank : ' ' ∉ stops)
    (nonempty : texts ≠ []) (nonemptyToo : others ≠ [])
    (each : ∀ text ∈ texts, IsBalanced stops text)
    (eachToo : ∀ text ∈ others, IsBalanced stops text)
    (same : separator.intercalate texts = separator.intercalate others) : texts = others := by
  induction texts generalizing others with
  | nil => exact absurd rfl nonempty
  | cons first rest ih =>
      obtain ⟨ofFirst, ofRest⟩ := List.forall_mem_cons.mp each
      obtain ⟨trail, scanned⟩ := ofFirst
      cases others with
      | nil => exact absurd rfl nonemptyToo
      | cons other more =>
          obtain ⟨ofOther, ofMore⟩ := List.forall_mem_cons.mp eachToo
          obtain ⟨behind, scannedToo⟩ := ofOther
          have chars := congrArg String.toList same
          have padded := scan?_append_blank blank scanned
          have paddedToo := scan?_append_blank blank scannedToo
          cases rest with
          | nil =>
              cases more with
              | nil => simpa using same
              | cons second more =>
                  rw [toList_intercalate_cons_cons joint, String.intercalate_singleton] at chars
                  rw [chars, not_scan?_of_stopsAt joint.stopsAt paddedToo] at scanned
                  cases scanned
          | cons second rest =>
              cases more with
              | nil =>
                  rw [toList_intercalate_cons_cons joint, String.intercalate_singleton] at chars
                  rw [← chars, not_scan?_of_stopsAt joint.stopsAt padded] at scannedToo
                  cases scannedToo
              | cons third more =>
                  rw [toList_intercalate_cons_cons joint, toList_intercalate_cons_cons joint]
                    at chars
                  obtain ⟨heads, tails⟩ :=
                    eq_of_append_stop joint.stopsAt padded paddedToo chars
                  have sameFirst : first = other :=
                    String.toList_inj.mp (List.append_cancel_right heads)
                  have sameRest : separator.intercalate (second :: rest) =
                      separator.intercalate (third :: more) :=
                    String.toList_inj.mp (List.cons.inj tails).2
                  rw [sameFirst, ih (List.cons_ne_nil _ _) (List.cons_ne_nil _ _) ofRest ofMore
                    sameRest]

/-- The parts of a legible text are balanced and legible. -/
theorem isBalanced_of_intercalate (gap : IsGap [] separator)
    (closed : ∀ text ∈ texts, IsClosed stops text)
    (legible : IsLegible (separator.intercalate texts)) :
    ∀ text ∈ texts, IsBalanced stops text ∧ IsLegible text := by
  induction texts with
  | nil => simp
  | cons first rest ih =>
      obtain ⟨ofFirst, ofRest⟩ := List.forall_mem_cons.mp closed
      refine List.forall_mem_cons.mpr ?_
      cases rest with
      | nil =>
          rw [String.intercalate_singleton] at legible
          exact ⟨⟨ofFirst.isBalanced legible, legible⟩, by simp⟩
      | cons second rest =>
          rw [String.intercalate_cons_cons] at legible
          have legibleFirst := legible.left.left
          have balanced := ofFirst.isBalanced legibleFirst
          exact ⟨⟨balanced, legibleFirst⟩,
            ih ofRest (legible.right (balanced.mono (List.nil_subset _)) gap)⟩

end Joining

/-! ## Brackets of subscripts -/

section Brackets

variable {before after inside within more : List Char} {trail behind left right : Trail}

/-- A longer text before the bracket would end in the middle of what stands in the brackets, and the
scanner is never back at the outside there. -/
theorem eq_of_append_more
    (ofBefore : scan? [] (.outside 0 .clear) before = some (.outside 0 trail))
    (ofAfter : scan? [] (.outside 0 .clear) (before ++ more) = some (.outside 0 behind))
    (ofInside : scan? [] (.outside 0 .clear) inside = some (.outside 0 left))
    (here : '[' :: inside = more ++ '[' :: within) : more = [] := by
  cases more with
  | nil => rfl
  | cons bracket more =>
      obtain ⟨rfl, split⟩ := List.cons.inj here
      rw [split, List.append_eq, scan?_append, Option.bind_eq_some_iff] at ofInside
      obtain ⟨spot, ofMore, -⟩ := ofInside
      have opened : next? [] (.outside 0 trail) '[' = some (.outside 1 .clear) := rfl
      have deep : scan? [] (.outside 1 .clear) more = some spot.deeper := scan?_deeper ofMore
      rw [scan?_append_of ofBefore, scan?_cons, opened, Option.bind_some, deep] at ofAfter
      cases spot <;> cases ofAfter

/-- Where a text ends in brackets, these are found from what stands between them. -/
theorem eq_of_append_bracket
    (ofBefore : scan? [] (.outside 0 .clear) before = some (.outside 0 trail))
    (ofAfter : scan? [] (.outside 0 .clear) after = some (.outside 0 behind))
    (ofInside : scan? [] (.outside 0 .clear) inside = some (.outside 0 left))
    (ofWithin : scan? [] (.outside 0 .clear) within = some (.outside 0 right))
    (same : before ++ '[' :: inside = after ++ '[' :: within) : before = after := by
  rcases List.append_eq_append_iff.mp same with ⟨more, rfl, here⟩ | ⟨more, rfl, here⟩
  · rw [eq_of_append_more ofBefore ofAfter ofInside here, List.append_nil]
  · rw [eq_of_append_more ofAfter ofBefore ofWithin here, List.append_nil]

end Brackets

/-! ## The forms of what has a root -/

theorem exists_print_attribute {line : Nat} {field : String} {level : Level}
    (printed : printAt false level (.attribute line value field) = .ok text) :
    ∃ front, text.toList = front ++ '.' :: field.toList := by
  simp only [printAt, bind_eq_ok_iff, pure_eq_ok_iff] at printed
  obtain ⟨front, _, rfl⟩ := printed
  exact ⟨(front ++ if value.isInteger then " " else "").toList, by simp⟩

theorem exists_print_subscript {line : Nat} {level : Level} (closed : value.PrintsClosed)
    (compact : value.isSpread = false) (ofIndex : index.PrintsClosed)
    (printed : printAt false level (.subscript line value index) = .ok text)
    (legible : IsLegible text) :
    ∃ front inner, printAt false .atom value = .ok front ∧
      text.toList = front.toList ++ '[' :: inner ++ [']'] ∧ IsLegible front ∧
      (∃ trail, scan? [] (.outside 0 .clear) front.toList = some (.outside 0 trail)) ∧
      ∃ trail, scan? [] (.outside 0 .clear) inner = some (.outside 0 trail) := by
  simp only [printAt_subscript, bind_eq_ok_iff, pure_eq_ok_iff] at printed
  obtain ⟨front, here, inner, inside, rfl⟩ := printed
  have legibleFront := legible.left.left.left
  obtain ⟨trail, scanned⟩ := ((closed.tight compact front here).mono
    (List.nil_subset _)).isBalanced legibleFront
  refine ⟨front, inner.toList, here, by simp, legibleFront, ⟨trail, scanned⟩, ?_⟩
  obtain ⟨spot, scannedInner, free⟩ := ofIndex.loose _ inner inside
  cases free with
  | outside behind => exact ⟨behind, scannedInner⟩
  | formatted =>
      refine absurd ?_ legible
      have opened : scan? [] (.outside 0 trail) "[".toList = some (.outside 1 .clear) := rfl
      have deep : scan? [] (.outside 1 .clear) inner.toList = some .formatted :=
        scan?_deeper scannedInner
      rw [String.toList_append, String.toList_append, String.toList_append, List.append_assoc,
        List.append_assoc, scan?_append_of scanned, scan?_append_of opened, scan?_append_of deep,
        scan?_formatted]

/-- Expressions that are printed alike and legibly have the same root if both have one. -/
theorem rootName?_eq_of_print {root otherRoot : String} (written : value.IsWritten)
    (writtenToo : other.IsWritten) (printed : printAt false .atom value = .ok text)
    (printedToo : printAt false .atom other = .ok text) (legible : IsLegible text)
    (rooted : value.rootName? = some root) (rootedToo : other.rootName? = some otherRoot) :
    root = otherRoot := by
  fun_induction Expr.rootName? value generalizing other text with
  | case1 line name =>
      obtain rfl := Option.some.inj rooted
      cases written with | name word =>
      cases printed
      obtain ⟨_, rfl⟩ | ⟨_, inner, rfl⟩ | ⟨_, inner, index, rfl, -⟩ := rooted_cases rootedToo
      · exact (Except.ok.inj printedToo).symm
      · obtain ⟨front, chars⟩ := exists_print_attribute printedToo
        exact absurd chars (word_ne_append_point word _ _)
      · cases writtenToo with | subscript ofInner compact ofIndex =>
        obtain ⟨front, within, -, chars, -⟩ := exists_print_subscript ofInner.printsClosed compact
          ofIndex.printsClosed printedToo legible
        exact absurd chars (append_word_ne_append_bracket word [] _)
  | case2 line inner field =>
      obtain rfl := Option.some.inj rooted
      cases written with | «attribute» _ _ word =>
      obtain ⟨front, chars⟩ := exists_print_attribute printed
      obtain ⟨_, rfl⟩ | ⟨_, inner, rfl⟩ | ⟨_, inner, index, rfl, -⟩ := rooted_cases rootedToo
      · cases writtenToo with | name wordToo =>
        cases printedToo
        exact absurd chars (word_ne_append_point wordToo _ _)
      · cases writtenToo with | «attribute» _ _ wordToo =>
        obtain ⟨frontToo, charsToo⟩ := exists_print_attribute printedToo
        exact eq_of_append_word word wordToo (chars.symm.trans charsToo)
      · cases writtenToo with | subscript ofInner compact ofIndex =>
        obtain ⟨frontToo, within, -, charsToo, -⟩ := exists_print_subscript ofInner.printsClosed
          compact ofIndex.printsClosed printedToo legible
        have same := chars.symm.trans charsToo
        rw [List.append_cons] at same
        exact absurd same (append_word_ne_append_bracket word _ _)
  | case3 line inner index ih =>
      cases written with | subscript ofInner compact ofIndex =>
      obtain ⟨front, within, ofFront, chars, legibleFront, ⟨_, scanned⟩, _, inside⟩ :=
        exists_print_subscript ofInner.printsClosed compact ofIndex.printsClosed printed legible
      obtain ⟨_, rfl⟩ | ⟨_, other, rfl⟩ | ⟨_, other, otherIndex, rfl, rootedInner⟩ :=
        rooted_cases rootedToo
      · cases writtenToo with | name wordToo =>
        cases printedToo
        exact absurd chars (append_word_ne_append_bracket wordToo [] _)
      · cases writtenToo with | «attribute» _ _ wordToo =>
        obtain ⟨frontToo, charsToo⟩ := exists_print_attribute printedToo
        have same := charsToo.symm.trans chars
        rw [List.append_cons] at same
        exact absurd same (append_word_ne_append_bracket wordToo _ _)
      · cases writtenToo with | subscript ofOther compactToo ofOtherIndex =>
        obtain ⟨frontToo, withinToo, ofFrontToo, charsToo, -, ⟨_, scannedToo⟩, _, insideToo⟩ :=
          exists_print_subscript ofOther.printsClosed compactToo ofOtherIndex.printsClosed
            printedToo legible
        have fronts := eq_of_append_bracket scanned scannedToo inside insideToo
          (List.append_cancel_right (chars.symm.trans charsToo))
        obtain rfl := String.toList_inj.mp fronts
        exact ih ofInner ofOther ofFront ofFrontToo legibleFront rooted rootedInner
  | case4 => cases rooted

end Stringify.Source
