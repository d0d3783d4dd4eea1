import Mathlib.Data.Nat.Digits.Defs
import Stringify.Proofs.Source.Enclosure
import Stringify.Ty.Literal

/-!
# Constants are closed

Between its quotes a text has a backslash before each quote like them, so a quoted text is closed.
Numbers have no quotes, no stops, and brackets only around a complex one. So the printed constants
and the names of literals are closed.
-/

namespace Stringify

open Source

/-! ## Quoted texts -/

namespace Text

variable {stops chars fence : List Char} {quote : Char} {depth length count left : Nat}

section Filled

variable [Release]

/-- The scanner stays between quotes while these are filled. -/
theorem scan?_of_fills (isQuote : isQuote quote = true)
    (fills : Fills quote length count chars left) :
    Spot.scan? stops (.inside depth quote length count) chars =
      some (.inside depth quote length left) := by
  induction fills with
  | nil => rfl
  | quote few _ ih =>
      rw [Spot.scan?_cons, Spot.next?, Spot.within, if_pos rfl, if_neg (Nat.ne_of_lt few),
        Option.bind_some, ih]
  | bare different plain _ ih =>
      rw [Spot.scan?_cons, Spot.next?, Spot.within, if_neg different, if_neg plain,
        Option.bind_some, ih]
  | escape _ ih =>
      have different : '\\' ≠ quote := by
        rintro rfl
        cases isQuote
      rw [Spot.scan?_cons, Spot.next?, Spot.within, if_neg different, if_pos rfl,
        Option.bind_some, Spot.scan?_cons, Spot.next?, Option.bind_some, ih]

/-- The quotes that a text began with end it. -/
theorem AreQuotes.scan?_inside (quotes : AreQuotes fence quote length) :
    Spot.scan? stops (.inside depth quote length 0) fence = some (.outside depth .clear) := by
  rw [quotes.eq]
  rcases quotes.lengths with rfl | rfl <;>
    simp [List.replicate, Spot.scan?_cons, Spot.next?, Spot.within]

/-- What is between quotes that it fills is closed with them. -/
theorem isSettled_quotes (isQuote : isQuote quote = true) {body : List Char}
    (fills : Fills quote 1 0 body 0) :
    IsSettled stops (String.ofList (quote :: body ++ [quote])) := by
  have quotes : AreQuotes [quote] quote 1 := ⟨rfl, isQuote, .inl rfl⟩
  refine ⟨.outside 0 .clear, ?_, .inl rfl⟩
  rw [String.toList_ofList, List.cons_append, Spot.scan?_cons, Spot.next?, if_pos isQuote,
    Spot.enter, Option.bind_some, Spot.scan?_append_of (scan?_of_fills isQuote fills),
    quotes.scan?_inside]

theorem isSettled_quoted (text : Text) : IsSettled stops text.quoted :=
  isSettled_quotes (isQuote_quoteFor _ _) (Fills.flatMap (fills_quoteCode (isQuote_quoteFor _ _)) _)

theorem isClosed_quotedBytes (plain : isPlain stops 'b' = true) (bytes : List UInt8) :
    IsClosed stops (quotedBytes bytes) := by
  have settled : IsSettled stops (String.ofList (_ :: bytes.flatMap (quoteByte _) ++ [_])) :=
    isSettled_quotes (isQuote_quoteFor (bytes.contains 0x27) (bytes.contains 0x22))
      (Fills.flatMap (fills_quoteByte (isQuote_quoteFor _ _)) bytes)
  obtain ⟨spot, scanned, free⟩ := settled.isClosed
  refine ⟨spot, ?_, free⟩
  rw [quotedBytes, String.toList_ofList, quotedBytesChars]
  rw [String.toList_ofList] at scanned
  rw [List.cons_append, List.cons_append, Spot.scan?_cons, Spot.next?_of_isPlain plain]
  exact scanned

end Filled

end Text

/-! ## Numbers -/

namespace Decimal

/-- A character of a number: it goes on a word, or it is a sign or a point. -/
def IsNumeral (c : Char) : Prop :=
  Source.Number.mayExtendWord c = true ∨ c = '-' ∨ c = '+' ∨ c = '.'

/-- The characters of a text are those of numbers. -/
def IsNumeric (text : String) : Prop := ∀ c ∈ text.toList, IsNumeral c

theorem isPlain_of_isNumeral {c : Char} (numeral : IsNumeral c) :
    isPlain compositionStops c = true := by
  rcases numeral with goesOn | rfl | rfl | rfl
  · exact isPlain_of_mayExtendWord goesOn
  all_goals rfl

theorem IsNumeric.continues [Release] {text : String} (numeric : IsNumeric text) :
    Continues compositionStops text :=
  continues_of_isPlain fun c member => isPlain_of_isNumeral (numeric c member)

theorem IsNumeric.append {first second : String} (former : IsNumeric first)
    (latter : IsNumeric second) : IsNumeric (first ++ second) := by
  rw [IsNumeric, String.toList_append, List.forall_mem_append]
  exact ⟨former, latter⟩

theorem isNumeric_ofList {chars : List Char} (each : ∀ c ∈ chars, IsNumeral c) :
    IsNumeric (String.ofList chars) := by
  rwa [IsNumeric, String.toList_ofList]

theorem isNumeral_of_isDigit {c : Char} (digit : c.isDigit = true) : IsNumeral c := by
  simp [IsNumeral, Source.Number.mayExtendWord, Char.isAlphanum, digit]

theorem isNumeral_toDigits (number : Nat) : ∀ c ∈ Nat.toDigits 10 number, IsNumeral c :=
  fun _ member => isNumeral_of_isDigit
    (Nat.isDigit_of_mem_toDigits (by decide) (by decide) member)

theorem isNumeral_replicate_zero (count : Nat) : ∀ c ∈ List.replicate count '0', IsNumeral c := by
  intro c member
  obtain rfl := List.eq_of_mem_replicate member
  exact isNumeral_of_isDigit rfl

theorem isNumeric_integerText? {value : Int} {text : String}
    (written : integerText? value = some text) : IsNumeric text := by
  unfold integerText? at written
  split at written
  · obtain rfl := Option.some.inj written
    refine isNumeric_ofList ?_
    rw [integerChars, List.forall_mem_append]
    refine ⟨?_, isNumeral_toDigits _⟩
    split <;> simp [IsNumeral]
  · cases written

namespace Layout

variable {layout : Layout}

/-- The texts that a layout chooses are made of the characters of numbers. -/
structure IsNumeric (layout : Layout) : Prop where
  wholeMark : Decimal.IsNumeric layout.wholeMark
  infinity : Decimal.IsNumeric layout.infinity
  notANumber : Decimal.IsNumeric layout.notANumber

theorem isNumeric_exponentText (layout : Layout) (exponent : Int) :
    Decimal.IsNumeric (layout.exponentText exponent) := by
  unfold exponentText
  dsimp only
  refine .append (.append ?_ (isNumeric_ofList (isNumeral_replicate_zero _))) ?_
  · split <;> simp [Decimal.IsNumeric, IsNumeral]
  · exact isNumeric_ofList (isNumeral_toDigits _)

theorem isNumeric_digitsText (numeric : layout.IsNumeric) {digits : List Char}
    (each : ∀ c ∈ digits, IsNumeral c) (point : Int) :
    Decimal.IsNumeric (layout.digitsText digits point) := by
  have dot : Decimal.IsNumeric "." := by simp [Decimal.IsNumeric, IsNumeral]
  have first (count : Nat) : Decimal.IsNumeric (String.ofList (digits.take count)) :=
    isNumeric_ofList fun c member => each c (List.mem_of_mem_take member)
  have rest (count : Nat) : Decimal.IsNumeric (String.ofList (digits.drop count)) :=
    isNumeric_ofList fun c member => each c (List.mem_of_mem_drop member)
  unfold digitsText
  dsimp only
  split
  · split
    · refine .append (by simp [Decimal.IsNumeric, IsNumeral, Source.Number.mayExtendWord]) ?_
      exact isNumeric_ofList (List.forall_mem_append.mpr ⟨isNumeral_replicate_zero _, each⟩)
    · split
      · refine .append (isNumeric_ofList ?_) numeric.wholeMark
        exact List.forall_mem_append.mpr ⟨each, isNumeral_replicate_zero _⟩
      · exact .append (.append (first _) dot) (rest _)
  · refine .append (.append (.append (first _) ?_) ?_) (isNumeric_exponentText layout _)
    · split
      · simp [Decimal.IsNumeric]
      · exact .append dot (rest _)
    · simp [Decimal.IsNumeric, IsNumeral, Source.Number.mayExtendWord]

theorem isNumeric_magnitudeText (numeric : layout.IsNumeric) (number : Binary64) :
    Decimal.IsNumeric (layout.magnitudeText number) := by
  unfold magnitudeText
  split
  · exact numeric.notANumber
  · exact numeric.infinity
  · split
    · exact isNumeric_digitsText numeric (by simp [isNumeral_of_isDigit]) _
    · refine isNumeric_digitsText numeric (fun c member => ?_) _
      rw [trimZeros, List.mem_reverse] at member
      exact isNumeral_toDigits _ c (List.mem_reverse.mp ((List.dropWhile_sublist _).mem member))

theorem isNumeric_text (numeric : layout.IsNumeric) (number : Binary64) :
    Decimal.IsNumeric (layout.text number) := by
  refine .append ?_ (isNumeric_magnitudeText numeric number)
  split <;> simp [Decimal.IsNumeric, IsNumeral]

theorem isNumeric_signedText (numeric : layout.IsNumeric) (number : Binary64) :
    Decimal.IsNumeric (layout.signedText number) := by
  refine .append ?_ (isNumeric_magnitudeText numeric number)
  split <;> simp [Decimal.IsNumeric, IsNumeral]

theorem isNumeric_real : Layout.real.IsNumeric := by
  constructor <;> simp [Layout.real, Decimal.IsNumeric, IsNumeral, Source.Number.mayExtendWord]

theorem isNumeric_part : Layout.part.IsNumeric := by
  constructor <;>
    simp [Layout.part, Layout.real, Decimal.IsNumeric, IsNumeral, Source.Number.mayExtendWord]

end Layout

theorem isNumeric_j : IsNumeric "j" := by
  simp [IsNumeric, IsNumeral, Source.Number.mayExtendWord]

theorem isClosed_complexText [Release] (re im : Binary64) :
    IsClosed compositionStops (Binary64.complexText re im) := by
  unfold Binary64.complexText
  split
  · exact ((Layout.isNumeric_text Layout.isNumeric_part im).append isNumeric_j).continues.isClosed
  · have inner : IsNumeric (Layout.part.text re ++ Layout.part.signedText im ++ "j") :=
      ((Layout.isNumeric_text Layout.isNumeric_part re).append
        (Layout.isNumeric_signedText Layout.isNumeric_part im)).append isNumeric_j
    have bracketed : Continues compositionStops
        ("(" ++ (Layout.part.text re ++ Layout.part.signedText im ++ "j") ++ ")") :=
      areBrackets_round.continues (inner.continues.isClosed.mono (List.nil_subset _))
    have same : "(" ++ Layout.part.text re ++ Layout.part.signedText im ++ "j)" =
        "(" ++ (Layout.part.text re ++ Layout.part.signedText im ++ "j") ++ ")" := by
      simp only [String.append_assoc]
      rfl
    rw [same]
    exact bracketed.isClosed

end Decimal

/-! ## Constants and literals -/

theorem isNumeric_layout : Constant.layout.IsNumeric := by
  constructor <;> simp [Constant.layout, Decimal.Layout.real, Decimal.IsNumeric, Decimal.IsNumeral,
    Number.mayExtendWord]

theorem Source.Constant.isClosed_print [Release] {value : Constant} {text : String}
    (printed : value.print false = .ok text) : IsClosed compositionStops text := by
  cases value with
  | nothing | ellipsis =>
      cases printed
      exact ⟨_, rfl, .outside _⟩
  | bool value =>
      cases value <;> (cases printed; exact ⟨_, rfl, .outside _⟩)
  | int value =>
      unfold Constant.print at printed
      dsimp only at printed
      generalize written : Decimal.integerText? value = digits at printed
      cases digits with
      | none => cases printed
      | some digits =>
          cases printed
          exact (Decimal.isNumeric_integerText? written).continues.isClosed
  | real value =>
      cases printed
      exact (Decimal.Layout.isNumeric_text isNumeric_layout value).continues.isClosed
  | imaginary value =>
      cases printed
      have wholeless : Decimal.Layout.IsNumeric { Constant.layout with wholeMark := "" } :=
        { isNumeric_layout with wholeMark := by simp [Decimal.IsNumeric] }
      exact ((Decimal.Layout.isNumeric_text wholeless value).append
        Decimal.isNumeric_j).continues.isClosed
  | text value isMarked =>
      cases printed
      have settled : IsClosed compositionStops value.quoted :=
        (Text.isSettled_quoted value).isClosed
      cases isMarked with
      | false => simpa using settled
      | true =>
          have gap : IsGap compositionStops "u" := fun _ => rfl
          exact (gap.append settled).isClosed
  | bytes value =>
      cases printed
      exact Text.isClosed_quotedBytes rfl value

theorem Literal.isClosed_display? [Release] {literal : Literal} {text : String}
    (shown : literal.display? = some text) : IsClosed compositionStops text := by
  cases literal with
  | bool value => cases value <;> (cases shown; exact ⟨_, rfl, .outside _⟩)
  | int value => exact (Decimal.isNumeric_integerText? shown).continues.isClosed
  | real value =>
      cases shown
      exact (Decimal.Layout.isNumeric_text Decimal.Layout.isNumeric_real value).continues.isClosed
  | complex re im =>
      cases shown
      exact Decimal.isClosed_complexText re im
  | text value =>
      cases shown
      exact (Text.isSettled_quoted value).isClosed
  | bytes value =>
      cases shown
      exact Text.isClosed_quotedBytes rfl value

end Stringify
