import Mathlib.Algebra.Group.Nat.Defs
import Mathlib.Data.List.Basic
import Stringify.Source.Quotation
import Stringify.Text.Quoted

/-!
# Quoted texts read back

What stands between the quotes of a shown text is a literal for the text: every code point is
written as one character that stands for itself or as one escape, which reading takes back. So a
shown text tells which text it shows, and the same holds of bytes.
-/

namespace Stringify

open Source (Quotation)
open Source.Quotation (escape? escapeWidth? simpleEscape? unescape)

namespace Text

/-! ## Hexadecimal digits -/

theorem hexValue?_hexDigit : ∀ value < 16, hexValue? (hexDigit value) = some value := by
  decide

theorem length_hexDigits (width number : Nat) : (hexDigits width number).length = width := by
  induction width generalizing number with
  | zero => rfl
  | succ width ih => simp [hexDigits, ih]

theorem readDigits_append_singleton (value? : Char → Option Nat) (base : Nat) (digits : List Char)
    (last : Char) : readDigits value? base (digits ++ [last]) =
      (readDigits value? base digits).bind fun number => (value? last).map (number * base + ·) := by
  simp [readDigits]

/-- As many digits as are written hold the end of the number. -/
theorem readDigits_hexDigits (width number : Nat) :
    readDigits hexValue? 16 (hexDigits width number) = some (number % 16 ^ width) := by
  induction width generalizing number with
  | zero => simp [hexDigits, readDigits, Nat.mod_one]
  | succ width ih =>
      -- The last digit is what the others, as digits of the quotient, leave over.
      have last := hexValue?_hexDigit (number % 16) (Nat.mod_lt _ (by decide))
      rw [hexDigits, readDigits_append_singleton, ih, last, Option.bind_some, Option.map_some,
        Nat.pow_succ, Nat.mul_comm (16 ^ width), Nat.mod_mul]
      congr 1
      omega

/-! ## Escapes -/

variable {isBytes : Bool} {c mark quote : Char} {code width steps : Nat}

theorem escape?_of_simple (known : simpleEscape? c = some code) (rest : List Char) :
    escape? isBytes c rest = some ⟨[code], rest⟩ := by
  have inLine : (c == '\n') = false := by
    apply beq_false_of_ne
    rintro rfl
    cases known
  rw [escape?, inLine, known]
  rfl

theorem escape?_of_numbered (unnamed : simpleEscape? mark = none)
    (known : escapeWidth? isBytes mark = some width) (small : code < 16 ^ width)
    (rest : List Char) :
    escape? isBytes mark (hexDigits width code ++ rest) = some ⟨[code], rest⟩ := by
  have inLine : (mark == '\n') = false := by
    apply beq_false_of_ne
    rintro rfl
    cases known
  have taken : (hexDigits width code ++ rest).take width = hexDigits width code :=
    List.take_left' (length_hexDigits width code)
  have dropped : (hexDigits width code ++ rest).drop width = rest :=
    List.drop_left' (length_hexDigits width code)
  rw [escape?, inLine, unnamed, known]
  simp [taken, dropped, length_hexDigits, readDigits_hexDigits, Nat.mod_eq_of_lt small]

/-- Some characters are read in one step as a code. -/
def Writes (isBytes : Bool) (chars : List Char) (code : Nat) : Prop :=
  ∀ steps rest, unescape isBytes (steps + 1) (chars ++ rest) =
    (unescape isBytes steps rest).map (code :: ·)

theorem writes_bare (plain : c ≠ '\\') : Writes isBytes [c] c.toNat := by
  intro steps rest
  rw [List.singleton_append, unescape]
  · cases unescape isBytes steps rest <;> rfl
  · exact fun same _ => plain same
  · exact fun _ _ same _ => plain same

theorem writes_escape {chars : List Char}
    (found : ∀ rest, escape? isBytes c (chars ++ rest) = some ⟨[code], rest⟩) :
    Writes isBytes ('\\' :: c :: chars) code := by
  intro steps rest
  rw [List.cons_append, List.cons_append, unescape, found, Option.bind_eq_bind, Option.bind_some]
  cases unescape isBytes steps rest <;> rfl

theorem writes_simple (known : simpleEscape? c = some code) : Writes isBytes ['\\', c] code :=
  writes_escape (escape?_of_simple known)

theorem writes_numbered (unnamed : simpleEscape? mark = none)
    (known : escapeWidth? isBytes mark = some width) (small : code < 16 ^ width) :
    Writes isBytes ('\\' :: mark :: hexDigits width code) code :=
  writes_escape (escape?_of_numbered unnamed known small)

/-- Bytes have the shortest of the numbered escapes. -/
theorem writes_escapeCode (small : code < if isBytes then 0x100 else 0x110000) :
    Writes isBytes (escapeCode code) code := by
  unfold escapeCode
  split_ifs with backslash lineFeed carriageReturn tab
  · subst backslash
    exact writes_simple rfl
  · subst lineFeed
    exact writes_simple rfl
  · subst carriageReturn
    exact writes_simple rfl
  · subst tab
    exact writes_simple rfl
  · unfold numberedEscape
    split_ifs with short medium
    · exact writes_numbered rfl rfl short
    · cases isBytes with
      | true => exact absurd small short
      | false => exact writes_numbered rfl rfl medium
    · cases isBytes with
      | true => exact absurd small short
      | false => exact writes_numbered rfl rfl (Nat.lt_trans small (by decide))

/-! ## Between the quotes -/

theorem simpleEscape?_quoteFor (single double : Bool) :
    simpleEscape? (quoteFor single double) = some (quoteFor single double).toNat := by
  unfold quoteFor
  split <;> rfl

theorem toNat_of_toChar? {code : CodePoint} (found : code.toChar? = some c) :
    c.toNat = code.val := by
  rw [CodePoint.toChar?] at found
  by_cases valid : code.val.isValidChar
  · rw [dif_pos valid] at found
    cases found
    rfl
  · rw [dif_neg valid] at found
    cases found

theorem writes_quoteCode (known : simpleEscape? quote = some quote.toNat) (code : CodePoint) :
    Writes false (quoteCode quote code) code.val := by
  unfold quoteCode
  split
  · exact writes_escapeCode code.isLt
  · next c found =>
      rw [← toNat_of_toChar? found]
      split
      · next same =>
          subst same
          exact writes_simple known
      · split
        · rw [toNat_of_toChar? found]
          exact writes_escapeCode code.isLt
        · next plain =>
            refine writes_bare ?_
            rintro rfl
            simp at plain

theorem toNat_ofNat_byte (byte : UInt8) : (Char.ofNat byte.toNat).toNat = byte.toNat := by
  have small := byte.toNat_lt
  have valid : byte.toNat.isValidChar := .inl (by omega)
  rw [Char.ofNat, dif_pos valid]
  rfl

theorem writes_quoteByte (known : simpleEscape? quote = some quote.toNat) (byte : UInt8) :
    Writes true (quoteByte quote byte) byte.toNat := by
  unfold quoteByte
  dsimp only
  split
  · next same =>
      rw [same, ← toNat_ofNat_byte byte, same]
      exact writes_simple known
  · split
    · exact writes_escapeCode byte.toNat_lt
    · next plain =>
        have bare : Writes true [Char.ofNat byte.toNat] (Char.ofNat byte.toNat).toNat :=
          writes_bare fun same => by simp [same] at plain
        rwa [toNat_ofNat_byte] at bare

/-- Characters that are written in one step each are read in as many steps. -/
theorem unescape_flatMap {α : Type} {encode : α → List Char} {code : α → Nat}
    (each : ∀ item, Writes isBytes (encode item) (code item)) {items : List α}
    (enough : items.length ≤ steps) :
    unescape isBytes steps (items.flatMap encode) = some (items.map code) := by
  induction items generalizing steps with
  | nil => cases steps <;> rfl
  | cons item rest ih =>
      obtain ⟨steps, rfl⟩ : ∃ fewer, steps = fewer + 1 := ⟨steps - 1, by simp at enough; omega⟩
      rw [List.flatMap_cons, each item, ih (Nat.le_of_succ_le_succ enough)]
      rfl

theorem Writes.ne_nil {chars : List Char} (writes : Writes isBytes chars code) : chars ≠ [] := by
  rintro rfl
  have read := writes 0 []
  simp [unescape] at read

theorem length_le_flatMap {α : Type} {encode : α → List Char} (items : List α)
    (nonempty : ∀ item, encode item ≠ []) : items.length ≤ (items.flatMap encode).length := by
  induction items with
  | nil => exact Nat.le_refl _
  | cons item rest ih =>
      have positive := List.length_pos_iff.mpr (nonempty item)
      simp only [List.flatMap_cons, List.length_append, List.length_cons]
      omega

/-! ## Reading back -/

/-- The characters between the quotes are read back as the codes. -/
theorem unescape_quoted {α : Type} {encode : α → List Char} {code : α → Nat}
    (each : ∀ item, Writes isBytes (encode item) (code item)) (items : List α) :
    unescape isBytes (items.flatMap encode).length (items.flatMap encode) =
      some (items.map code) :=
  unescape_flatMap each (length_le_flatMap items fun item => (each item).ne_nil)

theorem mapM_ofNat?_map_val (text : Text) :
    (text.map Fin.val).mapM CodePoint.ofNat? = some text := by
  induction text with
  | nil => rfl
  | cons code rest ih => simp [CodePoint.ofNat?, ih]

/-- A shown text is a literal for the text. -/
theorem textOf?_quoted (text : Text) :
    Quotation.textOf? false (text.flatMap (quoteCode text.quote)) = some text := by
  have known : simpleEscape? text.quote = some text.quote.toNat := simpleEscape?_quoteFor _ _
  rw [Quotation.textOf?, if_neg Bool.false_ne_true, unescape_quoted (writes_quoteCode known),
    Option.bind_eq_bind, Option.bind_some, mapM_ofNat?_map_val]

theorem quoted_injective : Function.Injective quoted := by
  intro left right same
  have chars : left.quotedChars = right.quotedChars := String.ofList_injective same
  simp only [quotedChars, List.cons_append, List.cons.injEq] at chars
  obtain ⟨quotes, bodies⟩ := chars
  rw [quotes, List.append_left_inj] at bodies
  have read := textOf?_quoted left
  rw [quotes, bodies, textOf?_quoted right] at read
  exact (Option.some.inj read).symm

theorem quotedBytes_injective : Function.Injective quotedBytes := by
  intro left right same
  have chars : quotedBytesChars left = quotedBytesChars right := String.ofList_injective same
  simp only [quotedBytesChars, List.cons_append, List.cons.injEq, true_and] at chars
  obtain ⟨quotes, bodies⟩ := chars
  rw [quotes, List.append_left_inj] at bodies
  have writes :=
    writes_quoteByte (simpleEscape?_quoteFor (right.contains 0x27) (right.contains 0x22))
  have read := unescape_quoted writes left
  rw [bodies, unescape_quoted writes right] at read
  have injective : Function.Injective UInt8.toNat := fun _ _ => UInt8.toNat_inj.mp
  exact (injective.list_map (Option.some.inj read)).symm

end Text

end Stringify
