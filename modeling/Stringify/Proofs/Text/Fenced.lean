import Mathlib.Data.List.Basic
import Stringify.Text.Fenced

/-!
# What stands between quotes

A text ends where its quotes come again. Between them stand escapes and characters for themselves,
and of the quotes fewer in a row than end the text. A printed text chooses its quotes so that this
holds of it, and where several parts share their quotes, it holds of all of them in a row.
-/

namespace Stringify.Text

/-- Whether a character encloses texts. -/
def isQuote (c : Char) : Bool := c = '\x27' || c = '\x22'

/-- Between quotes of the given length stand characters that do not end the text. The counts are
those of the quotes in a row before the characters and at their end. -/
inductive Fills (quote : Char) (length : Nat) : Nat → List Char → Nat → Prop where
  | nil {count : Nat} : Fills quote length count [] count
  | quote {count left : Nat} {rest : List Char} (few : count + 1 < length)
      (later : Fills quote length (count + 1) rest left) :
      Fills quote length count (quote :: rest) left
  | bare {count left : Nat} {c : Char} {rest : List Char} (different : c ≠ quote)
      (plain : c ≠ '\\') (later : Fills quote length 0 rest left) :
      Fills quote length count (c :: rest) left
  | escape {count left : Nat} {letter : Char} {rest : List Char}
      (later : Fills quote length 0 rest left) :
      Fills quote length count ('\\' :: letter :: rest) left

variable {quote c : Char} {length count left last : Nat} {chars more : List Char}

namespace Fills

theorem append (former : Fills quote length count chars left)
    (latter : Fills quote length left more last) :
    Fills quote length count (chars ++ more) last := by
  induction former with
  | nil => exact latter
  | quote few _ ih => exact .quote few (ih latter)
  | bare different plain _ ih => exact .bare different plain (ih latter)
  | escape _ ih => exact .escape (ih latter)

/-- Quotes are left at the end only of what ends in one of them. -/
theorem getLast?_eq (fills : Fills quote length count chars left) (remain : left ≠ 0) :
    (List.replicate count quote ++ chars).getLast? = some quote := by
  induction fills with
  | nil => simp [List.getLast?_replicate, remain]
  | quote _ _ ih => simpa [List.replicate_succ'] using ih remain
  | bare _ _ _ ih =>
      have ends := ih remain
      simp only [List.replicate_zero, List.nil_append] at ends
      simp [List.getLast?_append, List.getLast?_cons, ends]
  | escape _ ih =>
      have ends := ih remain
      simp only [List.replicate_zero, List.nil_append] at ends
      simp [List.getLast?_append, List.getLast?_cons, ends]

/-- Behind another character it does not matter how many quotes stand before it. -/
theorem of_bare (different : c ≠ quote) (fills : Fills quote length count (c :: chars) left)
    (other : Nat) : Fills quote length other (c :: chars) left := by
  cases fills with
  | quote => exact absurd rfl different
  | bare _ plain later => exact .bare different plain later
  | escape later => exact .escape later

/-- Single quotes end a text wherever they come again. -/
theorem ne_of_single (isQuote : isQuote quote = true) (fills : Fills quote 1 0 (c :: chars) left) :
    c ≠ quote := by
  cases fills with
  | quote few => exact absurd few (by decide)
  | bare different => exact different
  | escape =>
      rintro rfl
      cases isQuote

end Fills

/-! ## Escapes -/

/-- Each backslash is the first character of an escape, which no quote belongs to. -/
inductive IsEscaped : List Char → Prop where
  | nil : IsEscaped []
  | bare {c : Char} {rest : List Char} (plain : c ≠ '\\') (later : IsEscaped rest) :
      IsEscaped (c :: rest)
  | escape {letter : Char} {rest : List Char} (unquoted : isQuote letter = false)
      (later : IsEscaped rest) : IsEscaped ('\\' :: letter :: rest)

namespace IsEscaped

theorem append (former : IsEscaped chars) (latter : IsEscaped more) :
    IsEscaped (chars ++ more) := by
  induction former with
  | nil => exact latter
  | bare plain _ ih => exact .bare plain ih
  | escape unquoted _ ih => exact .escape unquoted ih

theorem of_plain (plain : ∀ c ∈ chars, c ≠ '\\') : IsEscaped chars := by
  induction chars with
  | nil => exact .nil
  | cons c rest ih =>
      obtain ⟨here, later⟩ := List.forall_mem_cons.mp plain
      exact .bare here (ih later)

theorem flatMap {α : Type} {encode : α → List Char} (each : ∀ item, IsEscaped (encode item))
    (items : List α) : IsEscaped (items.flatMap encode) := by
  induction items with
  | nil => exact .nil
  | cons item rest ih => exact (each item).append ih

/-- A quote at the end is no part of an escape. -/
theorem of_append_quote (isQuote : isQuote quote = true) (escaped : IsEscaped (chars ++ [quote])) :
    IsEscaped chars := by
  generalize whole : chars ++ [quote] = all at escaped
  induction escaped generalizing chars with
  | nil => simp at whole
  | bare plain _ ih =>
      cases chars with
      | nil => exact .nil
      | cons c chars =>
          rw [List.cons_append, List.cons.injEq] at whole
          obtain ⟨rfl, same⟩ := whole
          exact .bare plain (ih same)
  | escape unquoted _ ih =>
      match chars, whole with
      | [], whole => simp at whole
      | [_], whole =>
          simp only [List.cons_append, List.nil_append, List.cons.injEq] at whole
          obtain ⟨rfl, rfl, -⟩ := whole
          rw [isQuote] at unquoted
          cases unquoted
      | _ :: _ :: chars, whole =>
          simp only [List.cons_append, List.cons.injEq] at whole
          obtain ⟨rfl, rfl, same⟩ := whole
          exact .escape unquoted (ih same)

/-- Escaped characters fill quotes that do not occur in them. -/
theorem fills (escaped : IsEscaped chars)
    (absent : ¬ List.replicate length quote <:+: List.replicate count quote ++ chars) :
    ∃ left, Fills quote length count chars left := by
  induction escaped generalizing count with
  | nil => exact ⟨count, .nil⟩
  | @bare c rest plain later ih =>
      by_cases same : c = quote
      · subst same
        have shifted : List.replicate count c ++ c :: rest =
            List.replicate (count + 1) c ++ rest := by
          simp [List.replicate_succ']
        rw [shifted] at absent
        obtain ⟨left, fills⟩ := ih absent
        refine ⟨left, .quote (Nat.lt_of_not_le fun many => absent ?_) fills⟩
        rw [← Nat.sub_add_cancel many, List.replicate_add]
        exact List.infix_append _ _ _
      · have shorter : ¬ List.replicate length quote <:+: List.replicate 0 quote ++ rest :=
          fun inside => absent (inside.trans ⟨List.replicate count quote ++ [c], [], by simp⟩)
        obtain ⟨left, fills⟩ := ih shorter
        exact ⟨left, .bare same plain fills⟩
  | @escape letter rest unquoted later ih =>
      have shorter : ¬ List.replicate length quote <:+: List.replicate 0 quote ++ rest :=
        fun inside => absent
          (inside.trans ⟨List.replicate count quote ++ ['\\', letter], [], by simp⟩)
      obtain ⟨left, fills⟩ := ih shorter
      exact ⟨left, .escape fills⟩

end IsEscaped

/-! ## Characters of a text -/

/-- A character that stands for itself between quotes of both kinds. -/
def IsBare (c : Char) : Prop := isQuote c = false ∧ c ≠ '\\'

instance : DecidablePred IsBare := fun _ => inferInstanceAs (Decidable (_ ∧ _))

theorem isBare_hexDigit : ∀ value < 16, IsBare (hexDigit value) := by decide

theorem isBare_hexDigits (width number : Nat) : ∀ c ∈ hexDigits width number, IsBare c := by
  induction width generalizing number with
  | zero => simp [hexDigits]
  | succ width ih =>
      rw [hexDigits, List.forall_mem_append]
      refine ⟨ih _, ?_⟩
      rw [List.forall_mem_singleton]
      exact isBare_hexDigit _ (Nat.mod_lt _ (by decide))

/-- An escape is a backslash, a letter or another backslash, and digits. -/
theorem exists_escapeCode (code : Nat) : ∃ letter rest, escapeCode code = '\\' :: letter :: rest ∧
    isQuote letter = false ∧ ∀ c ∈ rest, IsBare c := by
  unfold escapeCode numberedEscape
  split_ifs
  · exact ⟨_, _, rfl, rfl, by simp⟩
  · exact ⟨_, _, rfl, rfl, by simp⟩
  · exact ⟨_, _, rfl, rfl, by simp⟩
  · exact ⟨_, _, rfl, rfl, by simp⟩
  · exact ⟨_, _, rfl, rfl, isBare_hexDigits _ _⟩
  · exact ⟨_, _, rfl, rfl, isBare_hexDigits _ _⟩
  · exact ⟨_, _, rfl, rfl, isBare_hexDigits _ _⟩

theorem IsBare.ne (bare : IsBare c) (isQuote : isQuote quote = true) : c ≠ quote := by
  rintro rfl
  exact absurd isQuote (by simp [bare.1])

theorem fills_of_isBare (isQuote : isQuote quote = true) (bare : ∀ c ∈ chars, IsBare c) :
    Fills quote length 0 chars 0 := by
  induction chars with
  | nil => exact .nil
  | cons c rest ih =>
      obtain ⟨here, later⟩ := List.forall_mem_cons.mp bare
      exact .bare (here.ne isQuote) here.2 (ih later)

theorem fills_escapeCode (isQuote : isQuote quote = true) (code : Nat) :
    Fills quote length 0 (escapeCode code) 0 := by
  obtain ⟨letter, rest, same, -, bare⟩ := exists_escapeCode code
  rw [same]
  exact .escape (fills_of_isBare isQuote bare)

theorem fills_quoteCode (isQuote : isQuote quote = true) (code : CodePoint) :
    Fills quote length 0 (quoteCode quote code) 0 := by
  unfold quoteCode
  split
  · exact fills_escapeCode isQuote _
  · next c _ =>
      split_ifs with same special
      · exact .escape .nil
      · exact fills_escapeCode isQuote _
      · refine .bare same ?_ .nil
        rintro rfl
        simp at special

theorem fills_quoteByte (isQuote : isQuote quote = true) (byte : UInt8) :
    Fills quote length 0 (quoteByte quote byte) 0 := by
  unfold quoteByte
  dsimp only
  split_ifs with same special
  · exact .escape .nil
  · exact fills_escapeCode isQuote _
  · refine .bare same (fun backslash => ?_) .nil
    simp [backslash] at special

theorem Fills.flatMap {α : Type} {encode : α → List Char}
    (each : ∀ item, Fills quote length 0 (encode item) 0) (items : List α) :
    Fills quote length 0 (items.flatMap encode) 0 := by
  induction items with
  | nil => exact .nil
  | cons item rest ih => exact (each item).append ih

theorem isEscaped_escapeCode (code : Nat) : IsEscaped (escapeCode code) := by
  obtain ⟨letter, rest, same, unquoted, bare⟩ := exists_escapeCode code
  rw [same]
  exact .escape unquoted (.of_plain fun c member => (bare c member).2)

theorem isEscaped_fenceCode (keepBlanks : Bool) (code : CodePoint) :
    IsEscaped (fenceCode keepBlanks code) := by
  unfold fenceCode
  split
  · exact isEscaped_escapeCode _
  · next c _ =>
      split_ifs with kept special
      · refine .bare ?_ .nil
        rintro rfl
        simp at kept
      · exact isEscaped_escapeCode _
      · refine .bare ?_ .nil
        rintro rfl
        simp at special

theorem isQuote_quoteFor (single double : Bool) : isQuote (quoteFor single double) = true := by
  unfold quoteFor
  split <;> rfl

/-! ## The choice of quotes -/

/-- Quotes are one or three of the same character. -/
structure AreQuotes (fence : List Char) (quote : Char) (length : Nat) : Prop where
  eq : fence = List.replicate length quote
  isQuote : isQuote quote = true
  lengths : length = 1 ∨ length = 3

/-- Some characters are quotes. -/
def IsFence (fence : List Char) : Prop := ∃ quote length, AreQuotes fence quote length

theorem isFence_of_mem_fences : ∀ fence ∈ fences, IsFence fence := by
  simp only [fences, List.forall_mem_cons]
  exact ⟨⟨'\x27', 1, rfl, rfl, .inl rfl⟩, ⟨'\x22', 1, rfl, rfl, .inl rfl⟩,
    ⟨'\x22', 3, rfl, rfl, .inr rfl⟩, ⟨'\x27', 3, rfl, rfl, .inr rfl⟩, by simp⟩

namespace AreQuotes

variable {fence : List Char}

theorem head?_eq (quotes : AreQuotes fence quote length) : fence.head? = some quote := by
  rcases quotes.lengths with rfl | rfl <;> simp [quotes.eq]

/-- Another character is no quote of theirs. -/
theorem ne (quotes : AreQuotes fence quote length) (other : Text.isQuote c = false) :
    c ≠ quote := by
  rintro rfl
  exact absurd quotes.isQuote (by simp [other])

theorem eq_of_mem (quotes : AreQuotes fence quote length) (member : c ∈ fence) : c = quote :=
  List.eq_of_mem_replicate (quotes.eq ▸ member)

end AreQuotes

theorem occursIn_iff {wanted : List Char} : occursIn wanted chars = true ↔ wanted <:+: chars := by
  induction chars with
  | nil => simp [occursIn]
  | cons c rest ih =>
      rw [occursIn, Bool.or_eq_true, List.isPrefixOf_iff_prefix, ih, List.infix_cons_iff]

/-- The quotes around a text are allowed, and do not occur in it. -/
theorem of_mem_fencesAround {allowed : List (List Char)} {body fence : List Char}
    (member : fence ∈ fencesAround allowed body) : fence ∈ allowed ∧ ¬ fence <:+: body := by
  have free : fence ∈ (if body.contains '\n' then allowed.filter (·.length == 3)
      else allowed).filter (!occursIn · body) := by
    unfold fencesAround at member
    dsimp only at member
    split at member
    · exact member
    · rcases List.mem_append.mp member with kept | kept <;> exact List.mem_of_mem_filter kept
  obtain ⟨spanning, absent⟩ := List.mem_filter.mp free
  refine ⟨?_, fun inside => ?_⟩
  · split at spanning
    · exact List.mem_of_mem_filter spanning
    · exact spanning
  · rw [occursIn_iff.mpr inside] at absent
    cases absent

section Fence

variable {allowed quotes : List (List Char)} {fence body : List Char} {text : Text}
variable {keepBlanks : Bool}

/-- The quotes of one kind around a text that is quoted in the plain way. -/
theorem exists_plainFence (each : ∀ fence ∈ allowed, IsFence fence)
    (isQuote : isQuote quote = true) :
    ∃ length, AreQuotes ((allowed.find? (·.contains quote)).getD [quote]) quote length := by
  cases found : allowed.find? (·.contains quote) with
  | none => exact ⟨1, rfl, isQuote, .inl rfl⟩
  | some fence =>
      obtain ⟨_, length, quotes⟩ := each fence (List.mem_of_find?_eq_some found)
      obtain rfl := quotes.eq_of_mem (by simpa using List.find?_some found)
      exact ⟨length, quotes⟩

/-- How a text is written, and which quotes it leaves: in the plain way, or with few escapes, of
which the last may be that of a quote at the end. -/
inductive IsFenced (keepBlanks : Bool) (allowed : List (List Char)) (text : Text) :
    List Char → List (List Char) → Prop where
  | plain {length : Nat} {fence : List Char} (chosen : AreQuotes fence text.quote length) :
      IsFenced keepBlanks allowed text (text.flatMap (quoteCode text.quote)) [fence]
  | clashing {length : Nat} {quote : Char} {init fence : List Char} {others : List (List Char)}
      (around : fencesAround allowed (init ++ [quote]) = fence :: others)
      (chosen : AreQuotes fence quote length)
      (written : text.flatMap (fenceCode keepBlanks) = init ++ [quote]) :
      IsFenced keepBlanks allowed text (init ++ ['\\', quote]) (fence :: others)
  | free {body fence : List Char} {others : List (List Char)}
      (around : fencesAround allowed body = fence :: others)
      (free : body = [] ∨ fence.head? ≠ body.getLast?)
      (written : text.flatMap (fenceCode keepBlanks) = body) :
      IsFenced keepBlanks allowed text body (fence :: others)

theorem isFenced_fence (keepBlanks : Bool) (each : ∀ fence ∈ allowed, IsFence fence) (text : Text) :
    IsFenced keepBlanks allowed text (Text.fence keepBlanks allowed text).1
      (Text.fence keepBlanks allowed text).2 := by
  unfold Text.fence
  dsimp only
  split
  · obtain ⟨length, chosen⟩ := exists_plainFence each (isQuote_quoteFor _ _)
    exact .plain chosen
  · next first others around =>
      split_ifs with clash
      · rw [Bool.and_eq_true, clashes, beq_iff_eq] at clash
        have allowedFirst := (of_mem_fencesAround (around ▸ List.mem_cons_self (l := others))).1
        obtain ⟨quote, length, ofFirst⟩ := each first allowedFirst
        obtain ⟨init, written⟩ := List.getLast?_eq_some_iff.mp (clash.2.symm.trans ofFirst.head?_eq)
        rw [written] at around
        simpa [written] using IsFenced.clashing around ofFirst written
      · refine .free around ?_ rfl
        rw [Bool.and_eq_true, clashes, beq_iff_eq, Bool.not_eq_true', List.isEmpty_eq_false_iff]
          at clash
        exact (Decidable.not_and_iff_not_or_not.mp clash).imp_left not_not.mp

namespace IsFenced

/-- A text leaves some quotes that can enclose it. -/
theorem isFence (fenced : IsFenced keepBlanks allowed text body quotes)
    (each : ∀ fence ∈ allowed, IsFence fence) : quotes ≠ [] ∧ ∀ fence ∈ quotes, IsFence fence := by
  cases fenced with
  | plain chosen => exact ⟨by simp, List.forall_mem_singleton.mpr ⟨_, _, chosen⟩⟩
  | clashing around | free around =>
      exact ⟨List.cons_ne_nil _ _, fun fence member =>
        each fence (of_mem_fencesAround (around ▸ member)).1⟩

/-- Where a release falls back, a text leaves none but allowed quotes. -/
theorem subset (fenced : IsFenced keepBlanks allowed text body quotes)
    (kept : quotes.any allowed.contains = true) : quotes ⊆ allowed := by
  cases fenced with
  | plain => simpa using kept
  | clashing around | free around =>
      exact fun fence member => (of_mem_fencesAround (around ▸ member)).1

/-- What a text is written as fills each of the quotes that it leaves. At its end stand only quotes
that come later in the order of preference. -/
theorem fills (fenced : IsFenced keepBlanks allowed text body quotes) (member : fence ∈ quotes)
    (chosen : AreQuotes fence quote length) :
    ∃ left, Fills quote length 0 body left ∧ (left ≠ 0 → quotes.head? ≠ some fence) := by
  have escaped : IsEscaped (text.flatMap (fenceCode keepBlanks)) :=
    .flatMap (isEscaped_fenceCode keepBlanks) text
  cases fenced with
  | plain ofText =>
      obtain rfl := List.mem_singleton.mp member
      obtain rfl := Option.some.inj (chosen.head?_eq.symm.trans ofText.head?_eq)
      exact ⟨0, Fills.flatMap (fills_quoteCode chosen.isQuote) text, by simp⟩
  | @clashing _ last init _ _ around ofFirst written =>
      -- The last character is escaped, so the quotes have to fill only what stands before it.
      rw [written] at escaped
      obtain ⟨-, absent⟩ := of_mem_fencesAround (around ▸ member)
      rw [chosen.eq] at absent
      obtain ⟨_, fills⟩ : ∃ left, Fills quote length 0 init left :=
        (escaped.of_append_quote ofFirst.isQuote).fills fun inside =>
          absent (inside.trans (List.prefix_append _ _).isInfix)
      exact ⟨0, fills.append (.escape .nil), by simp⟩
  | free around free written =>
      rw [written] at escaped
      obtain ⟨-, absent⟩ := of_mem_fencesAround (around ▸ member)
      rw [chosen.eq] at absent
      obtain ⟨left, fills⟩ : ∃ left, Fills quote length 0 body left := escaped.fills absent
      refine ⟨left, fills, fun remain head => ?_⟩
      obtain rfl := Option.some.inj head
      have ends := fills.getLast?_eq remain
      rw [List.replicate_zero, List.nil_append] at ends
      rcases free with rfl | free
      · cases ends
      · exact free (chosen.head?_eq.trans ends.symm)

end IsFenced

end Fence

/-! ## Parts between common quotes -/

/-- A text in braces. -/
def IsBraced (text : Text) : Prop :=
  ∃ inner : Text, text = CodePoint.ofChar '\x7b' :: inner ++ [CodePoint.ofChar '\x7d']

/-- Of two parts side by side one is in braces. -/
def Alternates (parts : List (Text × Bool)) : Prop :=
  parts.IsChain fun former latter => IsBraced former.1 ∨ IsBraced latter.1

section Parts

variable {allowed quotes final : List (List Char)} {fence body : List Char} {text : Text}
variable {parts : List (Text × Bool)} {keepBlanks : Bool}

theorem IsBraced.exists_flatMap {encode : CodePoint → List Char}
    (opening : encode (CodePoint.ofChar '\x7b') = ['\x7b'])
    (closing : encode (CodePoint.ofChar '\x7d') = ['\x7d']) (braced : IsBraced text) :
    ∃ inner, text.flatMap encode = '\x7b' :: inner ++ ['\x7d'] := by
  obtain ⟨inner, rfl⟩ := braced
  exact ⟨inner.flatMap encode, by simp [opening, closing]⟩

/-- A text in braces is written in braces. -/
theorem IsFenced.exists_of_isBraced (fenced : IsFenced keepBlanks allowed text body quotes)
    (braced : IsBraced text) : ∃ inner, body = '\x7b' :: inner ++ ['\x7d'] := by
  have bare : ∃ inner, text.flatMap (fenceCode keepBlanks) = '\x7b' :: inner ++ ['\x7d'] := by
    cases keepBlanks <;> exact braced.exists_flatMap (by decide) (by decide)
  cases fenced with
  | plain chosen =>
      have isQuote := chosen.isQuote
      simp only [Text.isQuote, Bool.or_eq_true, decide_eq_true_eq] at isQuote
      rcases isQuote with quote | quote <;>
        exact quote ▸ braced.exists_flatMap (by decide) (by decide)
  | clashing _ chosen written =>
      obtain ⟨inner, closed⟩ := bare
      obtain ⟨-, last⟩ := List.append_inj' (written.symm.trans closed) rfl
      exact absurd (List.singleton_inj.mp last).symm (chosen.ne (by decide))
  | free _ _ written => exact written ▸ bare

variable [Release]

/-- What several parts make of the first of them and of the others. -/
theorem exists_of_fenceParts? (each : ∀ fence ∈ allowed, IsFence fence)
    (found : fenceParts? allowed ((text, keepBlanks) :: parts) = some (body, final)) :
    ∃ front others quotes, IsFenced keepBlanks allowed text front quotes ∧
      fenceParts? quotes parts = some (others, final) ∧ body = front ++ others ∧
      (Release.fallsBack = true → quotes ⊆ allowed) := by
  have fenced := isFenced_fence keepBlanks each text
  rw [fenceParts?] at found
  split at found
  next front quotes written =>
  rw [written] at fenced
  split_ifs at found with stuck
  obtain ⟨⟨others, _⟩, later, same⟩ := Option.map_eq_some_iff.mp found
  cases same
  refine ⟨front, others, quotes, fenced, later, rfl, fun fallsBack => fenced.subset ?_⟩
  simpa [fallsBack] using stuck

theorem isFence_fenceParts? (nonempty : allowed ≠ []) (each : ∀ fence ∈ allowed, IsFence fence)
    (found : fenceParts? allowed parts = some (body, final)) :
    final ≠ [] ∧ ∀ fence ∈ final, IsFence fence := by
  induction parts generalizing allowed body with
  | nil =>
      cases found
      exact ⟨nonempty, each⟩
  | cons part rest ih =>
      obtain ⟨front, others, quotes, fenced, later, -⟩ := exists_of_fenceParts? each found
      obtain ⟨remain, eachLeft⟩ := fenced.isFence each
      exact ih remain eachLeft later

theorem fenceParts?_subset (fallsBack : Release.fallsBack = true)
    (each : ∀ fence ∈ allowed, IsFence fence)
    (found : fenceParts? allowed parts = some (body, final)) : final ⊆ allowed := by
  induction parts generalizing allowed body with
  | nil =>
      cases found
      exact fun _ member => member
  | cons part rest ih =>
      obtain ⟨front, others, quotes, fenced, later, -, subset⟩ := exists_of_fenceParts? each found
      exact List.Subset.trans (ih (fenced.isFence each).2 later) (subset fallsBack)

/-- Parts fill the quotes that they prefer among those that all of them leave. If quotes stand at
the end of a part, there is another one in braces behind it. -/
theorem fills_fenceParts? (fallsBack : Release.fallsBack = true)
    (each : ∀ fence ∈ allowed, IsFence fence) (alternates : Alternates parts)
    (found : fenceParts? allowed parts = some (body, final)) (head : final.head? = some fence)
    (chosen : AreQuotes fence quote length)
    (start : count ≠ 0 → ∃ part ∈ parts.head?, IsBraced part.1) :
    Fills quote length count body 0 := by
  induction parts generalizing allowed body count with
  | nil =>
      cases found
      obtain rfl : count = 0 := by
        by_contra behind
        simpa using start behind
      exact .nil
  | cons part rest ih =>
      obtain ⟨front, others, quotes, fenced, later, rfl, -⟩ := exists_of_fenceParts? each found
      obtain ⟨-, eachLeft⟩ := fenced.isFence each
      have member := fenceParts?_subset fallsBack eachLeft later (List.mem_of_mem_head? head)
      obtain ⟨left, fills, last⟩ := fenced.fills member chosen
      have whole : Fills quote length count front left := by
        by_cases behind : count = 0
        · exact behind ▸ fills
        · obtain ⟨inner, rfl⟩ := fenced.exists_of_isBraced (by simpa using start behind)
          exact fills.of_bare (chosen.ne (by decide)) count
      refine whole.append (ih eachLeft alternates.of_cons later fun remain => ?_)
      cases rest with
      | nil =>
          cases later
          exact absurd head (last remain)
      | cons second rest =>
          refine ⟨second, rfl, (List.isChain_cons_cons.mp alternates).1.resolve_left ?_⟩
          intro braced
          obtain ⟨inner, rfl⟩ := fenced.exists_of_isBraced braced
          have ends := fills.getLast?_eq remain
          rw [List.replicate_zero, List.nil_append, List.getLast?_concat] at ends
          exact chosen.ne (by decide) (Option.some.inj ends)

/-- Parts stand between quotes of which they have at most the first few. -/
theorem exists_fencedParts (parts : List (Text × Bool)) : ∃ fence body quote length,
    AreQuotes fence quote length ∧ (fencedParts parts).toList = fence ++ body ++ fence ∧
    (Release.fallsBack = true → Alternates parts → Fills quote length 0 body 0) := by
  cases found : fenceParts? fences parts with
  | none =>
      refine ⟨lastFence, parts.flatMap fun part => part.1.flatMap (quoteCode '\x27'), '\x27', 3,
        ⟨rfl, rfl, .inr rfl⟩, ?_, fun _ _ => ?_⟩
      · rw [fencedParts, found, String.toList_ofList]
      · have isQuote : isQuote '\x27' = true := rfl
        exact Fills.flatMap (fun part => Fills.flatMap (fills_quoteCode isQuote) part.1) parts
  | some written =>
      obtain ⟨body, final⟩ := written
      obtain ⟨nonempty, each⟩ := isFence_fenceParts? (by simp [fences]) isFence_of_mem_fences found
      obtain ⟨fence, others, rfl⟩ := List.exists_cons_of_ne_nil nonempty
      obtain ⟨quote, length, chosen⟩ := each fence List.mem_cons_self
      refine ⟨fence, body, quote, length, chosen, ?_, fun fallsBack alternates => ?_⟩
      · rw [fencedParts, found, String.toList_ofList]
        rfl
      · exact fills_fenceParts? fallsBack isFence_of_mem_fences alternates found rfl chosen
          (absurd rfl)

end Parts

end Stringify.Text
