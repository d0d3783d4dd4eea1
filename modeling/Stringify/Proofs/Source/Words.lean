import Stringify.Proofs.Source.Scanning

/-!
# The words of a source

A word among the tokens of a source is made of letters, digits, underscores and characters beyond
the basic alphabet, at least one of them, and so is its normal form. So no name that is read has a
quote, a bracket or an operator in it.
-/

namespace Stringify.Source

/-- A text of characters that go on words, at least one. -/
structure IsWord (text : String) : Prop where
  nonempty : text.toList ≠ []
  chars : ∀ c ∈ text.toList, Number.mayExtendWord c = true

/-! ## Normal forms -/

namespace NormalForm

/-- Characters that go on words. -/
def GoOnWords (chars : List Char) : Prop :=
  ∀ c ∈ chars, Number.mayExtendWord c = true

variable {c first second : Char} {chars kept rest : List Char}

theorem mayExtendWord_of_wordChar? {code : Nat} (found : wordChar? code = some c) :
    Number.mayExtendWord c = true := by
  simp only [wordChar?] at found
  split at found
  · next goesOn =>
      obtain rfl := Option.some.inj found
      exact goesOn
  · cases found

theorem goOnWords_of_wordChar? {codes : List Nat} (found : codes.mapM wordChar? = some chars) :
    GoOnWords chars := by
  induction codes generalizing chars with
  | nil =>
      obtain rfl := Option.some.inj found
      exact List.forall_mem_nil _
  | cons code codes ih =>
      simp only [List.mapM_cons, Option.bind_eq_bind, Option.bind_eq_some_iff] at found
      obtain ⟨c, here, rest, later, same⟩ := found
      obtain rfl := Option.some.inj same
      exact List.forall_mem_cons.mpr ⟨mayExtendWord_of_wordChar? here, ih later⟩

/-- A character decomposes to at least one. -/
theorem decompose_ne_nil (c : Char) : decompose c ≠ [] := by
  unfold decompose
  split <;> simp

theorem goOnWords_decompose (goesOn : Number.mayExtendWord c = true) :
    GoOnWords (decompose c) := by
  unfold decompose
  split
  · next decomposed =>
      obtain ⟨codes, -, found⟩ := Option.bind_eq_some_iff.mp decomposed
      exact goOnWords_of_wordChar? found
  · exact List.forall_mem_singleton.mpr goesOn

/-- Marks are put in order without losing any. -/
theorem perm_insertMark (c : Char) (chars : List Char) :
    (insertMark c chars).Perm (c :: chars) := by
  induction chars with
  | nil => exact .refl _
  | cons other rest ih =>
      unfold insertMark
      split
      · exact (ih.cons other).trans (.swap c other rest)
      · exact .refl _

theorem perm_orderMarks (chars : List Char) : (orderMarks chars).Perm chars := by
  induction chars with
  | nil => exact .refl _
  | cons c rest ih => exact (perm_insertMark c _).trans (ih.cons c)

theorem mayExtendWord_of_compose? (found : compose? first second = some c) :
    Number.mayExtendWord c = true := by
  obtain ⟨code, -, found⟩ := Option.bind_eq_some_iff.mp found
  exact mayExtendWord_of_wordChar? found

/-- The next character is composed with, or starts anew, or is kept as a mark. -/
theorem composeFrom_cons (c : Char) (kept : List Char) (next : Char) (rest : List Char) :
    (∃ composed, compose? c next = some composed ∧
      composeFrom c kept (next :: rest) = composeFrom composed kept rest) ∨
    composeFrom c kept (next :: rest) = c :: kept.reverse ++ composeFrom next [] rest ∨
    composeFrom c kept (next :: rest) = composeFrom c (next :: kept) rest := by
  rw [composeFrom]
  split
  · next composed found =>
      split at found
      · exact .inl ⟨composed, found, rfl⟩
      · cases found
  · split
    · exact .inr (.inl rfl)
    · exact .inr (.inr rfl)

theorem composeFrom_ne_nil : composeFrom c kept rest ≠ [] := by
  induction rest generalizing c kept with
  | nil => simp [composeFrom]
  | cons next rest ih =>
      rcases composeFrom_cons c kept next rest with ⟨composed, -, same⟩ | same | same
      · exact same ▸ ih
      · simp [same]
      · exact same ▸ ih

theorem goOnWords_composeFrom (goesOn : Number.mayExtendWord c = true) (marks : GoOnWords kept)
    (others : GoOnWords rest) : GoOnWords (composeFrom c kept rest) := by
  have behind {c : Char} {kept : List Char} (goesOn : Number.mayExtendWord c = true)
      (marks : GoOnWords kept) : GoOnWords (c :: kept.reverse) :=
    List.forall_mem_cons.mpr ⟨goesOn, by simpa [GoOnWords] using marks⟩
  induction rest generalizing c kept with
  | nil => exact behind goesOn marks
  | cons next rest ih =>
      obtain ⟨ofNext, others⟩ := List.forall_mem_cons.mp others
      rcases composeFrom_cons c kept next rest with ⟨composed, found, same⟩ | same | same
      · exact same ▸ ih (mayExtendWord_of_compose? found) marks others
      · rw [same]
        exact List.forall_mem_append.mpr
          ⟨behind goesOn marks, ih ofNext (List.forall_mem_nil _) others⟩
      · exact same ▸ ih goesOn (List.forall_mem_cons.mpr ⟨ofNext, marks⟩) others

theorem compose_ne_nil (nonempty : chars ≠ []) : compose chars ≠ [] := by
  cases chars with
  | nil => exact absurd rfl nonempty
  | cons c rest => exact composeFrom_ne_nil

theorem goOnWords_compose (goOn : GoOnWords chars) : GoOnWords (compose chars) := by
  cases chars with
  | nil => exact goOn
  | cons c rest =>
      obtain ⟨goesOn, others⟩ := List.forall_mem_cons.mp goOn
      exact goOnWords_composeFrom goesOn (List.forall_mem_nil _) others

end NormalForm

open NormalForm in
/-- The normal form of a word is a word. -/
theorem IsWord.normalForm {text : String} (word : IsWord text) : IsWord (normalForm text) := by
  rw [Source.normalForm]
  split
  · exact word
  · have decomposed : GoOnWords (text.toList.flatMap decompose) := by
      intro c member
      obtain ⟨origin, inside, member⟩ := List.mem_flatMap.mp member
      exact goOnWords_decompose (word.chars origin inside) c member
    have ordered : GoOnWords (orderMarks (text.toList.flatMap decompose)) := by
      intro c member
      exact decomposed c ((perm_orderMarks _).mem_iff.mp member)
    constructor
    · rw [String.toList_ofList]
      apply compose_ne_nil
      intro empty
      obtain ⟨c, rest, same⟩ := List.exists_cons_of_ne_nil word.nonempty
      have none := (perm_orderMarks (text.toList.flatMap decompose)).symm.trans (.of_eq empty)
      rw [List.perm_nil, same, List.flatMap_cons, List.append_eq_nil_iff] at none
      exact decompose_ne_nil c none.1
    · rw [String.toList_ofList]
      exact goOnWords_compose ordered

/-! ## Tokens -/

/-- If a token is a word, it is well-formed. -/
def Token.IsSpelled (token : Token) : Prop :=
  ∀ text, token.lexeme = .word text → IsWord text

/-- The tokens that are found. -/
def Found.found : Found → List Token
  | .tokens found _ | .last found _ => found

/-- The words among the tokens that are found are well-formed. -/
def Found.IsSpelled (found : Found) : Prop :=
  ∀ token ∈ found.found, token.IsSpelled

variable {cursor : Cursor} {found : Found} {low available : Nat}

theorem isWord_of_isWellFormedWord {word : List Char} (formed : isWellFormedWord word = true)
    (extending : ∀ c ∈ word, Number.mayExtendWord c = true) : IsWord (String.ofList word) := by
  refine ⟨?_, by simpa using extending⟩
  cases word with
  | nil => cases formed
  | cons c rest => simp

theorem Finds.isSpelled (finds : Finds low available found) : found.IsSpelled := by
  intro token member text same
  cases finds with
  | ending | passed => cases member
  | finish starts =>
      obtain rfl := List.mem_singleton.mp member
      cases same
  | plain count isPlain starts ends shorter =>
      obtain rfl := (List.mem_replicate.mp member).2
      obtain rfl : _ = Lexeme.word text := same
      cases isPlain
  | word formed extending starts ends shorter =>
      obtain rfl := List.mem_singleton.mp member
      obtain rfl := Lexeme.word.inj same
      exact isWord_of_isWellFormedWord formed extending
  | quotation starts rises ends shorter =>
      obtain rfl := List.mem_singleton.mp member
      cases same

theorem isSpelled_of_mem_scanFrom (steps : Nat) {done : Array Token}
    (spelled : ∀ token ∈ done.toList, token.IsSpelled) :
    ∀ token ∈ (scanFrom steps cursor done).tokens.toList, token.IsSpelled := by
  refine scanFrom_induction (fun tokens _ => ∀ token ∈ tokens, token.IsSpelled)
    (fun tokens => ∀ token ∈ tokens, token.IsSpelled) ?_ ?_ steps spelled
  · intro tokens place found next spelled finds
    exact List.forall_mem_append.mpr ⟨spelled, finds.isSpelled⟩
  · intro tokens place found ending spelled finds
    exact List.forall_mem_append.mpr ⟨spelled, finds.isSpelled⟩

/-- The words of a stream of tokens are well-formed. -/
class TokenStream.IsSpelled (stream : TokenStream) : Prop where
  spelled : ∀ token ∈ stream.tokens, token.IsSpelled

instance (line : Nat) (chars : List Char) : (tokensOf line chars).IsSpelled :=
  ⟨fun token member => isSpelled_of_mem_scanFrom _ (by simp) token (Array.mem_def.mp member)⟩

/-- The identifiers among the tokens of a stream are well-formed. -/
theorem TokenStream.isWord_of_identifier? {stream : TokenStream} [stream.IsSpelled] {place : Nat}
    {token : Token} {text : String} (found : stream.tokens[place]? = some token)
    (named : token.identifier? = some text) : IsWord text := by
  unfold Token.identifier? at named
  split at named
  · next word same =>
      split at named
      · cases named
      · obtain rfl := Option.some.inj named
        exact (IsSpelled.spelled token (Array.mem_of_getElem? found) _ same).normalForm
  · cases named

end Stringify.Source
