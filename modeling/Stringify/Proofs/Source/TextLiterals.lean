import Stringify.Proofs.Source.Reading
import Stringify.Source.Expr.TextLiterals

/-!
# The length of text literals

Literals side by side are read from as many tokens, and each stands for no more characters than it
has between its quotes. So the text that they form together is brief.
-/

namespace Stringify.Source

open Stub (longestText)

/-! ## Escapes -/

namespace Quotation

variable {isRaw isBytes : Bool} {c : Char} {chars rest : List Char} {escape : Escape}

theorem namedEscape?_length_le (found : namedEscape? rest = some escape) :
    escape.codes.length ≤ 1 ∧ escape.rest.length ≤ rest.length := by
  unfold namedEscape? at found
  split at found
  · next rest =>
      dsimp only at found
      split at found
      · next last later left =>
          rcases Option.map_eq_some_iff.mp found with ⟨code, _, rfl⟩
          have shorter := congrArg List.length left
          simp only [List.length_drop, List.length_cons] at shorter
          simp only [List.length_cons, List.length_nil]
          omega
      · cases found
  · cases found

/-- An escape stands for one code at most. -/
theorem escape?_length_le (found : escape? isBytes c rest = some escape) :
    escape.codes.length ≤ 1 ∧ escape.rest.length ≤ rest.length + 1 := by
  unfold escape? at found
  split at found
  · cases found
    simp
  · split at found
    · cases found
      simp
    · split at found
      · dsimp only at found
        split at found
        · cases found
        · rcases Option.bind_eq_some_iff.mp found with ⟨code, _, equal⟩
          cases equal
          simp
          omega
      · split at found
        · rcases Option.bind_eq_some_iff.mp found with ⟨code, _, equal⟩
          cases equal
          simp
        · split at found
          · have bound := namedEscape?_length_le found
            omega
          · cases found
            simp

theorem unescape_length_le {steps : Nat} {codes : List Nat}
    (found : unescape isBytes steps chars = some codes) : codes.length ≤ chars.length := by
  induction steps, chars using unescape.induct generalizing codes with
  | case1 chars =>
      rw [unescape] at found
      cases found
      exact Nat.zero_le _
  | case2 =>
      cases found
      exact Nat.le_refl _
  | case3 =>
      cases found
      exact Nat.le_refl _
  | case4 steps c rest ih =>
      rw [unescape] at found
      rcases Option.bind_eq_some_iff.mp found with ⟨escape, opened, found⟩
      rcases Option.bind_eq_some_iff.mp found with ⟨others, inner, equal⟩
      cases equal
      have bound := escape?_length_le opened
      have later := ih escape inner
      simp only [List.length_append, List.length_cons]
      omega
  | case5 steps c rest noMark noEscape ih =>
      rw [unescape] at found
      · rcases Option.bind_eq_some_iff.mp found with ⟨others, inner, equal⟩
        cases equal
        exact Nat.succ_le_succ (ih inner)
      · exact noMark
      · exact noEscape

end Quotation

theorem length_of_mapM {α β : Type} {image : α → Option β} {items : List α} {images : List β}
    (found : items.mapM image = some images) : images.length = items.length := by
  induction items generalizing images with
  | nil =>
      cases found
      rfl
  | cons item rest ih =>
      rw [List.mapM_cons] at found
      rcases Option.bind_eq_some_iff.mp found with ⟨first, _, found⟩
      rcases Option.bind_eq_some_iff.mp found with ⟨others, later, equal⟩
      cases equal
      simp [ih later]

/-- A literal stands for no more characters than it has between its quotes. -/
theorem Quotation.textOf?_length_le {isRaw : Bool} {chars : List Char} {value : Text}
    (found : textOf? isRaw chars = some value) : value.length ≤ chars.length := by
  unfold textOf? at found
  split at found
  · cases found
    simp
  · rcases Option.bind_eq_some_iff.mp found with ⟨codes, unescaped, mapped⟩
    rw [length_of_mapM mapped]
    exact unescape_length_le unescaped

/-! ## Pieces -/

/-- The number of characters in a piece that is a text. -/
def Piece.textLength : Piece → Nat
  | .text value => value.length
  | _ => 0

/-- The number of characters in the texts among some pieces. -/
def textLength (pieces : List Piece) : Nat :=
  (pieces.map Piece.textLength).sum

@[simp] theorem textLength_nil : textLength [] = 0 := rfl

@[simp] theorem textLength_cons (piece : Piece) (pieces : List Piece) :
    textLength (piece :: pieces) = piece.textLength + textLength pieces := rfl

@[simp] theorem textLength_append (first second : List Piece) :
    textLength (first ++ second) = textLength first + textLength second := by
  simp [textLength]

@[simp] theorem textLength_mergePieces (pieces : List Piece) :
    textLength (mergePieces pieces) = textLength pieces := by
  induction pieces with
  | nil => simp [mergePieces]
  | cons piece rest ih =>
      cases piece with
      | text value =>
          rw [mergePieces]
          split
          · next other later merged =>
              rw [merged, textLength_cons, Piece.textLength] at ih
              simp only [textLength_cons, Piece.textLength, List.length_append, ← ih]
              omega
          · split
            · next empty => simp [ih, Piece.textLength, List.isEmpty_iff.mp empty]
            · simp [ih]
      | field => simp [mergePieces, ih]
      | laidOut => simp [mergePieces, ih]

/-! ## Literals side by side -/

/-- The room that several literals take up. -/
def roomOf (literals : List (Nat × Quotation)) : Nat :=
  (literals.map fun literal => literal.2.body.length + 2).sum

/-- The number of characters between the quotes of several literals. -/
def bodyLength (literals : List (Nat × Quotation)) : Nat :=
  (literals.map fun literal => literal.2.body.length).sum

theorem bodyLength_le (literals : List (Nat × Quotation)) :
    bodyLength literals ≤ roomOf literals - 2 := by
  have more : ∀ literals, bodyLength literals ≤ roomOf literals := by
    intro literals
    induction literals with
    | nil => exact Nat.le_refl _
    | cons literal rest ih =>
        simp only [bodyLength, roomOf, List.map_cons, List.sum_cons] at ih ⊢
        omega
  cases literals with
  | nil => exact Nat.zero_le _
  | cons literal rest =>
      have later := more rest
      simp only [bodyLength, roomOf, List.map_cons, List.sum_cons] at later ⊢
      omega

/-! ## Readers that take room -/

variable {stream : TokenStream}

/-- The room that the tokens from a place on take up. -/
def TokenStream.roomFrom (stream : TokenStream) (place : Nat) : Nat :=
  room (stream.tokens.toList.drop place)

theorem TokenStream.roomFrom_le (stream : TokenStream) (place : Nat) :
    stream.roomFrom place ≤ room stream.tokens.toList := by
  have split := congrArg room (List.take_append_drop place stream.tokens.toList)
  rw [room_append] at split
  exact Nat.le_of_add_left_le (Nat.le_of_eq split)

theorem TokenStream.roomFrom_eq {token : Token} {place : Nat}
    (found : stream.tokens[place]? = some token) :
    stream.roomFrom place = token.lexeme.room + stream.roomFrom (place + 1) := by
  rw [← Array.getElem?_toList] at found
  rcases List.getElem?_eq_some_iff.mp found with ⟨inside, rfl⟩
  rw [roomFrom, List.drop_eq_getElem_cons inside, room_cons, roomFrom]

namespace Reading

variable {α β : Type} {reader first second : Reading α} {next : α → Reading β}
variable {cost : α → Nat} {price : β → Nat}

/-- A value that is read is taken out of the room from a place on. -/
def Spent (stream : TokenStream) (cost : α → Nat) (progress : Progress) :
    EStateM.Result Failure Progress α → Prop
  | .ok value later =>
    cost value + stream.roomFrom later.place ≤ stream.roomFrom progress.place
  | .error _ _ => True

/-- A reader takes what it reads out of the room from its place on. -/
def Spends (stream : TokenStream) (reader : Reading α) (cost : α → Nat) : Prop :=
  ∀ progress, Spent stream cost progress (reader ⟨stream, false⟩ progress)

/-- What is taken out of the room is no more than there is. -/
theorem Spends.reads [keeps : Keeps stream reader] (spends : Spends stream reader cost) :
    Reads stream reader fun _ _ value => cost value ≤ room stream.tokens.toList := by
  intro start progress here read
  have ends := keeps.reads start progress here read
  have spent := spends progress
  cases ran : reader ⟨stream, false⟩ progress with
  | error failure later =>
      rw [ran] at ends
      exact ends
  | ok value later =>
      rw [ran] at ends spent
      exact ⟨ends.1, Nat.le_trans (Nat.le_of_add_right_le spent) (stream.roomFrom_le _), ends.2.2⟩

theorem Spends.pure {value : α} (free : cost value = 0) :
    Spends stream (pure value : Reading α) cost := by
  intro progress
  exact Nat.le_of_eq (by rw [free, Nat.zero_add])

/-- What is read in the end costs what is read first and what is read then. -/
theorem Spends.bind (spends : Spends stream reader cost)
    (rest : ∀ value, Spends stream (next value) fun other => price other - cost value) :
    Spends stream (reader >>= next) price := by
  intro progress
  have spent := spends progress
  rw [run_bind]
  cases ran : reader ⟨stream, false⟩ progress with
  | error failure later => trivial
  | ok value later =>
      rw [ran] at spent
      have spentToo := rest value later
      dsimp only
      cases ranToo : next value ⟨stream, false⟩ later with
      | error failure last => trivial
      | ok other last =>
          rw [ranToo] at spentToo
          unfold Spent at spent spentToo ⊢
          dsimp only at spent spentToo ⊢
          omega

theorem Spends.orElse (former : Spends stream first cost) (latter : Spends stream second cost) :
    Spends stream (Reading.orElse first second) cost := by
  intro progress
  have spent := former progress
  unfold Reading.orElse
  cases ran : first ⟨stream, false⟩ progress with
  | ok value later =>
      rw [ran] at spent
      exact spent
  | error failure later =>
      cases failure with
      | refusal line => trivial
      | exhausted => trivial
      | mismatch => exact latter { later with place := progress.place }

theorem Spends.manyUpTo {price : List α → Nat} (spends : Spends stream reader cost)
    (nil : price [] = 0) (cons : ∀ first rest, price (first :: rest) = cost first + price rest)
    (steps : Nat) : Spends stream (Reading.manyUpTo reader steps) price := by
  induction steps with
  | zero => exact .pure nil
  | succ steps ih =>
      have perhaps : Spends stream (Reading.perhaps reader) fun found => (found.map cost).getD 0 :=
        .orElse (spends.bind fun value => .pure (by simp)) (.pure rfl)
      refine perhaps.bind fun found => ?_
      cases found with
      | none => exact .pure (by simp [nil])
      | some first => exact ih.bind fun rest => .pure (by simp [cons])

end Reading

namespace Nested

open Reading

variable {nested : Nested}

instance : Writes stream quotation where
  reads _ := .atToken fun token found => by
    split
    · next same =>
        exact (gives_advance_of_token found (by simp [Token.isLayout, same])).bind
          fun _ _ _ content => .pure content
    · exact .throw _

instance : Keeps stream quotation := Writes.reads.keeps

/-- A quotation is taken from its token. -/
theorem spends_quotation :
    Spends stream quotation fun literal => literal.2.body.length + 2 := by
  intro progress
  unfold quotation
  rw [run_bind, run_peek]
  cases found : stream.tokens[progress.place]? with
  | none => trivial
  | some token =>
      have taken := TokenStream.roomFrom_eq found
      dsimp only
      cases quoted : token.lexeme with
      | quotation literal =>
          rw [quoted] at taken
          exact Nat.le_of_eq taken.symm
      | _ => trivial

theorem spends_literals : Spends stream (oneOrMore quotation) roomOf := by
  refine spends_quotation.bind fun first => ?_
  have others : Spends stream (many quotation) roomOf :=
    fun progress => spends_quotation.manyUpTo rfl (fun _ _ => rfl) _ progress
  exact others.bind fun rest => .pure (by simp [roomOf])

instance (line : Nat) (source : List Char) : Keeps stream (nested.fieldExpression line source) := by
  constructor
  intro start
  unfold fieldExpression
  dsimp only
  split
  · exact .pure trivial
  · exact .throw _

mutual

theorem keeps_readPiece (line : Nat) (piece : RawPiece) :
    Keeps stream (nested.readPiece line piece) := by
  cases piece with
  | laidOut source lines conversion layout =>
      have ofLayout := keeps_readPieces line layout
      unfold readPiece
      infer_instance
  | _ =>
      unfold readPiece
      infer_instance

theorem keeps_readPieces (line : Nat) (pieces : List RawPiece) :
    Keeps stream (nested.readPieces line pieces) := by
  cases pieces with
  | nil =>
      unfold readPieces
      infer_instance
  | cons piece rest =>
      have ofPiece := keeps_readPiece line piece
      have ofRest := keeps_readPieces line rest
      unfold readPieces
      infer_instance

end

attribute [instance] keeps_readPieces

instance keeps_bytesOf (literals : List (Nat × Quotation)) : Keeps stream (bytesOf literals) := by
  induction literals with
  | nil =>
      unfold bytesOf
      infer_instance
  | cons literal rest ih =>
      have bytes : Keeps stream (match literal.2.bytes? with
          | some bytes => do return bytes ++ (← bytesOf rest)
          | none => refuseFurthest) := by
        split <;> infer_instance
      unfold bytesOf
      infer_instance

/-- Without fields, literals give texts that are no longer than they are. -/
theorem reads_piecesOf (literals : List (Nat × Quotation)) :
    Reads stream (nested.piecesOf literals) fun _ _ pieces =>
      literals.any (·.2.isFormatted) = false → textLength pieces ≤ bodyLength literals := by
  induction literals with
  | nil => exact fun _ => .pure fun _ => Nat.le_refl _
  | cons literal rest ih =>
      have followed (pieces : List Piece)
          (bound : literal.2.isFormatted = false → textLength pieces ≤ literal.2.body.length) :
          Reads stream (do return pieces ++ (← nested.piecesOf rest)) fun _ _ pieces =>
            (literal :: rest).any (·.2.isFormatted) = false →
              textLength pieces ≤ bodyLength (literal :: rest) := by
        refine fun start => (ih start).bind fun others _ _ boundRest => .pure fun plain => ?_
        rw [List.any_cons, Bool.or_eq_false_iff] at plain
        have former := bound plain.1
        have latter := boundRest plain.2
        rw [textLength_append]
        simp only [bodyLength, List.map_cons, List.sum_cons] at latter ⊢
        omega
      intro start
      unfold piecesOf
      dsimp only
      split
      · exact .refused
      · split
        · next formatted =>
            exact .after fun pieces place _ =>
              followed pieces (fun plain => by simp [plain] at formatted) place
        · split
          · next value found =>
              refine followed [.text value] (fun _ => ?_) start
              simpa [Piece.textLength] using Quotation.textOf?_length_le found
          · exact .refused

theorem reads_textLiteral : Reads stream nested.textLiteral (Expr.IsRead stream) := by
  intro start
  have opened : Reads stream (oneOrMore quotation) fun start stop literals =>
      stream.HasContent start stop ∧ roomOf literals ≤ room stream.tokens.toList :=
    fun start => (Writes.reads start).and (spends_literals.reads start)
  refine .atLine fun line lined => (opened start).bind fun literals place _ given => ?_
  have alone {stop : Nat} {value : Expr} (le : place ≤ stop) (alone : value.IsAlone line) :
      value.IsRead stream start stop := alone.isRead (lined.covers (given.1.upTo le))
  dsimp only
  split
  · exact .after fun bytes _ le => .pure (alone le ⟨rfl, rfl⟩)
  · refine (reads_piecesOf literals place).bind fun pieces stop le short => ?_
    split
    · exact .pure (alone le ⟨rfl, rfl⟩)
    · next plain =>
        split
        · next value merged =>
            have inside := bodyLength_le literals
            have whole := short (by simpa using plain)
            rw [← textLength_mergePieces, merged] at whole
            simp only [textLength_cons, textLength_nil, Piece.textLength] at whole
            refine .pure ⟨?_, fun other member => ?_⟩
            · show value.length ≤ _
              have enough := given.2
              omega
            · obtain rfl : other = line := by simpa [Expr.hintLines, Expr.line] using member
              exact lined.covers (given.1.upTo le)
        · exact .pure (alone le ⟨rfl, rfl⟩)

end Nested

end Stringify.Source
