import Mathlib
import Stringify.Proofs.Source.Scanning

/-!
# The room that quotations take up

Each token is found in a stretch of the source of its own. So the quotations among the tokens of a
source, with a quote before and a quote after each, are together no longer than the source.
-/

namespace Stringify.Source

/-! ## The room of tokens -/

/-- The number of characters that a quotation takes up at least: those between the quotes, and the
quotes. -/
def Lexeme.room : Lexeme → Nat
  | .quotation literal => literal.body.length + 2
  | _ => 0

/-- The room that the quotations among some tokens take up. -/
def room (tokens : List Token) : Nat :=
  (tokens.map (·.lexeme.room)).sum

@[simp] theorem room_nil : room [] = 0 := rfl

@[simp] theorem room_cons (token : Token) (tokens : List Token) :
    room (token :: tokens) = token.lexeme.room + room tokens := rfl

@[simp] theorem room_append (first second : List Token) :
    room (first ++ second) = room first + room second := by
  simp [room]

theorem room_replicate (count : Nat) {token : Token} (none : token.lexeme.room = 0) :
    room (List.replicate count token) = 0 := by
  simp [room, none]

/-- The quotations that are found, and what is left of the source, fit into some room. -/
def Found.FitsIn (available : Nat) : Found → Prop
  | .tokens found next => room found + next.rest.length ≤ available
  | .last found _ => room found ≤ available

theorem Lexeme.room_of_isPlain {lexeme : Lexeme} (isPlain : lexeme.isPlain = true) :
    lexeme.room = 0 := by
  cases lexeme <;> first | rfl | cases isPlain

theorem Finds.fitsIn {low available : Nat} {found : Found} (finds : Finds low available found) :
    found.FitsIn available := by
  cases finds with
  | ending | finish => exact Nat.zero_le _
  | passed starts shorter => simpa [Found.FitsIn] using shorter
  | @plain lexeme line depth _ count isPlain starts ends shorter =>
      have none : (⟨lexeme, line, line, depth⟩ : Token).lexeme.room = 0 :=
        Lexeme.room_of_isPlain isPlain
      simpa [Found.FitsIn, room_replicate count none] using shorter
  | word formed extending starts ends shorter =>
      simpa [Found.FitsIn, Lexeme.room] using shorter
  | quotation starts rises ends shorter => simpa [Found.FitsIn, Lexeme.room] using shorter

/-! ## Whole sources -/

theorem room_scanFrom (steps : Nat) (cursor : Cursor) (done : Array Token) :
    room (scanFrom steps cursor done).tokens.toList ≤ room done.toList + cursor.rest.length := by
  -- The room that is taken up grows by no more than what is left shrinks.
  refine scanFrom_induction
    (fun tokens next => room tokens + next.rest.length ≤ room done.toList + cursor.rest.length)
    (fun tokens => room tokens ≤ room done.toList + cursor.rest.length) ?_ ?_ steps (Nat.le_refl _)
  · intro tokens place found next enough finds
    have fits : room found + next.rest.length ≤ place.rest.length := finds.fitsIn
    rw [room_append]
    omega
  · intro tokens place found ending enough finds
    have fits : room found ≤ place.rest.length := finds.fitsIn
    rw [room_append]
    omega

/-- The quotations among the tokens of a source take up no more room than there is. -/
theorem room_tokensOf (line : Nat) (chars : List Char) :
    room (tokensOf line chars).tokens.toList ≤ chars.length := by
  simpa [tokensOf] using room_scanFrom _ ⟨chars, line, [], [(0, 0)], true⟩ #[]

theorem normalizeLineEnds_length_le (chars : List Char) :
    (normalizeLineEnds chars).length ≤ chars.length := by
  induction chars using normalizeLineEnds.induct with
  | case1 => simp [normalizeLineEnds]
  | case2 rest ih =>
      rw [normalizeLineEnds]
      exact Nat.le_succ_of_le (Nat.succ_le_succ ih)
  | case3 rest alone ih =>
      rw [normalizeLineEnds]
      · exact Nat.succ_le_succ ih
      · exact alone
  | case4 c rest noPair noReturn ih =>
      rw [normalizeLineEnds]
      · exact Nat.succ_le_succ ih
      · exact noPair
      · exact noReturn

end Stringify.Source
