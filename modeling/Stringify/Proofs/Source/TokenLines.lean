import Stringify.Proofs.Source.Scanning

/-!
# The lines of tokens

Tokens stand one behind the other in a source: no token starts in a line before that in which the
last one ends.
-/

namespace Stringify.Source

/-- Some tokens stand one behind the other in lines from one to another. -/
def Ascends (low high : Nat) : List Token → Prop
  | [] => low ≤ high
  | token :: rest =>
    low ≤ token.line ∧ token.line ≤ token.lastLine ∧ Ascends token.lastLine high rest

section

variable {low middle high more : Nat} {token : Token} {tokens later : List Token}

theorem Ascends.append (former : Ascends low middle tokens) (latter : Ascends middle high later) :
    Ascends low high (tokens ++ later) := by
  induction tokens generalizing low with
  | nil =>
      cases later with
      | nil => exact Nat.le_trans former latter
      | cons token rest => exact ⟨Nat.le_trans former latter.1, latter.2⟩
  | cons token rest ih => exact ⟨former.1, former.2.1, ih former.2.2⟩

theorem ascends_singleton (starts : low ≤ token.line) (ends : token.line ≤ token.lastLine)
    (last : token.lastLine ≤ high) : Ascends low high [token] := ⟨starts, ends, last⟩

theorem Ascends.line_le {place : Nat} (ascends : Ascends low high tokens)
    (found : tokens[place]? = some token) :
    low ≤ token.line ∧ token.line ≤ token.lastLine := by
  induction tokens generalizing low place with
  | nil => simp at found
  | cons first rest ih =>
      obtain ⟨starts, ends, ascends⟩ := ascends
      cases place with
      | zero =>
          obtain rfl : first = token := by simpa using found
          exact ⟨starts, ends⟩
      | succ place =>
          have bounds := ih ascends found
          omega

/-- Of two tokens, the former starts no later than the latter. -/
theorem Ascends.line_le_line {place further : Nat} {other : Token}
    (ascends : Ascends low high tokens) (found : tokens[place]? = some token)
    (foundToo : tokens[further]? = some other) (le : place ≤ further) :
    token.line ≤ other.line := by
  induction tokens generalizing low place further with
  | nil => simp at found
  | cons first rest ih =>
      cases further with
      | zero =>
          obtain rfl := Nat.le_zero.mp le
          obtain rfl : token = other := Option.some.inj (found.symm.trans foundToo)
          exact Nat.le_refl _
      | succ further =>
          obtain ⟨_, ends, ascends⟩ := ascends
          cases place with
          | zero =>
              obtain rfl : first = token := by simpa using found
              exact Nat.le_trans ends (ascends.line_le foundToo).1
          | succ place => exact ih ascends found foundToo (Nat.le_of_succ_le_succ le)

end

/-! ## Tokens that are found -/

/-- The tokens that are found stand one behind the other, between those before and after them. -/
def Found.AscendsFrom (low : Nat) : Found → Prop
  | .tokens found next => Ascends low next.floor found
  | .last found _ => ∃ high, Ascends low high found

variable {cursor : Cursor} {found : Found} {low available : Nat}

theorem ascends_replicate (count : Nat) {high : Nat} {token : Token} (starts : low ≤ token.line)
    (inLine : token.lastLine = token.line) (ends : token.line ≤ high) :
    Ascends low high (List.replicate count token) := by
  induction count generalizing low with
  | zero => exact Nat.le_trans starts ends
  | succ count ih => exact ⟨starts, Nat.le_of_eq inLine.symm, ih (Nat.le_of_eq inLine)⟩

theorem Finds.ascendsFrom (finds : Finds low available found) : found.AscendsFrom low := by
  cases finds with
  | ending ending => exact ⟨low, Nat.le_refl _⟩
  | @finish line _ starts => exact ⟨line, ascends_singleton starts (Nat.le_refl _) (Nat.le_refl _)⟩
  | passed starts shorter => exact starts
  | plain count isPlain starts ends shorter => exact ascends_replicate count starts rfl ends
  | word formed extending starts ends shorter =>
      exact ascends_singleton starts (Nat.le_refl _) ends
  | quotation starts rises ends shorter => exact ascends_singleton starts rises ends

/-! ## Whole sources -/

theorem ascends_scanFrom (steps : Nat) {done : Array Token}
    (ascends : Ascends low cursor.floor done.toList) :
    ∃ high, Ascends low high (scanFrom steps cursor done).tokens.toList := by
  refine scanFrom_induction (fun tokens next => Ascends low next.floor tokens)
    (fun tokens => ∃ high, Ascends low high tokens) ?_ ?_ steps ascends
  · intro tokens place found next ascends finds
    exact ascends.append finds.ascendsFrom
  · intro tokens place found ending ascends finds
    obtain ⟨high, further⟩ := finds.ascendsFrom
    exact ⟨high, ascends.append further⟩

/-- The tokens of a stream stand one behind the other. -/
class TokenStream.IsOrdered (stream : TokenStream) : Prop where
  ascends : ∃ low high, Ascends low high stream.tokens.toList

instance (line : Nat) (chars : List Char) : (tokensOf line chars).IsOrdered :=
  ⟨line - 1, ascends_scanFrom _ (Nat.le_refl _)⟩

namespace TokenStream

variable {stream : TokenStream} {place further : Nat} {token other : Token} [stream.IsOrdered]

/-- Lines never go back from one token to a later one. -/
theorem line_le_line (found : stream.tokens[place]? = some token)
    (foundToo : stream.tokens[further]? = some other) (le : place ≤ further) :
    token.line ≤ other.line := by
  obtain ⟨low, high, ascends⟩ := ‹stream.IsOrdered›.ascends
  rw [← Array.getElem?_toList] at found foundToo
  exact ascends.line_le_line found foundToo le

theorem line_le_lastLine (found : stream.tokens[place]? = some token) :
    token.line ≤ token.lastLine := by
  obtain ⟨low, high, ascends⟩ := ‹stream.IsOrdered›.ascends
  rw [← Array.getElem?_toList] at found
  exact (ascends.line_le found).2

end TokenStream

end Stringify.Source
