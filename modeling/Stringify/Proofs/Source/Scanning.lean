import Mathlib.Data.List.Basic
import Stringify.Source.Lexer

/-!
# What a scan finds

At each place of a source the tokens end, some characters are passed over, or a few tokens are
found. `Finds` says once what these may be, with their lines and with what is left behind them, and
what holds of all tokens of a source follows from it.
-/

namespace Stringify.Source

/-! ## Numbers -/

namespace Number

variable {written number chars rest after : List Char}

theorem run_length_le {isDigit : Char → Bool}
    (found : run isDigit chars = some (number, after)) : after.length ≤ chars.length := by
  induction chars using run.induct isDigit generalizing number after with
  | case1 => simp_all [run]
  | case2 => simp_all [run]
  | case3 c rest digit ih =>
      rw [run, if_pos digit] at found
      rcases Option.bind_eq_some_iff.mp found with ⟨⟨digits, later⟩, inner, equal⟩
      cases equal
      have bound := ih inner
      simp only [List.length_cons]
      omega
  | case4 c rest noDigit => simp [run, noDigit] at found
  | case5 c rest noMark noPair digit ih =>
      rw [run, if_pos digit] at found
      · rcases Option.bind_eq_some_iff.mp found with ⟨⟨digits, later⟩, inner, equal⟩
        cases equal
        have bound := ih inner
        simp only [List.length_cons]
        omega
      · exact noMark
      · exact noPair
  | case6 c rest noMark noPair noDigit =>
      rw [run, if_neg noDigit] at found
      · cases found
        exact Nat.le_refl _
      · exact noMark
      · exact noPair

theorem finish_length_le (found : finish written chars = some (number, after)) :
    after.length ≤ chars.length := by
  unfold finish at found
  split at found
  · cases found
    exact Nat.le_refl _
  · cases found

theorem imaginary_length_le (found : imaginary written chars = some (number, after)) :
    after.length ≤ chars.length := by
  unfold imaginary at found
  split at found
  · exact Nat.le_succ_of_le (finish_length_le found)
  · exact Nat.le_succ_of_le (finish_length_le found)
  · exact finish_length_le found

/-- Digits may come first. -/
theorem length_le_of_run {isDigit : Char → Bool}
    {next : List Char × List Char → Option (List Char × List Char)}
    (found : (run isDigit chars).bind next = some (number, after))
    (bound : ∀ digits rest, next (digits, rest) = some (number, after) →
      after.length ≤ rest.length) : after.length ≤ chars.length := by
  rcases Option.bind_eq_some_iff.mp found with ⟨⟨digits, rest⟩, first, later⟩
  exact Nat.le_trans (bound digits rest later) (run_length_le first)

theorem exponent_length_le (found : exponent written chars = some (number, after)) :
    after.length ≤ chars.length := by
  unfold exponent at found
  split at found
  · split at found
    · split at found
      · split at found
        · split at found
          · split at found
            · have bound := length_le_of_run found fun _ _ => imaginary_length_le
              simp only [List.length_cons] at bound ⊢
              omega
            · cases found
          · cases found
        · split at found
          · have bound := length_le_of_run found fun _ _ => imaginary_length_le
            simp only [List.length_cons] at bound ⊢
            omega
          · exact finish_length_le found
      · exact finish_length_le found
    · exact imaginary_length_le found
  · exact imaginary_length_le found

theorem fraction_length_le (found : fraction written chars = some (number, after)) :
    after.length ≤ chars.length := by
  unfold fraction at found
  split at found
  · split at found
    · exact length_le_of_run found fun _ _ => exponent_length_le
    · exact exponent_length_le found
  · exact exponent_length_le found

theorem based_length_le {mark : Char} {isDigit : Char → Bool}
    (found : based mark isDigit chars = some (number, after)) : after.length ≤ chars.length := by
  have step (digits : List Char)
      (found : (if !(digits.head?.any isDigit) then none
        else (run isDigit digits).bind fun found =>
          if found.2.head?.any Char.isDigit then none
          else finish ('0' :: mark :: found.1) found.2) = some (number, after)) :
      after.length ≤ digits.length := by
    split at found
    · cases found
    · refine length_le_of_run found fun _ _ later => ?_
      dsimp only at later
      split at later
      · cases later
      · exact finish_length_le later
  -- An underscore may stand between the mark and the digits.
  have bound := step _ found
  split at bound
  · exact Nat.le_succ_of_le bound
  · exact bound

theorem decimal_length_le (found : decimal chars = some (number, after)) :
    after.length ≤ chars.length := by
  refine length_le_of_run found fun whole rest later => ?_
  dsimp only at later
  split at later
  · exact Nat.le_succ_of_le (fraction_length_le later)
  · split at later
    · exact exponent_length_le later
    · split at later
      · cases later
      · exact finish_length_le later
  · split at later
    · cases later
    · exact finish_length_le later

theorem scan_length_le (found : scan chars = some (number, after)) :
    after.length ≤ chars.length := by
  unfold scan at found
  split at found
  · exact Nat.le_succ_of_le (fraction_length_le found)
  · split_ifs at found
    · exact Nat.le_add_right_of_le (Nat.le_succ_of_le (based_length_le found))
    · exact Nat.le_add_right_of_le (Nat.le_succ_of_le (based_length_le found))
    · exact Nat.le_add_right_of_le (Nat.le_succ_of_le (based_length_le found))
    · exact decimal_length_le found
  · exact decimal_length_le found

end Number

variable {cursor : Cursor} {found : Found} {chars rest body after : List Char} {quote : Char}
variable {low available line : Nat} {lexeme : Lexeme}

/-! ## Findings -/

/-- The last line in which a token before a place can end. -/
def Cursor.floor (cursor : Cursor) : Nat :=
  if cursor.isFresh then cursor.line - 1 else cursor.line

theorem Cursor.floor_le (cursor : Cursor) : cursor.floor ≤ cursor.line := by
  unfold floor
  split
  · exact Nat.sub_le ..
  · exact Nat.le_refl _

/-- Whether a token is neither a word nor a quotation. -/
def Lexeme.isPlain : Lexeme → Bool
  | .word _ | .quotation _ => false
  | _ => true

/-- What may be found no earlier than in a line, with some number of characters left. -/
inductive Finds (low available : Nat) : Found → Prop where
  | ending (ending : Ending) : Finds low available (.last [] ending)
  | finish {line depth : Nat} (starts : low ≤ line) :
      Finds low available (.last [⟨.finish, line, line, depth⟩] .finished)
  | passed {next : Cursor} (starts : low ≤ next.floor) (shorter : next.rest.length ≤ available) :
      Finds low available (.tokens [] next)
  | plain {lexeme : Lexeme} {line depth : Nat} {next : Cursor} (count : Nat)
      (isPlain : lexeme.isPlain = true) (starts : low ≤ line) (ends : line ≤ next.floor)
      (shorter : next.rest.length ≤ available) :
      Finds low available (.tokens (List.replicate count ⟨lexeme, line, line, depth⟩) next)
  | word {chars : List Char} {line depth : Nat} {next : Cursor}
      (formed : isWellFormedWord chars = true)
      (extending : ∀ c ∈ chars, Number.mayExtendWord c = true) (starts : low ≤ line)
      (ends : line ≤ next.floor) (shorter : next.rest.length ≤ available) :
      Finds low available (.tokens [⟨.word (String.ofList chars), line, line, depth⟩] next)
  /-- A quotation takes up its body and two quotes at least. -/
  | quotation {quotation : Quotation} {first last depth : Nat} {next : Cursor}
      (starts : low ≤ first) (rises : first ≤ last) (ends : last ≤ next.floor)
      (shorter : quotation.body.length + 2 + next.rest.length ≤ available) :
      Finds low available (.tokens [⟨.quotation quotation, first, last, depth⟩] next)

theorem Finds.mono {more : Nat} (finds : Finds low available found) (enough : available ≤ more) :
    Finds low more found := by
  cases finds with
  | ending ending => exact .ending ending
  | finish starts => exact .finish starts
  | passed starts shorter => exact .passed starts (Nat.le_trans shorter enough)
  | plain count isPlain starts ends shorter =>
      exact .plain count isPlain starts ends (Nat.le_trans shorter enough)
  | word formed extending starts ends shorter =>
      exact .word formed extending starts ends (Nat.le_trans shorter enough)
  | quotation starts rises ends shorter =>
      exact .quotation starts rises ends (Nat.le_trans shorter enough)

/-- A token within a line, behind which that line goes on or the next one starts. -/
theorem finds_token {next : Cursor} (isPlain : lexeme.isPlain = true) (starts : low ≤ cursor.line)
    (ends : cursor.line ≤ next.floor) (shorter : next.rest.length ≤ available) :
    Finds low available (.tokens [cursor.token lexeme] next) :=
  .plain 1 isPlain starts ends shorter

/-! ## Tokens in a line -/

theorem quotationBody_length_lt {isTriple : Bool}
    (found : quotationBody quote isTriple chars = some (body, after)) :
    body.length + after.length < chars.length := by
  induction chars using quotationBody.induct quote isTriple generalizing body after with
  | case1 => cases found
  | case2 => cases found
  | case3 c rest ih =>
      rw [quotationBody] at found
      rcases Option.bind_eq_some_iff.mp found with ⟨⟨inner, later⟩, closed, equal⟩
      cases equal
      have bound := ih closed
      simp only [List.length_cons]
      omega
  | case4 c rest noMark noEscape closing =>
      rw [quotationBody, if_pos closing] at found
      · cases found
        have shorter : (if isTriple then rest.drop 2 else rest).length ≤ rest.length := by
          split
          · simp
          · exact Nat.le_refl _
        simp only [List.length_nil, List.length_cons]
        omega
      · exact noMark
      · exact noEscape
  | case5 c rest noMark noEscape noClosing lineEnd =>
      rw [quotationBody, if_neg noClosing, if_pos lineEnd] at found
      · cases found
      · exact noMark
      · exact noEscape
  | case6 c rest noMark noEscape noClosing noLineEnd ih =>
      rw [quotationBody, if_neg noClosing, if_neg noLineEnd] at found
      · rcases Option.bind_eq_some_iff.mp found with ⟨⟨inner, later⟩, closed, equal⟩
        cases equal
        have bound := ih closed
        simp only [List.length_cons]
        omega
      · exact noMark
      · exact noEscape

/-- The quote that opens a literal is in front of the given rest. -/
theorem finds_scanQuotation (marks : Quotation) (starts : low ≤ cursor.line)
    (left : rest.length < available) :
    Finds low available (scanQuotation cursor marks quote rest) := by
  unfold scanQuotation
  dsimp only
  split
  · exact .ending _
  · next body after closed =>
      have bound := quotationBody_length_lt closed
      have shorter : (if [quote, quote].isPrefixOf rest then rest.drop 2 else rest).length ≤
          rest.length := by
        split
        · simp
        · exact Nat.le_refl _
      refine .quotation starts (Nat.le_add_right ..) (Nat.le_refl _) ?_
      simp only [Cursor.after]
      omega

theorem finds_scanWord (starts : low ≤ cursor.line) (left : chars.length ≤ available) :
    Finds low available (scanWord cursor chars) := by
  have plain : Finds low available
      (if isWellFormedWord (chars.takeWhile Number.mayExtendWord) then
        .tokens [cursor.token (.word (String.ofList (chars.takeWhile Number.mayExtendWord)))]
          (cursor.after (chars.drop (chars.takeWhile Number.mayExtendWord).length))
      else cursor.malformed) := by
    split
    · next formed =>
        refine .word formed (List.all_eq_true.mp List.all_takeWhile) starts (Nat.le_refl _) ?_
        simp only [Cursor.after, List.length_drop]
        omega
    · exact .ending _
  unfold scanWord
  dsimp only
  split
  · next quote after behind =>
      have shorter : after.length < available := by
        have dropped := congrArg List.length behind
        simp only [List.length_drop, List.length_cons] at dropped
        omega
      split
      · split
        · exact finds_scanQuotation _ starts shorter
        · exact plain
      · exact plain
  · exact plain

theorem finds_scanSymbol (c : Char) (starts : low ≤ cursor.line) (left : rest.length < available) :
    Finds low available (scanSymbol cursor c rest) := by
  have single : Finds low available
      (.tokens [cursor.token (.symbol (String.singleton c))] (cursor.after rest)) :=
    finds_token rfl starts (Nat.le_refl _) (Nat.le_of_lt left)
  unfold scanSymbol
  dsimp only
  split
  · split
    · exact .ending _
    · exact finds_token rfl starts (Nat.le_refl _) (Nat.le_of_lt left)
  · split
    · split
      · split
        · exact finds_token rfl starts (Nat.le_refl _) (Nat.le_of_lt left)
        · exact .ending _
      · exact .ending _
    · split
      · refine finds_token rfl starts (Nat.le_refl _) ?_
        simp only [Cursor.after, List.length_drop, List.length_cons]
        omega
      · split
        · exact single
        · exact .ending _

/-- A number at a place, if there is one. -/
theorem finds_scanNumber (starts : low ≤ cursor.line) (left : chars.length ≤ available) :
    Finds low available (match Number.scan chars with
      | some (number, after) => .tokens [cursor.token (.number number)] (cursor.after after)
      | none => cursor.malformed) := by
  split
  · next number after found =>
      exact finds_token rfl starts (Nat.le_refl _) (Nat.le_trans (Number.scan_length_le found) left)
  · exact .ending _

theorem skipComment_length_le (chars : List Char) : (skipComment chars).length ≤ chars.length :=
  (List.dropWhile_sublist _).length_le

theorem finds_scanInLine : Finds cursor.floor cursor.rest.length (scanInLine cursor) := by
  have starts : cursor.floor ≤ cursor.line := cursor.floor_le
  have skipped : (cursor.rest.dropWhile fun c => c == ' ' || c == '\t' || c == '\x0c').length ≤
      cursor.rest.length := (List.dropWhile_sublist _).length_le
  unfold scanInLine
  dsimp only
  refine Finds.mono ?_ skipped
  split
  · split
    · exact .finish starts
    · exact .ending _
  · next rest left =>
      rw [left]
      exact .passed starts (Nat.le_succ_of_le (skipComment_length_le rest))
  · next rest left =>
      rw [left]
      split
      · exact finds_token rfl starts (Nat.le_refl _) (Nat.le_succ _)
      · exact .passed starts (Nat.le_succ _)
  · split
    · exact .ending _
    · exact .ending _
  · next rest _ left =>
      rw [left]
      exact .passed (Nat.le_succ_of_le starts) (Nat.le_add_right _ 2)
  · exact .ending _
  · next digit rest left =>
      split
      · exact finds_scanNumber starts (Nat.le_refl _)
      · rw [left]
        exact finds_scanSymbol _ starts (Nat.lt_succ_self _)
  · next left =>
      split
      · exact finds_scanNumber starts (Nat.le_refl _)
      · split
        · exact finds_scanWord starts (Nat.le_refl _)
        · rw [left]
          split
          · exact finds_scanQuotation _ starts (Nat.lt_succ_self _)
          · exact finds_scanSymbol _ starts (Nat.lt_succ_self _)

/-! ## The start of a line -/

/-- What holds at the start of an indentation holds at its end, if a blank keeps it and so does a
continuation mark with the line feed behind it. -/
theorem measureIndentation_induction (keeps : Nat → List Char → Prop)
    (blank : ∀ line c rest, keeps line (c :: rest) → keeps line rest)
    (continuation : ∀ line rest, keeps line ('\\' :: '\n' :: rest) → keeps (line + 1) rest)
    (steps continued column alternative : Nat) (start : keeps line rest) :
    keeps (measureIndentation steps continued column alternative line rest).line
      (measureIndentation steps continued column alternative line rest).rest := by
  induction steps, continued, column, alternative, line, rest using measureIndentation.induct with
  | case1 column alternative line rest => exact start
  | case2 continued column alternative line rest positive =>
      rw [measureIndentation, if_neg positive]
      exact start
  | case3 steps continued column alternative line rest ih
  | case4 steps continued column alternative line rest ih
  | case5 steps continued column alternative line rest ih =>
      rw [measureIndentation]
      exact ih (blank _ _ _ start)
  | case6 steps continued column alternative line c rest _ ih =>
      rw [measureIndentation]
      exact ih (continuation _ _ start)
  | case7 steps continued column alternative line tail noLine =>
      rw [measureIndentation]
      · exact start
      · exact noLine
  | case8 steps column alternative line rest noBlank noTab noFeed noLine noMark =>
      rw [measureIndentation, if_pos rfl]
      · exact start
      all_goals assumption
  | case9 steps continued column alternative line rest positive =>
      rw [measureIndentation, if_neg positive]
      · exact start
      all_goals assumption

theorem line_le_measureIndentation (steps continued column alternative line : Nat) :
    line ≤ (measureIndentation steps continued column alternative line rest).line :=
  measureIndentation_induction (fun reached _ => line ≤ reached) (fun _ _ _ kept => kept)
    (fun _ _ kept => Nat.le_succ_of_le kept) _ _ _ _ (Nat.le_refl _)

theorem measureIndentation_length_le (steps continued column alternative line : Nat) :
    (measureIndentation steps continued column alternative line rest).rest.length ≤
      rest.length :=
  measureIndentation_induction (fun _ left => left.length ≤ rest.length)
    (fun _ _ _ kept => Nat.le_of_succ_le kept)
    (fun _ _ kept => Nat.le_of_succ_le (Nat.le_of_succ_le kept)) _ _ _ _ (Nat.le_refl _)

/-- Blocks are opened and closed in the line that starts. -/
theorem finds_startLine (column alternative : Nat) (started : cursor.isFresh = false)
    (starts : low ≤ cursor.line) (left : cursor.rest.length ≤ available) :
    Finds low available (startLine cursor column alternative) := by
  have floor : cursor.floor = cursor.line := by simp [Cursor.floor, started]
  unfold startLine
  dsimp only
  split
  · split
    · exact .passed (floor ▸ starts) left
    · exact .ending _
  · split
    · split
      · exact .ending _
      · exact finds_token rfl starts (Nat.le_of_eq floor.symm) left
    · split
      · exact .plain _ rfl starts (Nat.le_of_eq floor.symm) left
      · exact .ending _

theorem finds_scanLineStart (steps : Nat) (fresh : cursor.isFresh = true) :
    Finds cursor.floor cursor.rest.length (scanLineStart steps cursor) := by
  have floor : cursor.floor = cursor.line - 1 := by simp [Cursor.floor, fresh]
  have measured : cursor.line ≤
      (measureIndentation steps 0 0 0 cursor.line cursor.rest).line :=
    line_le_measureIndentation ..
  have starts : cursor.floor ≤ (measureIndentation steps 0 0 0 cursor.line cursor.rest).line := by
    omega
  have indented : (measureIndentation steps 0 0 0 cursor.line cursor.rest).rest.length ≤
      cursor.rest.length := measureIndentation_length_le ..
  unfold scanLineStart
  dsimp only
  refine Finds.mono ?_ indented
  split
  · exact .ending _
  · split
    · next rest left =>
        have passed := skipComment_length_le rest
        split
        · next later commented =>
            rw [commented, List.length_cons] at passed
            rw [left]
            exact .passed starts (Nat.le_succ_of_le (Nat.le_of_succ_le passed))
        · exact .passed starts (Nat.zero_le _)
    · next rest left =>
        rw [left]
        exact .passed starts (Nat.le_succ _)
    · next left =>
        rw [left]
        exact finds_startLine _ _ rfl (by dsimp only; omega) (Nat.le_refl _)
    · exact finds_startLine _ _ rfl starts (Nat.le_refl _)

theorem finds_scan (steps : Nat) :
    Finds cursor.floor cursor.rest.length (cursor.scan steps) := by
  unfold Cursor.scan
  split
  · next fresh => exact finds_scanLineStart steps (Bool.and_eq_true_iff.mp fresh).1
  · exact finds_scanInLine

/-! ## Whole sources -/

/-- What every scan keeps of the tokens in front of a place holds of all tokens of a source. -/
theorem scanFrom_induction (keeps : List Token → Cursor → Prop) (ends : List Token → Prop)
    (more : ∀ done cursor found next, keeps done cursor →
      Finds cursor.floor cursor.rest.length (.tokens found next) → keeps (done ++ found) next)
    (last : ∀ done cursor found ending, keeps done cursor →
      Finds cursor.floor cursor.rest.length (.last found ending) → ends (done ++ found))
    (steps : Nat) {done : Array Token} (start : keeps done.toList cursor) :
    ends (scanFrom steps cursor done).tokens.toList := by
  induction steps generalizing cursor done with
  | zero =>
      rw [scanFrom, Array.toList_push]
      exact last _ _ _ _ start (.finish cursor.floor_le)
  | succ steps ih =>
      have finds : Finds cursor.floor cursor.rest.length (cursor.scan steps) := finds_scan steps
      rw [scanFrom]
      split
      · next found next scanned =>
          rw [scanned] at finds
          apply ih
          rw [Array.toList_appendList]
          exact more _ _ _ _ start finds
      · next found ending scanned =>
          rw [scanned] at finds
          rw [Array.toList_appendList]
          exact last _ _ _ _ start finds

end Stringify.Source
