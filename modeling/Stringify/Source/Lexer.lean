import Stringify.Source.Number
import Stringify.Source.Token
import Stringify.Text.Identifier
import Stringify.Text.Printable

/-!
# From characters to tokens

`tokensOf` splits a source into tokens. Indentation is measured twice, with tabs to columns of eight
and of one, and both measures must agree on the nesting of blocks. Inside brackets lines do not
matter.

A source with a malformed token gives the tokens in front of it. So does a source that breaks off:
inside brackets, after a continuation mark, or at an indentation that fits no block.
-/

namespace Stringify.Source

/-- A place in a source: what is left of it and what is open there. -/
structure Cursor where
  rest : List Char
  line : Nat
  /-- The open brackets with their lines, the innermost first. -/
  brackets : List (Char × Nat)
  /-- The columns of the open blocks in both measures, the innermost first. -/
  columns : List (Nat × Nat)
  /-- The place is the start of a line. -/
  isFresh : Bool

/-- What is found at a place. -/
inductive Found where
  /-- Tokens, and the place after them. -/
  | tokens (found : List Token) (next : Cursor)
  /-- The last tokens, and how they end. -/
  | last (found : List Token) (ending : Ending)

namespace Cursor

/-- A token within the current line. -/
def token (cursor : Cursor) (lexeme : Lexeme) : Token :=
  ⟨lexeme, cursor.line, cursor.line, cursor.brackets.length⟩

/-- A break in the current line. -/
def broken (cursor : Cursor) : Found :=
  .last [] (.broken cursor.line)

/-- A malformed token in the current line. -/
def malformed (cursor : Cursor) : Found :=
  .last [] (.malformed cursor.line)

/-- The line of the innermost open bracket. -/
def openBracket (cursor : Cursor) : Option Nat :=
  cursor.brackets.head?.map Prod.snd

/-- The break at the end of a source inside brackets: it is put down to the innermost one. -/
def unclosed (cursor : Cursor) : Found :=
  .last [] (.broken (cursor.openBracket.getD cursor.line))

/-- The place after a token in the current line. -/
def after (cursor : Cursor) (rest : List Char) : Cursor :=
  { cursor with rest, isFresh := false }

end Cursor

/-- The indentation at the start of a line. -/
structure Indentation where
  column : Nat
  alternative : Nat
  rest : List Char
  line : Nat
  /-- A continuation mark in the indentation is not followed by a line. -/
  isBroken : Bool

/-- Measure an indentation. After a continuation mark the column before the first one counts, unless
it is zero. -/
def measureIndentation : (steps : Nat) → (continued column alternative line : Nat) → List Char →
    Indentation
  | 0, continued, column, alternative, line, rest =>
    if continued = 0 then ⟨column, alternative, rest, line, false⟩
    else ⟨continued, continued, rest, line, false⟩
  | steps + 1, continued, column, alternative, line, rest =>
    match rest with
    | ' ' :: rest => measureIndentation steps continued (column + 1) (alternative + 1) line rest
    | '\t' :: rest =>
      measureIndentation steps continued ((column / 8 + 1) * 8) (alternative + 1) line rest
    | '\x0c' :: rest => measureIndentation steps continued 0 0 line rest
    | '\\' :: '\n' :: c :: rest =>
      let continued := if continued = 0 then column else continued
      measureIndentation steps continued column alternative (line + 1) (c :: rest)
    | '\\' :: _ => ⟨column, alternative, rest, line, true⟩
    | _ =>
      if continued = 0 then ⟨column, alternative, rest, line, false⟩
      else ⟨continued, continued, rest, line, false⟩

/-- The greatest number of columns that are open at once. -/
def blockLimit : Nat := 100

/-- Close the blocks to the right of a column: the blocks that stay open and the number closed. -/
def closeBlocks (column : Nat) : List (Nat × Nat) → List (Nat × Nat) × Nat
  | [] => ([], 0)
  | top :: rest =>
    if column < top.1 then
      let (columns, closed) := closeBlocks column rest
      (columns, closed + 1)
    else (top :: rest, 0)

/-- Open or close blocks for a line that starts at the given columns. -/
def startLine (cursor : Cursor) (column alternative : Nat) : Found :=
  let (top, topAlternative) := cursor.columns.headD (0, 0)
  if column = top then
    if alternative = topAlternative then .tokens [] cursor else cursor.broken
  else if top < column then
    if blockLimit ≤ cursor.columns.length || alternative ≤ topAlternative then cursor.broken
    else
      .tokens [cursor.token .indent]
        { cursor with columns := (column, alternative) :: cursor.columns }
  else
    let (columns, closed) := closeBlocks column cursor.columns
    if columns.headD (0, 0) = (column, alternative) then
      .tokens (List.replicate closed (cursor.token .dedent)) { cursor with columns }
    else cursor.broken

/-- The rest of the characters from the next line end on. -/
def skipComment (chars : List Char) : List Char :=
  chars.dropWhile (· != '\n')

/-- What is found at the start of a line: a line without tokens is passed over, and any other one
opens or closes blocks. The indentation is measured in at most `steps` steps. -/
def scanLineStart (steps : Nat) (cursor : Cursor) : Found :=
  let indentation := measureIndentation steps 0 0 0 cursor.line cursor.rest
  let cursor := { cursor with rest := indentation.rest, line := indentation.line, isFresh := false }
  if indentation.isBroken then cursor.broken
  else match indentation.rest with
    | '#' :: rest =>
      match skipComment rest with
      | _ :: rest =>
        .tokens [] { cursor with rest, line := cursor.line + 1, isFresh := true }
      | [] => .tokens [] { cursor with rest := [] }
    | '\n' :: rest => .tokens [] { cursor with rest, line := cursor.line + 1, isFresh := true }
    | [] =>
      startLine { cursor with line := cursor.line - 1 } indentation.column indentation.alternative
    | _ => startLine cursor indentation.column indentation.alternative

/-- The literal marks that some letters before a quote give, if they give any. -/
def quotationMarks? (letters : List Char) : Option Quotation :=
  let lower := letters.map Char.toLower
  let has (c : Char) := lower.contains c
  let known := [[], ['b'], ['r'], ['u'], ['f'], ['b', 'r'], ['r', 'b'], ['f', 'r'], ['r', 'f']]
  if known.contains lower then some ⟨has 'r', has 'b', has 'f', letters == ['u'], []⟩ else none

/-- The characters up to the closing quote and what follows it; `none` if there is no closing quote.
A character after a backslash closes nothing, and only a triple quote spans lines. -/
def quotationBody (quote : Char) (isTriple : Bool) : List Char → Option (List Char × List Char)
  | [] => none
  | ['\\'] => none
  | '\\' :: c :: rest => do
    let (body, after) ← quotationBody quote isTriple rest
    return ('\\' :: c :: body, after)
  | c :: rest =>
    if c == quote && (!isTriple || [quote, quote].isPrefixOf rest) then
      some ([], if isTriple then rest.drop 2 else rest)
    else if c == '\n' && !isTriple then none
    else do
      let (body, after) ← quotationBody quote isTriple rest
      return (c :: body, after)

/-- The literal at a place that opens with a quote, after the letters that mark it. -/
def scanQuotation (cursor : Cursor) (marks : Quotation) (quote : Char) (rest : List Char) : Found :=
  let isTriple := [quote, quote].isPrefixOf rest
  match quotationBody quote isTriple (if isTriple then rest.drop 2 else rest) with
  | none => cursor.malformed
  | some (body, after) =>
    let lastLine := cursor.line + body.count '\n'
    .tokens [⟨.quotation { marks with body }, cursor.line, lastLine, cursor.brackets.length⟩]
      { cursor.after after with line := lastLine }

/-- Whether a character may open a word, as far as its first byte tells. -/
def mayOpenWord (c : Char) : Bool :=
  c.isAlpha || c == '_' || 0x80 ≤ c.toNat

/-- Whether some characters are a well-formed word. -/
def isWellFormedWord : List Char → Bool
  | [] => false
  | c :: rest => Text.isIdentifierStart c && rest.all Text.isIdentifierContinue

/-- The word or the marked literal at a place that opens with a letter. -/
def scanWord (cursor : Cursor) (chars : List Char) : Found :=
  let word := chars.takeWhile Number.mayExtendWord
  let rest := chars.drop word.length
  let token := Found.tokens [cursor.token (.word (String.ofList word))] (cursor.after rest)
  let plain := if isWellFormedWord word then token else cursor.malformed
  match rest with
  | quote :: after =>
    if quote == '\x27' || quote == '\x22' then
      match quotationMarks? word with
      | some marks => scanQuotation cursor marks quote after
      | none => plain
    else plain
  | [] => plain

/-- The symbols of more than one character, the longer ones first. -/
def longSymbols : List (List Char) :=
  ["**=", "//=", ">>=", "<<=", "...", "**", "//", ">>", "<<", "<=", ">=", "==", "!=", "<>", "->",
   "+=", "-=", "*=", "/=", "%=", "@=", "&=", "|=", "^=", ":="].map String.toList

/-- The bracket that a closing one needs. -/
def openingOf? : Char → Option Char
  | ')' => some '('
  | ']' => some '['
  | '\x7d' => some '\x7b'
  | _ => none

/-- The symbol at a place. -/
def scanSymbol (cursor : Cursor) (c : Char) (rest : List Char) : Found :=
  let single := Lexeme.symbol (String.singleton c)
  if c == '(' || c == '[' || c == '\x7b' then
    if bracketLimit ≤ cursor.brackets.length then cursor.malformed
    else
      let next := { cursor.after rest with brackets := (c, cursor.line) :: cursor.brackets }
      .tokens [next.token single] next
  else match openingOf? c with
    | some opening =>
      match cursor.brackets with
      | (found, _) :: brackets =>
        if found == opening then
          let next := { cursor.after rest with brackets }
          .tokens [next.token single] next
        else cursor.malformed
      | [] => cursor.malformed
    | none =>
      match longSymbols.find? (·.isPrefixOf (c :: rest)) with
      | some symbol =>
        .tokens [cursor.token (.symbol (String.ofList symbol))]
          (cursor.after ((c :: rest).drop symbol.length))
      | none =>
        if Text.isPrintable c.toNat then .tokens [cursor.token single] (cursor.after rest)
        else cursor.malformed

/-- What is found within a line. -/
def scanInLine (cursor : Cursor) : Found :=
  let chars := cursor.rest.dropWhile (fun c => c == ' ' || c == '\t' || c == '\x0c')
  match chars with
  | [] =>
    if cursor.brackets.isEmpty then .last [cursor.token .finish] .finished else cursor.unclosed
  | '#' :: rest => .tokens [] (cursor.after (skipComment rest))
  | '\n' :: rest =>
    let next := { cursor with rest, line := cursor.line + 1, isFresh := true }
    if cursor.brackets.isEmpty then .tokens [cursor.token .newline] next else .tokens [] next
  | ['\\', '\n'] =>
    if cursor.brackets.isEmpty then cursor.broken else cursor.unclosed
  | '\\' :: '\n' :: rest => .tokens [] { cursor.after rest with line := cursor.line + 1 }
  | '\\' :: _ => cursor.broken
  | '.' :: digit :: rest =>
    if digit.isDigit then
      match Number.scan chars with
      | some (number, after) => .tokens [cursor.token (.number number)] (cursor.after after)
      | none => cursor.malformed
    else scanSymbol cursor '.' (digit :: rest)
  | c :: rest =>
    if c.isDigit then
      match Number.scan chars with
      | some (number, after) => .tokens [cursor.token (.number number)] (cursor.after after)
      | none => cursor.malformed
    else if mayOpenWord c then scanWord cursor chars
    else if c == '\x27' || c == '\x22' then
      scanQuotation cursor ⟨false, false, false, false, []⟩ c rest
    else scanSymbol cursor c rest

/-- What is found at a place from which at most `steps` characters are left. -/
def Cursor.scan (steps : Nat) (cursor : Cursor) : Found :=
  if cursor.isFresh && cursor.brackets.isEmpty then scanLineStart steps cursor
  else scanInLine cursor

/-- The tokens from a place on, in front of which `done` were found. The steps are bounded by twice
the characters left: each passes over some or settles the start of a line. -/
def scanFrom : (steps : Nat) → (cursor : Cursor) → (done : Array Token) → TokenStream
  | 0, cursor, done => ⟨done.push (cursor.token .finish), .finished, none⟩
  | steps + 1, cursor, done =>
    match cursor.scan steps with
    | .tokens found next => scanFrom steps next (done ++ found)
    | .last found ending => ⟨done ++ found, ending, cursor.openBracket⟩

/-- Line ends of all kinds as line feeds. -/
def normalizeLineEnds : List Char → List Char
  | [] => []
  | '\x0d' :: '\n' :: rest => '\n' :: normalizeLineEnds rest
  | '\x0d' :: rest => '\n' :: normalizeLineEnds rest
  | c :: rest => c :: normalizeLineEnds rest

/-- The tokens of a source that starts in the given line. -/
def tokensOf (firstLine : Nat) (chars : List Char) : TokenStream :=
  scanFrom (2 * chars.length + 2) ⟨chars, firstLine, [], [(0, 0)], true⟩ #[]

/-- Whether the last line is ended by a line feed. A line feed that a carriage return comes before
does not count. -/
def endsLastLine (chars : List Char) : Bool :=
  match chars.reverse with
  | '\n' :: '\x0d' :: _ => false
  | c :: _ => c == '\n' || c == '\x0d'
  | [] => true

/-- The characters of a module, the last line of which is always ended. -/
def moduleChars (chars : List Char) : List Char :=
  normalizeLineEnds chars ++ if endsLastLine chars then [] else ['\n']

end Stringify.Source
