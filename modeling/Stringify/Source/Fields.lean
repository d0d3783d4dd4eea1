import Stringify.Source.Quotation

/-!
# Fields of formatted texts

A formatted text holds fields in braces. A field has the source of an expression, an optional
conversion and an optional layout, and a layout may have fields again but no deeper ones. Doubled
braces stand for single ones outside of layouts.

The pieces are found from left to right. A literal that is malformed gives those in front of the
place where it goes wrong, and a last one that says so.
-/

namespace Stringify.Source

/-- A piece of a formatted text whose expressions are not read yet. -/
inductive RawPiece where
  | text (value : Text)
  /-- A field, after the given number of line feeds in the literal. -/
  | field (source : List Char) (lines : Nat) (conversion : Option Char)
  | laidOut (source : List Char) (lines : Nat) (conversion : Option Char) (layout : List RawPiece)
  /-- The literal is malformed from here on. -/
  | malformed

namespace RawPiece

/-- How a stretch of plain characters ends. -/
inductive Stop where
  | doubledBrace
  | openingBrace
  | closingBrace
  | finish
  deriving DecidableEq

/-- A stretch of plain characters, what ends it and what follows; `none` for a closing brace out of
place. A name in braces after an escape mark belongs to the stretch. -/
def plainStretch (isRaw isLayout : Bool) : (steps : Nat) → List Char →
    Option (List Char × Stop × List Char)
  | 0, rest => some ([], .finish, rest)
  | _ + 1, [] => some ([], .finish, [])
  | steps + 1, '\\' :: c :: rest =>
    if isRaw || c == '\x7b' || c == '\x7d' then do
      let (chars, stop, rest) ← plainStretch isRaw isLayout steps (c :: rest)
      return ('\\' :: chars, stop, rest)
    else if c == 'N' then do
      let opened := if rest.head? == some '\x7b' then rest.takeWhile (· != '\x7d') else []
      let name := if opened.isEmpty then [] else rest.take (opened.length + 1)
      let (chars, stop, rest) ← plainStretch isRaw isLayout steps (rest.drop name.length)
      return ('\\' :: c :: name ++ chars, stop, rest)
    else do
      let (chars, stop, rest) ← plainStretch isRaw isLayout steps rest
      return ('\\' :: c :: chars, stop, rest)
  | steps + 1, c :: rest =>
    if c == '\x7b' || c == '\x7d' then
      if !isLayout && rest.head? == some c then some ([c], .doubledBrace, rest.drop 1)
      else if c == '\x7b' then some ([], .openingBrace, rest)
      else if isLayout then some ([], .closingBrace, rest)
      else none
    else do
      let (chars, stop, rest) ← plainStretch isRaw isLayout steps rest
      return (c :: chars, stop, rest)

/-- Whether a bracket closes another one. -/
def closes (closing opening : Char) : Bool :=
  (opening == '(' && closing == ')') || (opening == '[' && closing == ']')
    || (opening == '\x7b' && closing == '\x7d')

/-- The source of a field's expression, and the rest from the character on that ends it; `none` if
the field is malformed. It ends outside of quotes and brackets. -/
def expressionSource (quote : Option (List Char)) (brackets : List Char) : (steps : Nat) →
    List Char → Option (List Char × List Char)
  | 0, _ => none
  | _ + 1, [] => none
  | steps + 1, c :: rest =>
    let goOn (quote : Option (List Char)) (brackets passed : List Char) := do
      let (source, rest) ←
        expressionSource quote brackets steps ((c :: rest).drop passed.length)
      return (passed ++ source, rest)
    if c == '\\' then none
    else match quote with
      | some fence =>
        if fence.isPrefixOf (c :: rest) then goOn none brackets fence else goOn quote brackets [c]
      | none =>
        if c == '\x27' || c == '\x22' then
          if [c, c].isPrefixOf rest then goOn (some [c, c, c]) brackets [c, c, c]
          else goOn (some [c]) brackets [c]
        else if c == '(' || c == '[' || c == '\x7b' then
          if bracketLimit ≤ brackets.length then none else goOn none (c :: brackets) [c]
        else if c == '#' then none
        else if brackets.isEmpty && ['!', '=', '<', '>'].contains c && rest.head? == some '=' then
          goOn none brackets [c, '=']
        else if brackets.isEmpty && ['!', ':', '\x7d', '='].contains c then some ([], c :: rest)
        else if c == ')' || c == ']' || c == '\x7d' then
          match brackets with
          | [] => none
          | opening :: brackets => if closes c opening then goOn none brackets [c] else none
        else goOn none brackets [c]

/-- Whether nothing but blanks is in the source of an expression. -/
def isBlank (source : List Char) : Bool :=
  source.all fun c => c == ' ' || c == '\t' || c == '\n' || c == '\x0c'

/-- A conversion mark at the start of some characters, and what follows; `none` if it is
malformed. -/
def conversion? : List Char → Option (Option Char × List Char)
  | '!' :: c :: rest => if ['s', 'r', 'a'].contains c then some (some c, rest) else none
  | ['!'] => none
  | rest => some (none, rest)

/-- Whether a character is a blank. -/
def isSpace (c : Char) : Bool :=
  c == ' ' || (0x09 ≤ c.toNat && c.toNat ≤ 0x0d)

/-- The mark that shows the source of an expression with its value, if it is next, with the blanks
after it, and what follows. -/
def shownMark : List Char → List Char × List Char
  | '=' :: rest =>
    let blanks := rest.takeWhile isSpace
    ('=' :: blanks, rest.drop blanks.length)
  | rest => ([], rest)

/-- Pieces in a row and, unless the last one is malformed, the number of line feeds passed and what
follows. -/
abbrev Scan := List RawPiece × Option (Nat × List Char)

/-- Pieces that end where a literal goes wrong. -/
def stopped (pieces : List RawPiece) : Scan :=
  (pieces ++ [.malformed], none)

/-- Go on after some pieces. -/
def followedBy (pieces : List RawPiece) (scan : Scan) : Scan :=
  (pieces ++ scan.1, scan.2)

/-- The pieces of a formatted text from a place on, after which `lines` line feeds were passed, and
the rest after the brace that ends a layout. Fields may stand inside one another `nesting` deep. -/
def scan (isRaw isLayout : Bool) : (nesting steps lines : Nat) → List Char → Scan
  | _, 0, _, _ => stopped []
  | nesting, steps + 1, lines, chars =>
    match plainStretch isRaw isLayout (chars.length + 1) chars with
    | none => stopped []
    | some (plain, stop, rest) =>
      match Quotation.textOf? isRaw plain with
      | none => stopped []
      | some value =>
        let text := RawPiece.text value
        let start := lines + plain.count '\n'
        match stop with
        | .finish => if isLayout then stopped [text] else ([text], some (start, []))
        | .closingBrace => ([text], some (start, rest))
        | .doubledBrace => followedBy [text] (scan isRaw isLayout nesting steps start rest)
        | .openingBrace =>
          if nesting = 0 then stopped [text]
          else match expressionSource none [] (rest.length + 1) rest with
            | none => stopped [text]
            | some (source, rest) =>
              if isBlank source then stopped [text]
              else
                let (mark, rest) := shownMark rest
                let shown := if mark.isEmpty then [] else source ++ mark
                let passed := start + source.count '\n' + mark.count '\n'
                let before := [text, .text (shown.map CodePoint.ofChar)]
                match conversion? rest with
                | some (conversion, '\x7d' :: rest) =>
                  let implied := if mark.isEmpty then conversion else conversion.or (some 'r')
                  followedBy (before ++ [.field source start implied])
                    (scan isRaw isLayout nesting steps passed rest)
                | some (conversion, ':' :: rest) =>
                  match scan isRaw true (nesting - 1) steps passed rest with
                  | (layout, none) =>
                    (before ++ [.laidOut source start conversion layout], none)
                  | (layout, some (passed, rest)) =>
                    followedBy (before ++ [.laidOut source start conversion layout])
                      (scan isRaw isLayout nesting steps passed rest)
                | _ => stopped (before ++ [.field source start none])

end RawPiece

/-- The pieces of a formatted literal. -/
def Quotation.pieces (literal : Quotation) : List RawPiece :=
  let chars := literal.body
  (RawPiece.scan literal.isRaw false 2 (2 * chars.length + 2) 0 chars).1

end Stringify.Source
