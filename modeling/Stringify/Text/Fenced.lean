import Stringify.Release
import Stringify.Text.Quoted

/-!
# Texts with few escapes

Where backslashes are unwelcome a text is written with as few of them as its quotes permit. Four
kinds of quotes are at hand, single and tripled ones of both kinds, and the text itself decides
which of them can enclose it. If none can, the text is quoted in the plain way.
-/

namespace Stringify.Text

/-- The quotes that may enclose a text, in the order of preference. -/
def fences : List (List Char) :=
  [['\x27'], ['\x22'], ['\x22', '\x22', '\x22'], ['\x27', '\x27', '\x27']]

/-- A code point with an escape if it is a backslash or not printable. Line feeds and tabs are kept
on request. -/
def fenceCode (keepBlanks : Bool) (code : CodePoint) : List Char :=
  match code.toChar? with
  | none => escapeCode code.val
  | some c =>
    if keepBlanks && (c == '\n' || c == '\t') then [c]
    else if c == '\\' || !isPrintable code.val then escapeCode code.val
    else [c]

/-- Whether some characters occur in a row. -/
def occursIn (wanted : List Char) : List Char → Bool
  | [] => wanted.isEmpty
  | c :: rest => wanted.isPrefixOf (c :: rest) || occursIn wanted rest

/-- Whether a quote begins with the last character of a text. -/
def clashes (body fence : List Char) : Bool :=
  fence.head? == body.getLast?

/-- The quotes that can enclose a text. Line feeds need tripled ones, and those that would run into
the end of the text come last. -/
def fencesAround (allowed : List (List Char)) (body : List Char) : List (List Char) :=
  let spanning := if body.contains '\n' then allowed.filter (·.length == 3) else allowed
  let free := spanning.filter (!occursIn · body)
  if body.isEmpty then free else free.filter (!clashes body ·) ++ free.filter (clashes body ·)

/-- The text between the quotes, and the quotes that may enclose it. If none of the allowed ones
can, the text is quoted in the plain way, and the first allowed quote of that kind encloses it. -/
def fence (keepBlanks : Bool) (allowed : List (List Char)) (text : Text) :
    List Char × List (List Char) :=
  let body := text.flatMap (fenceCode keepBlanks)
  match fencesAround allowed body with
  | [] =>
    let plain := text.quote
    (text.flatMap (quoteCode plain), [(allowed.find? (·.contains plain)).getD [plain]])
  | first :: others =>
    if !body.isEmpty && clashes body first then
      (body.dropLast ++ '\\' :: body.getLast?.toList, first :: others)
    else (body, first :: others)

/-- A text between quotes, with as few escapes as possible. -/
def fenced (text : Text) : String :=
  let (body, quotes) := fence true fences text
  let quote := quotes.headD []
  String.ofList (quote ++ body ++ quote)

variable [Release]

/-- Several parts of a text, each with a mark that keeps its line feeds and tabs, and the quotes
that may enclose all of them. Each part leaves the parts after it the quotes that can enclose it,
and one that is quoted in the plain way the quote of that; `none` if that is none of the allowed
ones and the release falls back to other quotes then. -/
def fenceParts? (allowed : List (List Char)) :
    List (Text × Bool) → Option (List Char × List (List Char))
  | [] => some ([], allowed)
  | (text, keepBlanks) :: rest =>
    let (body, quotes) := fence keepBlanks allowed text
    if Release.fallsBack && !quotes.any allowed.contains then none
    else (fenceParts? quotes rest).map fun (others, quotes) => (body ++ others, quotes)

/-- Tripled single quotes, which enclose what no common quotes can. -/
def lastFence : List Char :=
  ['\x27', '\x27', '\x27']

/-- Several parts of a text between common quotes. Where the release falls back to other quotes,
every single quote in the parts is escaped. -/
def fencedParts (parts : List (Text × Bool)) : String :=
  match fenceParts? fences parts with
  | some (body, quotes) =>
    let quote := quotes.headD []
    String.ofList (quote ++ body ++ quote)
  | none =>
    let body := parts.flatMap fun part => part.1.flatMap (quoteCode '\x27')
    String.ofList (lastFence ++ body ++ lastFence)

end Stringify.Text
