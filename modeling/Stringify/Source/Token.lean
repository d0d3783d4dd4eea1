import Stringify.Source.NormalForm

/-!
# Tokens

A stub is read as a sequence of tokens. Line structure is explicit: a token ends each logical line,
and tokens open and close each indented block. Every token knows its lines and how deep in brackets
it leaves the source.
-/

namespace Stringify.Source

/-- A literal between quotes: the letters before it and the characters between its quotes. -/
structure Quotation where
  isRaw : Bool
  isBytes : Bool
  isFormatted : Bool
  /-- The literal opens with a lower-case `u`. -/
  isMarked : Bool
  body : List Char
  deriving DecidableEq, Repr

/-- What a token is. -/
inductive Lexeme where
  /-- An identifier or a keyword. -/
  | word (text : String)
  /-- A number without its underscores. -/
  | number (text : List Char)
  | quotation (literal : Quotation)
  /-- An operator, a bracket or a delimiter; also a character that no rule accepts. -/
  | symbol (text : String)
  /-- The end of a logical line. -/
  | newline
  /-- The start of an indented block. -/
  | indent
  /-- The end of an indented block. -/
  | dedent
  /-- The end of the source. -/
  | finish
  deriving DecidableEq, Repr

/-- A token with its first and last line and the number of brackets open after it. -/
structure Token where
  lexeme : Lexeme
  line : Nat
  lastLine : Nat
  nesting : Nat
  deriving DecidableEq, Repr

/-- The words that cannot be identifiers. -/
def keywords : List String :=
  ["False", "None", "True", "and", "as", "assert", "async", "await", "break", "class", "continue",
   "def", "del", "elif", "else", "except", "finally", "for", "from", "global", "if", "import", "in",
   "is", "lambda", "nonlocal", "not", "or", "pass", "raise", "return", "try", "while", "with",
   "yield"]

/-- Whether a word cannot be an identifier. -/
def isKeyword (word : String) : Bool :=
  keywords.contains word

namespace Token

/-- The identifier that a token is, in normal form. A word that only becomes a keyword in normal
form is an identifier. -/
def identifier? (token : Token) : Option String :=
  match token.lexeme with
  | .word text => if isKeyword text then none else some (normalForm text)
  | _ => none

/-- Whether a token is the given symbol. -/
def isSymbol (token : Token) (text : String) : Bool :=
  token.lexeme == .symbol text

end Token

/-- The greatest number of brackets that are open at once. -/
def bracketLimit : Nat := 200

/-- How the tokens of a source end. -/
inductive Ending where
  /-- With the end of the source. -/
  | finished
  /-- The source breaks off, which is put down to the given line. -/
  | broken (line : Nat)
  /-- A malformed token follows in the given line. -/
  | malformed (line : Nat)
  deriving DecidableEq, Repr

/-- The tokens of a source up to its end or up to where it stops making tokens. -/
structure TokenStream where
  tokens : Array Token
  ending : Ending
  /-- The line of the innermost bracket that is open at the end. -/
  openBracket : Option Nat
  deriving DecidableEq, Repr

end Stringify.Source
