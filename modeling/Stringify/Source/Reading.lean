import Stringify.Source.Memory
import Stringify.Source.Token

/-!
# Reading tokens

A reader takes tokens from its place on, or finds that they do not fit. The alternatives of a rule
are tried in order, and the first one that fits is taken for good.

A source that fits no rule is read a second time in search of a mistake: rules then have further
alternatives, which describe common mistakes and refuse the source in the line of the mistake. The
number of tokens looked at is kept over all alternatives and both readings, for a mistake may also
be put down to the furthest of them.
-/

namespace Stringify.Source

/-- What is the same at all places of a source. -/
structure Setting where
  stream : TokenStream
  /-- Mistakes are looked for. -/
  explains : Bool

/-- How far the reading of a source has come. -/
structure Progress where
  /-- The number of tokens taken. -/
  place : Nat
  /-- The number of tokens looked at. -/
  reached : Nat
  memory : Memory

/-- Why nothing is read. -/
inductive Failure where
  /-- The tokens do not fit. -/
  | mismatch
  /-- The source is refused for a mistake, in the given line. -/
  | refusal (line : Nat)
  /-- There are no more tokens. -/
  | exhausted
  deriving DecidableEq, Repr

/-- A reader of tokens. -/
abbrev Reading := ReaderT Setting (EStateM Failure Progress)

namespace Reading

variable {α β : Type}

/-! ## Places and failures -/

/-- The tokens do not fit. -/
def mismatch : Reading α :=
  throw .mismatch

/-- Refuse the source for a mistake in the given line. -/
def refuse (line : Nat) : Reading α :=
  throw (.refusal line)

/-- The place that is reached. -/
def place : Reading Nat := do
  return (← get).place

/-- Go to a place. -/
def moveTo (place : Nat) : Reading Unit :=
  modify fun progress => { progress with place }

/-- The token at a place, if there is one. -/
def tokenAt? (place : Nat) : Reading (Option Token) := do
  return (← read).stream.tokens[place]?

/-- The line of the furthest token that was looked at. -/
def furthestLine : Reading Nat := do
  let token ← tokenAt? ((← get).reached - 1)
  return (token.map Token.line).getD 0

/-- Refuse the source for a mistake at the furthest token that was looked at. -/
def refuseFurthest : Reading α := do
  refuse (← furthestLine)

/-- A bound on the number of items in a row: each takes a token. -/
def bound : Reading Nat := do
  return (← read).stream.tokens.size

/-! ## Tokens -/

/-- The next token. -/
def peek : Reading Token := do
  let place ← place
  match ← tokenAt? place with
  | some token =>
    modify fun progress => { progress with reached := max progress.reached (place + 1) }
    return token
  | none => throw .exhausted

/-- Take the next token. -/
def advance : Reading Unit :=
  modify fun progress => { progress with place := progress.place + 1 }

/-- The line of the next token. -/
def currentLine : Reading Nat := do
  return (← peek).line

/-- Take a token of the given kind. -/
def expect (lexeme : Lexeme) : Reading Unit := do
  if (← peek).lexeme == lexeme then advance else mismatch

/-- Take the given symbol. -/
def symbol (text : String) : Reading Unit :=
  expect (.symbol text)

/-- Take one of the given symbols. -/
def anySymbol (texts : List String) : Reading Unit := do
  let token ← peek
  if texts.any (token.isSymbol ·) then advance else mismatch

/-- Take the given word. -/
def word (text : String) : Reading Unit :=
  expect (.word text)

/-- Take the given symbol: its line. -/
def symbolLine (text : String) : Reading Nat := do
  let line ← currentLine
  symbol text
  return line

/-- Take the given word: its line. -/
def wordLine (text : String) : Reading Nat := do
  let line ← currentLine
  word text
  return line

/-- Take an identifier. -/
def identifier : Reading String := do
  match (← peek).identifier? with
  | some text =>
    advance
    return text
  | none => mismatch

/-- Take an identifier: its line. -/
def identifierLine : Reading Nat := do
  let line ← currentLine
  discard identifier
  return line

/-- Take the given symbol, without which the source is refused. -/
def requireSymbol (text : String) : Reading Unit := do
  let token ← peek
  if token.isSymbol text then advance else refuse token.line

/-! ## Alternatives and repetitions -/

/-- Read in one way or, if that does not fit, in another one. -/
def orElse (first second : Reading α) : Reading α := fun setting progress =>
  let start := progress.place
  match first setting progress with
  | .error .mismatch progress => second setting { progress with place := start }
  | result => result

/-- Read in the first of several ways that fits. -/
def firstOf : List (Reading α) → Reading α
  | [] => mismatch
  | first :: others => orElse first (firstOf others)

/-- Read something if it fits. -/
def perhaps (reader : Reading α) : Reading (Option α) :=
  orElse (some <$> reader) (pure none)

/-- Pass over something if it fits. -/
def skip (reader : Reading α) : Reading Unit :=
  orElse (discard reader) (pure ())

/-- Whether something fits. Nothing is taken. -/
def fits (reader : Reading α) : Reading Bool := do
  let start ← place
  let found ← orElse (do discard reader; pure true) (pure false)
  moveTo start
  return found

/-- Go on only if something fits. Nothing is taken. -/
def follows (reader : Reading α) : Reading Unit := do
  if !(← fits reader) then mismatch

/-- Go on only if something does not fit. Nothing is taken. -/
def followsNot (reader : Reading α) : Reading Unit := do
  if ← fits reader then mismatch

/-- Once the opening fits, no way but the rest is tried after it. -/
def commit (opening : Reading α) (rest : α → Reading β) (otherwise : Reading β) : Reading β := do
  match ← perhaps opening with
  | some value => rest value
  | none => otherwise

/-- Items as long as they fit, at most the given number. -/
def manyUpTo (item : Reading α) : (steps : Nat) → Reading (List α)
  | 0 => return []
  | steps + 1 => do
    match ← perhaps item with
    | some first => return first :: (← manyUpTo item steps)
    | none => return []

/-- Items as long as they fit. -/
def many (item : Reading α) : Reading (List α) := do
  manyUpTo item (← bound)

/-- One item or more, as long as they fit. -/
def oneOrMore (item : Reading α) : Reading (List α) := do
  let first ← item
  return first :: (← many item)

/-- One item or more with a symbol between them. -/
def separated (separator : String) (item : Reading α) : Reading (List α) := do
  let first ← item
  return first :: (← many (do symbol separator; item))

/-! ## Mistakes -/

/-- Read something only if mistakes are looked for. -/
def explaining (reader : Reading α) : Reading α := do
  if (← read).explains then reader else mismatch

/-- Read something without looking for mistakes in it. -/
def unexplained (reader : Reading α) : Reading α :=
  withReader (fun setting => { setting with explains := false }) reader

/-- Look for one of several mistakes. The first one that fits is the only one considered, also if it
turns out to be none. -/
def mistakes (alternatives : List (Reading Unit)) : Reading α := do
  firstOf alternatives
  mismatch

/-! ## Memory -/

/-- Read something that is remembered. -/
def remembered (slot : Slot α) (reader : Reading α) : Reading α := fun setting progress =>
  let start := progress.place
  match slot.result? progress.memory start with
  | some (some (value, place)) => .ok value { progress with place }
  | some none => .error .mismatch progress
  | none =>
    match reader setting progress with
    | .ok value progress =>
      .ok value
        { progress with memory := slot.keep progress.memory start (some (value, progress.place)) }
    | .error .mismatch progress =>
      .error .mismatch { progress with memory := slot.keep progress.memory start none }
    | .error failure progress => .error failure progress

/-! ## Whole sources -/

/-- Where a mistake in the given line is to be looked for in the end. A malformed token is blamed
before it, and so is a bracket that is left open in an earlier line than that of the furthest
token. -/
def settledLine (stream : TokenStream) (reached line : Nat) : Nat :=
  match stream.ending, stream.openBracket with
  | .malformed line, _ => line
  | .broken _, some bracket =>
    match stream.tokens[reached - 1]? with
    | some token => if bracket < token.line then bracket else line
    | none => line
  | _, _ => line

/-- The line in which the tokens of a source end. -/
def endingLine (stream : TokenStream) : Nat :=
  match stream.ending with
  | .broken line | .malformed line => line
  | .finished => (stream.tokens.back?.map Token.line).getD 0

/-- The line to blame for tokens that fit no rule and show no mistake: that of the furthest token
looked at in the first reading. If that opens or closes a block, the block is out of place, and
nothing after it is blamed instead. -/
def genericLine (stream : TokenStream) (firstReached reached : Nat) : Nat :=
  match stream.tokens[firstReached - 1]? with
  | none => endingLine stream
  | some token =>
    if token.lexeme == .indent || token.lexeme == .dedent then
      (stream.tokens[reached - 1]?.map Token.line).getD token.line
    else settledLine stream reached token.line

/-- What a reader makes of the tokens of a source, or the line to blame. -/
def run (reader : Reading α) (stream : TokenStream) : Except Nat α :=
  match reader ⟨stream, false⟩ ⟨0, 0, .empty⟩ with
  | .ok value _ => .ok value
  | .error .exhausted _ => .error (endingLine stream)
  | .error (.refusal line) progress => .error (settledLine stream progress.reached line)
  | .error .mismatch progress =>
    match reader ⟨stream, true⟩ ⟨0, progress.reached, .empty⟩ with
    | .error .exhausted _ => .error (endingLine stream)
    | .error (.refusal line) last => .error (settledLine stream last.reached line)
    | .error .mismatch last => .error (genericLine stream progress.reached last.reached)
    | .ok _ last => .error (genericLine stream progress.reached last.reached)

end Reading

end Stringify.Source
