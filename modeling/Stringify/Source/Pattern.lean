import Stringify.Source.Expr.Targets

/-!
# Patterns

The patterns of a match statement are read for their form only: nothing in a stub depends on them. A
reader of a pattern gives the line in which the pattern starts.
-/

namespace Stringify.Source

/-- The readers of what stands inside a pattern. -/
structure Subpatterns where
  /-- The readers of expressions. -/
  nested : Nested
  /-- The reader of patterns. -/
  pattern : Reading Nat

namespace Subpatterns

open Reading

/-! ## Literals -/

/-- A number and whether it is imaginary. -/
def numberKind : Reading (Nat × Bool) := do
  match ← Nested.number with
  | .constant line (.imaginary _) => return (line, true)
  | value => return (value.line, false)

/-- A number with an optional sign. -/
def signedNumber : Reading Unit := do
  skip (symbol "-")
  discard Nested.number

/-- A number that must not be imaginary, with an optional sign. -/
def realPart : Reading Unit := do
  skip (symbol "-")
  let (line, isImaginary) ← numberKind
  if isImaginary then refuse line

/-- A sum or difference of a number and an imaginary one. -/
def complexNumber : Reading Unit := do
  realPart
  anySymbol ["+", "-"]
  let (line, isImaginary) ← numberKind
  if !isImaginary then refuse line

/-- A literal. -/
def literal (sub : Subpatterns) : Reading Unit :=
  let number := do
    signedNumber
    followsNot (anySymbol ["+", "-"])
  firstOf [number, complexNumber, discard (sub.nested.read .textLiteral), word "None", word "True",
    word "False"]

/-! ## Names -/

/-- A name that no more of a pattern follows. -/
def alone (name : Reading Unit) : Reading Unit := do
  name
  followsNot (anySymbol [".", "(", "="])

/-- A name that a pattern binds. -/
def capture : Reading Unit := do
  followsNot (word "_")
  alone (discard identifier)

/-- A name with attributes. -/
def dottedName : Reading Unit := do
  discard identifier
  discard (oneOrMore (do symbol "."; identifier))

/-- A name with or without attributes. -/
def nameOrAttribute : Reading Unit :=
  firstOf [dottedName, discard identifier]

/-! ## Sequences -/

/-- A starred name for the rest of a sequence. -/
def starItem : Reading Nat :=
  let item := do
    let line ← symbolLine "*"
    firstOf [capture, word "_"]
    return line
  remembered (Memory.patternSlot .starred) item

/-- An item of a sequence. -/
def sequenceItem (sub : Subpatterns) : Reading Unit :=
  firstOf [discard starItem, discard sub.pattern]

/-- Items of a sequence with commas between them and possibly at the end. -/
def sequenceItems (sub : Subpatterns) : Reading Unit := do
  discard (separated "," sub.sequenceItem)
  skip (symbol ",")

/-- Items of a sequence, at least one of them with a comma. -/
def openSequence (sub : Subpatterns) : Reading Unit := do
  sub.sequenceItem
  symbol ","
  skip sub.sequenceItems

/-- A sequence in its brackets. -/
def sequence (sub : Subpatterns) : Reading Unit :=
  let bracketed := do
    symbol "["
    skip sub.sequenceItems
    symbol "]"
  let parenthesized := do
    symbol "("
    skip sub.openSequence
    symbol ")"
  firstOf [bracketed, parenthesized]

/-! ## Mappings -/

/-- A key with the pattern of its value. -/
def keyedItem (sub : Subpatterns) : Reading Unit := do
  firstOf [sub.literal, dottedName]
  symbol ":"
  discard sub.pattern

/-- A name for the rest of a mapping, which comes last. -/
def mappingRest : Reading Unit := do
  symbol "**"
  capture

/-- A mapping in its brackets. -/
def mapping (sub : Subpatterns) : Reading Unit :=
  let closed (content : Reading Unit) : Reading Unit := do
    symbol "\x7b"
    content
    symbol "\x7d"
  let items := discard (separated "," sub.keyedItem)
  let comma := skip (symbol ",")
  firstOf
    [ closed (pure ()),
      closed (do mappingRest; comma),
      closed (do items; symbol ","; mappingRest; comma),
      closed (do items; comma) ]

/-! ## Classes -/

/-- The patterns of positional attributes: the line of the first one. -/
def positionalItems (sub : Subpatterns) : Reading Nat := do
  return (← separated "," sub.pattern).headD 0

/-- The patterns of named attributes. -/
def namedItems (sub : Subpatterns) : Reading Unit := do
  discard (separated "," (do discard identifier; symbol "="; sub.pattern))

/-- The mistake of a positional attribute after a named one. -/
def classMistake (sub : Subpatterns) : Reading Unit := do
  nameOrAttribute
  symbol "("
  skip (do discard sub.positionalItems; symbol ",")
  sub.namedItems
  symbol ","
  refuse (← sub.positionalItems)

/-- A class with patterns of its attributes. -/
def ofClass (sub : Subpatterns) : Reading Unit :=
  let closed (content : Reading Unit) : Reading Unit := do
    nameOrAttribute
    symbol "("
    content
    symbol ")"
  let comma := skip (symbol ",")
  firstOf
    [ closed (pure ()),
      closed (do discard sub.positionalItems; comma),
      closed (do sub.namedItems; comma),
      closed (do discard sub.positionalItems; symbol ","; sub.namedItems; comma),
      explaining (mistakes [sub.classMistake]) ]

/-! ## Patterns -/

/-- A pattern in brackets, which starts where the pattern itself does. -/
def group (sub : Subpatterns) : Reading Nat :=
  Prod.snd <$> Nested.between "(" ")" sub.pattern

/-- A pattern without alternatives. -/
def closed (sub : Subpatterns) : Reading Nat :=
  let here (form : Reading Unit) : Reading Nat := do
    let line ← currentLine
    form
    return line
  let forms :=
    [ here sub.literal, here capture, here (word "_"), here (alone dottedName), sub.group,
      here sub.sequence, here sub.mapping, here sub.ofClass ]
  remembered (Memory.patternSlot .closed) (firstOf forms)

/-- Alternative patterns. -/
def alternatives (sub : Subpatterns) : Reading Nat := do
  let line ← currentLine
  match ← separated "|" sub.closed with
  | [alone] => return alone
  | _ => return line

/-- The mistakes in a pattern bound to a name: the name stands for anything, or is none. -/
def boundMistakes (sub : Subpatterns) : List (Reading Unit) :=
  [ do
      discard sub.alternatives
      word "as"
      refuse (← wordLine "_"),
    do
      discard sub.alternatives
      word "as"
      followsNot identifier
      refuse (← sub.nested.read .expression).line ]

/-- Alternatives, possibly bound to a name. -/
def bound (sub : Subpatterns) : Reading Nat :=
  let named := do
    let line ← currentLine
    discard sub.alternatives
    word "as"
    capture
    return line
  firstOf [named, explaining (mistakes sub.boundMistakes), sub.alternatives]

end Subpatterns

/-- Read a pattern, with patterns inside one another at most `steps` deep. -/
def readPattern (nested : Nested) : (steps : Nat) → Reading Nat
  | 0 => Reading.mismatch
  | steps + 1 => Subpatterns.bound ⟨nested, readPattern nested steps⟩

/-- The pattern of a case: a sequence without brackets or one pattern. -/
def readCasePattern (nested : Nested) : Reading Unit := do
  let sub : Subpatterns := ⟨nested, readPattern nested (bracketLimit + 1)⟩
  Reading.firstOf [sub.openSequence, discard sub.pattern]

end Stringify.Source
