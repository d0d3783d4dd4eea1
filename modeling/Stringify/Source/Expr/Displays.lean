import Stringify.Source.Expr.Nested
import Stringify.Source.Expr.Target

/-!
# Displays

What stands in brackets is a tuple, list, set or dictionary with its items, or the clauses of a
comprehension after one element. Round brackets around a single expression only group.
-/

namespace Stringify.Source.Nested

open Reading

/-! ## Comprehensions -/

/-- The target of a clause that cannot be one, if mistakes are looked for. -/
def loopTargetMistake {α : Type} (nested : Nested) : Reading α :=
  let mistake := do
    skip (word "async")
    word "for"
    let target ← nested.starExpressions
    match target.faultyTarget? .loop with
    | some faulty => refuse faulty.line
    | none => return ()
  explaining (mistakes [mistake])

/-- The rest of a clause after its target. -/
def clauseRest (nested : Nested) (isAsync : Bool) (target : Expr) : Reading Clause := do
  let iterable ← nested.read .disjunction
  let conditions ← many (do word "if"; nested.read .disjunction)
  return .mk isAsync target iterable conditions

/-- A clause of a comprehension. -/
def clause (nested : Nested) : Reading Clause :=
  let opening := do
    word "for"
    let target ← nested.targets
    word "in"
    return target
  let asyncOpening := do
    word "async"
    opening
  commit asyncOpening (nested.clauseRest true)
    (commit opening (nested.clauseRest false) nested.loopTargetMistake)

/-- The clauses of a comprehension. -/
def clauses (nested : Nested) : Reading (List Clause) :=
  oneOrMore nested.clause

/-- The mistakes in a comprehension: a starred element, or several ones without brackets. -/
def comprehensionMistakes (nested : Nested) : List (Reading Unit) :=
  [ do
      anySymbol ["[", "(", "\x7b"]
      let element ← nested.starred .expression
      discard nested.clauses
      refuse element.line,
    do
      anySymbol ["[", "\x7b"]
      let element ← nested.item
      symbol ","
      discard nested.items
      discard nested.clauses
      refuse element.line,
    do
      anySymbol ["[", "\x7b"]
      let element ← nested.item
      symbol ","
      discard nested.clauses
      refuse element.line ]

/-- A comprehension between the given brackets. -/
def comprehension (nested : Nested) (collection : Collection) (element : Reading Expr) :
    Reading Expr :=
  let whole := do
    let line ← symbolLine collection.brackets.1
    let element ← element
    let clauses ← nested.clauses
    symbol collection.brackets.2
    return .comprehension line collection element clauses
  firstOf [whole, explaining (mistakes nested.comprehensionMistakes)]

/-- A generator in its brackets. -/
def generator (nested : Nested) : Reading Expr :=
  nested.comprehension .generator (firstOf [nested.assignment, nested.unassigned])

/-! ## Round brackets -/

/-- A tuple in its brackets. -/
def tuple (nested : Nested) : Reading Expr := do
  let several := do
    let first ← nested.item
    symbol ","
    return first :: (← perhaps nested.items).getD []
  let line ← symbolLine "("
  let items ← perhaps several
  symbol ")"
  return .tuple line (items.getD [])

/-- The mistakes in a group: a starred expression, and an unpacked one. -/
def groupMistakes (nested : Nested) : List (Reading Unit) :=
  [ do
      symbol "("
      let value ← nested.starred .expression
      symbol ")"
      refuse value.line,
    do
      symbol "("
      let line ← symbolLine "**"
      discard (nested.read .expression)
      symbol ")"
      refuse line ]

/-- A single expression in brackets. -/
def group (nested : Nested) : Reading Expr :=
  let whole := do
    symbol "("
    let value ← firstOf [nested.yielded, nested.named]
    symbol ")"
    return value
  firstOf [whole, explaining (mistakes nested.groupMistakes)]

/-- What stands in round brackets. -/
def parenthesized (nested : Nested) : Reading Expr :=
  firstOf [nested.tuple, nested.group, nested.generator]

/-! ## Square brackets -/

/-- A list in its brackets. -/
def list (nested : Nested) : Reading Expr := do
  let line ← symbolLine "["
  let items ← perhaps nested.items
  symbol "]"
  return .list line (items.getD [])

/-- What stands in square brackets. -/
def listDisplay (nested : Nested) : Reading Expr :=
  firstOf [nested.list, nested.comprehension .list nested.named]

/-! ## Curly brackets -/

/-- A key with its value. -/
def keyedValue (nested : Nested) : Reading (Expr × Expr) := do
  let key ← nested.read .expression
  symbol ":"
  return (key, ← nested.read .expression)

/-- An entry of a dictionary. -/
def entry (nested : Nested) : Reading Entry :=
  let unpacked := do
    symbol "**"
    return .unpacked (← nested.read .bitOr)
  let pair := do
    let (key, value) ← nested.keyedValue
    return .pair key value
  firstOf [unpacked, pair]

/-- The mistakes in a value of an entry: a star before it, and no value at all. -/
def entryValueMistakes (nested : Nested) : List (Reading Unit) :=
  [ do
      discard (nested.read .expression)
      symbol ":"
      let line ← symbolLine "*"
      discard (nested.read .bitOr)
      refuse line,
    do
      discard (nested.read .expression)
      let line ← symbolLine ":"
      follows (anySymbol ["\x7d", ","])
      refuse line ]

/-- The mistakes in an entry of a dictionary: those in its value, and a key alone. -/
def entryMistakes (nested : Nested) : List (Reading Unit) :=
  let lonelyKey := do
    let key ← nested.read .expression
    followsNot (symbol ":")
    refuse key.line
  lonelyKey :: nested.entryValueMistakes

/-- The mistakes in a dictionary. They are looked for already when a source is read first. -/
def dictionaryMistakes (nested : Nested) : List (Reading Unit) :=
  let later := do
    discard (separated "," nested.entry)
    symbol ","
    mistakes nested.entryMistakes
  later :: nested.entryValueMistakes

/-- A dictionary in its brackets. -/
def dictionary (nested : Nested) : Reading Expr :=
  let whole := do
    let line ← symbolLine "\x7b"
    let entries ← perhaps (do
      let entries ← separated "," nested.entry
      skip (symbol ",")
      return entries)
    symbol "\x7d"
    return .dictionary line (entries.getD [])
  let faulty := do
    symbol "\x7b"
    mistakes nested.dictionaryMistakes
  firstOf [whole, faulty]

/-- A set in its brackets. -/
def set (nested : Nested) : Reading Expr := do
  let line ← symbolLine "\x7b"
  let items ← nested.items
  symbol "\x7d"
  return .set line items

/-- A comprehension of entries of a dictionary. Its element must not be unpacked. -/
def dictionaryOf (nested : Nested) : Reading Expr :=
  let whole := do
    let line ← symbolLine "\x7b"
    let (key, value) ← nested.keyedValue
    let clauses ← nested.clauses
    symbol "\x7d"
    return .dictionaryOf line key value clauses
  let unpacked := do
    symbol "\x7b"
    let line ← symbolLine "**"
    discard (nested.read .bitOr)
    discard nested.clauses
    symbol "\x7d"
    refuse line
  firstOf [whole, explaining (mistakes [unpacked])]

/-- What stands in curly brackets. -/
def braced (nested : Nested) : Reading Expr :=
  firstOf [nested.dictionary, nested.set, nested.dictionaryOf,
    nested.comprehension .set nested.named]

end Stringify.Source.Nested
