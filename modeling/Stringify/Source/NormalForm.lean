import Stringify.Source.NormalFormTable
import Stringify.Source.Number
import Stringify.Text.Hexadecimal

/-!
# Normal forms of identifiers

Identifiers that look the same are the same: what counts is the normal form NFKC of Unicode 14. The
characters of a word are decomposed as far as possible, the marks behind each character are put in
order, and then each character is composed with as many of its marks as possible. Words of ASCII
characters are in normal form.
-/

namespace Stringify.Source

namespace NormalForm

/-! ## Tables -/

/-- The codes on one side of an entry, which a plus sign or a hyphen separates. -/
def codesOf (side : List Char) : List Nat :=
  (Text.cutAt (fun c => c == '+' || c == '-') side).map fun digits =>
    (Text.readDigits Text.hexValue? 16 digits).getD 0

/-- The two sides of an entry. -/
def entryOf (entry : List Char) : List Nat × List Nat :=
  let (left, right) := entry.span (· != '=')
  (codesOf left, codesOf (right.drop 1))

/-- The entries of a table. -/
def entriesOf (table : String) : List (List Nat × List Nat) :=
  let entries := Text.cutAt (fun c => c == ' ' || c == '\n') table.toList
  (entries.filter (!·.isEmpty)).map entryOf

/-- The decompositions of characters and of ranges of characters. -/
def decompositions : List (List Nat × List Nat) :=
  entriesOf decompositionTable

/-- The classes of marks and of ranges of marks. -/
def marks : List (List Nat × List Nat) :=
  entriesOf markTable

/-- The pairs that compose. -/
def compositions : List (List Nat × List Nat) :=
  entriesOf compositionTable

/-- What an entry for a code or for a range gives for a code: along a range it rises if `rises`
says so. -/
def given? (entries : List (List Nat × List Nat)) (rises : Bool) (code : Nat) :
    Option (List Nat) := do
  let (range, given) ← entries.find? fun (range, _) =>
    range.headD 0 ≤ code && code ≤ range.getLastD 0
  return if rises then given.map (· + (code - range.headD 0)) else given

/-- The character of a code, if it may go on a word. -/
def wordChar? (code : Nat) : Option Char :=
  let c := Char.ofNat code
  if Number.mayExtendWord c then some c else none

/-! ## Decompositions -/

/-- The first of the syllables of Hangul, which are in the order of their parts. -/
def firstSyllable : Nat := 0xac00

/-- The parts of a syllable of Hangul: its sounds at the beginning, in the middle and, if there is
one, at the end. -/
def syllableParts (syllable : Nat) : List Nat :=
  let place := syllable - firstSyllable
  let ending := if place % 28 = 0 then [] else [0x11a7 + place % 28]
  [0x1100 + place / 588, 0x1161 + place % 588 / 28] ++ ending

/-- The codes that a code decomposes to. -/
def decomposition? (code : Nat) : Option (List Nat) :=
  if firstSyllable ≤ code && code < firstSyllable + 19 * 588 then some (syllableParts code)
  else given? decompositions true code

/-- The characters that a character decomposes to, or the character itself. -/
def decompose (c : Char) : List Char :=
  match (decomposition? c.toNat).bind (·.mapM wordChar?) with
  | some (first :: others) => first :: others
  | _ => [c]

/-! ## Marks -/

/-- The class of a mark, and zero for any other character. -/
def markClass (c : Char) : Nat :=
  match given? marks false c.toNat with
  | some (number :: _) => number
  | _ => 0

/-- Put a character in front of ordered ones. A mark goes behind marks of smaller classes. -/
def insertMark (c : Char) : List Char → List Char
  | [] => [c]
  | other :: rest =>
    if 0 < markClass other && markClass other < markClass c then other :: insertMark c rest
    else c :: other :: rest

/-- Put the marks behind each character in the order of their classes. -/
def orderMarks (chars : List Char) : List Char :=
  chars.foldr insertMark []

/-! ## Compositions -/

/-- The syllable of Hangul of two codes: of sounds at the beginning and in the middle, or of a
syllable without a sound at the end and such a sound. -/
def syllable? (first second : Nat) : Option Nat :=
  if 0x1100 ≤ first && first < 0x1100 + 19 && 0x1161 ≤ second && second < 0x1161 + 21 then
    some (firstSyllable + ((first - 0x1100) * 21 + (second - 0x1161)) * 28)
  else if firstSyllable ≤ first && first < firstSyllable + 19 * 588
      && (first - firstSyllable) % 28 = 0 && 0x11a7 < second && second < 0x11a7 + 28 then
    some (first + (second - 0x11a7))
  else none

/-- The code that two codes compose to. -/
def composition? (first second : Nat) : Option Nat :=
  (syllable? first second).or do
    let (_, composed) ← compositions.find? (·.1 == [first, second])
    composed.head?

/-- The character that two characters compose to. -/
def compose? (first second : Char) : Option Char :=
  (composition? first.toNat second.toNat).bind wordChar?

/-- Compose a character with those behind it, where `kept` are the marks between them that do not
compose, the latest first. A mark is not reached across another one of its class or a greater one,
and any other character is not reached across a mark. -/
def composeFrom (c : Char) (kept : List Char) : List Char → List Char
  | [] => c :: kept.reverse
  | next :: rest =>
    let isReached := kept.head?.all fun last => markClass last < markClass next
    match if isReached then compose? c next else none with
    | some composed => composeFrom composed kept rest
    | none =>
      if markClass next = 0 then c :: kept.reverse ++ composeFrom next [] rest
      else composeFrom c (next :: kept) rest

/-- Compose characters with the marks behind them. -/
def compose : List Char → List Char
  | [] => []
  | c :: rest => composeFrom c [] rest

end NormalForm

/-- The normal form of a word. -/
def normalForm (word : String) : String :=
  let chars := word.toList
  if chars.all (·.toNat < 0x80) then word
  else
    let parts := chars.flatMap NormalForm.decompose
    String.ofList (NormalForm.compose (NormalForm.orderMarks parts))

end Stringify.Source
