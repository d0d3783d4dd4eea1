import Stringify.Text.Hexadecimal
import Stringify.Text.NameTable

/-!
# Character names

`codeOfName?` finds the character of a name. The names of ideographs and of syllables of Hangul are
made from their codes and their sounds and must be written in capitals; all others are looked up in
tables, whatever the case of their letters.
-/

namespace Stringify.Text

/-! ## Names in tables -/

/-- A name cut after each blank and each hyphen. -/
def nameWords : List Char → List (List Char)
  | [] => []
  | c :: rest =>
    if c == ' ' || c == '-' then [c] :: nameWords rest
    else match nameWords rest with
      | [] => [[c]]
      | first :: others => (c :: first) :: others

/-- The number of words that two names have in common from the first on. -/
def commonWords : List (List Char) → List (List Char) → Nat
  | left :: lefts, right :: rights => if left == right then commonWords lefts rights + 1 else 0
  | _, _ => 0

/-- Whether a character belongs to an entry of a table of names. -/
def isEntryChar (c : Char) : Bool :=
  c != ';' && c != '\n'

/-- An entry with a name: the number of words that it leaves out, and the other words. -/
def nameEntry : List Char → Nat × List (List Char)
  | [] => (0, [])
  | c :: rest =>
    if c.isLower then (c.toNat - 'a'.toNat + 1, nameWords rest) else (0, nameWords (c :: rest))

/-- The code of a name in the rest of a table, where `code` belongs to the next name, and the name
before it has its first `matched` words in common with the one that is looked for. -/
def searchNames (wanted : List (List Char)) : (steps : Nat) → List Char → (code matched : Nat) →
    Option Nat
  | 0, _, _, _ => none
  | steps + 1, chars, code, matched =>
    let (entry, rest) := (chars.dropWhile fun c => !isEntryChar c || c == ' ').span isEntryChar
    match entry with
    | [] => none
    | '@' :: digits =>
      searchNames wanted steps rest ((readDigits hexValue? 16 digits).getD 0) matched
    | entry =>
      let (known, own) := nameEntry entry
      if matched < known then searchNames wanted steps rest (code + 1) matched
      else
        let found := known + commonWords own (wanted.drop known)
        if found = known + own.length && found = wanted.length then some code
        else searchNames wanted steps rest (code + 1) found

/-- The code of a name in a table. -/
@[noinline]
def lookUpName (table : String) (name : List Char) : Option Nat :=
  let chars := table.toList
  searchNames (nameWords (name.map Char.toUpper)) (chars.length + 1) chars 0 0

/-! ## Names of ideographs -/

/-- The first and the last code of each range of ideographs. -/
def ideographRanges : List (Nat × Nat) :=
  [(0x3400, 0x4dbf), (0x4e00, 0x9fff), (0x20000, 0x2a6df), (0x2a700, 0x2b738), (0x2b740, 0x2b81d),
   (0x2b820, 0x2cea1), (0x2ceb0, 0x2ebe0), (0x30000, 0x3134a)]

/-- The value of a hexadecimal digit that is no small letter. -/
def capitalHexValue? (c : Char) : Option Nat :=
  if c.isLower then none else hexValue? c

/-- The code of an ideograph, which is also the end of its name. -/
def ideographCode? (digits : List Char) : Option Nat := do
  if digits.length ≠ 4 ∧ digits.length ≠ 5 then none
  let code ← readDigits capitalHexValue? 16 digits
  if ideographRanges.any fun (first, last) => first ≤ code && code ≤ last then some code else none

/-! ## Names of syllables -/

/-- The sounds that a syllable may begin with. -/
def initialSounds : List String :=
  ["G", "GG", "N", "D", "DD", "R", "M", "B", "BB", "S", "SS", "", "J", "JJ", "C", "K", "T", "P",
   "H"]

/-- The sounds in the middle of a syllable. -/
def medialSounds : List String :=
  ["A", "AE", "YA", "YAE", "EO", "E", "YEO", "YE", "O", "WA", "WAE", "OE", "YO", "U", "WEO", "WE",
   "WI", "YU", "EU", "YI", "I"]

/-- The sounds that a syllable may end with. -/
def finalSounds : List String :=
  ["", "G", "GG", "GS", "N", "NJ", "NH", "D", "L", "LG", "LM", "LB", "LS", "LT", "LP", "LH", "M",
   "B", "BS", "S", "SS", "NG", "J", "C", "K", "T", "P", "H"]

/-- The place of the longest of some sounds that a spelling opens with, and the rest of it. -/
def longestSound (sounds : List String) (spelling : List Char) : Option (Nat × List Char) :=
  let fitting := sounds.zipIdx.filter fun (sound, _) => sound.toList.isPrefixOf spelling
  let longest := fitting.foldl (fun best next =>
    if best.any (next.1.length ≤ ·.1.length) then best else some next) none
  longest.map fun (sound, place) => (place, spelling.drop sound.length)

/-- The code of a syllable with the given sounds. -/
def syllableCode? (spelling : List Char) : Option Nat := do
  let (initial, spelling) ← longestSound initialSounds spelling
  let (medial, spelling) ← longestSound medialSounds spelling
  let (final, spelling) ← longestSound finalSounds spelling
  if !spelling.isEmpty then none
  return 0xac00 + (initial * 21 + medial) * 28 + final

/-! ## All names -/

/-- The code of the character with the given name. -/
def codeOfName? (name : List Char) : Option Nat :=
  let syllable := "HANGUL SYLLABLE ".toList
  let ideograph := "CJK UNIFIED IDEOGRAPH-".toList
  if syllable.isPrefixOf name then syllableCode? (name.drop syllable.length)
  else if ideograph.isPrefixOf name then ideographCode? (name.drop ideograph.length)
  else (lookUpName nameTable name).or (lookUpName aliasTable name)

end Stringify.Text
