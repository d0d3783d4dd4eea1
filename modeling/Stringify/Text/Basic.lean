/-!
# Texts

A text is a list of Unicode code points. Unlike a `String` it may hold surrogates that stand alone,
which escapes in quoted texts and documents can produce.
-/

namespace Stringify

/-- A Unicode code point, surrogates included. -/
abbrev CodePoint := Fin 0x110000

/-- A sequence of code points. -/
abbrev Text := List CodePoint

namespace CodePoint

/-- The code point of a character. -/
def ofChar (c : Char) : CodePoint :=
  ⟨c.toNat, by
    have valid := c.valid
    simp only [UInt32.isValidChar, Nat.isValidChar] at valid
    simp only [Char.toNat]
    omega⟩

/-- The code point of the null character. -/
def null : CodePoint := ofChar '\x00'

/-- The code point with the given number, if there is one. -/
def ofNat? (code : Nat) : Option CodePoint :=
  if inRange : code < 0x110000 then some ⟨code, inRange⟩ else none

/-- Whether a code point is one half of a surrogate pair, and so no character. -/
def isSurrogate (code : CodePoint) : Bool :=
  0xd800 ≤ code.val && code.val < 0xe000

/-- The character of a code point that is not a surrogate. -/
def toChar? (code : CodePoint) : Option Char :=
  if valid : code.val.isValidChar then some (Char.ofNatAux code.val valid) else none

end CodePoint

namespace Text

/-- The code points of a string. -/
def ofString (string : String) : Text :=
  string.toList.map CodePoint.ofChar

/-- A string stands for the text of its code points. -/
instance : Coe String Text := ⟨ofString⟩

/-- The characters of a text without surrogates. -/
def toChars? (text : Text) : Option (List Char) :=
  text.mapM CodePoint.toChar?

/-- Texts are ordered by their first differing code points, and a text comes after its initial
segments. -/
def before (left right : Text) : Bool :=
  match left, right with
  | _, [] => false
  | [], _ :: _ => true
  | a :: left, b :: right => if a = b then before left right else a.val < b.val

/-- Characters cut at each separator. -/
def cutAt (separates : Char → Bool) : List Char → List (List Char)
  | [] => [[]]
  | c :: rest =>
    match cutAt separates rest with
    | [] => [[c]]
    | first :: others => if separates c then [] :: first :: others else (c :: first) :: others

end Text

end Stringify
