import Stringify.Text.Quoted

/-!
# UTF-8

Files hold UTF-8. Decoding is strict: overlong forms, surrogates and numbers beyond Unicode are
refused, and the refusal names the bytes that cannot belong to a character. A text with surrogates
has no encoding.
-/

namespace Stringify.Text.Utf8

/-- Why bytes are no UTF-8. -/
inductive Reason where
  | start
  | continuation
  | ended
  deriving DecidableEq, Repr

/-- The wording of a reason. -/
def Reason.message : Reason → String
  | .start => "invalid start byte"
  | .continuation => "invalid continuation byte"
  | .ended => "unexpected end of data"

/-- A refusal: `length` bytes at `position`, the first being `byte`, do not belong to a
character. -/
structure DecodeError where
  position : Nat
  length : Nat
  byte : UInt8
  reason : Reason
  deriving DecidableEq, Repr

/-- The wording of a refusal. -/
def DecodeError.message (error : DecodeError) : String :=
  let place :=
    if error.length = 1 then
      s!"byte 0x{String.ofList (hexDigits 2 error.byte.toNat)} in position {error.position}"
    else s!"bytes in position {error.position}-{error.position + error.length - 1}"
  s!"'utf-8' codec can't decode {place}: {error.reason.message}"

/-- The length of the form that a byte opens, and the range of its second byte. The range keeps out
overlong forms, surrogates and numbers beyond Unicode. -/
def form? (byte : Nat) : Option (Nat × Nat × Nat) :=
  if byte < 0xc2 then none
  else if byte < 0xe0 then some (2, 0x80, 0xbf)
  else if byte = 0xe0 then some (3, 0xa0, 0xbf)
  else if byte = 0xed then some (3, 0x80, 0x9f)
  else if byte < 0xf0 then some (3, 0x80, 0xbf)
  else if byte = 0xf0 then some (4, 0x90, 0xbf)
  else if byte < 0xf4 then some (4, 0x80, 0xbf)
  else if byte = 0xf4 then some (4, 0x80, 0x8f)
  else none

/-- The number of leading bytes, at most `count`, that can go on a form: the first within the given
range and the others any continuation bytes. -/
def continuations (low high : Nat) : (count : Nat) → List UInt8 → Nat
  | 0, _ => 0
  | _ + 1, [] => 0
  | count + 1, byte :: rest =>
    if low ≤ byte.toNat ∧ byte.toNat ≤ high then continuations 0x80 0xbf count rest + 1 else 0

/-- The code point written by a form of the given length. -/
def codeOf (length : Nat) (first : Nat) (others : List UInt8) : Nat :=
  others.foldl (fun code byte => code * 0x40 + byte.toNat % 0x40) (first % Nat.pow 2 (7 - length))

/-- Decode the bytes from `position` on; `steps` bounds the number of characters. -/
def decodeFrom : (steps position : Nat) → List UInt8 → Except DecodeError (List Char)
  | 0, _, _ => .ok []
  | _ + 1, _, [] => .ok []
  | steps + 1, position, byte :: rest =>
    if byte.toNat < 0x80 then do
      return Char.ofNat byte.toNat :: (← decodeFrom steps (position + 1) rest)
    else match form? byte.toNat with
      | none => .error ⟨position, 1, byte, .start⟩
      | some (length, low, high) =>
        let found := continuations low high (length - 1) rest
        if found = length - 1 then do
          let code := codeOf length byte.toNat (rest.take found)
          return Char.ofNat code :: (← decodeFrom steps (position + length) (rest.drop found))
        else if rest.length = found then .error ⟨position, found + 1, byte, .ended⟩
        else .error ⟨position, found + 1, byte, .continuation⟩

/-- The characters that the bytes encode. -/
def decode (bytes : List UInt8) : Except DecodeError (List Char) :=
  decodeFrom bytes.length 0 bytes

/-- The first surrogates of a text: how many there are in a row, where, and the first of them. -/
structure EncodeError where
  position : Nat
  length : Nat
  first : CodePoint
  deriving DecidableEq, Repr

/-- The wording of a refusal to encode. -/
def EncodeError.message (error : EncodeError) : String :=
  let place :=
    if error.length = 1 then
      s!"character '{String.ofList (numberedEscape error.first.val)}' in position {error.position}"
    else s!"characters in position {error.position}-{error.position + error.length - 1}"
  s!"'utf-8' codec can't encode {place}: surrogates not allowed"

/-- The characters of a text, unless it has surrogates. -/
def characters (text : Text) : Except EncodeError (List Char) :=
  match text.toChars? with
  | some chars => .ok chars
  | none =>
    let before := text.takeWhile (!·.isSurrogate)
    let surrogates := (text.drop before.length).takeWhile (·.isSurrogate)
    .error ⟨before.length, surrogates.length, surrogates.headD ⟨0xd800, by decide⟩⟩

end Stringify.Text.Utf8
