import ResponseTypes.Json.Number

/-!
# White space, words and strings of JSON documents

The parts of a document that hold no other values.  A string is read as bytes, with its escapes
resolved, and has to be UTF-8 as a whole.

## Main definitions

- `Json.skipBlank`: the bytes after white space.
- `Json.word`: reads the letters of `null`, `true` or `false`.
- `Json.text`: reads a string after its opening quote.
-/

namespace ResponseTypes
namespace Json

/-- The white space of JSON. -/
def isBlank (b : UInt8) : Bool :=
  b == 32 || b == 10 || b == 9 || b == 13

/-- The bytes after white space. -/
def skipBlank (bytes : Bytes) : Bytes :=
  bytes.dropWhile isBlank

/-- Reads given letters. -/
def word : List Char → Bytes → Except Fault Bytes
  | [], bytes => .ok bytes
  | _ :: _, [] => stop .endInValue []
  | c :: rest, b :: bytes =>
    if Char.ofUInt8 b = c then word rest bytes else stop .wantsWord bytes

/-! ## Escapes -/

/-- The value of a hexadecimal digit. -/
def hexValue? (b : UInt8) : Option Nat :=
  if isDigit b then some (digitValue b)
  else if 97 ≤ b && b ≤ 102 then some (b.toNat - 87)
  else if 65 ≤ b && b ≤ 70 then some (b.toNat - 55)
  else none

/-- Four hexadecimal digits. -/
def hexEscape : Bytes → Except Fault (Nat × Bytes)
  | a :: b :: c :: d :: rest =>
    match hexValue? a, hexValue? b, hexValue? c, hexValue? d with
    | some a, some b, some c, some d => .ok (((a * 16 + b) * 16 + c) * 16 + d, rest)
    | _, _, _, _ => stop .badEscape rest
  | _ => stop .endInString []

/-- A given letter between the halves of a surrogate pair. -/
def pairLetter (letter : Char) : Bytes → Except Fault Bytes
  | [] => stop .endInString []
  | b :: rest => if Char.ofUInt8 b = letter then .ok rest else stop .endOfHexEscape rest

/-- The UTF-8 bytes of a code point. -/
def utf8 (codePoint : Nat) : Bytes :=
  String.utf8EncodeChar (Char.ofNat codePoint)

/-- A code point after `\u`, which takes a second escape when the first is a leading surrogate. -/
def codePoint (bytes : Bytes) : Except Fault (Nat × Bytes) := do
  let (first, bytes) ← hexEscape bytes
  if 0xDC00 ≤ first ∧ first ≤ 0xDFFF then stop .unpairedSurrogate bytes
  else if first < 0xD800 ∨ 0xDBFF < first then return (first, bytes)
  else
    let bytes ← pairLetter 'u' (← pairLetter '\\' bytes)
    let (second, bytes) ← hexEscape bytes
    if second < 0xDC00 ∨ 0xDFFF < second then stop .unpairedSurrogate bytes
    else return ((first - 0xD800) * 0x400 + (second - 0xDC00) + 0x10000, bytes)

/-- The byte of a short escape. -/
def shortEscape? : Char → Option UInt8
  | '"' => some 34
  | '\\' => some 92
  | '/' => some 47
  | 'b' => some 8
  | 'f' => some 12
  | 'n' => some 10
  | 'r' => some 13
  | 't' => some 9
  | _ => none

/-- What follows a backslash, as bytes. -/
def escape : Bytes → Except Fault (Bytes × Bytes)
  | [] => stop .endInString []
  | b :: rest =>
    match shortEscape? (Char.ofUInt8 b) with
    | some byte => .ok ([byte], rest)
    | none =>
      if Char.ofUInt8 b = 'u' then do
        let (n, rest) ← codePoint rest
        return (utf8 n, rest)
      else stop .badEscape rest

/-! ## Strings -/

/-- The bytes of a string up to its closing quote.  Every byte of the string takes a unit of fuel,
so the length of the text is enough. -/
def stringBytes : Nat → Bytes → Except Fault (Bytes × Bytes)
  | 0, _ => stop .endInString []
  | _ + 1, [] => stop .endInString []
  | fuel + 1, b :: rest =>
    if b = 34 then .ok ([], rest)
    else if b = 92 then do
      let (piece, rest) ← escape rest
      let (more, rest) ← stringBytes fuel rest
      return (piece ++ more, rest)
    else if b < 32 then stop .controlCharacter rest
    else do
      let (more, rest) ← stringBytes fuel rest
      return (b :: more, rest)

/-- The text of bytes in UTF-8. -/
def textOf? (bytes : Bytes) : Option String :=
  String.fromUTF8? ⟨bytes.toArray⟩

/-- A string after its opening quote.  Its bytes are looked at as a text before the closing quote is
passed. -/
def text (bytes : Bytes) : Except Fault (String × Bytes) := do
  let (content, rest) ← stringBytes bytes.length bytes
  match textOf? content with
  | some s => return (s, rest)
  | none => stop .notUtf8 (34 :: rest)

end Json
end ResponseTypes
