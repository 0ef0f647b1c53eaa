import ResponseTypes.Filter.Datum
import ResponseTypes.Json.Reader

/-!
# Reading values from texts

A filter can read the JSON text in a string.  Numbers keep their digits, and there is no limit to
the nesting other than the length of the text.

## Main definitions

- `Datum.ofText?`: the value that makes up a text.
-/

namespace ResponseTypes
namespace Datum

open Json (Fault skipBlank stop)

/-! ## Numbers -/

/-- The digits at the front of bytes, of which there must be one. -/
def digits (bytes : Bytes) : Except Fault (Bytes × Bytes) :=
  match bytes.takeWhile Json.isDigit with
  | [] => stop .badNumber bytes
  | ds => .ok (ds, bytes.dropWhile Json.isDigit)

/-- The digits before a point.  A zero stands alone. -/
def wholeDigits : Bytes → Except Fault (Bytes × Bytes)
  | 48 :: rest => .ok ([48], rest)
  | bytes => digits bytes

/-- The point and the digits after it, if there is one. -/
def fractionDigits : Bytes → Except Fault (Bytes × Bytes)
  | 46 :: rest => do
    let (ds, rest) ← digits rest
    return (46 :: ds, rest)
  | bytes => .ok ([], bytes)

/-- The mark of an exponent with the sign and digits after it, if there is one. -/
def exponentDigits : Bytes → Except Fault (Bytes × Bytes)
  | [] => .ok ([], [])
  | mark :: rest =>
    if mark = 101 || mark = 69 then do
      let (sign, rest) : Bytes × Bytes := match rest with
        | 43 :: rest => ([43], rest)
        | 45 :: rest => ([45], rest)
        | rest => ([], rest)
      let (ds, rest) ← digits rest
      return (mark :: sign ++ ds, rest)
    else .ok ([], mark :: rest)

/-- A number without its sign, as it is written. -/
def writtenNumber (sign : Bytes) (bytes : Bytes) : Except Fault (Datum × Bytes) := do
  let (whole, rest) ← wholeDigits bytes
  let (fraction, rest) ← fractionDigits rest
  let (exponent, rest) ← exponentDigits rest
  let written := sign ++ whole ++ fraction ++ exponent
  return (ofNumeral (String.ofList (written.map Char.ofUInt8)), rest)

/-! ## Values -/

/-- A value at the front of bytes.  Every value inside another one is shorter, so the length of the
text is fuel enough. -/
def readValue : Nat → Bytes → Except Fault (Datum × Bytes)
  | 0, bytes => stop .endInValue bytes
  | fuel + 1, bytes =>
    match skipBlank bytes with
    | [] => stop .endInValue []
    | b :: rest =>
      match Char.ofUInt8 b with
      | 'n' => do return (null, ← Json.word "ull".toList rest)
      | 't' => do return (boolean true, ← Json.word "rue".toList rest)
      | 'f' => do return (boolean false, ← Json.word "alse".toList rest)
      | '-' => writtenNumber [b] rest
      | '"' => do
        let (s, rest) ← Json.text rest
        return (text s, rest)
      | '[' => do
        let (items, rest) ← Json.arrayItems (readValue fuel) true 0 (rest.length + 1) rest
        return (array items, rest)
      | '{' => do
        let (entries, rest) ← Json.objectEntries (readValue fuel) true (rest.length + 1) rest
        return (object (Keyed.ofList entries), rest)
      | _ => writtenNumber [] (b :: rest)

/-- The value that makes up a text, with white space around it. -/
def ofText? (s : String) : Option Datum :=
  let bytes := s.toUTF8.toList
  match readValue (bytes.length + 1) bytes with
  | .ok (value, rest) => if (skipBlank rest).isEmpty then some value else none
  | .error _ => none

end Datum
end ResponseTypes
