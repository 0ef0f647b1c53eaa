import ResponseTypes.Json.Scan

/-!
# Values that are passed over

A value that nobody asked for is still checked, though less strictly than one that is kept: its
strings need not be UTF-8, its numbers may be of any size, and it may be nested to any depth.  The
open brackets are kept in a list, so that depth costs nothing.

## Main definitions

- `Json.skipValue`: the bytes after a value.
-/

namespace ResponseTypes
namespace Json

/-- The bytes after an escape of a string that is passed over. -/
def skipEscape : Bytes → Except Fault Bytes
  | [] => stop .endInString []
  | b :: rest =>
    if (shortEscape? (Char.ofUInt8 b)).isSome then .ok rest
    else if Char.ofUInt8 b = 'u' then (hexEscape rest).map (·.2)
    else stop .badEscape rest

/-- The bytes after a string that is passed over, whose opening quote has been read. -/
def skipString : Nat → Bytes → Except Fault Bytes
  | 0, _ => stop .endInString []
  | _ + 1, [] => stop .endInString []
  | fuel + 1, b :: rest =>
    if b = 34 then .ok rest
    else if b = 92 then do skipString fuel (← skipEscape rest)
    else if b < 32 then stop .controlCharacter rest
    else skipString fuel rest

/-- The bytes after an exponent whose mark has been read. -/
def skipExponent (bytes : Bytes) : Except Fault Bytes :=
  match (exponentSign bytes).2 with
  | [] => stop .badNumber []
  | b :: rest => if isDigit b then .ok (skipDigits rest) else stop .badNumber rest

/-- The bytes after an exponent, if there is one. -/
def skipMark : Bytes → Except Fault Bytes
  | [] => .ok []
  | b :: rest => if b = 101 || b = 69 then skipExponent rest else .ok (b :: rest)

/-- The bytes after what may follow the digits before a point. -/
def skipFraction : Bytes → Except Fault Bytes
  | [] => .ok []
  | b :: rest =>
    if b = 46 then
      if startsWithDigit rest then skipMark (skipDigits rest) else stopAfter .badNumber rest
    else skipMark (b :: rest)

/-- The bytes after a number without its sign. -/
def skipNumber : Bytes → Except Fault Bytes
  | [] => stop .badNumber []
  | b :: rest =>
    if b = 48 then
      if startsWithDigit rest then stopAfter .badNumber rest else skipFraction rest
    else if isDigit b then skipFraction (skipDigits rest)
    else stop .badNumber rest

/-- An open bracket. -/
inductive Bracket where
  | array
  | object
deriving DecidableEq, Repr

/-- The start of a value: either the bytes after a value without others in it, or the bracket that
opens one. -/
def skipStart (bytes : Bytes) : Except Fault (Option Bracket × Bytes) :=
  match skipBlank bytes with
  | [] => stop .endInValue []
  | b :: rest =>
    match Char.ofUInt8 b with
    | 'n' => (word "ull".toList rest).map (none, ·)
    | 't' => (word "rue".toList rest).map (none, ·)
    | 'f' => (word "alse".toList rest).map (none, ·)
    | '-' => (skipNumber rest).map (none, ·)
    | '"' => (skipString rest.length rest).map (none, ·)
    | '[' => .ok (some .array, rest)
    | '{' => .ok (some .object, rest)
    | _ =>
      if isDigit b then (skipNumber (b :: rest)).map (none, ·)
      else stopAfter .wantsValue (b :: rest)

/-- The bytes after a key of an object and its colon. -/
def skipKey (bytes : Bytes) : Except Fault Bytes :=
  match skipBlank bytes with
  | [] => stop .endInObject []
  | b :: rest =>
    if b = 34 then do
      match skipBlank (← skipString rest.length rest) with
      | [] => stop .endInObject []
      | c :: rest => if c = 58 then .ok rest else stopAfter .wantsColon (c :: rest)
    else stopAfter .wantsKey (b :: rest)

/-- After a value, or after an opening bracket if `first`: closes brackets, and finds the start of
the next value.  The brackets still open come with the bytes; none are left when the value that was
to be passed over is complete. -/
def skipClosing (first : Bool) : List Bracket → Nat → Bytes → Except Fault (List Bracket × Bytes)
  | [], _, bytes => .ok ([], bytes)
  | _, 0, _ => stop .endInValue []
  | bracket :: others, fuel + 1, bytes =>
    let enter := fun bytes => do
      match bracket with
      | .array => return (bracket :: others, bytes)
      | .object => return (bracket :: others, ← skipKey bytes)
    match skipBlank bytes, bracket with
    | [], .array => stop .endInArray []
    | [], .object => stop .endInObject []
    | b :: rest, bracket =>
      if Char.ofUInt8 b = ',' ∧ !first then enter rest
      else if Char.ofUInt8 b = (match bracket with | .array => ']' | .object => '}') then
        skipClosing false others fuel rest
      else if first then enter (b :: rest)
      else stopAfter (match bracket with
        | .array => .wantsCommaOrBracket
        | .object => .wantsCommaOrBrace) (b :: rest)

/-- Passes over values until no bracket is open. -/
def skipOpen : Nat → List Bracket → Bytes → Except Fault Bytes
  | 0, _, _ => stop .endInValue []
  | fuel + 1, brackets, bytes => do
    let (opened, rest) ← skipStart bytes
    let (brackets, rest) ← match opened with
      | some bracket => skipClosing true (bracket :: brackets) (rest.length + 1) rest
      | none => skipClosing false brackets (rest.length + 1) rest
    if brackets.isEmpty then .ok rest else skipOpen fuel brackets rest

/-- The bytes after a value. -/
def skipValue (bytes : Bytes) : Except Fault Bytes :=
  skipOpen (bytes.length + 1) [] bytes

end Json
end ResponseTypes
