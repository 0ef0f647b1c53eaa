import ResponseTypes.Json.Fault
import ResponseTypes.Json.Value

/-!
# Numbers of JSON documents

A number without point and exponent is an integer when it fits 64 bits, with or without sign.
Any other number is a double: its digits are taken into a significand of 64 bits as long as they
fit, later digits only move the point, and the significand is scaled by a power of ten in double
arithmetic.  The result is therefore not always the nearest double.

## Main definitions

- `Json.number`: reads a number.
- `Json.scaled?`: a significand scaled by a power of ten.
-/

namespace ResponseTypes
namespace Json

/-- A fault at the present position. -/
def stop {α : Type} (problem : Problem) (bytes : Bytes) : Except Fault α :=
  .error { problem, left := bytes.length }

/-- A fault at the position after the next byte, if there is one. -/
def stopAfter {α : Type} (problem : Problem) (bytes : Bytes) : Except Fault α :=
  .error { problem, left := bytes.length - 1 }

/-- The ASCII digits. -/
def isDigit (b : UInt8) : Bool :=
  48 ≤ b && b ≤ 57

/-- The value of a digit. -/
def digitValue (b : UInt8) : Nat :=
  b.toNat - 48

/-- One more digit at the end of a significand. -/
def shiftIn (significand : Nat) (b : UInt8) : Nat :=
  significand * 10 + digitValue b

/-- The digits that a significand of 64 bits has room for: the significand after them, their number,
and the bytes that follow. -/
def takeDigits (significand : Nat) : Bytes → Nat × Nat × Bytes
  | [] => (significand, 0, [])
  | b :: rest =>
    if isDigit b && decide (shiftIn significand b < 0x10000000000000000) then
      let (s, n, rest) := takeDigits (shiftIn significand b) rest
      (s, n + 1, rest)
    else (significand, 0, b :: rest)

/-- The bytes after a run of digits. -/
def skipDigits (bytes : Bytes) : Bytes :=
  bytes.dropWhile isDigit

/-- Whether the next byte is a digit. -/
def startsWithDigit (bytes : Bytes) : Bool :=
  bytes.head?.any isDigit

/-! ## Scaling -/

/-- A significand as a double. -/
def ofSignificand (significand : Nat) : Float :=
  (UInt64.ofNat significand).toFloat

/-- A power of ten as a double. -/
def powerOfTen (n : Nat) : Float :=
  Float.ofScientific 1 false n

/-- A double divided by `10 ^ n`, by at most `10 ^ 308` at a time, so that it reaches zero rather
than a divisor that is not finite. -/
def scaleDown (x : Float) (n : Nat) : Float :=
  if n ≤ 308 then x / powerOfTen n
  else if x == 0 then x
  else scaleDown (x / powerOfTen 308) (n - 308)
termination_by n

/-- A significand scaled by a power of ten, unless it becomes too large. -/
def scaled? (significand : Nat) (exponent : Int) : Option Float :=
  let x := ofSignificand significand
  match exponent with
  | .negSucc e => some (scaleDown x (e + 1))
  | .ofNat e =>
    if e ≤ 308 then
      let y := x * powerOfTen e
      if y.isInf then none else some y
    else if significand = 0 then some x
    else none

/-- A double with its sign. -/
def signed (negative : Bool) (x : Float) : Float :=
  if negative then -x else x

/-- The double that has been read, if it is not too large. -/
def double? (negative : Bool) (significand : Nat) (exponent : Int) (rest : Bytes) :
    Except Fault (Json × Bytes) :=
  match scaled? significand exponent with
  | some x => .ok (.double (signed negative x), rest)
  | none => stop .numberTooLarge rest

/-! ## Reading -/

/-- The greatest exponent that is still counted. -/
def exponentLimit : Nat := 0x7fffffff

/-- The digits of an exponent, as long as it can be counted: the exponent after them, and the bytes
that follow. -/
def takeExponent (exponent : Nat) : Bytes → Nat × Bytes
  | [] => (exponent, [])
  | b :: rest =>
    if isDigit b && decide (shiftIn exponent b ≤ exponentLimit) then
      takeExponent (shiftIn exponent b) rest
    else (exponent, b :: rest)

/-- The sign of an exponent, and the bytes that follow. -/
def exponentSign : Bytes → Bool × Bytes
  | [] => (false, [])
  | b :: rest =>
    match Char.ofUInt8 b with
    | '+' => (false, rest)
    | '-' => (true, rest)
    | _ => (false, b :: rest)

/-- An exponent after its mark.  `exponent` is what the digits before have made of it. -/
def afterMark (negative : Bool) (significand : Nat) (exponent : Int) (bytes : Bytes) :
    Except Fault (Json × Bytes) :=
  let (down, bytes) := exponentSign bytes
  match bytes with
  | [] => stop .endInValue []
  | b :: rest =>
    if isDigit b then
      let (e, rest) := takeExponent (digitValue b) rest
      if startsWithDigit rest then
        if significand != 0 && !down then stop .numberTooLarge (rest.drop 1)
        else .ok (.double (signed negative 0), skipDigits rest)
      else double? negative significand (exponent + if down then -(e : Int) else e) rest
    else stop .badNumber rest

/-- An exponent, if there is one, and then the end of the number. -/
def afterDigits (negative : Bool) (significand : Nat) (exponent : Int) (bytes : Bytes) :
    Except Fault (Json × Bytes) :=
  match bytes with
  | [] => double? negative significand exponent []
  | b :: rest =>
    if b = 101 || b = 69 then afterMark negative significand exponent rest
    else double? negative significand exponent (b :: rest)

/-- The digits after a point, which must be there unless the significand has no room for more. -/
def afterPoint (negative : Bool) (significand : Nat) (exponent : Int) (bytes : Bytes) :
    Except Fault (Json × Bytes) :=
  let (s, n, rest) := takeDigits significand bytes
  if startsWithDigit rest then afterDigits negative s (exponent - n) (skipDigits rest)
  else if n = 0 then stopAfter (if rest.isEmpty then .endInValue else .badNumber) rest
  else afterDigits negative s (exponent - n) rest

/-- An integer of 64 bits, or its double if it does not fit; zero with a minus sign is a double. -/
def integerOrDouble (negative : Bool) (n : Nat) : Json :=
  if !negative then .integer n
  else if n = 0 || n > 0x8000000000000000 then .double (-ofSignificand n)
  else .integer (-n)

/-- What follows the digits before a point.  `beyond` counts the digits that the significand has no
room for. -/
def afterWhole (negative : Bool) (significand beyond : Nat) (overflow : Bool) (bytes : Bytes) :
    Except Fault (Json × Bytes) :=
  let whole : Except Fault (Json × Bytes) :=
    if overflow then double? negative significand beyond bytes
    else .ok (integerOrDouble negative significand, bytes)
  match bytes with
  | [] => whole
  | b :: rest =>
    if b = 46 then afterPoint negative significand beyond rest
    else if b = 101 || b = 69 then afterMark negative significand beyond rest
    else whole

/-- A number without its sign. -/
def number (negative : Bool) (bytes : Bytes) : Except Fault (Json × Bytes) :=
  match bytes with
  | [] => stop .endInValue []
  | b :: rest =>
    if b = 48 then
      if startsWithDigit rest then stopAfter .badNumber rest
      else afterWhole negative 0 0 false rest
    else if isDigit b then
      let (s, _, rest) := takeDigits (digitValue b) rest
      let after := skipDigits rest
      afterWhole negative s (rest.length - after.length) (startsWithDigit rest) after
    else stop .badNumber rest

end Json
end ResponseTypes
