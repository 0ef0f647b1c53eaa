import ResponseTypes.DateShape
import ResponseTypes.Toml.Value

/-!
# Strings, numbers and times of TOML

The values of a document that hold no others.  Each reader takes its value from the front of a text
and leaves the rest, or refuses.

## Main definitions

- `Toml.readString`: strings in their four forms.
- `Toml.readNumber`: times, floats and integers.
-/

namespace ResponseTypes
namespace Toml

open DateShape (isDigit)

/-- Reads something from the front of a text and leaves the rest. -/
abbrev Reads (α : Type) := List Char → Option (α × List Char)

/-- The rest after given characters. -/
def after? : List Char → List Char → Option (List Char)
  | [], s => some s
  | c :: cs, d :: s => if c = d then after? cs s else none
  | _ :: _, [] => none

/-- Characters that may stand for themselves.  Control characters may not, except the tab. -/
def isPlain (c : Char) : Bool :=
  c == '\t' || (' ' ≤ c && c.toNat != 0x7F)

/-- White space within a line. -/
def isSpace (c : Char) : Bool :=
  c == ' ' || c == '\t'

/-- The rest after white space within a line. -/
def skipSpace (s : List Char) : List Char :=
  s.dropWhile isSpace

/-- The rest after the end of a line. -/
def afterNewline? : List Char → Option (List Char)
  | '\n' :: s => some s
  | '\r' :: '\n' :: s => some s
  | _ => none

/-! ## Strings -/

/-- The value of a hexadecimal digit. -/
def hexValue? (c : Char) : Option Nat :=
  if '0' ≤ c ∧ c ≤ '9' then some (c.toNat - 48)
  else if 'a' ≤ c ∧ c ≤ 'f' then some (c.toNat - 87)
  else if 'A' ≤ c ∧ c ≤ 'F' then some (c.toNat - 55)
  else none

/-- The character with a code point of a given number of hexadecimal digits. -/
def codePoint (value : Nat) : Nat → Reads Char
  | 0, s => if value.isValidChar then some (Char.ofNat value, s) else none
  | _ + 1, [] => none
  | n + 1, c :: s => do codePoint (value * 16 + (← hexValue? c)) n s

/-- The character of an escape, after its backslash. -/
def escape : Reads Char
  | 'b' :: s => some ('\x08', s)
  | 't' :: s => some ('\t', s)
  | 'n' :: s => some ('\n', s)
  | 'f' :: s => some ('\x0c', s)
  | 'r' :: s => some ('\r', s)
  | '"' :: s => some ('"', s)
  | '\\' :: s => some ('\\', s)
  | 'u' :: s => codePoint 0 4 s
  | 'U' :: s => codePoint 0 8 s
  | _ => none

/-- The rest after white space and the ends of lines. -/
def skipLines : List Char → List Char
  | '\r' :: '\n' :: s => skipLines s
  | c :: s => if isSpace c || c == '\n' then skipLines s else c :: s
  | [] => []

/-- The rest after a backslash at the end of a line: after all white space and empty lines. -/
def afterFold? (s : List Char) : Option (List Char) :=
  (afterNewline? (skipSpace s)).map skipLines

/-- The number of times a character stands at the front, counting up to six. -/
def run (c : Char) (s : List Char) : Nat :=
  ((s.take 6).takeWhile (· == c)).length

/-- A string on one line, after its opening quote.  Escapes mean something between double quotes
only. -/
def line (quote : Char) : Nat → Reads (List Char)
  | 0, _ => none
  | _ + 1, [] => none
  | fuel + 1, c :: s =>
    if c = quote then some ([], s)
    else if c = '\\' ∧ quote = '"' then do
      let (c, s) ← escape s
      let (more, s) ← line quote fuel s
      return (c :: more, s)
    else if isPlain c then do
      let (more, s) ← line quote fuel s
      return (c :: more, s)
    else none

/-- A string over several lines, after its three opening quotes.  One or two quotes may stand
anywhere in it, even right before the closing ones, and every line ends with a line feed. -/
def lines (quote : Char) : Nat → Reads (List Char)
  | 0, _ => none
  | _ + 1, [] => none
  | fuel + 1, c :: s =>
    if c = quote then
      let n := run quote (c :: s)
      if 3 ≤ n then
        some (List.replicate (min (n - 3) 2) quote, (c :: s).drop (min n 5))
      else do
        let (more, s) ← lines quote fuel s
        return (c :: more, s)
    else if c = '\\' ∧ quote = '"' then
      match afterFold? s with
      | some s => lines quote fuel s
      | none => do
        let (c, s) ← escape s
        let (more, s) ← lines quote fuel s
        return (c :: more, s)
    else
      match afterNewline? (c :: s) with
      | some s => do
        let (more, s) ← lines quote fuel s
        return ('\n' :: more, s)
      | none =>
        if isPlain c then do
          let (more, s) ← lines quote fuel s
          return (c :: more, s)
        else none

/-- A string with one kind of quotes, whose first quote has been seen. -/
def quoted (quote : Char) (s : List Char) : Option (List Char × List Char) :=
  match after? [quote, quote, quote] s with
  | some s => lines quote (s.length + 1) ((afterNewline? s).getD s)
  | none => do
    let s ← after? [quote] s
    line quote (s.length + 1) s

/-- A string on one line, as a key may be. -/
def readLine : Reads (List Char)
  | '"' :: s => line '"' (s.length + 1) s
  | '\'' :: s => line '\'' (s.length + 1) s
  | _ => none

/-- A string in one of its four forms. -/
def readString : Reads (List Char)
  | '"' :: s => quoted '"' ('"' :: s)
  | '\'' :: s => quoted '\'' ('\'' :: s)
  | _ => none

/-! ## Numbers -/

/-- Further digits of a number, each of which may have an underscore before it. -/
def moreDigits (isDigit : Char → Bool) : List Char → List Char × List Char
  | '_' :: d :: s =>
    if isDigit d then
      let (more, s) := moreDigits isDigit s
      (d :: more, s)
    else ([], '_' :: d :: s)
  | d :: s =>
    if isDigit d then
      let (more, s) := moreDigits isDigit s
      (d :: more, s)
    else ([], d :: s)
  | [] => ([], [])

/-- Digits of a number, at least one. -/
def digits (isDigit : Char → Bool) : Reads (List Char)
  | d :: s =>
    if isDigit d then
      let (more, s) := moreDigits isDigit s
      some (d :: more, s)
    else none
  | [] => none

/-- The number of digits in a base. -/
def valueOf (base : Nat) (digits : List Char) : Nat :=
  digits.foldl (fun n d => n * base + (hexValue? d).getD 0) 0

/-- A sign, which is negative or not, if there is one. -/
def sign : List Char → Bool × List Char
  | '-' :: s => (true, s)
  | '+' :: s => (false, s)
  | s => (false, s)

/-- Digits before a point: a zero stands alone. -/
def whole : Reads (List Char)
  | '0' :: s => some (['0'], s)
  | s => digits isDigit s

/-- An integer that fits 64 bits with sign. -/
def inRange (n : Int) : Option Toml :=
  if -0x8000000000000000 ≤ n ∧ n < 0x8000000000000000 then some (integer n) else none

/-- Digits with a value below the base. -/
def isDigitOf (base : Nat) (c : Char) : Bool :=
  (hexValue? c).any (· < base)

/-- An integer in another base, after the mark of the base. -/
def based (base : Nat) : Reads Toml := fun s => do
  let (ds, s) ← digits (isDigitOf base) s
  return (← inRange (valueOf base ds), s)

/-- An integer. -/
def readInteger : Reads Toml
  | '0' :: 'x' :: s => based 16 s
  | '0' :: 'o' :: s => based 8 s
  | '0' :: 'b' :: s => based 2 s
  | s => do
    let (negative, s) := sign s
    let (ds, s) ← whole s
    let n := valueOf 10 ds
    return (← inRange (if negative then -(n : Int) else n), s)

/-- An exponent, after its mark. -/
def exponent (s : List Char) : Option (Int × List Char) := do
  let (negative, s) := sign s
  let (ds, s) ← digits isDigit s
  let n := valueOf 10 ds
  return (if negative then -(n : Int) else n, s)

/-- A digit string scaled by a power of ten that rounds to infinity. -/
def overflows (ds : List Char) (exponent : Int) : Bool :=
  let n := valueOf 10 ds
  let size := exponent + (Nat.toDigits 10 n).length
  n != 0 && 308 < size &&
    (310 < size ||
      decide ((Nat.pow 2 1024 - Nat.pow 2 970) * Nat.pow 10 (-exponent).toNat ≤
        n * Nat.pow 10 exponent.toNat))

/-- A mark of an exponent. -/
def isMark (c : Char) : Bool :=
  c == 'e' || c == 'E'

/-- A float, which has a point or an exponent or both, or is infinite or no number.  One that is
too large is refused unless it is negative. -/
def readFloat (s : List Char) : Option (Toml × List Char) :=
  let (negative, s) := sign s
  let finish := fun ds e (rest : List Char) =>
    if !negative && overflows ds e then none else some (float, rest)
  let withExponent := fun ds (e : Int) (s : List Char) =>
    match s with
    | c :: s' =>
      if isMark c then
        match exponent s' with
        | some (x, s) => finish ds (e + x) s
        | none => none
      else finish ds e s
    | [] => finish ds e []
  match s with
  | 'i' :: 'n' :: 'f' :: s => some (float, s)
  | 'n' :: 'a' :: 'n' :: s => some (float, s)
  | s =>
    match whole s with
    | none => none
    | some (ds, '.' :: s) =>
      match digits isDigit s with
      | some (fs, s) => withExponent (ds ++ fs) (-(fs.length : Int)) s
      | none => none
    | some (ds, c :: s) => if isMark c then withExponent ds 0 (c :: s) else none
    | some (_, []) => none

/-! ## Times -/

/-- A number of so many digits, between two bounds. -/
def ranged (n low high : Nat) : Reads Nat := fun s =>
  let ds := s.take n
  let value := valueOf 10 ds
  if ds.length = n ∧ ds.all isDigit ∧ low ≤ value ∧ value ≤ high then some (value, s.drop n)
  else none

/-- The rest after one given character. -/
def mark (c : Char) (s : List Char) : Option (List Char) :=
  after? [c] s

/-- The number of days of a month. -/
def daysOf (year month : Nat) : Nat :=
  if month = 2 then
    if year % 4 = 0 ∧ (year % 100 ≠ 0 ∨ year % 400 = 0) then 29 else 28
  else if month = 4 ∨ month = 6 ∨ month = 9 ∨ month = 11 then 30
  else 31

/-- A day of the calendar, as it is written. -/
def readDay : Reads (List Char) := fun s => do
  let (year, rest) ← ranged 4 0 9999 s
  let (month, rest) ← ranged 2 1 12 (← mark '-' rest)
  let (_, rest) ← ranged 2 1 (daysOf year month) (← mark '-' rest)
  return (s.take 10, rest)

/-- A fraction of a second with its point, if there is one.  Nine digits of it are kept, and no
zeros at its end. -/
def fraction (s : List Char) : List Char × List Char :=
  match s with
  | '.' :: d :: s' =>
    if isDigit d then
      let kept := (((d :: s'.takeWhile isDigit).take 9).reverse.dropWhile (· == '0')).reverse
      (if kept.isEmpty then [] else '.' :: kept, s'.dropWhile isDigit)
    else ([], s)
  | _ => ([], s)

/-- A time of day. -/
def readClock : Reads (List Char) := fun s => do
  let (_, rest) ← ranged 2 0 23 s
  let (_, rest) ← ranged 2 0 59 (← mark ':' rest)
  let (_, rest) ← ranged 2 0 60 (← mark ':' rest)
  let (part, rest) := fraction rest
  return (s.take 8 ++ part, rest)

/-- Hours and minutes away from universal time, after their sign.  No distance has the sign of the
east. -/
def readOffset (sign : Char) : Reads (List Char) := fun s => do
  let (hours, rest) ← ranged 2 0 23 s
  let (minutes, rest) ← ranged 2 0 59 (← mark ':' rest)
  return ((if hours = 0 ∧ minutes = 0 then '+' else sign) :: s.take 5, rest)

/-- The distance from universal time, if there is one. -/
def zone (s : List Char) : List Char × List Char :=
  match s with
  | 'Z' :: s' => (['Z'], s')
  | 'z' :: s' => (['Z'], s')
  | '+' :: s' => (readOffset '+' s').getD ([], s)
  | '-' :: s' => (readOffset '-' s').getD ([], s)
  | _ => ([], s)

/-- A time of day after a day, if there is one. -/
def moment (s : List Char) : List Char × List Char :=
  match s with
  | c :: s' =>
    if c = 'T' ∨ c = 't' ∨ c = ' ' then
      match readClock s' with
      | some (clock, rest) =>
        let (offset, rest) := zone rest
        ('T' :: clock ++ offset, rest)
      | none => ([], s)
    else ([], s)
  | [] => ([], [])

/-- A day with or without a time, or a time of day. -/
def readTime (s : List Char) : Option (Toml × List Char) :=
  match readDay s with
  | some (day, rest) =>
    let (clock, rest) := moment rest
    some (time (String.ofList (day ++ clock)), rest)
  | none => (readClock s).map fun (clock, rest) => (time (String.ofList clock), rest)

/-- A time, a float or an integer, whichever comes first in this order. -/
def readNumber (s : List Char) : Option (Toml × List Char) :=
  readTime s <|> readFloat s <|> readInteger s

end Toml
end ResponseTypes
