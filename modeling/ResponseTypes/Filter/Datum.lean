import ResponseTypes.Json.Quote
import ResponseTypes.Json.Shape

/-!
# Values that filters work on

Filters work on JSON values with one more kind of number: a number that was written with a point or
an exponent, or that is too large, keeps its text until somebody calculates with it.

## Main definitions

- `Datum`: the values.
- `Datum.ofJson`: a document as a value.
- `Datum.ofNumeral`: the value of a written number.
- `Datum.render`: a value as JSON text.
-/

namespace ResponseTypes

/-- A value of a filter. -/
inductive Datum where
  | null
  | boolean (b : Bool)
  /-- an integer of 64 bits with sign -/
  | integer (n : Int)
  | double (x : Float)
  /-- a number as it was written -/
  | numeral (text : String)
  | text (s : String)
  | array (items : List Datum)
  | object (entries : List (String × Datum))
deriving Inhabited

namespace Datum

/-! ## Numbers -/

/-- Whether an integer fits 64 bits with sign. -/
def fits (n : Int) : Bool :=
  decide (-0x8000000000000000 ≤ n ∧ n < 0x8000000000000000)

/-- The ASCII digits. -/
def isDigit (c : Char) : Bool :=
  '0' ≤ c && c ≤ '9'

/-- The number of a digit string. -/
def natOf (digits : List Char) : Nat :=
  digits.foldl (fun n d => n * 10 + (d.toNat - 48)) 0

/-- An integer that is written as an optional sign and digits. -/
def intOf? : List Char → Option Int
  | '-' :: ds => if ds ≠ [] ∧ ds.all isDigit then some (-(natOf ds : Int)) else none
  | ds => if ds ≠ [] ∧ ds.all isDigit then some (natOf ds) else none

/-- The value of a written number. -/
def ofNumeral (s : String) : Datum :=
  match intOf? s.toList with
  | some n => if fits n then integer n else numeral s
  | none => numeral s

/-- An integer as a double. -/
def toDouble (n : Int) : Float :=
  if n < 0 then -(UInt64.ofNat n.natAbs).toFloat else (UInt64.ofNat n.natAbs).toFloat

/-- A natural scaled by a power of ten, as the nearest double.  Exponents far beyond the range of
doubles are not multiplied out. -/
def scaled (digits : Nat) (exponent : Int) : Float :=
  let size := exponent + (Nat.toDigits 10 digits).length
  if digits = 0 ∨ size < -400 then 0
  else if 400 < size then 1 / 0
  else Float.ofScientific digits (exponent < 0) exponent.natAbs

/-- The exponent that a number ends with. -/
def exponentOf : List Char → Int
  | 'e' :: s => signed s
  | 'E' :: s => signed s
  | _ => 0
where
  /-- Digits with an optional sign. -/
  signed : List Char → Int
    | '-' :: ds => -(natOf ds : Int)
    | '+' :: ds => natOf ds
    | ds => natOf ds

/-- The double nearest to a written number. -/
def doubleOf (s : String) : Float :=
  let (negative, s) := match s.toList with
    | '-' :: s => (true, s)
    | s => (false, s)
  let whole := s.takeWhile isDigit
  let (fraction, rest) := match s.dropWhile isDigit with
    | '.' :: s => (s.takeWhile isDigit, s.dropWhile isDigit)
    | s => ([], s)
  let x := scaled (natOf (whole ++ fraction)) (exponentOf rest - fraction.length)
  if negative then -x else x

/-! ## Documents -/

mutual

/-- A document as a value. -/
def ofJson : Json → Datum
  | .null => null
  | .boolean b => boolean b
  | .integer n => if fits n then integer n else numeral (toString n)
  | .double x => numeral (String.ofList (Json.doubleStyle.write x))
  | .string s => text s
  | .array items => array (ofItems items)
  | .object entries => object (ofEntries entries)

/-- The documents in a list. -/
def ofItems : List Json → List Datum
  | [] => []
  | item :: rest => ofJson item :: ofItems rest

/-- The documents under their keys. -/
def ofEntries : List (String × Json) → List (String × Datum)
  | [] => []
  | (key, value) :: rest => (key, ofJson value) :: ofEntries rest

end

/-! ## Written values -/

/-- Doubles that a filter has computed: with an exponent from `10 ^ 16` up and below `10 ^ -4`. -/
def doubleStyle : Decimal.Style where
  least := -4
  greatest := 15

/-- One character of a written text.  A control character that does not end a line or a column is
written by its code point. -/
def quoteChar (c : Char) : List Char :=
  if c = '\x08' ∨ c = '\x0c' then ['\\', 'u', '0', '0', '0', Json.hexDigit c.toNat]
  else Json.quoteChar c

/-- A text between double quotes. -/
def quote (s : String) : String :=
  String.ofList ('"' :: s.toList.flatMap quoteChar ++ ['"'])

mutual

/-- A value as JSON text without blanks.  A double that is not finite is written as null. -/
def render : Datum → String
  | null => "null"
  | boolean true => "true"
  | boolean false => "false"
  | integer n => toString n
  | double x => if x.isFinite then String.ofList (doubleStyle.write x) else "null"
  | numeral s => s
  | text s => quote s
  | array items => "[" ++ ",".intercalate (renderItems items) ++ "]"
  | object entries => "\x7b" ++ ",".intercalate (renderEntries entries) ++ "\x7d"

/-- The values of a list as texts. -/
def renderItems : List Datum → List String
  | [] => []
  | item :: rest => render item :: renderItems rest

/-- The entries of an object as texts. -/
def renderEntries : List (String × Datum) → List String
  | [] => []
  | (key, value) :: rest => (quote key ++ ":" ++ render value) :: renderEntries rest

end

/-! ## Kinds -/

/-- The name of a value's kind. -/
def kind : Datum → String
  | null => "null"
  | boolean _ => "boolean"
  | integer _ => "number"
  | double _ => "number"
  | numeral _ => "number"
  | text _ => "string"
  | array _ => "array"
  | object _ => "object"

/-- What a condition makes of a value: everything holds but null and false. -/
def holds : Datum → Bool
  | null => false
  | boolean b => b
  | _ => true

/-- A value whose number has been calculated if it had only been written. -/
def calculated : Datum → Datum
  | numeral s => double (doubleOf s)
  | value => value

end Datum
end ResponseTypes
