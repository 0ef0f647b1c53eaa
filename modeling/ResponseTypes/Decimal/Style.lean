import ResponseTypes.Decimal.Shortest

/-!
# Written doubles

A finite double is written with the fewest digits that read back, with a point in its place when
the number is neither very large nor very small, else with an exponent.  Where the one form ends
and the other begins differs between formats, and so does the spelling of the exponent; a `Style`
holds these decisions.

## Main definitions

- `Decimal.Style`: how doubles are written.
- `Decimal.Style.write`: the written form of a finite double.
-/

namespace ResponseTypes
namespace Decimal

/-- How doubles are written.  The exponent of a number is that of its first digit. -/
structure Style where
  /-- the least exponent without exponent notation -/
  least : Int
  /-- the greatest exponent without exponent notation -/
  greatest : Int
  /-- whether an exponent that is not negative has a sign -/
  plus : Bool := false

/-- The decimal digits of a natural. -/
def digitsOf (n : Nat) : List Char :=
  Nat.toDigits 10 n

/-- Digits without the zeros at their end. -/
def dropZeros (s : List Char) : List Char :=
  (s.reverse.dropWhile (· == '0')).reverse

/-- Zeros in a row. -/
def zeros (n : Nat) : List Char :=
  List.replicate n '0'

/-- Digits with a point in its place; `exponent` is that of the first digit. -/
def positional (digits : List Char) (exponent : Int) : List Char :=
  match exponent with
  | .ofNat e =>
    let whole := (digits ++ zeros (e + 1 - digits.length)).take (e + 1)
    let fraction := digits.drop (e + 1)
    whole ++ '.' :: (if fraction.isEmpty then ['0'] else fraction)
  | .negSucc e => '0' :: '.' :: zeros e ++ digits

namespace Style

/-- An exponent after its mark. -/
def writeExponent (style : Style) (exponent : Int) : List Char :=
  let digits := digitsOf exponent.natAbs
  let sign := if exponent < 0 then ['-'] else if style.plus then ['+'] else []
  'e' :: sign ++ digits

/-- Digits with a point after the first, and an exponent. -/
def scientific (style : Style) (digits : List Char) (exponent : Int) : List Char :=
  let mantissa := match digits with
    | [] => ['0']
    | [d] => [d]
    | d :: rest => d :: '.' :: rest
  mantissa ++ style.writeExponent exponent

/-- A decimal in this style. -/
def writeDecimal (style : Style) (d : Decimal) : List Char :=
  let all := digitsOf d.digits
  let exponent := d.exponent + (all.length - 1 : Nat)
  let digits := dropZeros all
  if d.digits = 0 then ['0', '.', '0']
  else if style.least ≤ exponent ∧ exponent ≤ style.greatest then positional digits exponent
  else style.scientific digits exponent

/-- Whether a double carries a minus sign. -/
def isNegative (x : Float) : Bool :=
  decide (0x8000000000000000 ≤ x.toBits.toNat)

/-- A finite double in this style. -/
def write (style : Style) (x : Float) : List Char :=
  let magnitude := Binary.ofFloat x
  let d := if magnitude.significand = 0 then ⟨0, 0⟩ else magnitude.shortest
  (if isNegative x then ['-'] else []) ++ style.writeDecimal d

end Style
end Decimal
end ResponseTypes
