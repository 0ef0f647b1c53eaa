/-!
# The shortest decimal that reads back

A double stands for every real number that rounds to it.  Among the decimals in that interval the
shortest is the one on the coarsest grid of powers of ten; of two on the same grid it is the one
nearer to the double.  Everything here is exact arithmetic on naturals.

## Main definitions

- `Decimal`: a natural times a power of ten.
- `Binary`: a natural times a power of two, with the width of its interval.
- `Binary.shortest`: the shortest decimal of the interval.
- `Binary.ofFloat`: the magnitude of a finite double.
-/

namespace ResponseTypes

/-- The number `digits · 10 ^ exponent`. -/
structure Decimal where
  digits : Nat
  exponent : Int
deriving DecidableEq, Repr, Inhabited

/-- The number `significand · 2 ^ exponent` as a double holds it. -/
structure Binary where
  significand : Nat
  exponent : Int
  /-- the next double below lies only half as far away as the next above -/
  narrowBelow : Bool
deriving DecidableEq, Repr, Inhabited

namespace Binary

/-- The magnitude that a finite double stands for. -/
def ofFloat (x : Float) : Binary :=
  let bits := x.toBits.toNat
  let fraction := bits % 0x10000000000000
  let field : Nat := bits / 0x10000000000000 % 0x800
  if field = 0 then ⟨fraction, -1074, false⟩
  else ⟨fraction + 0x10000000000000, (field : Int) - 1075, fraction == 0 && field != 1⟩

/-- A number scaled to naturals: `value`, and the ends of the interval that rounds to it, all over
the common `scale`. -/
structure Interval where
  low : Nat
  value : Nat
  high : Nat
  scale : Nat
  /-- whether the ends belong to the interval -/
  closed : Bool

/-- The interval of a number: half way to each neighbour, ends included when the significand is
even. -/
def interval (b : Binary) : Interval :=
  let m := 4 * b.significand
  let up := Nat.pow 2 (b.exponent - 2).toNat
  { low := (m - if b.narrowBelow then 1 else 2) * up
    value := m * up
    high := (m + 2) * up
    scale := Nat.pow 2 (2 - b.exponent).toNat
    closed := b.significand % 2 == 0 }

/-- Whether `n / d` lies in the interval. -/
def Interval.contains (i : Interval) (n d : Nat) : Bool :=
  if i.closed then i.low * d ≤ n * i.scale && n * i.scale ≤ i.high * d
  else i.low * d < n * i.scale && n * i.scale < i.high * d

/-- The decimal of the interval on the grid of one power of ten: of the two neighbours of the value
the one in the interval, and the nearer if both are.  A tie goes to even digits. -/
def Interval.onGrid? (i : Interval) (exponent : Int) : Option Decimal :=
  let p := Nat.pow 10 exponent.toNat
  let q := Nat.pow 10 (-exponent).toNat
  let below := i.value * q / (i.scale * p)
  let above := below + 1
  let twice := 2 * i.value * q
  let middle := (2 * below + 1) * (i.scale * p)
  match i.contains (below * p) q && below != 0, i.contains (above * p) q with
  | true, true =>
    if twice < middle || (twice == middle && below % 2 == 0) then some ⟨below, exponent⟩
    else some ⟨above, exponent⟩
  | true, false => some ⟨below, exponent⟩
  | false, true => some ⟨above, exponent⟩
  | false, false => none

/-- The first hit on the grids from `10 ^ (n - 345)` downwards. -/
def Interval.fromGrid (i : Interval) : Nat → Decimal
  | 0 => ⟨0, 0⟩
  | n + 1 =>
    match i.onGrid? ((n : Int) - 345) with
    | some d => d
    | none => i.fromGrid n

/-- The shortest decimal that rounds to a number other than zero.  Doubles lie below `10 ^ 309` and
the finest grid needed is `10 ^ -324`, with room to spare on both sides. -/
def shortest (b : Binary) : Decimal :=
  b.interval.fromGrid 660

end Binary
end ResponseTypes
