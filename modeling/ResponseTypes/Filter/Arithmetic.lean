import ResponseTypes.Filter.Order
import ResponseTypes.Filter.Raise

/-!
# Arithmetic on values

The operators are defined on more than numbers: sums join texts, arrays and objects, differences
remove elements, products repeat texts and merge objects, and quotients split texts.  Integers are
words of 64 bits, which wrap around, and a quotient of numbers is always a double.

## Main definitions

- `Datum.Operator` and `Datum.calculate`: the operators.
- `Datum.negate`: the opposite of a number.
-/

namespace ResponseTypes

namespace Datum

/-- The operators. -/
inductive Operator where
  | add
  | subtract
  | multiply
  | divide
  | remainder
deriving DecidableEq, Repr, Inhabited

/-- The sign of an operator. -/
def Operator.sign : Operator → String
  | add => "+"
  | subtract => "-"
  | multiply => "*"
  | divide => "/"
  | remainder => "%"

/-! ## Integers -/

/-- An integer, wrapped around to 64 bits with sign. -/
def wrapped (n : Int) : Datum :=
  integer (n.bmod 0x10000000000000000)

/-! ## Texts -/

/-- What follows a given beginning. -/
def after? : List Char → List Char → Option (List Char)
  | [], s => some s
  | _ :: _, [] => none
  | c :: cs, d :: s => if c = d then after? cs s else none

/-- The pieces of a text between the occurrences of a separator that is not empty.  `piece` holds
the characters since the last one, the newest first, and every step takes a character. -/
def splitFrom (separator : List Char) (piece : List Char) : Nat → List Char → List (List Char)
  | 0, _ => [piece.reverse]
  | _ + 1, [] => [piece.reverse]
  | fuel + 1, c :: s =>
    match after? separator (c :: s) with
    | some rest => piece.reverse :: splitFrom separator [] fuel rest
    | none => splitFrom separator (c :: piece) fuel s

/-- The pieces of a text: its characters if the separator is empty, and none if the text is. -/
def splitText (s separator : String) : List String :=
  if s.isEmpty then []
  else if separator.isEmpty then s.toList.map Char.toString
  else (splitFrom separator.toList [] (s.length + 1) s.toList).map String.ofList

/-- A text several times in a row, or null for no time at all.  There is no text of more than
`2 ^ 63` bytes. -/
def repeatText (s : String) (n : Int) : Calculation Datum :=
  if n ≤ 0 then .ok null
  else if s.isEmpty then .ok (text s)
  else if 0x8000000000000000 ≤ s.utf8ByteSize * n.toNat then .error (.final .collapse)
  else .ok (text (String.join (List.replicate n.toNat s)))

/-! ## Objects -/

/-- The entries of one object merged into those of another, objects under the same key into each
other as well. -/
def merge : Nat → Keyed Datum → Keyed Datum → Keyed Datum
  | 0, into, _ => into
  | depth + 1, into, entries =>
    entries.foldl (fun (into : Keyed Datum) (key, value) =>
      match into.get? key, value with
      | some (object old), object new => into.insert key (object (merge depth old new))
      | _, value => into.insert key value) into

/-! ## Operators -/

/-- The remainder of doubles, with the sign of the first.  It is exact, since both are multiples of
the same power of two. -/
def remainder (x y : Float) : Float :=
  if x.isNaN || y.isNaN || x.isInf || y == 0 then 0 / 0
  else if y.isInf || x == 0 then x
  else
    let a := Binary.ofFloat x
    let b := Binary.ofFloat y
    let e := min a.exponent b.exponent
    let m := a.significand * Nat.pow 2 (a.exponent - e).toNat
    let n := b.significand * Nat.pow 2 (b.exponent - e).toNat
    let r := (UInt64.ofNat (m % n)).toFloat.scaleB e
    if x < 0 then -r else r

/-- The complaint about an operator between two values. -/
def cannotCalculate (op : Operator) (a b : Datum) : Calculation Datum :=
  complain ("cannot calculate " ++ a.render ++ " " ++ op.sign ++ " " ++ b.render)

/-- An operator on doubles. -/
def onDoubles : Operator → Float → Float → Float
  | .add, x, y => x + y
  | .subtract, x, y => x - y
  | .multiply, x, y => x * y
  | .divide, x, y => x / y
  | .remainder, x, y => remainder x y

/-- An operator on two values.  There is no remainder by the integer zero, and the remainder of the
least integer by minus one has no result, since the quotient does not fit. -/
def calculate (op : Operator) (a b : Datum) : Calculation Datum :=
  match op, a, b with
  | .add, null, b => .ok b
  | .add, a, null => .ok a
  | op, a, b =>
    match op, a.calculated, b.calculated with
    | .add, integer m, integer n => .ok (wrapped (m + n))
    | .add, text s, text t => .ok (text (s ++ t))
    | .add, array as, array bs => .ok (array (as ++ bs))
    | .add, object as, object bs => .ok (object (Keyed.insertAll as bs))
    | .subtract, integer m, integer n => .ok (wrapped (m - n))
    | .subtract, array as, array bs => .ok (array (as.filter fun a => !bs.any a.same))
    | .multiply, integer m, integer n => .ok (wrapped (m * n))
    | .multiply, text s, integer n => repeatText s n
    | .multiply, integer n, text s => repeatText s n
    | .multiply, object as, object bs =>
      .ok (object (merge (max (object as).depth (object bs).depth) as bs))
    | .divide, text s, text t => .ok (array ((splitText s t).map text))
    | .remainder, integer m, integer n =>
      if n = 0 then cannotCalculate op a b
      else if fits (m.tdiv n) then .ok (integer (m.tmod n))
      else .error (.final .collapse)
    | .remainder, double _, integer 0 => cannotCalculate op a b
    | op, x, y =>
      if rank x = 2 ∧ rank y = 2 then .ok (double (onDoubles op x.asDouble y.asDouble))
      else cannotCalculate op a b

/-- The opposite of a number. -/
def negate (a : Datum) : Calculation Datum :=
  match a.calculated with
  | integer n => .ok (wrapped (-n))
  | double x => .ok (double (-x))
  | _ => complain ("cannot use " ++ a.render ++ " as number")

end Datum
end ResponseTypes
