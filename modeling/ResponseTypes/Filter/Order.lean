import ResponseTypes.Filter.Datum

/-!
# The order of values

All values are ordered: first by kind, with null before truth values, numbers, texts, arrays and
objects; then within a kind.  Numbers are compared by value, whichever way they are kept, and what
is not a number counts as less than any number, itself included.

## Main definitions

- `Datum.compare`: the order.
- `Datum.same`: values that are equal in it.
-/

namespace ResponseTypes
namespace Datum

/-- The order of doubles.  The two zeros are equal. -/
def compareDoubles (x y : Float) : Ordering :=
  if x.isNaN then .lt
  else if y.isNaN then .gt
  else if x < y then .lt
  else if y < x then .gt
  else .eq

/-- The order of texts, by code points. -/
def compareTexts (s t : String) : Ordering :=
  if s < t then .lt else if t < s then .gt else .eq

/-- The place of a kind among the kinds. -/
def rank : Datum → Nat
  | null => 0
  | boolean _ => 1
  | integer _ => 2
  | double _ => 2
  | numeral _ => 2
  | text _ => 3
  | array _ => 4
  | object _ => 5

/-- A number as a double. -/
def asDouble : Datum → Float
  | integer n => toDouble n
  | double x => x
  | numeral s => doubleOf s
  | _ => 0

/-- The entries of an object in the order of their keys. -/
def sortEntries {α : Type} (entries : List (String × α)) : List (String × α) :=
  entries.mergeSort fun a b => decide (a.1 ≤ b.1)

/-- The lexicographic order of texts in lists. -/
def compareKeys : List String → List String → Ordering
  | [], [] => .eq
  | [], _ :: _ => .lt
  | _ :: _, [] => .gt
  | s :: ss, t :: ts => (compareTexts s t).then (compareKeys ss ts)

/-- The order of lists under an order of their elements. -/
def compareLists {α : Type} (order : α → α → Ordering) : List α → List α → Ordering
  | [], [] => .eq
  | [], _ :: _ => .lt
  | _ :: _, [] => .gt
  | a :: as, b :: bs => (order a b).then (compareLists order as bs)

/-- The order of values that are nested at most `depth` deep.  Objects are compared by their sorted
keys and then by the values in this order. -/
def compareTo : Nat → Datum → Datum → Ordering
  | 0, _, _ => .eq
  | depth + 1, a, b =>
    match a, b with
    | boolean x, boolean y => Ord.compare x y
    | integer m, integer n => Ord.compare m n
    | text s, text t => compareTexts s t
    | array as, array bs => compareLists (compareTo depth) as bs
    | object as, object bs =>
      let as := sortEntries as
      let bs := sortEntries bs
      (compareKeys (Keyed.keys as) (Keyed.keys bs)).then
        (compareLists (compareTo depth) (Keyed.values as) (Keyed.values bs))
    | numeral s, numeral t => if s = t then .eq else compareDoubles (doubleOf s) (doubleOf t)
    | a, b =>
      if rank a = 2 ∧ rank b = 2 then compareDoubles (asDouble a) (asDouble b)
      else Ord.compare (rank a) (rank b)

mutual

/-- The number of arrays and objects around the most deeply nested value. -/
def depth : Datum → Nat
  | array items => listDepth items + 1
  | object entries => entryDepth entries + 1
  | _ => 0

/-- The greatest depth in a list. -/
def listDepth : List Datum → Nat
  | [] => 0
  | first :: rest => max first.depth (listDepth rest)

/-- The greatest depth among the values of entries. -/
def entryDepth : List (String × Datum) → Nat
  | [] => 0
  | (_, first) :: rest => max first.depth (entryDepth rest)

end

/-- The order of values. -/
def compare (a b : Datum) : Ordering :=
  compareTo (max a.depth b.depth + 1) a b

/-- Values that are equal in the order. -/
def same (a b : Datum) : Bool :=
  a.compare b == .eq

/-- Values in order; equal ones stay as they come. -/
def sort (items : List Datum) : List Datum :=
  items.mergeSort fun a b => a.compare b != .gt

end Datum
end ResponseTypes
