import ResponseTypes.Filter.Arithmetic
import ResponseTypes.Filter.Outputs

/-!
# Parts of values

A part of a value is an element under a key or an index, a slice, or every element at once.  A part
can be taken out, and it can be changed in its place.  A change gives any number of values: every
value of a list takes the place of the element, an object takes the first, and an element for which
there is no value is removed.

## Main definitions

- `Datum.Part`: a part of a value.
- `Datum.take`: the values at a part.
- `Datum.change`: a value with a part of it changed.
-/

namespace ResponseTypes
namespace Datum

/-- A part of a value. -/
inductive Part where
  | index (i : Datum)
  | slice (start stop : Option Datum)
  | all
deriving Inhabited

/-! ## Positions -/

/-- The position of an index, which counts from the end when it is negative. -/
def position? (i : Int) (length : Nat) : Option Nat :=
  let j := if i < 0 then i + length else i
  if 0 ≤ j ∧ j < length then some j.toNat else none

/-- The position of a bound, which is kept between the ends. -/
def bound (length : Nat) (ifNone : Nat) : Option Int → Nat
  | none => ifNone
  | some i => (min (max (if i < 0 then i + length else i) 0) length).toNat

/-- An integer that is wanted of a value. -/
def asInt : Datum → Calculation Int
  | integer n => .ok n
  | value => complain ("cannot use " ++ value.render ++ " as integer")

/-- The complaint about an index that a value has no use for. -/
def cannotIndex {α : Type} (value i : Datum) : Calculation α :=
  complain ("cannot index " ++ value.render ++ " with " ++ i.render)

/-- The complaint about a value of the wrong kind. -/
def cannotUse {α : Type} (value : Datum) (kind : String) : Calculation α :=
  complain ("cannot use " ++ value.render ++ " as " ++ kind)

/-- The text that is wanted of a value. -/
def asText : Datum → Calculation String
  | text s => .ok s
  | value => value.cannotUse "string"

/-- The list that is wanted of a value. -/
def asArray : Datum → Calculation (List Datum)
  | array items => .ok items
  | value => value.cannotUse "array"

/-- The integer of a bound that is given. -/
def boundInt? : Option Datum → Calculation (Option Int)
  | none => .ok none
  | some value => value.asInt.map some

/-- The first position of a slice and its length. -/
def sliceOf (start stop : Option Datum) (length : Nat) : Calculation (Nat × Nat) := do
  let start ← boundInt? start
  let stop ← boundInt? stop
  let first := bound length 0 start
  return (first, bound length length stop - first)

/-! ## Taking parts out -/

/-- The values of an array or object. -/
def elements : Datum → Calculation (List Datum)
  | array items => .ok items
  | object entries => .ok (Keyed.values entries)
  | value => value.cannotUse "iterable (array or object)"

/-- The keys of an array or object. -/
def keys : Datum → Calculation (List Datum)
  | array items => .ok ((List.range items.length).map fun (i : Nat) => integer i)
  | object entries => .ok ((Keyed.keys entries).map text)
  | value => value.cannotUse "iterable (array or object)"

/-- A slice of an array or a text. -/
def slice (value : Datum) (start stop : Option Datum) : Calculation Datum :=
  match value with
  | array items => do
    let (first, n) ← sliceOf start stop items.length
    return array ((items.drop first).take n)
  | text s => do
    let chars := s.toList
    let (first, n) ← sliceOf start stop chars.length
    return text (String.ofList ((chars.drop first).take n))
  | value => value.cannotUse "rangeable (array or string)"

/-- The value under a key or an index.  What is missing is null. -/
def index (value i : Datum) : Calculation Datum :=
  match value, i with
  | array items, integer i => .ok (((position? i items.length).bind (items[·]?)).getD null)
  | object entries, text key => .ok ((Keyed.get? entries key).getD null)
  | value, i => value.cannotIndex i

/-- The values at a part. -/
def take (value : Datum) : Part → Calculation (List Datum)
  | .index i => do return [← value.index i]
  | .slice start stop => do return [← value.slice start stop]
  | .all => value.elements

/-! ## Changing parts -/

/-- How an element changes: into any number of values. -/
abbrev Change := Datum → Outputs Datum

/-- Entries without one of them, whose place the last one takes. -/
def removeSwapping (entries : Keyed Datum) (key : String) : Keyed Datum :=
  match entries.getLast? with
  | none => []
  | some last =>
    if last.1 = key then entries.dropLast
    else entries.dropLast.map fun entry => if entry.1 = key then last else entry

/-- A list with the element at a position changed. -/
def changeAt (items : List Datum) (i : Nat) (f : Change) : Calculation (List Datum) := do
  match ← Outputs.first? (f ((items[i]?).getD null)) with
  | some value => return items.set i value
  | none => return items.eraseIdx i

/-- An object with the value under a key changed, which is null if there is none. -/
def changeUnder (entries : Keyed Datum) (key : String) (f : Change) :
    Calculation (Keyed Datum) := do
  match entries.get? key with
  | some old =>
    match ← Outputs.first? (f old) with
    | some value => return entries.insert key value
    | none => return removeSwapping entries key
  | none =>
    match ← Outputs.first? (f null) with
    | some value => return entries.insert key value
    | none => return entries

/-- Values that take the place of each element of a list. -/
def changeItems (f : Change) : List Datum → Calculation (List Datum)
  | [] => .ok []
  | item :: rest => do
    let new ← (f item).toList
    return new ++ (← changeItems f rest)

/-- Entries whose values have changed, without those that have become none. -/
def changeEntries (f : Change) : List (String × Datum) → Calculation (List (String × Datum))
  | [] => .ok []
  | (key, value) :: rest => do
    let new ← Outputs.first? (f value)
    let rest ← changeEntries f rest
    return match new with
      | some value => (key, value) :: rest
      | none => rest

/-- An array with `n` elements from a position on changed into those of another array. -/
def changeSlice (items : List Datum) (first n : Nat) (f : Change) : Calculation Datum := do
  let new ← match ← Outputs.first? (f (array ((items.drop first).take n))) with
    | none => pure []
    | some (array new) => pure new
    | some value => value.cannotUse "array"
  return array (items.take first ++ new ++ items.drop (first + n))

/-- The value as it is if the part is optional, and a complaint if not. -/
def orComplain (value : Datum) (optional : Bool) (complaint : Calculation Datum) :
    Calculation Datum :=
  if optional then .ok value else complaint

/-- A value with a part of it changed.  A value that has no such part stays as it is if the part is
optional. -/
def change (value : Datum) (part : Part) (optional : Bool) (f : Change) : Calculation Datum :=
  match part, value with
  | .all, array items => (changeItems f items).map array
  | .all, object entries => (changeEntries f entries).map object
  | .all, value => orComplain value optional (value.cannotUse "iterable (array or object)")
  | .slice start stop, array items =>
    match sliceOf start stop items.length with
    | .ok (first, n) => changeSlice items first n f
    | .error r => orComplain value optional (.error r)
  | .slice _ _, value => orComplain value optional (value.cannotUse "array")
  | .index (.text key), object entries => (changeUnder entries key f).map object
  | .index i, object _ => orComplain value optional (value.cannotIndex i)
  | .index i, array items =>
    match i.asInt with
    | .error r => orComplain value optional (.error r)
    | .ok n =>
      match position? n items.length with
      | some j => (changeAt items j f).map array
      | none => orComplain value optional (complain ("index " ++ i.render ++ " out of bounds"))
  | .index _, value => orComplain value optional (value.cannotUse "iterable (array or object)")

end Datum
end ResponseTypes
