import ResponseTypes.Keyed

/-!
# JSON values

A document as it was read.  Numbers without point and exponent that fit 64 bits, with or without
sign, are kept as integers; every other number is a double.  Objects keep their keys in order.

## Main definitions

- `Json`: the values.
- `Json.depth`: how deep arrays and objects are nested.
-/

namespace ResponseTypes

/-- A JSON value. -/
inductive Json where
  | null
  | boolean (b : Bool)
  | integer (n : Int)
  | double (x : Float)
  | string (s : String)
  | array (items : List Json)
  | object (entries : List (String × Json))
deriving Inhabited

namespace Json

/-- The entries of an object, and none of anything else. -/
def entries : Json → Keyed Json
  | object entries => entries
  | _ => []

/-- The elements of an array, and none of anything else. -/
def items : Json → List Json
  | array items => items
  | _ => []

/-- The value under a key of an object. -/
def get? (value : Json) (key : String) : Option Json :=
  Keyed.get? value.entries key

/-- The text of a string. -/
def asString? : Json → Option String
  | string s => some s
  | _ => none

/-- Whether a value is the truth value `true`. -/
def isTrue : Json → Bool
  | boolean b => b
  | _ => false

mutual

/-- The number of arrays and objects around the most deeply nested value, counting `value` itself
when it is one. -/
def depth : Json → Nat
  | array items => listDepth items + 1
  | object entries => entryDepth entries + 1
  | _ => 0

/-- The greatest depth in a list. -/
def listDepth : List Json → Nat
  | [] => 0
  | first :: rest => max first.depth (listDepth rest)

/-- The greatest depth among the values of entries. -/
def entryDepth : List (String × Json) → Nat
  | [] => 0
  | (_, first) :: rest => max first.depth (entryDepth rest)

end

end Json
end ResponseTypes
