import ResponseTypes.Json.Number

/-!
# Sampled values

The value that stands under a field of one response.  It is what inference looks at: numbers are
told apart only into whole numbers of 64 bits and doubles, and a mapping keeps the order of its
keys.

## Main definitions

- `Sample`: the values.
- `Sample.ofJson`: the sample that a JSON value is.
- `Sample.asSequence?`: the elements of a mapping whose keys are its own indices.
-/

namespace ResponseTypes

/-- A value of a response. -/
inductive Sample where
  | null
  | boolean (b : Bool)
  | integer (n : Int)
  | double (x : Float)
  | text (s : String)
  | sequence (items : List Sample)
  | mapping (entries : List (String × Sample))
deriving Inhabited

namespace Sample

mutual

/-- The sample that a JSON value is.  An integer beyond 64 bits with sign is taken as a double. -/
def ofJson : Json → Sample
  | .null => .null
  | .boolean b => .boolean b
  | .integer n =>
    if n < 0x8000000000000000 then .integer n else .double (Json.ofSignificand n.toNat)
  | .double x => .double x
  | .string s => .text s
  | .array items => .sequence (ofItems items)
  | .object entries => .mapping (ofEntries entries)

/-- The samples in a list. -/
def ofItems : List Json → List Sample
  | [] => []
  | item :: rest => ofJson item :: ofItems rest

/-- The samples under their keys. -/
def ofEntries : List (String × Json) → List (String × Sample)
  | [] => []
  | (key, value) :: rest => (key, ofJson value) :: ofEntries rest

end

/-- Keys that are the numerals of `start`, `start + 1`, … in this order. -/
def areIndices : Nat → List String → Bool
  | _, [] => true
  | start, key :: rest => key == toString start && areIndices (start + 1) rest

/-- The values of a mapping whose keys are exactly `"0"`, `"1"`, … in order: a sequence in
disguise.  The empty mapping is one. -/
def asSequence? (entries : Keyed Sample) : Option (List Sample) :=
  if areIndices 0 entries.keys then some entries.values else none

end Sample
end ResponseTypes
