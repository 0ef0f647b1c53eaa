import ResponseTypes.Decimal.Style
import ResponseTypes.Json.Fault
import ResponseTypes.Json.Value

/-!
# Shapes of JSON documents

A shape says what a reader is willing to take at a place of a document.  A record takes an object
with its fields or an array of them in order; fields that it does not know are passed over.

## Main definitions

- `Json.Shape`: the shapes.
- `Json.Shape.expected`: what a shape wants, in words.
- `Json.describe`: what a document has instead, in words.
-/

namespace ResponseTypes
namespace Json

/-- What a reader takes. -/
inductive Shape where
  | any
  | truth
  | text
  /-- a text, or null for none -/
  | optionalText
  | list (item : Shape)
  /-- an object with arbitrary keys -/
  | table (value : Shape)
  | record (name : String) (fields : List (String × Bool × Shape))
deriving Inhabited

namespace Shape

/-- A number of things, in words. -/
def counted (n : Nat) (noun : String) : String :=
  toString n ++ " " ++ noun ++ (if n = 1 then "" else "s")

/-- What a shape wants. -/
def expected : Shape → String
  | any => "any valid JSON value"
  | truth => "a boolean"
  | text => "a string"
  | optionalText => "a string"
  | list _ => "a sequence"
  | table _ => "a map"
  | record name _ => "struct " ++ name

/-- What a record wants of an array. -/
def expectedLength (name : String) (fields : List (String × Bool × Shape)) : String :=
  "struct " ++ name ++ " with " ++ counted fields.length "element"

/-- Whether a value that holds no others has the shape. -/
def takes : Shape → Json → Bool
  | any, _ => true
  | truth, boolean _ => true
  | text, string _ => true
  | optionalText, string _ => true
  | optionalText, null => true
  | _, _ => false

end Shape

/-- Doubles as documents have them: with an exponent from `10 ^ 16` up and below `10 ^ -5`, which
always has a sign. -/
def doubleStyle : Decimal.Style where
  least := -5
  greatest := 15
  plus := true

/-- A value in words, or only its kind if it holds others. -/
def describe : Json → String
  | null => "null"
  | boolean b => "boolean `" ++ toString b ++ "`"
  | integer n => "integer `" ++ toString n ++ "`"
  | double x => "floating point `" ++ String.ofList (doubleStyle.write x) ++ "`"
  | string s => "string " ++ Text.quoted s
  | array _ => "sequence"
  | object _ => "map"

end Json
end ResponseTypes
