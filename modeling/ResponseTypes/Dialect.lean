/-!
# Declaration dialects

The two syntaxes a declaration can be written in, and how each spells the annotations that the
library needs: TypeScript interfaces in `.ts` files, JSDoc typedef comments in `.js` files.

## Main definitions

- `Dialect`, with its annotations: `unknown`, `number`, `object`, `arrayOf`, `nullable`, ….
- `NullPolicy`: what a null value of a payload tells about its field.
-/

namespace ResponseTypes

/-- Which declaration syntax to write. -/
inductive Dialect where
  | typeScript
  | jsDoc
deriving DecidableEq, Repr, Inhabited

/-- What a null value of a payload turns into. -/
inductive NullPolicy where
  /-- the dialect's annotation for null -/
  | null
  /-- the dialect's annotation for anything at all -/
  | unknown
deriving DecidableEq, Repr, Inhabited

namespace Dialect

/-- The file extension, which also names the dialect on a command line and in a configuration. -/
def extension : Dialect → String
  | typeScript => "ts"
  | jsDoc => "js"

/-- The dialect with this extension. -/
def ofExtension? : String → Option Dialect
  | "ts" => some typeScript
  | "js" => some jsDoc
  | _ => none

/-- The annotation for a value of which nothing is known. -/
def unknown : Dialect → String
  | typeScript => "any"
  | jsDoc => "*"

/-- The annotation for numbers. -/
def number (_ : Dialect) : String := "number"

/-- The annotation for texts. -/
def string (_ : Dialect) : String := "string"

/-- The annotation for truth values. -/
def boolean (_ : Dialect) : String := "boolean"

/-- The annotation for dates and times. -/
def date (_ : Dialect) : String := "Date"

/-- The annotation for null. -/
def null (_ : Dialect) : String := "null"

/-- The annotation for mappings. -/
def object : Dialect → String
  | typeScript => "object"
  | jsDoc => "Object"

/-- The annotation of an array with elements of one annotation.  TypeScript's brackets bind more
tightly than a union, so anything that may be one is parenthesised. -/
def arrayOf (dialect : Dialect) (element : String) : String :=
  match dialect with
  | typeScript =>
    if element.toList.contains '|' || element.toList.contains ' ' then "(" ++ element ++ ")[]"
    else element ++ "[]"
  | jsDoc => "Array<" ++ element ++ ">"

/-- The annotation of something that may also be null.  JSDoc does not enforce nullability, so
there the annotation stays as it is. -/
def nullable (dialect : Dialect) (base : String) : String :=
  match dialect with
  | typeScript => base ++ " | null"
  | jsDoc => base

/-- The annotation of a null value under a policy. -/
def nullType (dialect : Dialect) : NullPolicy → String
  | .null => dialect.null
  | .unknown => dialect.unknown

@[simp]
theorem ofExtension?_extension (dialect : Dialect) :
    ofExtension? dialect.extension = some dialect := by
  cases dialect <;> rfl

end Dialect

/-- The policy with this name in a configuration. -/
def NullPolicy.ofName? : String → Option NullPolicy
  | "null" => some .null
  | "unknown" => some .unknown
  | _ => none

/-- The policy's name in a configuration. -/
def NullPolicy.name : NullPolicy → String
  | .null => "null"
  | .unknown => "unknown"

end ResponseTypes
