import ResponseTypes.Dialect
import ResponseTypes.Keyed
import ResponseTypes.Text.Blank
import ResponseTypes.Text.LetterCase

/-!
# Tables from declared column types to annotations

A database declares a column as `VARCHAR(255)` or `int unsigned`; a table gives the annotation.
Look-up first tries the declared type letter by letter and then its plain spelling: without
padding, in small letters, cut at the first parenthesis or blank.  Every declared type has an
annotation, since one that is not listed is unknown.

## Main definitions

- `TypeTable`: the entries as written, and the same by plain spelling.
- `TypeTable.plainSpelling`: the spelling that look-up falls back to.
- `TypeTable.builtin`, `TypeTable.withOverrides`: the tables in use.
- `TypeTable.get?`, `TypeTable.lookup`: look-up.
-/

namespace ResponseTypes

/-- Annotations for declared types in one dialect. -/
structure TypeTable where
  dialect : Dialect
  /-- by the declared type as it was written -/
  entries : Keyed String := []
  /-- by its plain spelling -/
  spellings : Keyed String := []

namespace TypeTable

/-- The types every table starts with, annotated for TypeScript. -/
def standardTypes : List (String × String) :=
  [("bigint", "number"), ("integer", "number"), ("int", "number"), ("mediumint", "number"),
   ("smallint", "number"), ("tinyint", "number"), ("float", "number"), ("double", "number"),
   ("real", "number"), ("decimal", "number"), ("numeric", "number"), ("year", "number"),
   ("string", "string"), ("varchar", "string"), ("char", "string"), ("text", "string"),
   ("tinytext", "string"), ("mediumtext", "string"), ("longtext", "string"), ("uuid", "string"),
   ("ulid", "string"), ("enum", "string"), ("binary", "string"), ("blob", "string"),
   ("date", "string"), ("datetime", "string"), ("datetimetz", "string"), ("timestamp", "string"),
   ("timestamptz", "string"), ("time", "string"), ("timetz", "string"), ("boolean", "boolean"),
   ("bool", "boolean"), ("json", "Record<string, any>"), ("jsonb", "Record<string, any>")]

/-- The JSDoc spelling of a TypeScript annotation. -/
def respell (type : String) : String :=
  if type = "any" then "*"
  else if type = "Record<string, any>" ∨ type = "object" then "Object"
  else type

/-- The plain spelling of a declared type: trimmed, in small ASCII letters, up to the first
parenthesis, and of that the first word. -/
def plainSpelling (declared : String) : String :=
  let lower := (Text.trim declared.toList).map Text.asciiLower
  String.ofList (Text.firstWord (lower.takeWhile (· ≠ '(')))

/-- One more entry, which replaces an earlier one of the same spelling. -/
def insert (table : TypeTable) (declared type : String) : TypeTable :=
  { table with
    entries := table.entries.insert declared type
    spellings := table.spellings.insert (plainSpelling declared) type }

/-- Several entries, one after the other. -/
def insertAll (table : TypeTable) (more : List (String × String)) : TypeTable :=
  more.foldl (fun t (declared, type) => t.insert declared type) table

/-- The table of a dialect before any user has added to it. -/
def builtin (dialect : Dialect) : TypeTable :=
  insertAll ⟨dialect, [], []⟩ <| standardTypes.map fun (declared, type) =>
    (declared, match dialect with
      | .typeScript => type
      | .jsDoc => respell type)

/-- The built-in table with a user's entries over it. -/
def withOverrides (dialect : Dialect) (overrides : List (String × String)) : TypeTable :=
  (builtin dialect).insertAll overrides

/-- The annotation listed for a declared type, by its own spelling or else by its plain one. -/
def get? (table : TypeTable) (declared : String) : Option String :=
  table.entries.get? declared <|> table.spellings.get? (plainSpelling declared)

/-- The annotation of a declared type, whether it is listed or not. -/
def lookup (table : TypeTable) (declared : String) : String :=
  (table.get? declared).getD table.dialect.unknown

/-- The number of listed types. -/
def size (table : TypeTable) : Nat :=
  table.entries.length

/-- The listed types with their annotations, in order. -/
def toList (table : TypeTable) : List (String × String) :=
  table.entries

end TypeTable
end ResponseTypes
