import ResponseTypes.Inference
import ResponseTypes.TypeTable

/-!
# Annotations of table columns

What a schema says of a column decides its annotation.  The first rule that applies wins: a
decimal is a number, an enumeration a string, and any other column has the annotation of its
declared type, widened by null where the column may be null.

## Main definitions

- `Column`: a column as a schema describes it.
- `Column.typeIn`: its annotation under a type table.
-/

namespace ResponseTypes

/-- A column of a table. -/
structure Column where
  name : String
  declaredType : String
  nullable : Bool := false
  enumeration : Bool := false
  decimal : Bool := false
deriving DecidableEq, Repr, Inhabited

namespace Column

/-- The annotation of a column under a type table. -/
def typeIn (column : Column) (table : TypeTable) : String :=
  if column.decimal then table.dialect.number
  else if column.enumeration then table.dialect.string
  else
    let base := table.lookup column.declaredType
    if column.nullable then table.dialect.nullable base else base

/-- The annotated fields of columns, in their order. -/
def fields (columns : List Column) (table : TypeTable) : List Field :=
  columns.map fun column => ⟨column.name, column.typeIn table⟩

end Column
end ResponseTypes
