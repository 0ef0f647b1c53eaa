import ResponseTypes.Column
import ResponseTypes.Failure
import ResponseTypes.Json.Reader

/-!
# Schemas

A schema says which columns a table has and what is known of each.  A run asks a `SchemaSource`
five questions, each of which may fail on its own.  A `Schema` is the source that is read from a
JSON description:

    {"tables": {"users": {"columns": [{"name": "id", "type": "bigint"}]}}}

## Main definitions

- `SchemaSource`: anything that answers questions about columns.
- `Schema`: tables with their columns; `Schema.parse` reads its description.
- `Schema.source`: a schema as a source.
-/

namespace ResponseTypes

/-- Answers to questions about the columns of tables. -/
structure SchemaSource where
  /-- the names of a table's columns, in order -/
  columns : (table : String) → Except SchemaFault (List String)
  declaredType : (table column : String) → Except SchemaFault String
  nullable : (table column : String) → Except SchemaFault Bool
  decimal : (table column : String) → Except SchemaFault Bool := fun _ _ => .ok false
  enumeration : (table column : String) → Except SchemaFault Bool := fun _ _ => .ok false

/-- Tables with their columns. -/
structure Schema where
  tables : Keyed (List Column) := []

namespace Schema

/-! ## The description of a schema -/

/-- A column's description. -/
def columnShape : Json.Shape :=
  .record "ColumnDef"
    [("name", true, .text), ("type", true, .text), ("nullable", false, .truth),
     ("enum", false, .truth), ("decimal", false, .truth)]

/-- A table's description. -/
def tableShape : Json.Shape :=
  .record "TableDef" [("columns", false, .list columnShape)]

/-- A whole description. -/
def shape : Json.Shape :=
  .record "SchemaFile" [("tables", false, .table tableShape)]

/-- A truth value that is false when it is not given. -/
def flag (description : Json) (name : String) : Bool :=
  (description.get? name).any Json.isTrue

/-- A text that the shape demands. -/
def textOf (description : Json) (name : String) : String :=
  ((description.get? name).bind Json.asString?).getD ""

/-- The column of a description. -/
def columnOf (description : Json) : Column where
  name := textOf description "name"
  declaredType := textOf description "type"
  nullable := flag description "nullable"
  enumeration := flag description "enum"
  decimal := flag description "decimal"

/-- The columns of a table's description. -/
def columnsOf (description : Json) : List Column :=
  ((description.get? "columns").getD .null).items.map columnOf

/-- The schema of a description. -/
def ofJson (description : Json) : Schema where
  tables := ((description.get? "tables").getD .null).entries.map fun (name, table) =>
    (name, columnsOf table)

/-- Reads the description of a schema. -/
def parse (bytes : Bytes) : Except Json.Fault Schema :=
  (Json.parse shape bytes).map ofJson

/-! ## Questions -/

/-- The columns of a table. -/
def columns (schema : Schema) (table : String) : Except SchemaFault (List Column) :=
  match schema.tables.get? table with
  | some columns => .ok columns
  | none => .error (.noTable table)

/-- The first column of this name. -/
def column (schema : Schema) (table name : String) : Except SchemaFault Column := do
  match (← schema.columns table).find? (·.name == name) with
  | some column => return column
  | none => .error (.noColumn table name)

/-- A schema as a source of answers. -/
def source (schema : Schema) : SchemaSource where
  columns table := (schema.columns table).map (·.map (·.name))
  declaredType table name := (schema.column table name).map (·.declaredType)
  nullable table name := (schema.column table name).map (·.nullable)
  decimal table name := (schema.column table name).map (·.decimal)
  enumeration table name := (schema.column table name).map (·.enumeration)

end Schema
end ResponseTypes
