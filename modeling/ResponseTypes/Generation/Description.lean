import ResponseTypes.Declaration
import ResponseTypes.Model
import ResponseTypes.Payload
import ResponseTypes.Schema
import ResponseTypes.Settings

/-!
# The declarations of models and payloads

A model is declared by the columns of its table, a payload by the fields of its record.  What a
schema fails to say of a column is left out of its description with a warning; only a table whose
columns are not known at all cannot be declared.

## Main definitions

- `Generation.describe`: a column as far as a schema describes it.
- `Generation.modelDeclaration`: the declaration of a model.
- `Generation.valueDeclaration`: the declaration of a payload.
-/

namespace ResponseTypes
namespace Generation

/-! ## Columns -/

/-- The warning that a schema does not answer a question about a column. -/
def fallback (question table column : String) (fault : SchemaFault) : Event where
  level := .warning
  part := .generator
  message := question ++ " lookup failed, falling back"
  details :=
    [("table", .quoted table), ("column", .quoted column), ("error", .plain fault.message)]

/-- The answer to a question about a column, or a default and the warning. -/
def answerOr {α : Type} (default : α) (question table column : String) :
    Except SchemaFault α → α × List Event
  | .ok answer => (answer, [])
  | .error fault => (default, [fallback question table column fault])

/-- A column as far as a schema describes it, with the warnings about the rest. -/
def describe (schema : SchemaSource) (table name : String) : Column × List Event :=
  let type := answerOr "" "type" table name (schema.declaredType table name)
  let nullable := answerOr false "nullability" table name (schema.nullable table name)
  let enumeration := answerOr false "enum" table name (schema.enumeration table name)
  let decimal := answerOr false "decimal" table name (schema.decimal table name)
  ({ name, declaredType := type.1, nullable := nullable.1, enumeration := enumeration.1,
     decimal := decimal.1 },
    type.2 ++ nullable.2 ++ enumeration.2 ++ decimal.2)

/-- The names of the columns of a table.  A table that is not there is nothing that broke. -/
def columnNames (schema : SchemaSource) (table : String) : Except Failure (List String) :=
  (schema.columns table).mapError fun
    | .noTable name => .absent .table name
    | fault => .schema fault

/-- The columns of a table, with the warnings about them. -/
def describeAll (schema : SchemaSource) (table : String) :
    Except Failure (List Column × List Event) := do
  let described := (← columnNames schema table).map (describe schema table)
  return (described.map (·.1), described.flatMap (·.2))

/-! ## Declarations -/

/-- The declaration of a model with given columns. -/
def declarationOf (settings : Settings) (model : Model) (columns : List Column) : Declaration where
  name := Naming.typeName model.name settings.modelSuffix
  fields := Column.fields columns settings.typeTable
  source := some ("table " ++ model.table)

/-- The declaration of the record of a payload. -/
def valueDeclaration (settings : Settings) (name origin : String) (document : Json) :
    Except Failure Declaration := do
  let record ← (Payload.record document).mapError fun defect =>
    .unsupported origin defect.message
  return {
    name := Naming.typeName name settings.valueSuffix
    fields := settings.inference.fields (Sample.ofEntries record)
    source := some origin }

variable {m : Type → Type} [Monad m] [Host m]

/-- The declaration of the model of a name. -/
def modelDeclaration (settings : Settings) (schema : SchemaSource) (name : String) :
    m (Except Failure Declaration) := do
  match ← Model.load settings.modelsPath name with
  | .error failure => return .error failure
  | .ok model =>
    match describeAll schema model.table with
    | .error failure => return .error failure
    | .ok (columns, warnings) =>
      warnings.forM Host.report
      return .ok (declarationOf settings model columns)

end Generation
end ResponseTypes
