import ResponseTypes.Inference
import ResponseTypes.Path
import ResponseTypes.Toml.Reader
import ResponseTypes.TypeTable

/-!
# Settings

What a run can be told: where to read and write, in which dialect, and how to name what it writes.
Settings come from a TOML document in which every key is optional and unknown keys are ignored.

## Main definitions

- `Settings`, with their defaults.
- `Settings.ofToml?`, `Settings.parse`: the settings in a document.
- `Settings.typeTable`: the table of column types in effect.
-/

namespace ResponseTypes

/-- What a run can be told. -/
structure Settings where
  /-- the directory of the declaration files -/
  outputPath : String := "types"
  /-- the directory of the model manifests -/
  modelsPath : String := "models"
  /-- the description of the schema -/
  schemaPath : String := "schema.json"
  /-- entries over the standard column types -/
  typeMappings : Keyed String := []
  /-- the names of fields that are never written -/
  excludedColumns : List String := ["password", "remember_token"]
  /-- whether declarations are made from payloads -/
  autoGenerate : Bool := true
  dialect : Dialect := .typeScript
  nullPolicy : NullPolicy := .null
  modelSuffix : String := "Resource"
  valueSuffix : String := "Type"
  /-- how long a declaration made from a payload stays fresh -/
  freshnessSeconds : Nat := 3600
deriving Repr, Inhabited

namespace Settings

/-! ## Values of settings -/

/-- A text. -/
def text? : Toml → Option String
  | .string s => some s
  | _ => none

/-- A truth value. -/
def truth? : Toml → Option Bool
  | .boolean b => some b
  | _ => none

/-- A number that is not negative. -/
def natural? : Toml → Option Nat
  | .integer (.ofNat n) => some n
  | _ => none

/-- A set of texts, kept in order and without repetitions. -/
def texts? : Toml → Option (List String)
  | .array items => do
    let sorted := (← items.mapM text?).mergeSort fun a b => decide (a ≤ b)
    return sorted.eraseReps
  | _ => none

/-- The key under which a time is found where a table is asked for. -/
def timeKey : String := "$__toml_private_datetime"

/-- Texts under keys. -/
def mappings? : Toml → Option (Keyed String)
  | .table _ entries => entries.mapM fun (key, value) => do return (key, ← text? value)
  | .time text => some [(timeKey, text)]
  | _ => none

/-- A value with nothing in it. -/
def isHollow : Toml → Bool
  | .array items => items.isEmpty
  | .table _ entries => entries.isEmpty
  | _ => false

/-- One of a few names: a text, or a table whose only key it is and that holds nothing else. -/
def name? : Toml → Option String
  | .string s => some s
  | .table .braces [(key, value)] => if isHollow value then some key else none
  | .table .braces _ => none
  | .table _ ((key, value) :: _) => if isHollow value then some key else none
  | _ => none

/-! ## Settings of a document -/

/-- The value of a key, or the default where the document does not have the key. -/
def setting {α : Type} (entries : Keyed Toml) (key : String) (read : Toml → Option α)
    (default : α) : Option α :=
  match entries.get? key with
  | none => some default
  | some value => read value

/-- The settings in the entries of a document. -/
def ofToml? (entries : Keyed Toml) : Option Settings := do
  let d : Settings := {}
  return {
    outputPath := ← setting entries "output_path" text? d.outputPath
    modelsPath := ← setting entries "models_path" text? d.modelsPath
    schemaPath := ← setting entries "schema_path" text? d.schemaPath
    typeMappings := ← setting entries "type_mappings" mappings? d.typeMappings
    excludedColumns := ← setting entries "exclude_columns" texts? d.excludedColumns
    autoGenerate := ← setting entries "auto_generate" truth? d.autoGenerate
    dialect := ← setting entries "dialect" (name? · >>= Dialect.ofExtension?) d.dialect
    nullPolicy := ← setting entries "null_type" (name? · >>= NullPolicy.ofName?) d.nullPolicy
    modelSuffix := ← setting entries "model_suffix" text? d.modelSuffix
    valueSuffix := ← setting entries "value_suffix" text? d.valueSuffix
    freshnessSeconds := ← setting entries "freshness_secs" natural? d.freshnessSeconds }

/-- The settings in the text of a document. -/
def parse (text : String) : Option Settings := do
  ofToml? (← Toml.parse text)

/-- The table of column types in effect.  A user's entries are written for TypeScript and have no
effect on the other dialect. -/
def typeTable (settings : Settings) : TypeTable :=
  match settings.dialect with
  | .typeScript => .withOverrides .typeScript settings.typeMappings
  | .jsDoc => .builtin .jsDoc

/-- Where the declaration of a type is written. -/
def artifactPath (settings : Settings) (typeName : String) : String :=
  Path.join settings.outputPath (typeName ++ "." ++ settings.dialect.extension)

/-- How samples are annotated. -/
def inference (settings : Settings) : Inference where
  dialect := settings.dialect
  nullPolicy := settings.nullPolicy

end Settings
end ResponseTypes
