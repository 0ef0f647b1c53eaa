import ResponseTypes.Glob.Expansion
import ResponseTypes.Json.Reader
import ResponseTypes.Naming

/-!
# Models

A model is described by a manifest, a JSON file of the model's name in the directory of the
manifests.  The manifest may name the model's table; an empty one is as good as none of its
entries.

## Main definitions

- `Model`.
- `Model.discover`: the names of the models in a directory.
- `Model.load`: the model of a name.
-/

namespace ResponseTypes

/-- A model and its table. -/
structure Model where
  name : String
  table : String
  /-- the path of the manifest -/
  manifest : String
deriving DecidableEq, Repr, Inhabited

namespace Model

/-- The extension of manifests. -/
def extension : String := ".json"

/-- What a manifest may hold. -/
def shape : Json.Shape :=
  .record "ModelManifest" [("table", false, .optionalText)]

/-- The bytes that count as nothing. -/
def isBlank (byte : UInt8) : Bool :=
  byte == 0x20 || byte == 0x09 || byte == 0x0a || byte == 0x0c || byte == 0x0d

/-- The table that a manifest names, if it names one. -/
def tableNamed (content : Bytes) : Except Json.Fault (Option String) :=
  if content.all isBlank then .ok none
  else
    (Json.parse shape content).map fun description =>
      (description.get? "table").bind Json.asString?

variable {m : Type → Type} [Monad m] [Host m]

/-- The names of the models in a directory in order. -/
def discover (modelsPath : String) : m (Except Failure (List String)) := do
  if !(← Host.isDirectory modelsPath) then return .error (.absent .directory modelsPath)
  let pattern := Path.join modelsPath ("*" ++ extension)
  match ← Glob.expand pattern with
  | .error fault => return .error (.pattern pattern fault.message)
  | .ok paths =>
    let manifests ← paths.filterM Host.isFile
    return .ok ((manifests.filterMap Path.fileStem?).mergeSort fun a b => decide (a ≤ b))

/-- The model of a name.  Its table is the one in the manifest, or the conventional one. -/
def load (modelsPath name : String) : m (Except Failure Model) := do
  let manifest := Path.join modelsPath (name ++ extension)
  if !(← Host.isFile manifest) then return .error (.absent .model name)
  match ← Host.read manifest with
  | .error fault => return .error (.file manifest fault)
  | .ok content =>
    match tableNamed content with
    | .error fault => return .error (.malformed manifest (fault.located content))
    | .ok table => return .ok { name, table := table.getD (Naming.tableName name), manifest }

end Model
end ResponseTypes
