import ResponseTypes.Filter.Run
import ResponseTypes.Glob.Expansion
import ResponseTypes.Schema
import ResponseTypes.Settings

/-!
# Sources on disk

The files that a run reads: payloads, the description of the schema, and the settings.  Payloads are
named by paths or by patterns, and a filter may stand between a payload and its use.

## Main definitions

- `Payload.resolve`: the paths that arguments stand for.
- `Payload.load`: the documents of a payload.
- `Schema.load`, `Settings.load`.
-/

namespace ResponseTypes

variable {m : Type → Type} [Monad m] [Host m]

namespace Payload

/-- Whether an argument is taken for a pattern. -/
def isPattern (argument : String) : Bool :=
  argument.toList.any fun c => c == '*' || c == '?' || c == '[' || c == '\x7b'

/-- The paths that an argument stands for.  A path stands for itself, whether there is something or
not. -/
def pathsOf (argument : String) : m (Except Failure (List String)) := do
  if isPattern argument then
    return (← Glob.expand argument).mapError fun fault => .pattern argument fault.message
  else return .ok [argument]

/-- The paths that arguments stand for, in the order of the arguments. -/
def resolve : (arguments : List String) → m (Except Failure (List String))
  | [] => return .ok []
  | argument :: others => do
    match ← pathsOf argument with
    | .error failure => return .error failure
    | .ok paths => return (← resolve others).map (paths ++ ·)

/-- The document in a file of any content. -/
def documentOf (path : String) (content : Bytes) : Except Failure Json :=
  (Json.parse .any content).mapError fun fault => .malformed path (fault.located content)

/-- The documents of a payload: the one in the file, or those that the filter makes of it.  The
clock is read for a filter, and for nothing else. -/
def load (path : String) (filter? : Option String) : m (Upshot (List Json)) := do
  if !(← Host.isFile path) then return .ok (.error (.absent .payload path))
  match ← Host.read path with
  | .error fault => return .ok (.error (.file path fault))
  | .ok content =>
    match documentOf path content with
    | .error failure => return .ok (.error failure)
    | .ok document =>
      match filter? with
      | none => return .ok (.ok [document])
      | some filter => return Filter.run (← Host.now) filter document

end Payload

/-- The schema that a file describes. -/
def Schema.load (path : String) : m (Except Failure Schema) := do
  match ← Host.read path with
  | .error fault => return .error (.file path fault)
  | .ok content =>
    return (Schema.parse content).mapError fun fault => .malformed path (fault.located content)

namespace Settings

/-- What is said of a document that holds no settings. -/
def trouble : String := "<toml>"

/-- The settings in a file.  If the file is not there, neither are they. -/
def load (path : String) : m (Except Failure (Option Settings)) := do
  match ← Host.read path with
  | .error .absent => return .ok none
  | .error fault => return .error (.file path fault)
  | .ok content =>
    match String.fromUTF8? ⟨content.toArray⟩ with
    | none => return .error (.file path .notText)
    | some text =>
      match Settings.parse text with
      | none => return .error (.settings path trouble)
      | some settings => return .ok (some settings)

end Settings
end ResponseTypes
