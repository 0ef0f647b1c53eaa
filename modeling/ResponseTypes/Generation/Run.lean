import ResponseTypes.Generation.Description
import ResponseTypes.Generation.Writing
import ResponseTypes.Sources

/-!
# Generation runs

A run turns models or payloads into declaration files, one unit after the other.  No failure stops
the run: what becomes of each unit is kept in the report.  A filter that breaks down does stop it:
there is no report then, and what the units before have written is all that is left of the run.

## Main definitions

- `Generation.generateModel`, `Generation.generateModels`: one model, and all of them.
- `Generation.generateValue`: one document.
- `Generation.generateValues`: the documents of payloads, each under the name of its file or all
  under one name.
-/

namespace ResponseTypes
namespace Generation

variable {m : Type → Type} [Monad m] [Host m]

/-! ## Models -/

/-- Writes the declaration of a model.  The schema has the last word, so it is always written. -/
def generateModel (settings : Settings) (schema : SchemaSource) (name : String) :
    m (Except Failure Outcome) := do
  Host.report
    { level := .information, part := .generator, message := "processing model"
      details := [("model", .quoted name)] }
  match ← modelDeclaration settings schema name with
  | .error failure => return .error failure
  | .ok declaration => write settings .always declaration

/-- Writes the declarations of all models in the directory of the manifests. -/
def generateModels (settings : Settings) (schema : SchemaSource) : m Report := do
  match ← Model.discover settings.modelsPath with
  | .error failure => return ⟨[⟨settings.modelsPath, .error failure⟩]⟩
  | .ok names =>
    return ⟨← names.mapM fun name => return ⟨name, ← generateModel settings schema name⟩⟩

/-! ## Values -/

/-- Writes the declaration of the record of a document. -/
def generateValue (settings : Settings) (replacement : Replacement) (name origin : String)
    (document : Json) : m (Except Failure Outcome) := do
  if !settings.autoGenerate then return .ok .disabled
  match valueDeclaration settings name origin document with
  | .error failure => return .error failure
  | .ok declaration => write settings replacement declaration

/-- One unit for each of several documents from one payload, which are numbered from one. -/
def generateNumbered (settings : Settings) (replacement : Replacement) (stem origin : String)
    (documents : List Json) : m Report := do
  return ⟨← documents.zipIdx.mapM fun (document, i) => do
    let name := stem ++ "." ++ toString (i + 1)
    return ⟨name, ← generateValue settings replacement name origin document⟩⟩

/-- The name of the units of a payload. -/
def unitName (path : String) : String :=
  (Path.fileStem? path).getD path

/-- The units of one payload. -/
def generatePayload (settings : Settings) (filter? : Option String) (replacement : Replacement)
    (path : String) : m (Except Breakdown Report) := do
  let stem := unitName path
  match ← Payload.load path filter? with
  | .error reason => return .error reason
  | .ok (.error failure) => return .ok ⟨[⟨stem, .error failure⟩]⟩
  | .ok (.ok []) =>
    return .ok ⟨[⟨stem, .error (.unsupported path "filter produced no documents")⟩]⟩
  | .ok (.ok [document]) =>
    return .ok ⟨[⟨stem, ← generateValue settings replacement stem path document⟩]⟩
  | .ok (.ok documents) =>
    Host.report
      { level := .debugging, part := .generator, message := "one unit per filter result"
        details := [("path", .plain path), ("documents", .count documents.length)] }
    return .ok (← generateNumbered settings replacement stem path documents)

/-- The units of payloads, one payload after the other, unless the filter breaks down for one of
them. -/
def generatePayloads (settings : Settings) (filter? : Option String) (replacement : Replacement) :
    (paths : List String) → m (Except Breakdown Report)
  | [] => return .ok {}
  | path :: others => do
    match ← generatePayload settings filter? replacement path with
    | .error reason => return .error reason
    | .ok first =>
      return (← generatePayloads settings filter? replacement others).map (first ++ ·)

/-- The first document of the first payload that has one, with the payload's path.  Payloads that
cannot be used are passed over; the failure of the last of them is kept for the case that there is
no document at all. -/
def firstDocument (filter? : Option String) (failure : Failure) :
    (paths : List String) → m (Upshot (String × Json))
  | [] => return .ok (.error failure)
  | path :: others => do
    match ← Payload.load path filter? with
    | .error reason => return .error reason
    | .ok (.error last) =>
      Host.report
        { level := .warning, part := .generator, message := "skipping payload"
          details := [("path", .plain path), ("error", .plain last.message)] }
      firstDocument filter? last others
    | .ok (.ok []) => firstDocument filter? failure others
    | .ok (.ok (document :: rest)) =>
      if !rest.isEmpty then
        Host.report
          { level := .warning, part := .generator
            message := "named run samples the first document only"
            details := [("path", .plain path), ("dropped", .count rest.length)] }
      return .ok (.ok (path, document))

/-- What is said when there is nothing to sample. -/
def noDocuments : Failure :=
  .absent .payload "no input documents"

/-- The one unit of a run under a name, from the first document that there is. -/
def generateNamed (settings : Settings) (filter? : Option String) (replacement : Replacement)
    (name : String) (paths : List String) : m (Upshot Outcome) := do
  match ← firstDocument filter? noDocuments paths with
  | .error reason => return .error reason
  | .ok (.error failure) => return .ok (.error failure)
  | .ok (.ok (origin, document)) =>
    return .ok (← generateValue settings replacement name origin document)

/-- Writes the declarations of payloads: one unit for each, or a single one under a name. -/
def generateValues (settings : Settings) (name? filter? : Option String)
    (replacement : Replacement) (paths : List String) : m (Except Breakdown Report) := do
  if !settings.autoGenerate then return .ok ⟨[⟨name?.getD "values", .ok .disabled⟩]⟩
  match name? with
  | some name =>
    return (← generateNamed settings filter? replacement name paths).map fun result =>
      ⟨[⟨name, result⟩]⟩
  | none => generatePayloads settings filter? replacement paths

end Generation
end ResponseTypes
