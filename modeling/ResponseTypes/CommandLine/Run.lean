import ResponseTypes.CommandLine.Arguments
import ResponseTypes.Generation.Run

/-!
# Carrying out a command line

The settings come from a file, and a command line can replace some of them.  A run prints a line
for each unit that ended well and one for the whole; whatever broke is reported as an event.  Only
a pattern that is not well formed ends the run with an error, and only a filter that breaks down
takes the program with it.

## Main definitions

- `CommandLine.settingsOf`: the settings in effect.
- `CommandLine.summarize`: prints a report.
- `CommandLine.run`, and `CommandLine.exitCode?` for its result.
-/

namespace ResponseTypes
namespace CommandLine

variable {m : Type → Type} [Monad m] [Host m]

/-- What the program says of its version. -/
def versionLine : String := "api-typer 0.1.0"

/-! ## Settings -/

/-- The file that settings are in unless another one is named. -/
def defaultConfig : String := "api-typer.toml"

/-- The settings in the file of a command line.  The defaults stand in for a file that is missing
or broken. -/
def loadSettings (config? : Option String) : m Settings := do
  let path := config?.getD defaultConfig
  match ← Settings.load path with
  | .ok (some settings) => return settings
  | .ok none =>
    if config?.isSome then
      Host.report
        { level := .warning, part := .commandLine
          message := "config file not found, using defaults", details := [("path", .plain path)] }
    return {}
  | .error failure =>
    Host.report
      { level := .warning, part := .commandLine, message := "using default configuration"
        details := [("error", .plain failure.message)] }
    return {}

/-- Settings with those in their place that a command line gives. -/
def overriding (invocation : Invocation) (settings : Settings) : Settings :=
  let settings := { settings with
    outputPath := invocation.output?.getD settings.outputPath
    dialect := invocation.dialect?.getD settings.dialect }
  match invocation.task with
  | .models _ schema? models? =>
    { settings with
      schemaPath := schema?.getD settings.schemaPath
      modelsPath := models?.getD settings.modelsPath }
  | .values _ _ _ _ => settings

/-- The settings in effect for a command line. -/
def settingsOf (invocation : Invocation) : m Settings := do
  return overriding invocation (← loadSettings invocation.config?)

/-! ## Reports -/

/-- An event that tells why a unit has no outcome. -/
def unitEvent (level : Level) (name : String) (failure : Failure) : Event where
  level
  part := .commandLine
  message := failure.message
  details := [("unit", .plain name)]

/-- Tells what became of a unit. -/
def tell (unit : UnitReport) : m Unit :=
  match unit.result with
  | .ok (.written path) => Host.say ("  generated " ++ path)
  | .ok (.fresh path) => Host.say ("  skipped " ++ path ++ " (fresh)")
  | .ok .disabled => Host.say "  skipped auto_generate is off"
  | .error failure =>
    let level := if failure.isAbsence then Level.warning else .error
    Host.report (unitEvent level unit.name failure)

/-- The line for a whole run. -/
def totals (report : Report) : String :=
  "done: " ++ toString report.written ++ " written, " ++ toString report.skipped ++
    " skipped, " ++ toString report.failed ++ " failed"

/-- Tells what became of every unit, and of the whole. -/
def summarize (report : Report) : m Unit := do
  report.units.forM tell
  Host.say (totals report)

/-! ## Commands -/

/-- Generates from models: from one, or from all of them. -/
def runModels (settings : Settings) (model? : Option String) : m Unit := do
  Host.say "Generating types from models..."
  match ← Schema.load settings.schemaPath with
  | .error failure =>
    Host.report
      { level := .error, part := .commandLine, message := "cannot read schema, nothing generated"
        details := [("error", .plain failure.message)] }
  | .ok schema =>
    match model? with
    | some model =>
      summarize ⟨[⟨model, ← Generation.generateModel settings schema.source model⟩]⟩
    | none => summarize (← Generation.generateModels settings schema.source)

/-- Generates from the payloads that arguments stand for. -/
def runValues (settings : Settings) (inputs : List String) (name? filter? : Option String)
    (force : Bool) : m (Upshot Unit) := do
  match ← Payload.resolve inputs with
  | .error failure => return .ok (.error failure)
  | .ok paths =>
    let replacement := if force then Generation.Replacement.always else .whenStale
    match ← Generation.generateValues settings name? filter? replacement paths with
    | .error reason => return .error reason
    | .ok report =>
      summarize report
      return .ok (.ok ())

/-- Carries out a command line. -/
def run (invocation : Invocation) : m (Upshot Unit) := do
  let settings ← settingsOf invocation
  match invocation.task with
  | .models model? _ _ =>
    runModels settings model?
    return .ok (.ok ())
  | .values inputs name? filter? force => runValues settings inputs name? filter? force

/-- The number with which the program ends, if it comes to an end. -/
def exitCode? : Upshot Unit → Option Nat
  | .ok (.ok ()) => some 0
  | .ok (.error _) => some 1
  | .error reason => reason.exitCode?

/-- A failure in words, with its cause once more after it. -/
def explain : Failure → String
  | .pattern text detail => (Failure.pattern text detail).message ++ ": " ++ detail
  | .file path fault => (Failure.file path fault).message ++ ": " ++ fault.message
  | .settings path detail => (Failure.settings path detail).message ++ ": " ++ detail
  | failure => failure.message

/-- The line that a run ends with if it fails. -/
def failureLine (failure : Failure) : String :=
  "Error: " ++ explain failure

end CommandLine
end ResponseTypes
