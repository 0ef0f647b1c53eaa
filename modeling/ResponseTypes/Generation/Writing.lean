import ResponseTypes.Declaration
import ResponseTypes.Freshness
import ResponseTypes.Host
import ResponseTypes.Report
import ResponseTypes.Settings

/-!
# Writing declarations

A declaration is written into the output directory, which is made if it is missing.  A file that
is there already is replaced, unless it is fresh and only stale ones are to be replaced.

## Main definitions

- `Generation.isFresh`: whether a file is younger than a window.
- `Generation.write`: writes a declaration.
-/

namespace ResponseTypes
namespace Generation

variable {m : Type → Type} [Monad m] [Host m]

/-- Which files are replaced. -/
inductive Replacement where
  | always
  | whenStale
deriving DecidableEq, Repr, Inhabited

/-- An event about a path. -/
def pathEvent (level : Level) (message path : String) : Event where
  level
  part := .generator
  message
  details := [("path", .plain path)]

/-- Whether there is something at a path that is younger than a window. -/
def isFresh (path : String) (window : Int) : m Bool := do
  match ← Host.modified? path with
  | none => return false
  | some time => return Freshness.isYounger time window (← Host.now)

/-- How long a file stays fresh. -/
def window (settings : Settings) : Int :=
  settings.freshnessSeconds * Freshness.second

/-- Whether a file is left as it is. -/
def isKept (settings : Settings) (replacement : Replacement) (path : String) : m Bool :=
  match replacement with
  | .always => pure false
  | .whenStale => isFresh path (window settings)

/-- Sees to it that the output directory is there. -/
def ensureOutput (settings : Settings) : m (Except Failure Unit) := do
  let path := settings.outputPath
  if ← Host.isDirectory path then return .ok ()
  match ← Host.createDirectories path with
  | .error fault => return .error (.file path fault)
  | .ok () =>
    Host.report (pathEvent .information "created output directory" path)
    return .ok ()

/-- Writes a declaration to a path. -/
def writeTo (settings : Settings) (declaration : Declaration) (path : String) :
    m (Except Failure Outcome) := do
  let text := declaration.render settings.dialect settings.excludedColumns (← Host.stamp)
  match ← Host.write path text.toUTF8.toList with
  | .error fault => return .error (.file path fault)
  | .ok () =>
    Host.report (pathEvent .information "generated" path)
    return .ok (.written path)

/-- Writes a declaration to its place in the output directory, unless the file there is kept. -/
def write (settings : Settings) (replacement : Replacement) (declaration : Declaration) :
    m (Except Failure Outcome) := do
  match ← ensureOutput settings with
  | .error failure => return .error failure
  | .ok () =>
    let path := settings.artifactPath declaration.name
    if ← isKept settings replacement path then
      Host.report (pathEvent .debugging "artifact is fresh, skipping" path)
      return .ok (.fresh path)
    else writeTo settings declaration path

end Generation
end ResponseTypes
