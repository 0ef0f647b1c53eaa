import ResponseTypes.Event
import ResponseTypes.Failure
import ResponseTypes.Json.Fault
import ResponseTypes.Path

/-!
# Hosts

What a run needs from the system around it: files, a clock, and somewhere to report to.  Everything
that reads or writes is stated over any `Host`, so that it runs on a real system as well as on a
`Session`, which is a value.

## Main definitions

- `Host`: the operations of a system.
- `Host.createDirectories`: makes a directory and those above it.
-/

namespace ResponseTypes

/-- The operations of a system. -/
class Host (m : Type → Type) where
  isDirectory : (path : String) → m Bool
  isFile : (path : String) → m Bool
  exists? : (path : String) → m Bool
  /-- when something was modified -/
  modified? : (path : String) → m (Option Int)
  /-- the names of what is directly in a directory, in any order -/
  list : (path : String) → m (Except FileFault (List String))
  read : (path : String) → m (Except FileFault Bytes)
  write : (path : String) → (content : Bytes) → m (Except FileFault Unit)
  makeDirectory : (path : String) → m (Except FileFault Unit)
  /-- the time by the clock that also stamps what is modified -/
  now : m Int
  /-- the time as people write it -/
  stamp : m String
  report : (event : Event) → m Unit
  /-- prints a line for the user -/
  say : (line : String) → m Unit

namespace Host

variable {m : Type → Type} [Monad m] [Host m]

/-- Makes a directory inside one that is there.  That it is there already is no fault. -/
def ensureDirectory (path : String) : m (Except FileFault Unit) := do
  match ← makeDirectory path with
  | .ok () => return .ok ()
  | .error fault =>
    if fault = .absent then return .error fault
    else if ← isDirectory path then return .ok ()
    else return .error fault

/-- Makes a directory after those above it, which are at most as many as the fuel says. -/
def createFrom : (fuel : Nat) → (path : String) → m (Except FileFault Unit)
  | 0, path => ensureDirectory path
  | fuel + 1, path => do
    if path.isEmpty then return .ok ()
    match ← ensureDirectory path with
    | .error .absent =>
      match Path.parent? path with
      | none => return .error (.other "failed to create whole tree")
      | some parent =>
        match ← createFrom fuel parent with
        | .ok () => ensureDirectory path
        | .error fault => return .error fault
    | result => return result

/-- Makes a directory, and those above it that are missing. -/
def createDirectories (path : String) : m (Except FileFault Unit) :=
  createFrom ((Path.components path.toList).length + 1) path

end Host
end ResponseTypes
