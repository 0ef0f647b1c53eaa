import ResponseTypes.Glob.Pattern
import ResponseTypes.Host

/-!
# Paths that fit a pattern

A pattern is followed part by part through the directories.  A part without special characters is
only looked up; any other part is compared with everything in the directory, in the order of the
names.

## Main definitions

- `Glob.below`: what fits the parts of a pattern below a directory.
- `Glob.expand`: the paths that fit a pattern.
-/

namespace ResponseTypes
namespace Glob

variable {m : Type → Type} [Monad m] [Host m]

/-- Whether a path is that of the directory where paths start. -/
def isHere (path : String) : Bool :=
  Path.components path.toList = [['.']]

/-- The path of something in a directory. -/
def inside (directory name : String) : String :=
  if isHere directory then name else Path.join directory name

/-- Whether a name says to stay or to go upwards. -/
def isStep (name : String) : Bool :=
  name = "." || name = ".."

/-- The names in a directory in ascending order.  A directory that cannot be read has none. -/
def namesIn (directory : String) : m (List String) := do
  if ← Host.isDirectory directory then
    match ← Host.list directory with
    | .ok names => return names.mergeSort fun a b => decide (a ≤ b)
    | .error _ => return []
  else return []

/-- The names that say to stay or to go upwards, as far as a part with a point at its front asks
for them. -/
def stepsFor : List Token → List String
  | .char '.' :: others =>
    ["..", "."].filter fun name => «matches» (.char '.' :: others) name.toList
  | _ => []

/-- Whether a part that is only looked up leads somewhere. -/
def leads (directory path name : String) : m Bool :=
  if isStep name then Host.isDirectory directory else Host.exists? path

/-- What fits the parts of a pattern below a directory.  A part for any number of directories goes
on with `deeper` in those that are further down. -/
def descend (directoriesOnly : Bool) (deeper : List (List Token) → String → m (List String)) :
    List (List Token) → String → m (List String)
  | [], path => do
    if directoriesOnly && !(← Host.isDirectory path) then return [] else return [path]
  | [.anyDepth] :: [.anyDepth] :: parts, path =>
    descend directoriesOnly deeper ([.anyDepth] :: parts) path
  | [.anyDepth] :: [], path => do
    (← namesIn path).flatMapM fun name => do
      let child := inside path name
      if ← Host.isDirectory child then return child :: (← deeper [[.anyDepth]] child)
      else return []
  | [.anyDepth] :: part :: parts, path => do
    (← namesIn path).flatMapM fun name => do
      let child := inside path name
      let here ←
        if «matches» part name.toList then descend directoriesOnly deeper parts child
        else pure []
      if ← Host.isDirectory child then
        return here ++ (← deeper ([.anyDepth] :: part :: parts) child)
      else return here
  | part :: parts, path =>
    match literal? part with
    | some text => do
      let name := String.ofList text
      let next := inside path name
      if ← leads path next name then descend directoriesOnly deeper parts next else return []
    | none => do
      if !(← Host.isDirectory path) then return []
      let steps ← (stepsFor part).flatMapM fun name =>
        descend directoriesOnly deeper parts (Path.join path name)
      let names := (← namesIn path).filter fun name => «matches» part name.toList
      let children ← names.flatMapM fun name =>
        descend directoriesOnly deeper parts (inside path name)
      return steps ++ children

/-- What fits the parts of a pattern below a directory, down to a depth. -/
def below (directoriesOnly : Bool) : (depth : Nat) → List (List Token) → String → m (List String)
  | 0 => descend directoriesOnly fun _ _ => pure []
  | depth + 1 => descend directoriesOnly (below directoriesOnly depth)

/-- How far down a path can lead.  It has at most 4095 bytes, so this is deeper than any. -/
def maxDepth : Nat := 4096

/-- The paths that fit a pattern. -/
def expand (text : String) : m (Except Fault (List String)) := do
  match Pattern.parse text with
  | .error fault => return .error fault
  | .ok pattern =>
    let start := if pattern.absolute then String.singleton Path.separator else "."
    return .ok (← below pattern.directoriesOnly maxDepth pattern.parts start)

end Glob
end ResponseTypes
