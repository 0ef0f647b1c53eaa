import ResponseTypes.Failure
import ResponseTypes.Json.Fault
import ResponseTypes.Path

/-!
# File systems

A file system without links: what is at which location.  A path is followed part by part from the
root or from the home directory, and every part but the last has to lead to a directory.

## Main definitions

- `Location`, `Entry`, `Files`.
- `Files.locate`: where a path leads.
- `Files.read`, `Files.list`, `Files.write`, `Files.makeDirectory`, `Files.remove`.
-/

namespace ResponseTypes

/-- Where something is: the names of the directories down to it, and its own.  The root has
none. -/
abbrev Location := List (List Char)

/-- Something in a file system, with the time at which it was modified. -/
inductive Entry where
  | file (content : Bytes) (modified : Int)
  | directory (modified : Int)
deriving DecidableEq, Repr, Inhabited

namespace Entry

/-- Whether it is a directory. -/
def isDirectory : Entry → Bool
  | directory _ => true
  | file _ _ => false

/-- When it was modified. -/
def modified : Entry → Int
  | directory t => t
  | file _ t => t

/-- The same thing, modified at another time. -/
def modifiedAt (t : Int) : Entry → Entry
  | directory _ => directory t
  | file content _ => file content t

end Entry

/-- A file system. -/
structure Files where
  /-- what is where, apart from the root -/
  entries : List (Location × Entry)
  /-- the directory that paths start from which are not absolute -/
  home : Location
deriving Repr, Inhabited

namespace Files

/-! ## Entries -/

/-- What is at a location.  There is always a directory at the root. -/
def at? (files : Files) (location : Location) : Option Entry :=
  if location = [] then some (.directory 0)
  else (files.entries.find? fun entry => entry.1 = location).map (·.2)

/-- A file system with something at a location in the place of what was there. -/
def put (files : Files) (location : Location) (entry : Entry) : Files :=
  { files with
    entries := files.entries.filter (fun other => other.1 ≠ location) ++ [(location, entry)] }

@[simp]
theorem at?_root (files : Files) : files.at? [] = some (.directory 0) := rfl

/-- What is found at a location once everything at one of two locations has been dropped. -/
theorem find?_filter_ne (entries : List (Location × Entry)) (dropped wanted : Location) :
    ((entries.filter fun e => !decide (e.1 = dropped)).find? fun e => decide (e.1 = wanted)) =
      if wanted = dropped then none else entries.find? fun e => decide (e.1 = wanted) := by
  induction entries with
  | nil => simp
  | cons e rest ih =>
    by_cases here : e.1 = wanted
    · by_cases gone : wanted = dropped
      · simp_all
      · simp [here, gone]
    · by_cases gone : e.1 = dropped
      · simp_all
      · simp_all

@[simp]
theorem at?_put_self (files : Files) {location : Location} (entry : Entry)
    (h : location ≠ []) : (files.put location entry).at? location = some entry := by
  simp [at?, put, h, List.find?_append, find?_filter_ne, -List.find?_filter]

@[simp]
theorem at?_put_of_ne (files : Files) {location other : Location} (entry : Entry)
    (h : other ≠ location) : (files.put location entry).at? other = files.at? other := by
  simp [at?, put, h, Ne.symm h, List.find?_append, find?_filter_ne, -List.find?_filter]

@[simp]
theorem home_put (files : Files) (location : Location) (entry : Entry) :
    (files.put location entry).home = files.home := rfl

/-- Marks what is at a location as modified. -/
def touch (files : Files) (location : Location) (now : Int) : Files :=
  match files.at? location with
  | some entry => if location = [] then files else files.put location (entry.modifiedAt now)
  | none => files

/-- A file system with something at a location where nothing was; the directory around it is
modified. -/
def create (files : Files) (location : Location) (entry : Entry) (now : Int) : Files :=
  (files.touch location.dropLast now).put location entry

/-! ## Paths -/

/-- The most bytes of a name. -/
def maxName : Nat := 255

/-- The most bytes of a path. -/
def maxPath : Nat := 4095

/-- Follows parts of a path from a location. -/
def walk (files : Files) (start : Location) : List (List Char) → Except FileFault Location
  | [] => .ok start
  | part :: rest =>
    match files.at? start with
    | none => .error .absent
    | some (.file _ _) => .error .notDirectory
    | some (.directory _) =>
      if part = ['.'] then files.walk start rest
      else if part = ['.', '.'] then files.walk start.dropLast rest
      else if maxName < (String.ofList part).utf8ByteSize then .error .nameTooLong
      else files.walk (start ++ [part]) rest

/-- Where the parts of a path lead. -/
def follow (files : Files) (path : String) (parts : List (List Char)) :
    Except FileFault Location :=
  if path.isEmpty then .error .absent
  else if path.toList.contains '\x00' then
    .error (.other "file name contained an unexpected NUL byte")
  else if maxPath < path.utf8ByteSize then .error .nameTooLong
  else files.walk (if Path.isAbsolute path.toList then [] else files.home) parts

/-- Where a path leads.  A path that ends with a separator has to lead to a directory. -/
def locate (files : Files) (path : String) : Except FileFault Location :=
  let s := path.toList
  files.follow path <|
    Path.parts s ++ if s.getLast? = some Path.separator then [['.']] else []

/-- What a path leads to. -/
def find (files : Files) (path : String) : Except FileFault Entry := do
  match files.at? (← files.locate path) with
  | some entry => return entry
  | none => .error .absent

/-- Whether a path leads to something. -/
def exists? (files : Files) (path : String) : Bool :=
  (files.find path).isOk

/-- Whether a path leads to a directory. -/
def isDirectory (files : Files) (path : String) : Bool :=
  match files.find path with
  | .ok entry => entry.isDirectory
  | .error _ => false

/-- Whether a path leads to a file. -/
def isFile (files : Files) (path : String) : Bool :=
  match files.find path with
  | .ok entry => !entry.isDirectory
  | .error _ => false

/-- When the thing that a path leads to was modified. -/
def modified? (files : Files) (path : String) : Option Int :=
  (files.find path).toOption.map Entry.modified

/-! ## Reading -/

/-- The content of a file. -/
def read (files : Files) (path : String) : Except FileFault Bytes := do
  match ← files.find path with
  | .file content _ => return content
  | .directory _ => .error .isDirectory

/-- The name of an entry that is directly in a directory. -/
def nameIn (directory location : Location) : Option (List Char) :=
  match location.getLast? with
  | some name => if location.dropLast = directory then some name else none
  | none => none

/-- The names of what is directly in a directory. -/
def list (files : Files) (path : String) : Except FileFault (List String) := do
  let location ← files.locate path
  match files.at? location with
  | some (.directory _) =>
    return files.entries.filterMap fun entry => (nameIn location entry.1).map String.ofList
  | some (.file _ _) => .error .notDirectory
  | none => .error .absent

/-! ## Changes -/

/-- A file system in which a path leads to a file with a content. -/
def write (files : Files) (path : String) (content : Bytes) (now : Int) :
    Except FileFault Files := do
  let location ← files.locate path
  match files.at? location with
  | some (.directory _) => .error .isDirectory
  | some (.file _ _) => return files.put location (.file content now)
  | none => return files.create location (.file content now) now

/-- A file system with one more directory. -/
def makeDirectory (files : Files) (path : String) (now : Int) : Except FileFault Files := do
  let location ← files.follow path (Path.parts path.toList)
  match files.at? location with
  | some _ => .error .occupied
  | none => return files.create location (.directory now) now

/-- A file system without what a path leads to, and without everything below it. -/
def remove (files : Files) (path : String) (now : Int) : Except FileFault Files := do
  let location ← files.locate path
  match files.at? location with
  | none => .error .absent
  | some _ =>
    return { files.touch location.dropLast now with
      entries := (files.touch location.dropLast now).entries.filter fun entry =>
        !location.isPrefixOf entry.1 }

/-- A file system in which the thing that a path leads to was modified at a time. -/
def setModified (files : Files) (path : String) (time : Int) : Except FileFault Files := do
  return files.touch (← files.locate path) time

end Files
end ResponseTypes
