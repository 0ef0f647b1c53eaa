/-!
# Paths of files

A path is a text whose parts are set apart by slashes.  It is kept as it was written, since
messages show it so; only looking something up takes it apart.

## Main definitions

- `Path.join`: a path below another one.
- `Path.parts`: the parts of a path; `Path.components`: those that lead somewhere.
- `Path.parent?`: the path of the directory above.
- `Path.fileStem?`: the name of a file without its extension.
-/

namespace ResponseTypes
namespace Path

/-- The mark between the parts. -/
def separator : Char := '/'

/-- A path that does not depend on where it is looked up from. -/
def isAbsolute (path : List Char) : Bool :=
  path.head? == some separator

/-- A path below a directory, as characters. -/
def joinChars (directory path : List Char) : List Char :=
  if isAbsolute path || directory.isEmpty then path
  else if directory.getLast? == some separator then directory ++ path
  else directory ++ separator :: path

/-- A path below a directory, or the path alone if it is absolute. -/
def join (directory path : String) : String :=
  String.ofList (joinChars directory.toList path.toList)

/-- The texts between separators, empty ones included. -/
def split : List Char → List (List Char)
  | [] => [[]]
  | c :: rest =>
    if c = separator then [] :: split rest
    else
      match split rest with
      | [] => [[c]]
      | part :: others => (c :: part) :: others

/-- The parts of a path that are not empty. -/
def parts (path : List Char) : List (List Char) :=
  (split path).filter (!·.isEmpty)

/-- The parts of a path that lead somewhere.  A point says to stay, and is only kept at the front of
a path that is not absolute. -/
def components (path : List Char) : List (List Char) :=
  match parts path with
  | [] => []
  | first :: rest =>
    if isAbsolute path then (first :: rest).filter (· ≠ ['.'])
    else first :: rest.filter (· ≠ ['.'])

/-- The last part of a path that leads somewhere, unless it leads upwards. -/
def fileName? (path : List Char) : Option (List Char) :=
  match (components path).getLast? with
  | some name => if name = ['.', '.'] ∨ name = ['.'] then none else some name
  | none => none

/-- The path of given parts, which is absolute or not. -/
def ofParts (absolute : Bool) : List (List Char) → List Char
  | [] => if absolute then [separator] else []
  | first :: rest =>
    (if absolute then [separator] else []) ++
      first ++ rest.flatMap fun part => separator :: part

/-- The path without its last part, if it has one. -/
def parent? (path : String) : Option String :=
  let s := path.toList
  match components s with
  | [] => none
  | names => some (String.ofList (ofParts (isAbsolute s) names.dropLast))

/-- A file's name up to its last point, unless that point comes first. -/
def stem (name : List Char) : List Char :=
  match (name.reverse.dropWhile (· ≠ '.')) with
  | _ :: before => if before.isEmpty then name else before.reverse
  | [] => name

/-- The name of a file without its extension. -/
def fileStem? (path : String) : Option String :=
  (fileName? path.toList).map fun name => String.ofList (stem name)

end Path
end ResponseTypes
