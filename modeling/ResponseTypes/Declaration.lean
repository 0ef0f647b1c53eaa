import ResponseTypes.Inference
import ResponseTypes.Json.Quote

/-!
# Declaration files

A declaration file names one type and declares three: the type itself, `…Collection` for a page of
it, and `…Response` for one of it in an envelope.  The page spells out its `links` and `meta`
members, so that each file stands alone.

A file is a list of lines, each closed by a line feed.

## Main definitions

- `Declaration`: a type's name, its fields, and where it came from.
- `Declaration.propertyKey`: how a field's name is written.
- `Declaration.lines`, `Declaration.render`: the file.
-/

namespace ResponseTypes

/-- A type to declare. -/
structure Declaration where
  name : String
  fields : List Field
  /-- named in the file's header when it is known -/
  source : Option String := none
deriving DecidableEq, Repr, Inhabited

namespace Declaration

/-- The first line of every file. -/
def header : String := "// Auto-generated by api-typer"

/-! ## Property keys -/

/-- The characters an identifier can begin with. -/
def isIdentifierStart (c : Char) : Bool :=
  ('A' ≤ c && c ≤ 'Z') || ('a' ≤ c && c ≤ 'z') || c == '_' || c == '$'

/-- The characters an identifier can go on with. -/
def isIdentifierRest (c : Char) : Bool :=
  isIdentifierStart c || ('0' ≤ c && c ≤ '9')

/-- ASCII identifiers, which need no quotes as property keys. -/
def isIdentifier : List Char → Bool
  | [] => false
  | c :: rest => isIdentifierStart c && rest.all isIdentifierRest

/-- A field's name as a property key: bare if it is an identifier, else a JSON string. -/
def propertyKey (field : String) : String :=
  if isIdentifier field.toList then field else Json.quote field

/-! ## Pagination -/

/-- A member of the page that wraps a collection.  Its annotation is a union of names. -/
structure PageMember where
  name : String
  alternatives : List String
  optional : Bool := false

/-- The links to the neighbours of a page. -/
def linkMembers : List PageMember :=
  [⟨"first", ["string"], false⟩, ⟨"last", ["string"], false⟩,
   ⟨"prev", ["string", "null"], false⟩, ⟨"next", ["string", "null"], false⟩]

/-- The position of a page in its collection. -/
def metaMembers : List PageMember :=
  [⟨"current_page", ["number"], false⟩, ⟨"last_page", ["number"], false⟩,
   ⟨"per_page", ["number"], false⟩, ⟨"total", ["number"], false⟩,
   ⟨"from", ["number"], true⟩, ⟨"to", ["number"], true⟩]

/-! ## TypeScript -/

/-- An optional member of an interface, with its members written out. -/
def interfaceMember (key : String) (members : List PageMember) : List String :=
  ["  " ++ key ++ "?: \x7b"] ++
  members.map (fun m => "    " ++ m.name ++ (if m.optional then "?" else "") ++ ": " ++
    " | ".intercalate m.alternatives ++ ";") ++
  ["  \x7d;"]

/-- One field of an interface. -/
def interfaceField (field : Field) : String :=
  "  " ++ propertyKey field.name ++ ": " ++ field.type ++ ";"

/-- The three interfaces. -/
def interfaces (name : String) (fields : List Field) : List String :=
  ["export interface " ++ name ++ " \x7b"] ++ fields.map interfaceField ++ ["\x7d", ""] ++
  ["export interface " ++ name ++ "Collection \x7b", "  data: " ++ name ++ "[];"] ++
  interfaceMember "links" linkMembers ++ interfaceMember "meta" metaMembers ++ ["\x7d", ""] ++
  ["export interface " ++ name ++ "Response \x7b", "  data: " ++ name ++ ";", "\x7d"]

/-! ## JSDoc -/

/-- A property of a typedef. -/
def property (type key : String) : String :=
  " * @property \x7b" ++ type ++ "\x7d " ++ key

/-- An optional property of a typedef, with its members as properties of their own. -/
def nestedProperty (key : String) (members : List PageMember) : List String :=
  [property "Object" ("[" ++ key ++ "]")] ++
  members.map fun m =>
    let path := key ++ "." ++ m.name
    property ("|".intercalate m.alternatives) (if m.optional then "[" ++ path ++ "]" else path)

/-- A comment block that defines one type. -/
def typedefBlock (name : String) (properties : List String) : List String :=
  ["/**", " * @typedef \x7bObject\x7d " ++ name] ++ properties ++ [" */"]

/-- The three typedefs. -/
def typedefs (name : String) (fields : List Field) : List String :=
  typedefBlock name (fields.map fun f => property f.type (propertyKey f.name)) ++ [""] ++
  typedefBlock (name ++ "Collection")
    ([property ("Array<" ++ name ++ ">") "data"] ++
      nestedProperty "links" linkMembers ++ nestedProperty "meta" metaMembers) ++ [""] ++
  typedefBlock (name ++ "Response") [property name "data"]

/-! ## The file -/

/-- The comment lines at the top of a file. -/
def headerLines (generatedAt : String) (source : Option String) : List String :=
  [header, "// Generated at: " ++ generatedAt] ++
  (match source with
    | some s => ["// Source: " ++ s]
    | none => []) ++ [""]

/-- The fields that are not excluded, in order. -/
def keptFields (declaration : Declaration) (excluded : List String) : List Field :=
  declaration.fields.filter fun field => !excluded.contains field.name

/-- The lines of the file. -/
def lines (declaration : Declaration) (dialect : Dialect) (excluded : List String)
    (generatedAt : String) : List String :=
  let fields := declaration.keptFields excluded
  headerLines generatedAt declaration.source ++
  match dialect with
  | .typeScript => interfaces declaration.name fields
  | .jsDoc => typedefs declaration.name fields

/-- The text of the file. -/
def render (declaration : Declaration) (dialect : Dialect) (excluded : List String)
    (generatedAt : String) : String :=
  String.join ((declaration.lines dialect excluded generatedAt).map (· ++ "\n"))

end Declaration
end ResponseTypes
