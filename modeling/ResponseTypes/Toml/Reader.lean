import ResponseTypes.Toml.Text

/-!
# Reading TOML documents

A document is read in two steps: its text gives statements, which are keys with values and headers,
and the statements build up the document one after the other.  A document that is not well formed
gives nothing; nobody asks where it goes wrong.

## Main definitions

- `Toml.readValue`: a value at the front of a text.
- `Toml.Statement`: what a line of a document says.
- `Toml.parse`: the entries of a document.
-/

namespace ResponseTypes
namespace Toml

open DateShape (isDigit)

/-! ## Keys -/

/-- The characters of a key without quotes. -/
def isKeyChar (c : Char) : Bool :=
  ('A' ≤ c && c ≤ 'Z') || ('a' ≤ c && c ≤ 'z') || isDigit c || c == '-' || c == '_'

/-- One part of a key. -/
def readPart : Reads String
  | [] => none
  | c :: s =>
    if c = '"' ∨ c = '\'' then
      (readLine (c :: s)).map fun (content, s) => (String.ofList content, s)
    else if isKeyChar c then
      some (String.ofList (c :: s.takeWhile isKeyChar), s.dropWhile isKeyChar)
    else none

/-- The greatest number of parts of a key. -/
def maxParts : Nat := 79

/-- A key, whose parts are set apart by points, with the white space around it. -/
def readParts : Nat → Reads (List String)
  | 0, _ => none
  | fuel + 1, s => do
    let (part, s) ← readPart (skipSpace s)
    match skipSpace s with
    | '.' :: s =>
      let (parts, s) ← readParts fuel s
      return (part :: parts, s)
    | s => return ([part], s)

/-- A key: the steps to its table, and its last part. -/
def readKey (s : List Char) : Option ((List String × String) × List Char) := do
  let (parts, s) ← readParts maxParts s
  return ((parts.dropLast, parts.getLastD ""), s)

/-! ## White space -/

/-- The rest after a comment, before the end of its line. -/
def afterComment? : List Char → Option (List Char)
  | '#' :: s =>
    let s := s.dropWhile isPlain
    if s.isEmpty || (afterNewline? s).isSome then some s else none
  | s => some s

/-- The rest after white space, comments and the ends of lines, between the elements of an array. -/
def skipBetween : Nat → List Char → List Char
  | 0, s => s
  | fuel + 1, s =>
    let s := skipSpace s
    match (afterComment? s).bind afterNewline? with
    | some s => skipBetween fuel s
    | none => s

/-- The rest after white space, a comment and the end of the line, or of the text. -/
def afterLine? (s : List Char) : Option (List Char) :=
  match afterComment? (skipSpace s) with
  | some [] => some []
  | some s => afterNewline? s
  | none => none

/-! ## Values -/

/-- The elements of an array up to its closing bracket.  A comma may follow the last one. -/
def arrayItems (read : Reads Toml) : Nat → Reads (List Toml)
  | 0, _ => none
  | fuel + 1, s =>
    let s := skipBetween (s.length + 1) s
    match s with
    | ']' :: s => some ([], s)
    | s => do
      let (item, s) ← read s
      let s := skipBetween (s.length + 1) s
      match s with
      | ',' :: s =>
        let (items, s) ← arrayItems read fuel s
        return (item :: items, s)
      | ']' :: s => return ([item], s)
      | _ => none

/-- The pairs of a table between braces, up to the closing one and onto a table. -/
def tablePairs (read : Reads Toml) : Nat → Table → Reads Table
  | 0, _, _ => none
  | fuel + 1, t, s => do
    let ((steps, key), s) ← readKey s
    let s ← after? ['='] s
    let (value, s) ← read (skipSpace s)
    let t ← addPair key value false steps t
    match skipSpace s with
    | ',' :: s => tablePairs read fuel t s
    | '}' :: s => return (t, s)
    | _ => none

/-- A value, with a reader for the values inside it unless there are too many around it already. -/
def valueWith (inner : Option (Reads Toml)) (s : List Char) : Option (Toml × List Char) :=
  match s with
  | [] => none
  | '[' :: s => do
    let (items, s) ← arrayItems (← inner) (s.length + 1) s
    return (array items, s)
  | '{' :: s => do
    match skipSpace s with
    | '}' :: s =>
      let _ ← inner
      return (table .braces [], s)
    | s =>
      let (t, s) ← tablePairs (← inner) (s.length + 1) (.braces, []) s
      return (ofTable t, s)
  | '"' :: _ => (readString s).map fun (content, s) => (string (String.ofList content), s)
  | '\'' :: _ => (readString s).map fun (content, s) => (string (String.ofList content), s)
  | 't' :: s => do return (boolean true, ← after? ['r', 'u', 'e'] s)
  | 'f' :: s => do return (boolean false, ← after? ['a', 'l', 's', 'e'] s)
  | s => readNumber s

/-- A value, with at most `depth` arrays and tables nested in each other. -/
def readValue : Nat → Reads Toml
  | 0 => valueWith none
  | depth + 1 => valueWith (some (readValue depth))

/-- How deep arrays and tables between braces may be nested. -/
def maxDepth : Nat := 79

/-! ## Statements -/

/-- What a line of a document says. -/
inductive Statement where
  | pair (steps : List String) (key : String) (value : Toml)
  /-- the table that the following pairs belong to -/
  | header (steps : List String) (key : String)
  /-- one more table of a list, that the following pairs belong to -/
  | item (steps : List String) (key : String)
  /-- a line without content -/
  | nothing

/-- A statement with the rest of its line. -/
def readStatement (s : List Char) : Option (Statement × List Char) :=
  match s with
  | [] => none
  | '#' :: _ => do return (.nothing, ← afterLine? s)
  | '\n' :: s => some (.nothing, s)
  | '\r' :: _ => do return (.nothing, ← afterNewline? s)
  | '[' :: '[' :: s => do
    let ((steps, key), s) ← readKey s
    return (.item steps key, ← afterLine? (← after? [']', ']'] s))
  | '[' :: s => do
    let ((steps, key), s) ← readKey s
    return (.header steps key, ← afterLine? (← after? [']'] s))
  | s => do
    let ((steps, key), s) ← readKey s
    let s ← after? ['='] s
    let (value, s) ← readValue maxDepth (skipSpace s)
    return (.pair steps key value, ← afterLine? s)

/-- The statements of a text. -/
def readStatements : Nat → List Char → Option (List Statement)
  | 0, _ => none
  | fuel + 1, s =>
    match skipSpace s with
    | [] => some []
    | s => do
      let (statement, s) ← readStatement s
      return statement :: (← readStatements fuel s)

/-! ## Documents -/

/-- A document in the making: what there is of it, and the table that pairs belong to. -/
structure Draft where
  root : Table := (.header, [])
  current : List String := []

/-- What a statement does to a draft. -/
def Draft.add (draft : Draft) : Statement → Option Draft
  | .pair steps key value => do
    return { draft with
      root := ← modify (addPair key value false steps) draft.current draft.root }
  | .header steps key => do
    return ⟨← modify (addHeader key) steps draft.root, steps ++ [key]⟩
  | .item steps key => do
    return ⟨← modify (addItem key) steps draft.root, steps ++ [key]⟩
  | .nothing => some draft

/-- The entries of a document.  A byte order mark before it does not belong to it. -/
def parse (text : String) : Option (List (String × Toml)) := do
  let s := text.toList
  let s := if s.head? = some '\uFEFF' then s.drop 1 else s
  let draft ← (← readStatements (s.length + 1) s).foldlM Draft.add {}
  return draft.root.2

end Toml
end ResponseTypes
