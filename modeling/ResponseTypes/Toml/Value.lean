import ResponseTypes.Keyed

/-!
# TOML documents

A document is a table.  Tables come into being in four ways, and which of them decides whether a
later line may still add to a table: braces close a table for good, a header opens a table once, and
a table that is only named on the way to another one stays open.

## Main definitions

- `TableOrigin`: how a table came into being.
- `Toml`: the values.
- `Toml.addPair`, `Toml.addHeader`, `Toml.addItem`: what a line of a document does to it.
-/

namespace ResponseTypes

/-- How a table came into being. -/
inductive TableOrigin where
  /-- written out between braces -/
  | braces
  /-- under a header of its own -/
  | header
  /-- named on the way to another header -/
  | passage
  /-- named by a dotted key -/
  | dotted
deriving DecidableEq, Repr, Inhabited

/-- A TOML value.  Floats are only told apart from the rest. -/
inductive Toml where
  | string (s : String)
  | integer (n : Int)
  | boolean (b : Bool)
  | float
  /-- a day, a time of day, or both, in its plainest form -/
  | time (text : String)
  | array (items : List Toml)
  | table (origin : TableOrigin) (entries : List (String × Toml))
  /-- the tables under `[[…]]` headers of one name, the newest first -/
  | tables (newest : List (String × Toml)) (others : List (List (String × Toml)))
deriving Inhabited

namespace Toml

/-- The entries of a table with how the table came into being. -/
abbrev Table := TableOrigin × List (String × Toml)

/-- A table as a value. -/
def ofTable : Table → Toml
  | (origin, entries) => table origin entries

/-! ## Keys with values -/

/-- Adds a value under a dotted key.  The tables on the way come into being with it, or have come
into being in this way before. -/
def addPair (key : String) (value : Toml) (onTheWay : Bool) : List String → Table → Option Table
  | [], (origin, entries) =>
    if onTheWay && origin != .dotted then none
    else if Keyed.contains entries key then none
    else some (origin, Keyed.insert entries key value)
  | step :: steps, (origin, entries) =>
    match Keyed.get? entries step with
    | none => do
      let inner ← addPair key value true steps (.dotted, [])
      return (origin, Keyed.insert entries step (ofTable inner))
    | some (table o es) =>
      if o = .dotted ∨ o = .passage then do
        let inner ← addPair key value true steps (o, es)
        return (origin, Keyed.insert entries step (ofTable inner))
      else none
    | some (tables newest others) => do
      let (_, newest) ← addPair key value true steps (.header, newest)
      return (origin, Keyed.insert entries step (tables newest others))
    | some _ => none

/-! ## Headers -/

/-- Changes the table at the end of a path of headers.  Tables that are missing on the way come into
being, and of a list of tables the newest is meant. -/
def modify (change : Table → Option Table) : List String → Table → Option Table
  | [], t => change t
  | step :: steps, (origin, entries) =>
    match Keyed.get? entries step with
    | none => do
      let inner ← modify change steps (.passage, [])
      return (origin, Keyed.insert entries step (ofTable inner))
    | some (table o es) =>
      if o = .braces then none
      else do
        let inner ← modify change steps (o, es)
        return (origin, Keyed.insert entries step (ofTable inner))
    | some (tables newest others) => do
      let (_, newest) ← modify change steps (.header, newest)
      return (origin, Keyed.insert entries step (tables newest others))
    | some _ => none

/-- Opens the table under a header, which has only been passed before if it is there at all. -/
def addHeader (key : String) : Table → Option Table
  | (origin, entries) =>
    match Keyed.get? entries key with
    | none => some (origin, Keyed.insert entries key (table .header []))
    | some (table .passage es) => some (origin, Keyed.insert entries key (table .header es))
    | some _ => none

/-- Adds a table to a list of tables. -/
def addItem (key : String) : Table → Option Table
  | (origin, entries) =>
    match Keyed.get? entries key with
    | none => some (origin, Keyed.insert entries key (tables [] []))
    | some (tables newest others) =>
      some (origin, Keyed.insert entries key (tables [] (newest :: others)))
    | some _ => none

end Toml
end ResponseTypes
