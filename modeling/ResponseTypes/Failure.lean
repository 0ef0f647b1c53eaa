/-!
# What can go wrong

A failure belongs to one unit of work: a model, a payload, a configuration.  None of them ends a
batch; a run reports each unit's failure and goes on.  A failure is kept as its cause, and
`Failure.message` is the one place where it is put into words.

A breakdown is no failure of a unit.  Where a computation breaks down there is nothing to report and
nothing that could go on: the whole run ends with it.

## Main definitions

- `SchemaFault`: a schema has no answer to a question.
- `FileFault`: a file system refuses an operation.
- `Failure`, with `Failure.message` and `Failure.isAbsence`.
- `Breakdown`: what ends a run without a report; `Breakdown.exitCode?` tells them apart.
- `Upshot`: what a computation that can break down comes to.
-/

namespace ResponseTypes

/-- Why a schema has no answer.  A missing table or column is told apart from trouble with the
schema itself. -/
inductive SchemaFault where
  | noTable (table : String)
  | noColumn (table column : String)
  | introspection (detail : String)
deriving DecidableEq, Repr, Inhabited

namespace SchemaFault

/-- The fault in words. -/
def message : SchemaFault → String
  | noTable table => "table not found: " ++ table
  | noColumn table column => "column not found: " ++ table ++ "." ++ column
  | introspection detail => "schema introspection failed: " ++ detail

end SchemaFault

/-- Why an operation on files is refused. -/
inductive FileFault where
  | absent
  | occupied
  | notDirectory
  | isDirectory
  | nameTooLong
  | notText
  /-- any other cause, in the words of the system -/
  | other (detail : String)
deriving DecidableEq, Repr, Inhabited

namespace FileFault

/-- The fault in the system's words, with its number. -/
def message : FileFault → String
  | absent => "No such file or directory (os error 2)"
  | occupied => "File exists (os error 17)"
  | notDirectory => "Not a directory (os error 20)"
  | isDirectory => "Is a directory (os error 21)"
  | nameTooLong => "File name too long (os error 36)"
  | notText => "stream did not contain valid UTF-8"
  | other detail => detail

/-- Whoever runs the program may not do it. -/
def denied : FileFault := .other "Permission denied (os error 13)"

end FileFault

/-- The things a run looks for by name. -/
inductive SourceKind where
  | model
  | table
  | payload
  | directory
deriving DecidableEq, Repr, Inhabited

namespace SourceKind

/-- The kind's name. -/
def name : SourceKind → String
  | model => "model"
  | table => "table"
  | payload => "payload"
  | directory => "directory"

end SourceKind

/-- The failure of one unit of work. -/
inductive Failure where
  /-- there is nothing of this name to work from -/
  | absent (kind : SourceKind) (name : String)
  | file (path : String) (fault : FileFault)
  /-- the text of a file is not what it should be -/
  | malformed (path detail : String)
  /-- a payload holds no record that could be described -/
  | unsupported (origin reason : String)
  /-- a filter could not be read or run, or its results could not be used -/
  | filter (detail : String)
  | schema (fault : SchemaFault)
  | settings (path detail : String)
  /-- a path pattern is not well formed -/
  | pattern (text detail : String)
deriving DecidableEq, Repr, Inhabited

namespace Failure

/-- The failure in words. -/
def message : Failure → String
  | absent kind name => kind.name ++ " not found: " ++ name
  | file path fault => "I/O error on " ++ path ++ ": " ++ fault.message
  | malformed path detail => "malformed input " ++ path ++ ": " ++ detail
  | unsupported origin reason => "unsupported payload in " ++ origin ++ ": " ++ reason
  | filter detail => "jq filter failed: " ++ detail
  | schema fault => fault.message
  | settings path detail => "invalid config " ++ path ++ ": " ++ detail
  | pattern text detail => "invalid glob pattern '" ++ text ++ "': " ++ detail

/-- A failure that means that there was nothing to do, and not that something broke. -/
def isAbsence : Failure → Bool
  | absent _ _ => true
  | schema (.noTable _) => true
  | _ => false

end Failure

/-! ## Breakdowns -/

/-- What ends a run without a report. -/
inductive Breakdown where
  /-- an operation has no result, not even a failure -/
  | collapse
  /-- the program is told to end with a number, after something has been said -/
  | halt (code : Int) (lastWords : String)
  /-- a computation comes to no end, or goes deeper than there is room for -/
  | endless
deriving DecidableEq, Repr, Inhabited

namespace Breakdown

/-- The number with which the program ends, of which the system keeps one byte.  What comes to no
end has none. -/
def exitCode? : Breakdown → Option Nat
  | collapse => some 101
  | halt code _ => some (code % 256).toNat
  | endless => none

/-- What is said before the end. -/
def lastWords : Breakdown → String
  | halt _ words => words
  | _ => ""

end Breakdown

/-- What a computation that can break down comes to. -/
abbrev Upshot (α : Type) := Except Breakdown (Except Failure α)

end ResponseTypes
