import ResponseTypes.Text.Quoted

/-!
# Events

What a run reports while it works: an event has a level, the part of the program it comes from, a
message, and details under names.

## Main definitions

- `Event`, with `Level`, `Part` and `Detail`.
- `Event.line`: an event as one line of text.
- `Level.isShown`: the levels that are shown at all.
-/

namespace ResponseTypes

/-- How much an event matters. -/
inductive Level where
  | error
  | warning
  | information
  | debugging
deriving DecidableEq, Repr, Inhabited

namespace Level

/-- The level's name. -/
def name : Level → String
  | error => "ERROR"
  | warning => "WARN"
  | information => "INFO"
  | debugging => "DEBUG"

/-- Everything is shown if a user wants to know more, else all but the details of debugging. -/
def isShown (verbose : Bool) (level : Level) : Bool :=
  verbose || level ≠ debugging

end Level

/-- The parts of the program that report. -/
inductive Part where
  | generator
  | commandLine
deriving DecidableEq, Repr, Inhabited

/-- The part's name. -/
def Part.name : Part → String
  | generator => "api_typer::generator"
  | commandLine => "api_typer::cli"

/-- A detail of an event. -/
inductive Detail where
  /-- a text that is shown as it is -/
  | plain (text : String)
  /-- a text that is shown in quotes -/
  | quoted (text : String)
  | count (n : Nat)
deriving DecidableEq, Repr, Inhabited

namespace Detail

/-- The detail itself. -/
def text : Detail → String
  | plain s => s
  | quoted s => s
  | count n => toString n

/-- The detail as it stands in a line. -/
def shown : Detail → String
  | quoted s => Text.quoted s
  | detail => detail.text

end Detail

/-- Something that a run reports. -/
structure Event where
  level : Level
  part : Part
  message : String
  details : List (String × Detail) := []
deriving DecidableEq, Repr, Inhabited

namespace Event

/-- The event as one line: its level, its part, its message, and its details. -/
def line (event : Event) : String :=
  event.level.name ++ " " ++ event.part.name ++ ": " ++ event.message ++
    String.join (event.details.map fun (name, detail) => " " ++ name ++ "=" ++ detail.shown)

end Event
end ResponseTypes
