import ResponseTypes.Failure
import ResponseTypes.Filter.Datum

/-!
# Interruptions

What can come in the place of a value.  An error can be handled, and a jump ends at its label; a
breakdown ends the whole run.

## Main definitions

- `Raise`: the interruptions.
- `Calculation`: a value, or what came in its place.
-/

namespace ResponseTypes

/-- What can interrupt a filter. -/
inductive Raise where
  /-- an error, with a value that says what went wrong -/
  | error (value : Datum)
  /-- a jump out of the label with this number -/
  | leave (label : Nat)
  /-- the evaluation breaks down, which nothing can handle -/
  | final (reason : Breakdown)
deriving Inhabited

/-- Whether an interruption ends the whole run. -/
def Raise.isFinal : Raise → Bool
  | error _ => false
  | leave _ => false
  | final _ => true

/-- A value, or what came in its place. -/
abbrev Calculation (α : Type) := Except Raise α

/-- A complaint in words. -/
def complain {α : Type} (message : String) : Calculation α :=
  .error (.error (.text message))

end ResponseTypes
