import ResponseTypes.Failure
import ResponseTypes.Filter.Evaluation

/-!
# Running a filter

A filter is applied to a document and makes any number of documents of it.  A run is all or nothing:
one error among the outputs, or one output that is no readable document, and there are none.  An
evaluation that breaks down has no outputs either; it is told apart from an error, since it takes
the whole program with it.

Of the world outside a filter sees the clock.  An evaluation takes no time here: the clock is read
once for it, by whoever asks for the run.

## Main definitions

- `Filter.read`: the term of a filter.
- `Filter.documents`: the documents that outputs are.
- `Filter.run`: the documents that a filter makes of another one.
-/

namespace ResponseTypes
namespace Filter

/-- What is said of a filter that cannot be read, and of one that ends with an error. -/
def trouble : Failure :=
  .filter "<jq>"

/-- The complaint about names that nobody has bound. -/
def unbound (names : List Name) (text : String) : Failure :=
  .filter ("; ".intercalate (names.map fun name => name.complaint ++ " in `" ++ text ++ "`"))

/-- The term of a filter, if it is well formed and knows all names it uses. -/
def read (text : String) : Except Failure Term :=
  match Term.ofText? text with
  | none => .error trouble
  | some t =>
    match t.missingNames Term.knownNames with
    | [] => .ok t
    | names => .error (unbound names text)

/-- The document that an output is.  It is written and read again, with the limits of reading. -/
def document (value : Datum) : Except Failure Json :=
  let bytes := value.render.toUTF8.toList
  (Json.parseWhole bytes).mapError fun fault =>
    .filter ("filter produced non-JSON output: " ++ fault.message bytes)

/-- The documents that outputs are, if all of them are.  What comes after one that is none is not
asked for. -/
def documents : Outputs Datum → Upshot (List Json)
  | .done => .ok (.ok [])
  | .raise (.final reason) => .error reason
  | .raise _ => .ok (.error trouble)
  | .emit value rest =>
    match document value with
    | .error failure => .ok (.error failure)
    | .ok first => (documents (rest ())).map fun others => others.map (first :: ·)

/-- The nesting of terms and calls that a run allows. -/
def maxDepth : Nat := 1000000

/-- The outputs of a term for a document at a reading of the clock. -/
def outputs (now : Int) (t : Term) (input : Json) : Outputs Datum :=
  Term.run now maxDepth [] t (.ofJson input)

/-- The documents that a filter makes of another one at a reading of the clock. -/
def run (now : Int) (text : String) (input : Json) : Upshot (List Json) :=
  match read text with
  | .error failure => .ok (.error failure)
  | .ok t => documents (outputs now t input)

end Filter
end ResponseTypes
