import ResponseTypes.Filter.Access

/-!
# Terms

The language that filters are written in, as it is evaluated.  Some forms of the written language
are spelled out in others: an object is a sum of objects with one entry.

## Main definitions

- `Term`: the terms, with `Pattern`, `PathStep` and `Definition`.
-/

namespace ResponseTypes

/-- Which comparison. -/
inductive Comparison where
  | equal
  | unequal
  | less
  | lessOrEqual
  | greater
  | greaterOrEqual
deriving DecidableEq, Repr, Inhabited

/-- What a comparison says of an order. -/
def Comparison.holds : Comparison → Ordering → Bool
  | equal, o => o == .eq
  | unequal, o => o != .eq
  | less, o => o == .lt
  | lessOrEqual, o => o != .gt
  | greater, o => o == .gt
  | greaterOrEqual, o => o != .lt

/-- How an update makes a new value of the old one and an operand. -/
inductive Assignment where
  /-- the operand itself -/
  | replace
  | calculate (op : Datum.Operator)
  /-- the old value if it holds, else the operand -/
  | otherwise
deriving DecidableEq, Repr, Inhabited

mutual

/-- A filter term. -/
inductive Term where
  | identity
  /-- the input, what `step` makes of it, what `step` makes of that, and so on -/
  | recurse (step : Term)
  | constant (value : Datum)
  /-- the sum of texts and of values, which are written out by the filter with the name of a
  format, or by themselves as texts -/
  | text (format : Option String) (parts : List (String ⊕ Term))
  | array (items : Term)
  /-- an object with one entry -/
  | entry (key value : Term)
  /-- an object with the entry that the input has under a key -/
  | entryOf (key : Term)
  | negate (term : Term)
  | pipe (first second : Term)
  | bind (source : Term) (pattern : Pattern) (body : Term)
  | comma (first second : Term)
  | calculate (op : Datum.Operator) (left right : Term)
  | compare (op : Comparison) (left right : Term)
  | both (left right : Term)
  | either (left right : Term)
  | alternative (first second : Term)
  /-- changes what `target` points at by a filter -/
  | update (target change : Term)
  /-- changes what `target` points at by each value of an operand -/
  | assign (how : Assignment) (target operand : Term)
  | branch (condition yes no : Term)
  | attempt (body : Term) (handler : Option Term)
  | label (name : String) (body : Term)
  | leave (name : String)
  | reduce (source : Term) (pattern : Pattern) (start step : Term)
  | foreach (source : Term) (pattern : Pattern) (start step : Term) (view : Option Term)
  | define (definition : Definition) (body : Term)
  | call (name : String) (arguments : List Term)
  /-- a fold with a number of parts that it does not take -/
  | misfit (name : String) (arity : Nat)
  | variable (name : String)
  | path (base : Term) (steps : List PathStep)

/-- One step of a path, which may be optional. -/
inductive PathStep where
  | index (i : Term) (optional : Bool)
  | slice (start stop : Option Term) (optional : Bool)
  | all (optional : Bool)

/-- What takes a value apart into variables. -/
inductive Pattern where
  | variable (name : String)
  | array (items : List Pattern)
  | object (entries : List (Term × Pattern))

/-- A filter with a name.  A parameter whose name begins with a dollar sign is a variable. -/
inductive Definition where
  | mk (name : String) (parameters : List String) (body : Term)

end

instance : Inhabited Term := ⟨.identity⟩

namespace Definition

/-- The name of a definition. -/
def name : Definition → String
  | mk name _ _ => name

/-- The names of its parameters. -/
def parameters : Definition → List String
  | mk _ parameters _ => parameters

/-- What it stands for. -/
def body : Definition → Term
  | mk _ _ body => body

end Definition

/-- Terms whose values are added, the first changing slowest. -/
def Term.sum : List Term → Datum → Term
  | [], ifNone => .constant ifNone
  | [t], _ => t
  | t :: rest, ifNone => .calculate .add t (sum rest ifNone)

end ResponseTypes
