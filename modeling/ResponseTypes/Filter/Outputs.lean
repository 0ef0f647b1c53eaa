import ResponseTypes.Filter.Raise

/-!
# Outputs of a filter

A filter gives any number of values, one after the other, and only as many as somebody asks for:
what comes after a value is computed when it is wanted.  An interruption ends the outputs; values
that came before it have been given all the same.

## Main definitions

- `Outputs`: values that end by themselves or by an interruption.
- `Outputs.append`, `Outputs.bind`, `Outputs.pairs`, `Outputs.fold`, `Outputs.scan`,
  `Outputs.toList`: what is made of them.
-/

namespace ResponseTypes

/-- Values that come one after the other. -/
inductive Outputs (α : Type) where
  | done
  | raise (interruption : Raise)
  | emit (value : α) (rest : Unit → Outputs α)
deriving Inhabited

namespace Outputs

variable {α β σ : Type}

/-- A single value. -/
def one (value : α) : Outputs α :=
  emit value fun _ => done

/-- The values of a list. -/
def ofList : List α → Outputs α
  | [] => done
  | a :: rest => emit a fun _ => ofList rest

/-- The value of a calculation, or what came in its place. -/
def ofExcept : Calculation α → Outputs α
  | .ok value => one value
  | .error r => raise r

/-- Values after values.  The second are only computed when the first are through. -/
def append (first : Outputs α) (second : Unit → Outputs α) : Outputs α :=
  match first with
  | done => second ()
  | raise r => raise r
  | emit value rest => emit value fun _ => append (rest ()) second

/-- All values that come of each value in turn. -/
def bind (outputs : Outputs α) (f : α → Outputs β) : Outputs β :=
  match outputs with
  | done => done
  | raise r => raise r
  | emit value rest => append (f value) fun _ => bind (rest ()) f

/-- Another value in the place of each. -/
def map (f : α → β) (outputs : Outputs α) : Outputs β :=
  outputs.bind fun a => one (f a)

/-- What interrupts a pair: the first of two interruptions, unless the second ends the whole run. -/
def interruptPair (r : Raise) (second : Unit → Outputs β) : Outputs α :=
  if r.isFinal then raise r
  else
    match second () with
    | done => done
    | raise s => raise (if s.isFinal then s else r)
    | emit _ _ => raise r

/-- The pairs of values and of second values, which are computed anew for each of the first.  Where
there are no second values, nothing is seen of an interruption of the first. -/
def pairs (outputs : Outputs α) (second : Unit → Outputs β) : Outputs (α × β) :=
  match outputs with
  | done => done
  | raise r => interruptPair r second
  | emit a rest => append ((second ()).map fun b => (a, b)) fun _ => pairs (rest ()) second

/-- At most so many of the values. -/
def take : Nat → Outputs α → Outputs α
  | 0, _ => done
  | _ + 1, done => done
  | _ + 1, raise r => raise r
  | 1, emit value _ => one value
  | n + 2, emit value rest => emit value fun _ => take (n + 1) (rest ())

/-- All but the first so many of the values. -/
def drop : Nat → Outputs α → Outputs α
  | 0, outputs => outputs
  | _ + 1, done => done
  | _ + 1, raise r => raise r
  | n + 1, emit _ rest => drop n (rest ())

/-- The last value, if there is one. -/
def last (outputs : Outputs α) (previous : Option α) : Outputs α :=
  match outputs with
  | done => ofList previous.toList
  | raise r => raise r
  | emit value rest => last (rest ()) (some value)

/-- The first value, if there is one. -/
def first? (outputs : Outputs α) : Calculation (Option α) :=
  match outputs with
  | done => .ok none
  | raise r => .error r
  | emit value _ => .ok (some value)

/-- The values for which a condition holds. -/
def filter (p : α → Bool) (outputs : Outputs α) : Outputs α :=
  outputs.bind fun a => if p a then one a else done

/-- Outputs that go on otherwise after an interruption. -/
def rescue (outputs : Outputs α) (handler : Raise → Outputs α) : Outputs α :=
  match outputs with
  | done => done
  | raise r => handler r
  | emit value rest => emit value fun _ => rescue (rest ()) handler

/-- A state that every value changes, in all ways that the step gives. -/
def fold (step : σ → α → Outputs α) (outputs : Outputs σ) (state : α) : Outputs α :=
  match outputs with
  | done => one state
  | raise r => raise r
  | emit value rest => (step value state).bind fun state => fold step (rest ()) state

/-- The states on the way, each shown in the ways that `view` gives. -/
def scan (step : σ → α → Outputs α) (view : σ → α → Outputs β) (outputs : Outputs σ) (state : α) :
    Outputs β :=
  match outputs with
  | done => done
  | raise r => raise r
  | emit value rest =>
    (step value state).bind fun state =>
      append (view value state) fun _ => scan step view (rest ()) state

/-- All values, the newest first, onto those that came before. -/
def collect (outputs : Outputs α) (before : List α) : Calculation (List α) :=
  match outputs with
  | done => .ok before
  | raise r => .error r
  | emit value rest => collect (rest ()) (value :: before)

/-- All values, unless an interruption comes among them. -/
def toList (outputs : Outputs α) : Calculation (List α) :=
  (outputs.collect []).map List.reverse

/-- A value made of all values. -/
def gather (outputs : Outputs α) (f : List α → β) : Outputs β :=
  match outputs.toList with
  | .ok values => one (f values)
  | .error r => raise r

end Outputs
end ResponseTypes
