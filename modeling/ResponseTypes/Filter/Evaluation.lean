import ResponseTypes.Filter.Function
import ResponseTypes.Filter.Library
import ResponseTypes.Filter.Names

/-!
# Evaluation of terms

A term is evaluated on a value and gives values one after the other.  A term that points into its
input can also be used to change what it points at.

How a form of terms is evaluated is said by `Evaluator.runTerm` and `Evaluator.updateTerm` in terms
of the evaluation of its parts.  `Term.run` and `Term.change` tie the knot; what is left of their
fuel bounds the nesting of terms and calls that is still allowed.

## Main definitions

- `Scope`: what names are bound to.
- `Term.run`: the outputs of a term.
- `Term.change`: the values that a term gives rise to by changing what it points at.
-/

namespace ResponseTypes

/-! ## Scopes -/

/-- What a name is bound to.  Behind a definition in a scope lies the scope that it was made in. -/
inductive Binding where
  | variable (name : String) (value : Datum)
  /-- a label, with the number that tells it apart from others of the same name -/
  | label (name : String) (number : Nat)
  | definition (d : Definition)
  /-- an argument, with the scope of the call -/
  | argument (name : String) (term : Term) (scope : List Binding)

/-- What names are bound to, the innermost first. -/
abbrev Scope := List Binding

/-- What a call stands for. -/
inductive Callee where
  | argument (term : Term) (scope : Scope)
  | definition (d : Definition) (scope : Scope)
  | function (f : Function)
  /-- a filter that is not defined in terms of others -/
  | form

/-- The filters that are not defined in terms of others, with the number of their arguments. -/
def Evaluator.forms : List (String × Nat) :=
  [("empty", 0), ("error", 0), ("now", 0), ("first", 1), ("last", 1), ("limit", 2), ("skip", 2),
   ("sort_by", 1), ("group_by", 1), ("min_by", 1), ("max_by", 1)]

/-- What a call of a name with so many arguments stands for everywhere.  No name is known in two
ways, so the order of looking makes no difference; the library, which has to be read, comes last. -/
def Callee.known (name : String) (arity : Nat) : Callee :=
  if (name, arity) ∈ Evaluator.forms then .form
  else
    match Function.find? name arity with
    | some f => .function f
    | none =>
      match Library.find? name arity with
      | some d => .definition d []
      | none => .form

namespace Scope

/-- The value of a variable. -/
def valueOf? (name : String) : Scope → Option Datum
  | [] => none
  | .variable other value :: rest => if other = name then some value else valueOf? name rest
  | _ :: rest => valueOf? name rest

/-- The number of a label. -/
def numberOf? (name : String) : Scope → Option Nat
  | [] => none
  | .label other number :: rest => if other = name then some number else numberOf? name rest
  | _ :: rest => numberOf? name rest

/-- What a call of a name with so many arguments stands for: what is bound around it, or what is
known everywhere. -/
def callee (name : String) (arity : Nat) : Scope → Callee
  | [] => .known name arity
  | .definition d :: rest =>
    if d.name = name ∧ d.parameters.length = arity then .definition d (.definition d :: rest)
    else callee name arity rest
  | .argument other term scope :: rest =>
    if other = name ∧ arity = 0 then .argument term scope else callee name arity rest
  | _ :: rest => callee name arity rest

end Scope

/-! ## Forms -/

/-- How terms are evaluated inside a term.  The depth is the nesting that is still allowed; no two
labels around a term have the same. -/
structure Evaluator where
  /-- the time by the clock -/
  now : Int
  run : Scope → Term → Datum → Outputs Datum
  update : Scope → Term → Datum → Datum.Change → Outputs Datum
  depth : Nat

namespace Evaluator

variable (e : Evaluator)

/-- An error in words. -/
def fail {α : Type} (message : String) : Outputs α :=
  .raise (.error (.text message))

/-- The error of a term that does not point into its input. -/
def pointsNowhere {α : Type} (value : Datum) : Outputs α :=
  fail ("invalid path expression with input " ++ value.render)

/-- The outputs of two terms in all combinations, the first changing slowest. -/
def combine (scope : Scope) (left right : Term) (value : Datum)
    (f : Datum → Datum → Calculation Datum) : Outputs Datum :=
  ((e.run scope left value).pairs fun _ => e.run scope right value).bind fun (a, b) =>
    .ofExcept (f a b)

/-- The values of terms in all combinations, the first changing slowest. -/
def valueLists (scope : Scope) (value : Datum) : List Term → Outputs (List Datum)
  | [] => .one []
  | t :: rest =>
    (e.run scope t value).bind fun a => (valueLists scope value rest).map (a :: ·)

/-! ### Texts -/

/-- A part of a text. -/
def piece (scope : Scope) (format : Option String) (value : Datum) :
    String ⊕ Term → Outputs Datum
  | .inl s => .one (.text s)
  | .inr t =>
    (e.run scope t value).bind fun found =>
      match format with
      | none => .one (.text found.toText)
      | some name => e.run scope (.call name []) found

/-- The sums of the parts of a text, the first changing slowest. -/
def pieces (scope : Scope) (format : Option String) (value : Datum) :
    List (String ⊕ Term) → Outputs Datum
  | [] => .one (.text "")
  | [part] => e.piece scope format value part
  | part :: rest =>
    ((e.piece scope format value part).pairs fun _ => pieces scope format value rest).bind
      fun (a, b) => .ofExcept (Datum.calculate .add a b)

/-! ### Patterns -/

mutual

/-- The scopes that a pattern makes of a value. -/
def matchPattern (outer : Scope) (scope : Scope) (value : Datum) : Pattern → Outputs Scope
  | .variable name => .one (.variable name value :: scope)
  | .array items => matchItems outer scope value 0 items
  | .object entries => matchEntries outer scope value entries

/-- The scopes that patterns make of the elements of a value. -/
def matchItems (outer scope : Scope) (value : Datum) (i : Nat) : List Pattern → Outputs Scope
  | [] => .one scope
  | p :: rest =>
    (Outputs.ofExcept (value.index (.integer i))).bind fun part =>
      (matchPattern outer scope part p).bind fun scope => matchItems outer scope value (i + 1) rest

/-- The scopes that the entries of a pattern make of the entries of a value. -/
def matchEntries (outer scope : Scope) (value : Datum) : List (Term × Pattern) → Outputs Scope
  | [] => .one scope
  | (key, p) :: rest =>
    (e.run outer key value).bind fun key =>
      (Outputs.ofExcept (value.index key)).bind fun part =>
        (matchPattern outer scope part p).bind fun scope => matchEntries outer scope value rest

end

/-- The scopes that a pattern makes of the outputs of a term. -/
def bindings (scope : Scope) (source : Term) (pattern : Pattern) (value : Datum) :
    Outputs Scope :=
  (e.run scope source value).bind fun v => e.matchPattern scope scope v pattern

/-! ### Paths -/

/-- A bound of a slice in all its values, or the one missing bound. -/
def bounds (scope : Scope) (value : Datum) : Option Term → Outputs (Option Datum)
  | none => .one none
  | some t => (e.run scope t value).map some

/-- The parts that a step may lead to. -/
def parts (scope : Scope) (value : Datum) : PathStep → Outputs (Datum.Part × Bool)
  | .index i optional => (e.run scope i value).map fun i => (.index i, optional)
  | .slice start stop optional =>
    (e.bounds scope value start).bind fun start =>
      (e.bounds scope value stop).map fun stop => (.slice start stop, optional)
  | .all optional => .one (.all, optional)

/-- The ways that steps may lead, the first step changing slowest.  Keys and indices are computed
from the input of the whole term. -/
def ways (scope : Scope) (value : Datum) : List PathStep → Outputs (List (Datum.Part × Bool))
  | [] => .one []
  | step :: rest =>
    (e.parts scope value step).bind fun part => (ways scope value rest).map (part :: ·)

/-- Takes steps one after the other.  What an optional step does not find is left out. -/
def follow : List (Datum.Part × Bool) → Datum → Outputs Datum
  | [], value => .one value
  | (part, optional) :: rest, value =>
    match value.take part with
    | .ok found => (Outputs.ofList found).bind (follow rest)
    | .error r => if optional then .done else .raise r

/-- A value with a part of a part … of it changed. -/
def changeAlong : List (Datum.Part × Bool) → Datum → Datum.Change → Outputs Datum
  | [], value, f => f value
  | (part, optional) :: rest, value, f =>
    .ofExcept (value.change part optional fun inner => changeAlong rest inner f)

/-! ### Calls -/

/-- The scopes of a definition's body: its parameters are bound to the arguments, those that are
variables to each of their values. -/
def enter (caller : Scope) (value : Datum) : List String → List Term → Scope → Outputs Scope
  | parameter :: parameters, argument :: arguments, scope =>
    if parameter.startsWith "$" then
      (e.run caller argument value).bind fun v =>
        enter caller value parameters arguments (.variable parameter v :: scope)
    else enter caller value parameters arguments (.argument parameter argument caller :: scope)
  | _, _, scope => .one scope

/-- The elements of a list, each with the outputs of a term for it. -/
def keyed (scope : Scope) (t : Term) : List Datum → Calculation (List (Datum × Datum))
  | [] => .ok []
  | item :: rest => do
    let key ← (e.run scope t item).toList
    return (.array key, item) :: (← keyed scope t rest)

/-- Something made of the elements of the input with their outputs. -/
def ofKeyed (scope : Scope) (t : Term) (value : Datum) (f : List (Datum × Datum) → Datum) :
    Outputs Datum :=
  .ofExcept do return f (← e.keyed scope t (← value.asArray))

end Evaluator

namespace Datum

/-- Elements in the order of their keys; equal ones stay as they come. -/
def sortKeyed (entries : List (Datum × Datum)) : List (Datum × Datum) :=
  entries.mergeSort fun a b => a.1.compare b.1 != .gt

/-- Neighbours with equal keys in one list each. -/
def groupKeyed (entries : List (Datum × Datum)) : List (List Datum) :=
  ((sortKeyed entries).splitBy fun a b => a.1.same b.1).map (·.map (·.2))

/-- The first element whose key is the least, or null. -/
def leastKeyed : List (Datum × Datum) → Datum
  | [] => null
  | first :: rest =>
    (rest.foldl (fun best entry => if entry.1.compare best.1 == .lt then entry else best) first).2

/-- The last element whose key is the greatest, or null. -/
def greatestKeyed : List (Datum × Datum) → Datum
  | [] => null
  | first :: rest =>
    (rest.foldl (fun best entry => if entry.1.compare best.1 == .lt then best else entry) first).2

/-- A time as seconds after the beginning of 1970, before which there is none. -/
def ofTime (nanoseconds : Int) : Calculation Datum :=
  match nanoseconds with
  | .ofNat n =>
    .ok (double ((n / 1000000000).toFloat + (n % 1000000000).toFloat / 1000000000))
  | .negSucc _ => complain "second time provided was later than self"

end Datum

namespace Evaluator

variable (e : Evaluator)

/-- The outputs of a filter that is not defined in terms of others. -/
def runForm (scope : Scope) (name : String) (arguments : List Term) (value : Datum) :
    Outputs Datum :=
  let counted := fun (n : Term) (f : Nat → Outputs Datum) =>
    ((e.run scope n value).bind fun n => .ofExcept n.asInt).bind fun n => f n.toNat
  match name, arguments with
  | "empty", [] => .done
  | "error", [] => .raise (.error value)
  | "now", [] => .ofExcept (Datum.ofTime e.now)
  | "first", [t] => (e.run scope t value).take 1
  | "last", [t] => (e.run scope t value).last none
  | "limit", [n, t] => counted n fun n => if n = 0 then .done else (e.run scope t value).take n
  | "skip", [n, t] => counted n fun n => (e.run scope t value).drop n
  | "sort_by", [t] =>
    e.ofKeyed scope t value fun entries => .array ((Datum.sortKeyed entries).map (·.2))
  | "group_by", [t] =>
    e.ofKeyed scope t value fun entries => .array ((Datum.groupKeyed entries).map Datum.array)
  | "min_by", [t] => e.ofKeyed scope t value Datum.leastKeyed
  | "max_by", [t] => e.ofKeyed scope t value Datum.greatestKeyed
  | name, _ => fail ("undefined filter " ++ name)

/-- The outputs of a call. -/
def runCall (scope : Scope) (name : String) (arguments : List Term) (value : Datum) :
    Outputs Datum :=
  match scope.callee name arguments.length with
  | .argument t inner => e.run inner t value
  | .definition d inner =>
    (e.enter scope value d.parameters arguments inner).bind fun inner => e.run inner d.body value
  | .function f => (e.valueLists scope value arguments).bind fun values => f.apply values value
  | .form => e.runForm scope name arguments value

/-- What is done to the old value in an update, for each value of an operand. -/
def assigned (how : Assignment) (operand old : Datum) : Calculation Datum :=
  match how with
  | .replace => .ok operand
  | .calculate op => Datum.calculate op old operand
  | .otherwise => .ok (if old.holds then old else operand)

/-- Whether the outputs of a term are conditions that hold, one after the other. -/
def conditions (scope : Scope) (t : Term) (value : Datum) : Outputs Bool :=
  (e.run scope t value).map Datum.holds

/-- The outputs of a body, up to a jump out of it to a label. -/
def upTo {α : Type} (label : Nat) (outputs : Outputs α) : Outputs α :=
  outputs.rescue fun r =>
    match r with
    | .leave other => if other = label then .done else .raise r
    | r => .raise r

/-- The outputs of a body, up to an error in it, which is handled. -/
def orElse {α : Type} (outputs : Outputs α) (handler : Datum → Outputs α) : Outputs α :=
  outputs.rescue fun r =>
    match r with
    | .error complaint => handler complaint
    | r => .raise r

/-- A jump out of a label. -/
def jump {α : Type} (scope : Scope) (name : String) : Outputs α :=
  match scope.numberOf? name with
  | some number => .raise (.leave number)
  | none => fail ("undefined label " ++ name)

/-- The outputs of a term. -/
def runTerm (scope : Scope) (t : Term) (value : Datum) : Outputs Datum :=
  match t with
  | .identity => .one value
  | .recurse step =>
    .emit value fun _ => (e.run scope step value).bind fun v => e.run scope (.recurse step) v
  | .constant c => .one c
  | .text format parts => e.pieces scope format value parts
  | .array items => (e.run scope items value).gather Datum.array
  | .entry key item => e.combine scope key item value Datum.entry
  | .entryOf key => e.combine scope key key value fun k i => do Datum.entry k (← value.index i)
  | .negate t => (e.run scope t value).bind fun v => .ofExcept v.negate
  | .pipe first second => (e.run scope first value).bind fun v => e.run scope second v
  | .bind source pattern body =>
    (e.bindings scope source pattern value).bind fun scope => e.run scope body value
  | .comma first second => (e.run scope first value).append fun _ => e.run scope second value
  | .calculate op left right => e.combine scope left right value (Datum.calculate op)
  | .compare op left right =>
    e.combine scope left right value fun a b => .ok (.boolean (op.holds (a.compare b)))
  | .both left right =>
    (e.conditions scope left value).bind fun a =>
      if a then (e.conditions scope right value).map .boolean else .one (.boolean false)
  | .either left right =>
    (e.conditions scope left value).bind fun a =>
      if a then .one (.boolean true) else (e.conditions scope right value).map .boolean
  | .alternative first second =>
    match (e.run scope first value).filter Datum.holds with
    | .done => e.run scope second value
    | outputs => outputs
  | .update target change => e.update scope target value fun x => e.run scope change x
  | .assign how target operand =>
    (e.run scope operand value).bind fun y =>
      e.update scope target value fun x => .ofExcept (assigned how y x)
  | .branch condition yes no =>
    (e.conditions scope condition value).bind fun c => e.run scope (if c then yes else no) value
  | .attempt body handler =>
    orElse (e.run scope body value) fun complaint =>
      match handler with
      | none => .done
      | some t => e.run scope t complaint
  | .label name body => upTo e.depth (e.run (.label name e.depth :: scope) body value)
  | .leave name => jump scope name
  | .reduce source pattern start step =>
    (e.run scope start value).bind fun state =>
      Outputs.fold (fun scope state => e.run scope step state)
        (e.bindings scope source pattern value) state
  | .foreach source pattern start step view =>
    (e.run scope start value).bind fun state =>
      Outputs.scan (fun scope state => e.run scope step state)
        (fun scope state => e.run scope (view.getD .identity) state)
        (e.bindings scope source pattern value) state
  | .define d body => e.run (.definition d :: scope) body value
  | .call name arguments => e.runCall scope name arguments value
  | .misfit name _ => fail ("undefined filter " ++ name)
  | .variable name =>
    match scope.valueOf? name with
    | some v => .one v
    | none => fail ("undefined variable " ++ name)
  | .path base steps =>
    (e.run scope base value).bind fun found =>
      (e.ways scope value steps).bind fun way => follow way found

/-- The changed values of a call. -/
def updateCall (scope : Scope) (name : String) (arguments : List Term) (value : Datum)
    (f : Datum.Change) : Outputs Datum :=
  match scope.callee name arguments.length with
  | .argument t inner => e.update inner t value f
  | .definition d inner =>
    (e.enter scope value d.parameters arguments inner).fold
      (fun inner value => e.update inner d.body value f) value
  | .function _ => pointsNowhere value
  | .form =>
    match name with
    | "empty" => .one value
    | "error" => .raise (.error value)
    | _ => pointsNowhere value

/-- The changed values of a fold: what the last step points at is changed, where every step looks
at what the one before points at. -/
def updateFold (step : Term) (outputs : Outputs Scope) (value : Datum) (f : Datum.Change) :
    Outputs Datum :=
  match outputs with
  | .done => f value
  | .raise r => .raise r
  | .emit scope rest => e.update scope step value fun x => updateFold step (rest ()) x f

/-- The values that come of changing what a term points at. -/
def updateTerm (scope : Scope) (t : Term) (value : Datum) (f : Datum.Change) : Outputs Datum :=
  match t with
  | .identity => f value
  | .recurse step =>
    (e.update scope step value fun inner => e.update scope (.recurse step) inner f).bind f
  | .pipe first second =>
    e.update scope first value fun inner => e.update scope second inner f
  | .bind source pattern body =>
    (e.bindings scope source pattern value).fold
      (fun scope value => e.update scope body value f) value
  | .comma first second =>
    (e.update scope first value f).bind fun value => e.update scope second value f
  | .alternative first second =>
    match ((e.run scope first value).filter Datum.holds).first? with
    | .error r => .raise r
    | .ok (some _) => e.update scope first value f
    | .ok none => e.update scope second value f
  | .branch condition yes no =>
    (e.conditions scope condition value).fold
      (fun c value => e.update scope (if c then yes else no) value f) value
  | .leave name => jump scope name
  | .reduce source pattern start step =>
    e.update scope start value fun x =>
      e.updateFold step (e.bindings scope source pattern value) x f
  | .define d body => e.update (.definition d :: scope) body value f
  | .call name arguments => e.updateCall scope name arguments value f
  | .path base steps =>
    e.update scope base value fun inner =>
      (e.ways scope value steps).fold (fun way inner => changeAlong way inner f) inner
  | _ => pointsNowhere value

end Evaluator

/-! ## Terms -/

namespace Term

variable (now : Int)

mutual

/-- The outputs of a term. -/
def run : Nat → Scope → Term → Datum → Outputs Datum
  | 0 => fun _ _ _ => .raise (.final .endless)
  | depth + 1 => Evaluator.runTerm ⟨now, run depth, change depth, depth⟩

/-- The values that come of changing what a term points at. -/
def change : Nat → Scope → Term → Datum → Datum.Change → Outputs Datum
  | 0 => fun _ _ _ _ => .raise (.final .endless)
  | depth + 1 => Evaluator.updateTerm ⟨now, run depth, change depth, depth⟩

end

/-- The names that are known everywhere. -/
def knownNames : List Name :=
  Evaluator.forms.map (fun (name, arity) => Name.filter name arity) ++
    Function.table.map (fun f => Name.filter f.name f.arity) ++
    Library.definitions.map Definition.boundName

end Term
end ResponseTypes
