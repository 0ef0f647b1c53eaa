import ResponseTypes.Filter.Term

/-!
# Names in terms

A term may only use names that are bound around it or known everywhere: filters by their name and
number of arguments, variables, and labels.  A name with the name of a module before it needs the
module, and there are no modules.

## Main definitions

- `Name`: what a name stands for.
- `Term.missingNames`: the names that a term uses and nobody has bound.
-/

namespace ResponseTypes

/-- A name, with what it stands for.  Variables and labels carry their dollar sign. -/
inductive Name where
  | filter (name : String) (arity : Nat)
  | variable (name : String)
  | label (name : String)
  | module (name : String)
deriving DecidableEq, Repr, Inhabited

namespace Name

/-- The complaint that nobody has bound a name. -/
def complaint : Name → String
  | .filter name arity => "undefined `" ++ name ++ "`: Filter(" ++ toString arity ++ ")"
  | .variable name => "undefined `" ++ name ++ "`: Var"
  | .label name => "undefined `" ++ name ++ "`: Label"
  | .module name => "undefined `" ++ name ++ "`: Mod"

/-- What a call needs: a filter, or the module that is named before two colons. -/
def ofCall (name : String) (arity : Nat) : Name :=
  let first := name.toList.takeWhile (· ≠ ':')
  if first.length < name.length then .module (String.ofList first) else .filter name arity

/-- A parameter of a definition: a variable if it carries a dollar sign. -/
def ofParameter (parameter : String) : Name :=
  if parameter.startsWith "$" then .variable parameter else .filter parameter 0

end Name

/-- The name that a definition binds. -/
def Definition.boundName (d : Definition) : Name :=
  .filter d.name d.parameters.length

mutual

/-- The variables that a pattern binds. -/
def Pattern.variables : Pattern → List Name
  | .variable name => [.variable name]
  | .array items => Pattern.itemVariables items
  | .object entries => Pattern.entryVariables entries

/-- The variables that the patterns in a list bind. -/
def Pattern.itemVariables : List Pattern → List Name
  | [] => []
  | p :: rest => p.variables ++ Pattern.itemVariables rest

/-- The variables that the entries of a pattern bind. -/
def Pattern.entryVariables : List (Term × Pattern) → List Name
  | [] => []
  | (_, p) :: rest => p.variables ++ Pattern.entryVariables rest

end

namespace Term

/-- A name that is used, unless it is known. -/
def used (known : List Name) (name : Name) : List Name :=
  if known.contains name then [] else [name]

mutual

/-- The names that a term uses without knowing them.  What a term is made of comes before the term:
the arguments of a call before its name.  Of a choice the last alternative comes first. -/
def missingNames (known : List Name) : Term → List Name
  | .identity => []
  | .recurse step => missingNames known step
  | .constant _ => []
  | .text none parts => missingInParts known parts
  | .text (some format) parts => used known (.filter format 0) ++ missingInParts known parts
  | .array items => missingNames known items
  | .entry key value => missingNames known key ++ missingNames known value
  | .entryOf key => missingNames known key
  | .negate term => missingNames known term
  | .pipe first second => missingNames known first ++ missingNames known second
  | .bind source pattern body =>
    missingNames known source ++ missingInPattern known pattern ++
      missingNames (pattern.variables ++ known) body
  | .comma first second => missingNames known first ++ missingNames known second
  | .calculate _ left right => missingNames known left ++ missingNames known right
  | .compare _ left right => missingNames known left ++ missingNames known right
  | .both left right => missingNames known left ++ missingNames known right
  | .either left right => missingNames known left ++ missingNames known right
  | .alternative first second => missingNames known first ++ missingNames known second
  | .update target change => missingNames known target ++ missingNames known change
  | .assign _ target operand => missingNames known target ++ missingNames known operand
  | .branch condition yes no =>
    missingNames known no ++ missingNames known condition ++ missingNames known yes
  | .attempt body none => missingNames known body
  | .attempt body (some handler) => missingNames known body ++ missingNames known handler
  | .label name body => missingNames (.label name :: known) body
  | .leave name => used known (.label name)
  | .reduce source pattern start step =>
    missingNames known source ++ missingInPattern known pattern ++ missingNames known start ++
      missingNames (pattern.variables ++ known) step
  | .foreach source pattern start step none =>
    missingNames known source ++ missingInPattern known pattern ++ missingNames known start ++
      missingNames (pattern.variables ++ known) step
  | .foreach source pattern start step (some view) =>
    missingNames known source ++ missingInPattern known pattern ++ missingNames known start ++
      missingNames (pattern.variables ++ known) step ++
      missingNames (pattern.variables ++ known) view
  | .define d body =>
    missingInDefinition known d ++ missingNames (d.boundName :: known) body
  | .call name arguments =>
    missingInArguments known arguments ++ used known (Name.ofCall name arguments.length)
  | .misfit name arity => [.filter name arity]
  | .variable name => used known (.variable name)
  | .path base steps => missingNames known base ++ missingInSteps known steps

/-- The names that the values in a text use without knowing them. -/
def missingInParts (known : List Name) : List (String ⊕ Term) → List Name
  | [] => []
  | .inl _ :: rest => missingInParts known rest
  | .inr t :: rest => missingNames known t ++ missingInParts known rest

/-- The names that terms in a list use without knowing them. -/
def missingInArguments (known : List Name) : List Term → List Name
  | [] => []
  | t :: rest => missingNames known t ++ missingInArguments known rest

/-- The names that the steps of a path use without knowing them. -/
def missingInSteps (known : List Name) : List PathStep → List Name
  | [] => []
  | .index i _ :: rest => missingNames known i ++ missingInSteps known rest
  | .slice none none _ :: rest => missingInSteps known rest
  | .slice (some start) none _ :: rest => missingNames known start ++ missingInSteps known rest
  | .slice none (some stop) _ :: rest => missingNames known stop ++ missingInSteps known rest
  | .slice (some start) (some stop) _ :: rest =>
    missingNames known start ++ missingNames known stop ++ missingInSteps known rest
  | .all _ :: rest => missingInSteps known rest

/-- The names that the keys of a pattern use without knowing them. -/
def missingInPattern (known : List Name) : Pattern → List Name
  | .variable _ => []
  | .array items => missingInItems known items
  | .object entries => missingInEntries known entries

/-- The names that patterns in a list use without knowing them. -/
def missingInItems (known : List Name) : List Pattern → List Name
  | [] => []
  | p :: rest => missingInPattern known p ++ missingInItems known rest

/-- The names that the entries of a pattern use without knowing them. -/
def missingInEntries (known : List Name) : List (Term × Pattern) → List Name
  | [] => []
  | (key, p) :: rest =>
    missingNames known key ++ missingInPattern known p ++ missingInEntries known rest

/-- The names that the body of a definition uses without knowing them. -/
def missingInDefinition (known : List Name) : Definition → List Name
  | .mk name parameters body =>
    missingNames
      (parameters.reverse.map Name.ofParameter ++ .filter name parameters.length :: known) body

end

end Term
end ResponseTypes
