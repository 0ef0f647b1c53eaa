import ResponseTypes.Filter.Term
import ResponseTypes.Filter.Token

/-!
# The grammar of filters

Tokens are read into terms.  Operators bind by precedence; everything else begins with a token that
says what it is.

## Main definitions

- `Operation`: the operators between terms, with `Operation.precedence`.
- `Term.ofText?`: the term of a filter.
-/

namespace ResponseTypes

/-! ## Operators -/

/-- What stands between two terms. -/
inductive Operation where
  | pipe
  /-- a pipe that names the values in it -/
  | bind (pattern : Pattern)
  | comma
  | assign (how : Assignment)
  | update
  | alternative
  | either
  | both
  | compare (op : Comparison)
  | calculate (op : Datum.Operator)

namespace Operation

/-- The operator of a mark or a word, unless it is a comma. -/
def ofMark? : String → Option Operation
  | "|" => some pipe
  | "=" => some (assign .replace)
  | "|=" => some update
  | "+=" => some (assign (.calculate .add))
  | "-=" => some (assign (.calculate .subtract))
  | "*=" => some (assign (.calculate .multiply))
  | "/=" => some (assign (.calculate .divide))
  | "%=" => some (assign (.calculate .remainder))
  | "//=" => some (assign .otherwise)
  | "//" => some alternative
  | "==" => some (compare .equal)
  | "!=" => some (compare .unequal)
  | "<" => some (compare .less)
  | "<=" => some (compare .lessOrEqual)
  | ">" => some (compare .greater)
  | ">=" => some (compare .greaterOrEqual)
  | "+" => some (calculate .add)
  | "-" => some (calculate .subtract)
  | "*" => some (calculate .multiply)
  | "/" => some (calculate .divide)
  | "%" => some (calculate .remainder)
  | _ => none

/-- How strongly an operator binds. -/
def precedence : Operation → Nat
  | pipe => 0
  | bind _ => 0
  | comma => 1
  | assign _ => 2
  | update => 2
  | alternative => 3
  | either => 4
  | both => 5
  | compare .equal => 6
  | compare .unequal => 6
  | compare _ => 7
  | calculate .add => 8
  | calculate .subtract => 8
  | calculate .remainder => 10
  | calculate _ => 9

/-- Whether an operator among its like binds to the right. -/
def toTheRight : Operation → Bool
  | pipe => true
  | bind _ => true
  | assign _ => true
  | update => true
  | _ => false

/-- The term of an operator between two terms. -/
def join (op : Operation) (left right : Term) : Term :=
  match op with
  | pipe => .pipe left right
  | bind pattern => .bind left pattern right
  | comma => .comma left right
  | assign how => .assign how left right
  | update => .update left right
  | alternative => .alternative left right
  | either => .either left right
  | both => .both left right
  | compare op => .compare op left right
  | calculate op => .calculate op left right

/-- A term with the operators after it that bind at least as strongly as `least`, and the operators
that are left. -/
def climb : Nat → Nat → Term → List (Operation × Term) → Term × List (Operation × Term)
  | 0, _, left, rest => (left, rest)
  | _ + 1, _, left, [] => (left, [])
  | fuel + 1, least, left, (op, right) :: rest =>
    if op.precedence < least then (left, (op, right) :: rest)
    else
      let inner := if op.toTheRight then op.precedence else op.precedence + 1
      let (right, rest) := climb fuel inner right rest
      climb fuel least (op.join left right) rest

/-- A term with all operators after it. -/
def joinAll (left : Term) (rest : List (Operation × Term)) : Term :=
  (climb (2 * rest.length + 1) 0 left rest).1

end Operation

namespace Grammar

/-- Whether a name has no module before it. -/
def isPlain (name : String) : Bool :=
  !name.toList.contains ':'

/-- The name after a point. -/
def afterPoint? (mark : String) : Option String :=
  match mark.toList with
  | '.' :: name => if name.isEmpty || name.head? = some '.' then none else some (String.ofList name)
  | _ => none

/-- Marks a step as optional. -/
def makeOptional : PathStep → PathStep
  | .index i _ => .index i true
  | .slice start stop _ => .slice start stop true
  | .all _ => .all true

/-- A text as a term. -/
def constantText (s : String) : Term :=
  .constant (.text s)

/-- The tokens after question marks, and whether there were any. -/
def questionMarks : List Token → Bool × List Token
  | .symbol "?" :: rest => (true, (questionMarks rest).2)
  | rest => (false, rest)

/-- A text with values in it, as a term. -/
def textOf (format : Option String) (parts : List (String ⊕ Term)) : Term :=
  match format, parts with
  | none, [] => constantText ""
  | none, [.inl s] => constantText s
  | format, parts => .text format parts

/-- A path with its first steps, or no path at all without steps. -/
def withSteps (base : Term) : List PathStep → Term
  | [] => base
  | steps => .path base steps

mutual

/-- A term at the front of tokens, with or without the commas between its parts. -/
def term (fuel : Nat) (commas : Bool) (tokens : List Token) : Option (Term × List Token) :=
  match fuel with
  | 0 => none
  | fuel + 1 => do
    let (first, rest) ← atom fuel tokens
    let (others, rest) ← operations fuel commas rest
    return (Operation.joinAll first others, rest)

/-- Operators, each with the atom after it. -/
def operations (fuel : Nat) (commas : Bool) (tokens : List Token) :
    Option (List (Operation × Term) × List Token) :=
  match fuel with
  | 0 => none
  | fuel + 1 => do
    let found : Option (Operation × List Token) ← match tokens with
      | .word "as" :: rest => do
        let (p, rest) ← patterns fuel rest
        match rest with
        | .symbol "|" :: rest => pure (some (.bind p, rest))
        | _ => none
      | .word "or" :: rest => pure (some (.either, rest))
      | .word "and" :: rest => pure (some (.both, rest))
      | .symbol "," :: rest => pure (if commas then some (.comma, rest) else none)
      | .symbol mark :: rest => pure ((Operation.ofMark? mark).map (·, rest))
      | _ => pure none
    match found with
    | none => return ([], tokens)
    | some (op, rest) =>
      let (right, rest) ← atom fuel rest
      let (others, rest) ← operations fuel commas rest
      return ((op, right) :: others, rest)

/-- A term that takes all tokens. -/
def whole (fuel : Nat) (tokens : List Token) : Option Term :=
  match fuel with
  | 0 => none
  | fuel + 1 =>
    match term fuel true tokens with
    | some (t, []) => some t
    | _ => none

/-- An atom with the steps after it. -/
def atom (fuel : Nat) (tokens : List Token) : Option (Term × List Token) :=
  match fuel with
  | 0 => none
  | fuel + 1 => do
    let (base, rest) ← match tokens with
      | .symbol "." :: rest => do
        match ← quoted fuel rest with
        | some (key, rest) =>
          let (optional, rest) := questionMarks rest
          pure (Term.path .identity [.index key optional], rest)
        | none => pure (.identity, rest)
      | .symbol mark :: rest =>
        match afterPoint? mark with
        | some name =>
          let (optional, rest) := questionMarks rest
          pure (Term.path .identity [.index (constantText name) optional], rest)
        | none => head fuel tokens
      | tokens => do
        match ← quoted fuel tokens with
        | some found => pure found
        | none => head fuel tokens
    let (attempted, rest) := questionMarks rest
    let base := if attempted then Term.attempt base none else base
    let (more, rest) ← steps fuel rest
    match base, more with
    | .path .identity first, more => return (.path .identity (first ++ more), rest)
    | base, more => return (withSteps base more, rest)

/-- An atom without the steps after it. -/
def head (fuel : Nat) (tokens : List Token) : Option (Term × List Token) :=
  match fuel with
  | 0 => none
  | fuel + 1 =>
    match tokens with
    | .symbol ".." :: rest => some (.recurse (.path .identity [.all true]), rest)
    | .symbol "-" :: rest => do
      let (t, rest) ← atom fuel rest
      return (.negate t, rest)
    | .number numeral :: rest => some (.constant (.ofNumeral numeral), rest)
    | .variable name :: rest => some (.variable name, rest)
    | .format name :: rest => do
      let (args, rest) ← arguments fuel rest
      return (.call name args, rest)
    | .block '(' inner :: rest => do return (← whole fuel inner, rest)
    | .block '[' [] :: rest => some (.constant (.array []), rest)
    | .block '[' inner :: rest => do return (.array (← whole fuel inner), rest)
    | .block '{' [] :: rest => some (.constant (.object []), rest)
    | .block '{' inner :: rest => do
      return (.sum (← entries fuel inner) (.object []), rest)
    | .word "def" :: rest => do
      let (d, rest) ← definition fuel rest
      let (body, rest) ← term fuel true rest
      return (.define d body, rest)
    | .word "if" :: rest => branches fuel rest
    | .word "try" :: rest => do
      let (body, rest) ← atom fuel rest
      match rest with
      | .word "catch" :: rest =>
        let (handler, rest) ← atom fuel rest
        return (.attempt body (some handler), rest)
      | rest => return (.attempt body none, rest)
    | .word "label" :: rest =>
      match rest with
      | .variable name :: .symbol "|" :: rest => do
        let (body, rest) ← term fuel true rest
        return (.label name body, rest)
      | _ => none
    | .word "break" :: rest =>
      match rest with
      | .variable name :: rest => some (.leave name, rest)
      | _ => none
    | .word "reduce" :: rest => do
      let (source, rest) ← atom fuel rest
      let (p, rest) ← match rest with
        | .word "as" :: rest => patterns fuel rest
        | _ => none
      let (args, rest) ← arguments fuel rest
      match args with
      | [start, step] => return (.reduce source p start step, rest)
      | args => return (.misfit "reduce" args.length, rest)
    | .word "foreach" :: rest => do
      let (source, rest) ← atom fuel rest
      let (p, rest) ← match rest with
        | .word "as" :: rest => patterns fuel rest
        | _ => none
      let (args, rest) ← arguments fuel rest
      match args with
      | [start, step] => return (.foreach source p start step none, rest)
      | [start, step, view] => return (.foreach source p start step (some view), rest)
      | args => return (.misfit "foreach" args.length, rest)
    | .word name :: rest => do
      let (args, rest) ← arguments fuel rest
      return (.call name args, rest)
    | _ => none

/-- The steps of a path after its base. -/
def steps (fuel : Nat) (tokens : List Token) : Option (List PathStep × List Token) :=
  match fuel with
  | 0 => none
  | fuel + 1 => do
    let found : Option (PathStep × List Token) ← match tokens with
      | .symbol "." :: rest => do
        pure ((← quoted fuel rest).map fun (key, rest) => (.index key false, rest))
      | .symbol mark :: rest =>
        pure ((afterPoint? mark).map fun name => (.index (constantText name) false, rest))
      | .block '[' inner :: rest => do pure (some (← bracket fuel inner, rest))
      | _ => pure none
    match found with
    | none => return ([], tokens)
    | some (step, rest) =>
      let (optional, rest) := questionMarks rest
      let (more, rest) ← steps fuel rest
      return ((if optional then makeOptional step else step) :: more, rest)

/-- The step of what stands between square brackets. -/
def bracket (fuel : Nat) (inner : List Token) : Option PathStep :=
  match fuel with
  | 0 => none
  | fuel + 1 =>
    match inner with
    | [] => some (.all false)
    | .symbol ":" :: rest => do return .slice none (some (← whole fuel rest)) false
    | inner => do
      let (start, rest) ← term fuel true inner
      match rest with
      | [] => return .index start false
      | [.symbol ":"] => return .slice (some start) none false
      | .symbol ":" :: rest => return .slice (some start) (some (← whole fuel rest)) false
      | _ => none

/-- The rest of a conditional after its first word. -/
def branches (fuel : Nat) (tokens : List Token) : Option (Term × List Token) :=
  match fuel with
  | 0 => none
  | fuel + 1 => do
    let (condition, rest) ← term fuel true tokens
    let (yes, rest) ← match rest with
      | .word "then" :: rest => term fuel true rest
      | _ => none
    match rest with
    | .word "elif" :: rest =>
      let (no, rest) ← branches fuel rest
      return (.branch condition yes no, rest)
    | .word "else" :: rest =>
      let (no, rest) ← term fuel true rest
      match rest with
      | .word "end" :: rest => return (.branch condition yes no, rest)
      | _ => none
    | .word "end" :: rest => return (.branch condition yes .identity, rest)
    | _ => none

/-- The arguments of a call, of which there may be none. -/
def arguments (fuel : Nat) (tokens : List Token) : Option (List Term × List Token) :=
  match fuel with
  | 0 => none
  | fuel + 1 =>
    match tokens with
    | .block '(' inner :: rest => do return (← separated fuel inner, rest)
    | rest => some ([], rest)

/-- Terms between semicolons. -/
def separated (fuel : Nat) (tokens : List Token) : Option (List Term) :=
  match fuel with
  | 0 => none
  | fuel + 1 => do
    let (t, rest) ← term fuel true tokens
    match rest with
    | [] => return [t]
    | .symbol ";" :: rest => return t :: (← separated fuel rest)
    | _ => none

/-- A text at the front of tokens if there is one, perhaps with a format. -/
def quoted (fuel : Nat) (tokens : List Token) : Option (Option (Term × List Token)) :=
  match fuel with
  | 0 => none
  | fuel + 1 =>
    match tokens with
    | .text parts :: rest => do return some (textOf none (← textParts fuel parts), rest)
    | .format name :: .text parts :: rest => do
      return some (textOf (some name) (← textParts fuel parts), rest)
    | _ => some none

/-- The parts of a text with the terms of the values in it. -/
def textParts (fuel : Nat) (parts : List TextPart) : Option (List (String ⊕ Term)) :=
  match fuel with
  | 0 => none
  | fuel + 1 =>
    parts.mapM fun part =>
      match part with
      | .plain content => some (.inl content)
      | .hole tokens => do return .inr (← whole fuel tokens)

/-- The key of an entry that is written as a name, as a text, or as a term in parentheses.  The
last must have a value. -/
def entryKey (fuel : Nat) (tokens : List Token) : Option (Term × Bool × List Token) :=
  match fuel with
  | 0 => none
  | fuel + 1 =>
    match tokens with
    | .word name :: rest => if isPlain name then some (constantText name, false, rest) else none
    | .block '(' inner :: rest => do return (← whole fuel inner, true, rest)
    | tokens => do
      let (key, rest) ← ← quoted fuel tokens
      return (key, false, rest)

/-- The entries of an object, each as an object of its own.  There may be a comma after the last. -/
def entries (fuel : Nat) (tokens : List Token) : Option (List Term) :=
  match fuel with
  | 0 => none
  | fuel + 1 => do
    let (found, rest) ← match tokens with
      | [] => return []
      | .variable name :: .symbol ":" :: rest => do
        let (value, rest) ← term fuel false rest
        pure (Term.entry (.variable name) value, rest)
      | .variable name :: rest =>
        pure (.entry (constantText (String.ofList (name.toList.drop 1))) (.variable name), rest)
      | tokens => do
        match ← entryKey fuel tokens with
        | (key, _, .symbol ":" :: rest) =>
          let (value, rest) ← term fuel false rest
          pure (.entry key value, rest)
        | (key, needsValue, rest) => if needsValue then none else pure (.entryOf key, rest)
    match rest with
    | [] => return [found]
    | .symbol "," :: rest => return found :: (← entries fuel rest)
    | _ => none

/-- A pattern. -/
def patterns (fuel : Nat) (tokens : List Token) : Option (Pattern × List Token) :=
  match fuel with
  | 0 => none
  | fuel + 1 =>
    match tokens with
    | .variable name :: rest => some (.variable name, rest)
    | .block '[' inner :: rest => do return (.array (← patternItems fuel inner), rest)
    | .block '{' inner :: rest => do return (.object (← patternEntries fuel inner), rest)
    | _ => none

/-- The patterns of an array. -/
def patternItems (fuel : Nat) (tokens : List Token) : Option (List Pattern) :=
  match fuel with
  | 0 => none
  | fuel + 1 => do
    let (p, rest) ← patterns fuel tokens
    match rest with
    | [] => return [p]
    | .symbol "," :: rest => return p :: (← patternItems fuel rest)
    | _ => none

/-- The patterns of an object.  There may be a comma after the last. -/
def patternEntries (fuel : Nat) (tokens : List Token) : Option (List (Term × Pattern)) :=
  match fuel with
  | 0 => none
  | fuel + 1 => do
    let (found, rest) ← match tokens with
      | [] => return []
      | .variable name :: rest =>
        pure ((constantText (String.ofList (name.toList.drop 1)), Pattern.variable name), rest)
      | tokens => do
        match ← entryKey fuel tokens with
        | (key, _, .symbol ":" :: rest) =>
          let (p, rest) ← patterns fuel rest
          pure ((key, p), rest)
        | _ => none
    match rest with
    | [] => return [found]
    | .symbol "," :: rest => return found :: (← patternEntries fuel rest)
    | _ => none

/-- A definition after its first word. -/
def definition (fuel : Nat) (tokens : List Token) : Option (Definition × List Token) :=
  match fuel with
  | 0 => none
  | fuel + 1 => do
    let (name, rest) ← match tokens with
      | .word name :: rest => if isPlain name then pure (name, rest) else none
      | .format name :: rest => pure (name, rest)
      | _ => none
    let (parameters, rest) ← match rest with
      | .block '(' inner :: rest => do pure (← parameterNames inner, rest)
      | rest => pure ([], rest)
    let (body, rest) ← match rest with
      | .symbol ":" :: rest => term fuel true rest
      | _ => none
    match rest with
    | .symbol ";" :: rest => return (.mk name parameters body, rest)
    | _ => none

/-- The parameters of a definition. -/
def parameterNames : List Token → Option (List String)
  | [] => none
  | first :: rest => do
    let name ← match first with
      | .word name => if isPlain name then some name else none
      | .variable name => some name
      | _ => none
    match rest with
    | [] => return [name]
    | .symbol ";" :: rest => return name :: (← parameterNames rest)
    | _ => none

end

/-- Definitions one after the other, up to the end. -/
def definitions (fuel : Nat) (tokens : List Token) : Option (List Definition) :=
  match fuel with
  | 0 => none
  | fuel + 1 =>
    match tokens with
    | [] => some []
    | .word "def" :: rest => do
      let (d, rest) ← definition fuel rest
      return d :: (← definitions fuel rest)
    | _ => none

end Grammar

/-- The nesting that the grammar allows for a text: every character nests a few rules at most. -/
def Grammar.fuel (s : List Char) : Nat :=
  8 * s.length + 8

/-- What follows the description of a module, which says nothing about the filter. -/
def Grammar.afterDescription (fuel : Nat) (tokens : List Token) : Option (List Token) :=
  match tokens with
  | .word "module" :: rest => do
    match ← Grammar.term fuel true rest with
    | (_, .symbol ";" :: rest) => some rest
    | _ => none
  | tokens => some tokens

/-- The term of a filter, unless its text is not well formed.  There are no modules that it could
ask for. -/
def Term.ofText? (text : String) : Option Term := do
  let s := text.toList
  let fuel := Grammar.fuel s
  match ← Grammar.afterDescription fuel (← Token.ofText? s) with
  | .word "include" :: _ => none
  | .word "import" :: _ => none
  | tokens => Grammar.whole fuel tokens

end ResponseTypes
