import ResponseTypes.CommandLine.Option

/-!
# Command lines

A command line is read from left to right.  Options stand before the name of a command or after it;
an option collects the values that follow it until it has enough or another option comes.  It is
looked at as a whole, and can be refused, only then.

## Main definitions

- `CommandLine.Invocation`: what a command line asks for.
- `CommandLine.Reading`: the options read so far.
- `CommandLine.parse`.
-/

namespace ResponseTypes
namespace CommandLine

/-- What is to be done. -/
inductive Task where
  | models (model? schema? models? : Option String)
  | values (inputs : List String) (name? filter? : Option String) (force : Bool)
deriving DecidableEq, Repr, Inhabited

/-- What a command line asks for. -/
structure Invocation where
  config? : Option String
  verbose : Bool
  output? : Option String
  dialect? : Option Dialect
  task : Task
deriving DecidableEq, Repr, Inhabited

/-! ## Options with their values -/

/-- Options with their values, in the order in which they were given. -/
abbrev Given := List (OptionName × List String)

namespace Given

/-- Whether an option was given. -/
def has (given : Given) (option : OptionName) : Bool :=
  given.any fun entry => entry.1 = option

/-- All values of an option. -/
def values (given : Given) (option : OptionName) : List String :=
  (given.filter fun entry => entry.1 = option).flatMap (·.2)

/-- The first value of an option. -/
def value? (given : Given) (option : OptionName) : Option String :=
  (given.values option).head?

/-- One more option, if it can be given with these values. -/
def add (given : Given) (option : OptionName) (values : List String) : Except Refusal Given :=
  if option = .help then .error .help
  else if option = .version then .error .version
  else if option.arity ≠ .none && values.isEmpty then .error .invalidValue
  else if option.arity ≠ .many && given.has option then .error .argumentConflict
  else if !values.all option.takes then .error .invalidValue
  else .ok (given ++ [(option, values)])

end Given

/-! ## Reading -/

/-- The options read so far. -/
structure Reading where
  given : Given := []
  /-- the last option, which may get more values -/
  pending? : Option (OptionName × List String) := none
  /-- whether the next value belongs to it -/
  collecting : Bool := false
deriving Repr, Inhabited

namespace Reading

/-- The options, the last one included. -/
def settle (reading : Reading) : Except Refusal Given :=
  match reading.pending? with
  | none => .ok reading.given
  | some (option, values) => reading.given.add option values

/-- Adds an option that is complete. -/
def complete (reading : Reading) (option : OptionName) (values : List String) :
    Except Refusal Reading := do
  return { given := ← (← reading.settle).add option values }

/-- Adds an option that waits for values. -/
def start (reading : Reading) (option : OptionName) : Except Refusal Reading := do
  return { given := ← reading.settle, pending? := some (option, []), collecting := true }

/-- Gives a value to the last option. -/
def collect (reading : Reading) (value : String) : Reading :=
  match reading.pending? with
  | none => reading
  | some (option, values) =>
    { reading with
      pending? := some (option, values ++ [value])
      collecting := option.arity = .many }

/-- Reads an option under its long name, perhaps with a value attached. -/
def long (command : Command) (reading : Reading) (name : String) (attached? : Option String) :
    Except Refusal Reading :=
  match OptionName.ofLong? command name with
  | none => .error .unknownArgument
  | some option =>
    match option.arity, attached? with
    | .none, none => reading.complete option []
    | .none, some _ => .error .tooManyValues
    | _, some value => reading.complete option [value]
    | _, none => reading.start option

/-- Reads options under their letters.  What follows the letter of an option with a value is the
value. -/
def short (command : Command) (reading : Reading) : List Char → Except Refusal Reading
  | [] => .ok reading
  | letter :: rest =>
    match OptionName.ofShort? command letter with
    | none => .error .unknownArgument
    | some option =>
      match option.arity, rest with
      | .none, _ => do short command (← reading.complete option []) rest
      | _, [] => reading.start option
      | _, '=' :: value => reading.complete option [String.ofList value]
      | _, value => reading.complete option [String.ofList value]

/-- A value that no option takes. -/
def stray (command : Command) (escaped : Bool) (value : String) : Refusal :=
  if command ≠ .top then .unknownArgument
  else if escaped && (value = helpWord || (Command.ofName? value).isSome) then .unknownArgument
  else .invalidSubcommand

/-- Reads a value. -/
def value (command : Command) (reading : Reading) (s : String) : Except Refusal Reading :=
  if reading.collecting then .ok (reading.collect s) else .error (stray command false s)

/-- A long option's name, and the value that is attached to it. -/
def splitAttached (s : List Char) : String × Option String :=
  (String.ofList (s.takeWhile (· ≠ '=')),
    match s.dropWhile (· ≠ '=') with
    | [] => none
    | _ :: value => some (String.ofList value))

/-- Reads an argument. -/
def argument (command : Command) (reading : Reading) (s : String) : Except Refusal Reading :=
  match s.toList with
  | '-' :: '-' :: rest =>
    let (name, attached?) := splitAttached rest
    reading.long command name attached?
  | '-' :: c :: rest => reading.short command (c :: rest)
  | _ => reading.value command s

end Reading

/-- Whether help can be given on words: on nothing or on one command. -/
def helpOn : List String → Refusal
  | [] => .help
  | [word] =>
    if word = helpWord || (Command.ofName? word).isSome then .help else .invalidSubcommand
  | _ => .invalidSubcommand

/-- The name of a command, where one can stand. -/
def subcommand? (command : Command) (reading : Reading) (s : String) : Option Command :=
  if command = .top && !reading.collecting then Command.ofName? s else none

/-- Whether an argument asks for help on what follows. -/
def asksHelp (command : Command) (reading : Reading) (s : String) : Bool :=
  command = .top && !reading.collecting && s = helpWord

/-- Reads arguments up to the name of a command, and tells what follows it. -/
def readFrom (command : Command) (reading : Reading) :
    List String → Except Refusal (Reading × Option (Command × List String))
  | [] => .ok (reading, none)
  | s :: rest =>
    if asksHelp command reading s then .error (helpOn rest)
    else
      match subcommand? command reading s with
      | some next => .ok (reading, some (next, rest))
      | none =>
        if s = "--" then
          match rest with
          | [] => .ok (reading, none)
          | value :: _ => .error (Reading.stray command true value)
        else
          match reading.argument command s with
          | .error refusal => .error refusal
          | .ok reading => readFrom command reading rest

/-- Reads the arguments of a command. -/
def readCommand (command : Command) (arguments : List String) : Except Refusal Given := do
  let (reading, _) ← readFrom command {} arguments
  let given ← reading.settle
  if command = .values && !given.has .input then .error .missingRequiredArgument
  else return given

/-- What a command is to do. -/
def taskOf (command : Command) (given : Given) : Task :=
  if command = .values then
    .values (given.values .input) (given.value? .name) (given.value? .filter) (given.has .force)
  else .models (given.value? .model) (given.value? .schema) (given.value? .models)

/-- What a command line asks for.  What stands after the name of a command is looked at before what
stands in front of it, and counts more. -/
def parse (arguments : List String) : Except Refusal Invocation := do
  match ← readFrom .top {} arguments with
  | (reading, some (command, rest)) =>
    let inner ← readCommand command rest
    let outer ← reading.settle
    return {
      config? := inner.value? .config <|> outer.value? .config
      verbose := inner.has .verbose || outer.has .verbose
      output? := inner.value? .output
      dialect? := (inner.value? .dialect).bind Dialect.ofExtension?
      task := taskOf command inner }
  | (reading, none) =>
    let outer ← reading.settle
    if outer.isEmpty then .error .helpOnMissing else .error .missingSubcommand

end CommandLine
end ResponseTypes
