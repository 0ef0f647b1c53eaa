import ResponseTypes.Dialect

/-!
# Options of the command line

The commands, the options that each of them knows, and what an option takes.

## Main definitions

- `CommandLine.Command`.
- `CommandLine.OptionName`, with `OptionName.ofLong?` and `OptionName.ofShort?`.
- `CommandLine.Refusal`: why a command line is not carried out.
-/

namespace ResponseTypes
namespace CommandLine

/-- The commands. -/
inductive Command where
  /-- what precedes the name of a command -/
  | top
  | models
  | values
deriving DecidableEq, Repr, Inhabited

/-- The command of a name. -/
def Command.ofName? : String → Option Command
  | "models" => some models
  | "values" => some values
  | _ => none

/-- The word that asks for help on a command. -/
def helpWord : String := "help"

/-- The options. -/
inductive OptionName where
  | config
  | verbose
  | help
  | version
  | output
  | dialect
  | model
  | schema
  | models
  | input
  | name
  | filter
  | force
deriving DecidableEq, Repr, Inhabited

/-- How many values an option takes. -/
inductive Arity where
  | none
  | one
  /-- one or more, and again if it is given again -/
  | many
deriving DecidableEq, Repr, Inhabited

namespace OptionName

/-- The options that every command knows. -/
def ofCommonLong? : String → Option OptionName
  | "config" => some config
  | "verbose" => some verbose
  | "help" => some help
  | _ => none

/-- The options of both commands that generate something. -/
def ofOutputLong? : String → Option OptionName
  | "output" => some output
  | "dialect" => some dialect
  | _ => none

/-- The options that only one command knows. -/
def ofOwnLong? : Command → String → Option OptionName
  | .top, "version" => some version
  | .models, "model" => some model
  | .models, "schema" => some schema
  | .models, "models" => some models
  | .values, "input" => some input
  | .values, "name" => some name
  | .values, "jq-expr" => some filter
  | .values, "force" => some force
  | _, _ => none

/-- The option of a long name. -/
def ofLong? (command : Command) (name : String) : Option OptionName :=
  ofCommonLong? name <|> ofOwnLong? command name <|>
    if command = .top then none else ofOutputLong? name

/-- The option of a letter. -/
def ofShort? : Command → Char → Option OptionName
  | _, 'v' => some verbose
  | _, 'h' => some help
  | .top, 'V' => some version
  | .models, 'o' => some output
  | .values, 'o' => some output
  | .values, 'i' => some input
  | _, _ => none

/-- How many values the option takes. -/
def arity : OptionName → Arity
  | verbose => .none
  | help => .none
  | version => .none
  | force => .none
  | input => .many
  | _ => .one

/-- Whether the option takes a value.  A path is never empty. -/
def takes : OptionName → String → Bool
  | config, value => !value.isEmpty
  | output, value => !value.isEmpty
  | schema, value => !value.isEmpty
  | models, value => !value.isEmpty
  | dialect, value => (Dialect.ofExtension? value).isSome
  | _, _ => true

end OptionName

/-- Why a command line is not carried out. -/
inductive Refusal where
  | invalidValue
  | unknownArgument
  | invalidSubcommand
  | tooManyValues
  | argumentConflict
  | missingRequiredArgument
  | missingSubcommand
  /-- a user asks for help -/
  | help
  /-- a user gives nothing to go by, and gets help -/
  | helpOnMissing
  /-- a user asks for the version -/
  | version
deriving DecidableEq, Repr, Inhabited

/-- The number that the program ends with.  What was asked for is no error. -/
def Refusal.exitCode : Refusal → Nat
  | help => 0
  | version => 0
  | _ => 2

end CommandLine
end ResponseTypes
