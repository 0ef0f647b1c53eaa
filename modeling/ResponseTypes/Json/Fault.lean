import ResponseTypes.Text.Quoted

/-!
# Faults of JSON documents

What is wrong with a document, where in its text, and under which path of keys and indices.  A
position is kept as the number of bytes that follow it, which needs no counting while reading; the
line and the column are told from the whole text when the fault is put into words.

## Main definitions

- `Json.Problem` and `Json.Problem.message`: what is wrong.
- `Json.Step` and `Json.renderPath`: where in the document.
- `Json.Fault`, with `Json.Fault.message` and `Json.Fault.located`.
-/

namespace ResponseTypes

/-- The bytes of a text. -/
abbrev Bytes := List UInt8

namespace Json

/-- What can be wrong with a document. -/
inductive Problem where
  | endInArray
  | endInObject
  | endInString
  | endInValue
  | wantsColon
  | wantsCommaOrBracket
  | wantsCommaOrBrace
  | wantsWord
  | wantsValue
  | wantsKey
  | badEscape
  | badNumber
  | numberTooLarge
  | notUtf8
  | controlCharacter
  | unpairedSurrogate
  | endOfHexEscape
  | trailingComma
  | trailingCharacters
  | tooDeep
  | missingField (name : String)
  | duplicateField (name : String)
  | wrongType (found expected : String)
  | wrongLength (length : Nat) (expected : String)
deriving DecidableEq, Repr, Inhabited

namespace Problem

/-- The problem in words. -/
def message : Problem → String
  | endInArray => "EOF while parsing a list"
  | endInObject => "EOF while parsing an object"
  | endInString => "EOF while parsing a string"
  | endInValue => "EOF while parsing a value"
  | wantsColon => "expected `:`"
  | wantsCommaOrBracket => "expected `,` or `]`"
  | wantsCommaOrBrace => "expected `,` or `\x7d`"
  | wantsWord => "expected ident"
  | wantsValue => "expected value"
  | wantsKey => "key must be a string"
  | badEscape => "invalid escape"
  | badNumber => "invalid number"
  | numberTooLarge => "number out of range"
  | notUtf8 => "invalid unicode code point"
  | controlCharacter => "control character (\\u0000-\\u001F) found while parsing a string"
  | unpairedSurrogate => "lone leading surrogate in hex escape"
  | endOfHexEscape => "unexpected end of hex escape"
  | trailingComma => "trailing comma"
  | trailingCharacters => "trailing characters"
  | tooDeep => "recursion limit exceeded"
  | missingField name => "missing field `" ++ name ++ "`"
  | duplicateField name => "duplicate field `" ++ name ++ "`"
  | wrongType found expected => "invalid type: " ++ found ++ ", expected " ++ expected
  | wrongLength length expected =>
    "invalid length " ++ toString length ++ ", expected " ++ expected

end Problem

/-- One step down into a document. -/
inductive Step where
  | key (name : String)
  | index (i : Nat)
  /-- into an object, under a key that could not be read -/
  | unknown
deriving DecidableEq, Repr, Inhabited

/-- Steps as they follow on others: keys after a point, indices in brackets. -/
def renderSteps : List Step → String
  | [] => ""
  | .key name :: rest => "." ++ name ++ renderSteps rest
  | .index i :: rest => "[" ++ toString i ++ "]" ++ renderSteps rest
  | .unknown :: rest => ".?" ++ renderSteps rest

/-- A path from the top of a document, which is `.` itself. -/
def renderPath : List Step → String
  | [] => "."
  | .key name :: rest => name ++ renderSteps rest
  | .index i :: rest => "[" ++ toString i ++ "]" ++ renderSteps rest
  | .unknown :: rest => "?" ++ renderSteps rest

/-- A problem at a place. -/
structure Fault where
  problem : Problem
  /-- the number of bytes that follow the position -/
  left : Nat
  path : List Step := []
deriving DecidableEq, Repr, Inhabited

namespace Fault

/-- The same fault seen from one step further up. -/
def within (fault : Fault) (step : Step) : Fault :=
  { fault with path := step :: fault.path }

/-- The line of a position and the column in it.  The first line has number one, and a column
counts the bytes of the line before the position. -/
def lineAndColumn (before : Bytes) : Nat × Nat :=
  (before.count 10 + 1, (before.reverse.takeWhile (· ≠ 10)).length)

/-- The fault in words, with its line and column in the text. -/
def message (fault : Fault) (text : Bytes) : String :=
  let (line, column) := lineAndColumn (text.take (text.length - fault.left))
  fault.problem.message ++ " at line " ++ toString line ++ " column " ++ toString column

/-- The fault in words, with its path as well. -/
def located (fault : Fault) (text : Bytes) : String :=
  "at JSON path " ++ renderPath fault.path ++ " → " ++ fault.message text

end Fault
end Json
end ResponseTypes
