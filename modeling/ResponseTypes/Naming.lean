import ResponseTypes.Text.Blank
import ResponseTypes.Text.LetterCase

/-!
# Names of types and tables

A declaration is named after a model, a route or a resource class: `User`, `api.users.index`,
`App\Http\Resources\UserResource`.  A model's table is named after the model: `BlogPost` is kept
in `blog_posts`.

## Main definitions

- `Naming.typeName`: the name of the type for a source, with a suffix.
- `Naming.tableName`: the conventional table of a model.
-/

namespace ResponseTypes
namespace Naming

/-! ## Cutting a name -/

/-- The text after the last occurrence of a character, or the whole text without one. -/
def afterLast (mark : Char) (s : List Char) : List Char :=
  (s.reverse.takeWhile (· ≠ mark)).reverse

/-- The text after the last `::`, if there is one. -/
def afterDoubleColon? : List Char → Option (List Char)
  | ':' :: ':' :: rest =>
    match afterDoubleColon? (':' :: rest) with
    | some tail => some tail
    | none => some rest
  | _ :: rest => afterDoubleColon? rest
  | [] => none

/-- A class name without its namespaces, which are set off by `\` or by `::`. -/
def baseName (name : List Char) : List Char :=
  let last := afterLast '\\' name
  (afterDoubleColon? last).getD last

/-- What follows a given beginning. -/
def dropStart? : List Char → List Char → Option (List Char)
  | [], s => some s
  | _ :: _, [] => none
  | p :: ps, c :: s => if p = c then dropStart? ps s else none

/-- What precedes a given end. -/
def dropEnd? (ending s : List Char) : Option (List Char) :=
  (dropStart? ending.reverse s.reverse).map List.reverse

/-- The characters that set the parts of a route name apart. -/
def isSeparator (c : Char) : Bool :=
  c == '.' || c == '/' || c == '-' || c == '_'

/-- The parts of a name between separators, empty ones included. -/
def parts : List Char → List (List Char)
  | [] => [[]]
  | c :: rest =>
    if isSeparator c then [] :: parts rest
    else
      match parts rest with
      | [] => [[c]]
      | part :: others => (c :: part) :: others

/-- A part with a capital at its front. -/
def capitalised : List Char → List Char
  | [] => []
  | c :: rest => Text.toUpper c ++ rest

/-! ## Types -/

/-- A source's own name: without padding, namespaces, one leading `api.` or `api/`, and one closing
`Resource`. -/
def coreName (source : List Char) : List Char :=
  let base := baseName (Text.trim source)
  let base := (dropStart? "api.".toList base <|> dropStart? "api/".toList base).getD base
  (dropEnd? "Resource".toList base).getD base

/-- The name of the type for a source: its parts joined, each with a capital, and the suffix. -/
def typeName (source suffix : String) : String :=
  String.ofList (((parts (coreName source.toList)).map capitalised).flatten) ++ suffix

/-! ## Tables -/

/-- Snake case: capitals become small letters, with an underscore before one that directly follows
a small letter or a digit.  `afterSmall` tells whether the character before was one of these. -/
def snakeCaseFrom (afterSmall : Bool) : List Char → List Char
  | [] => []
  | c :: rest =>
    if Text.isUpper c then
      (if afterSmall then ['_'] else []) ++ Text.toLower c ++ snakeCaseFrom false rest
    else c :: snakeCaseFrom (Text.isLower c || ('0' ≤ c && c ≤ '9')) rest

/-- Snake case of a whole name. -/
def snakeCase (s : List Char) : List Char :=
  snakeCaseFrom false s

/-- The endings after which a plural takes `es`. -/
def sibilants : List (List Char) :=
  [['s'], ['x'], ['z'], ['c', 'h'], ['s', 'h']]

/-- The small vowels of English. -/
def isVowel (c : Char) : Bool :=
  c == 'a' || c == 'e' || c == 'i' || c == 'o' || c == 'u'

/-- The plural of an English noun, by the regular rules. -/
def plural (word : List Char) : List Char :=
  if sibilants.any (·.isSuffixOf word) then word ++ ['e', 's']
  else
    match word.reverse with
    | 'y' :: c :: stem =>
      if isVowel c then word ++ ['s'] else (c :: stem).reverse ++ ['i', 'e', 's']
    | _ => word ++ ['s']

/-- The conventional table of a model: the plural of its name in snake case. -/
def tableName (model : String) : String :=
  String.ofList (plural (snakeCase (baseName model.toList)))

end Naming
end ResponseTypes
