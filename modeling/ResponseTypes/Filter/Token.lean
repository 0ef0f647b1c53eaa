import ResponseTypes.Text.Blank

/-!
# Tokens of filters

The text of a filter is cut into tokens.  Brackets and texts with values in them hold tokens of
their own, so that what is left to read of a filter is a tree.  Blanks and comments fall away.

## Main definitions

- `Token`: the tokens.
- `Token.ofText?`: the tokens of a filter.
-/

namespace ResponseTypes

mutual

/-- A token. -/
inductive Token where
  /-- a name or a keyword -/
  | word (name : String)
  /-- a name with a dollar sign before it -/
  | variable (name : String)
  /-- a name with an at sign before it -/
  | format (name : String)
  | number (numeral : String)
  /-- a mark, or a name with a point before it -/
  | symbol (mark : String)
  | text (parts : List TextPart)
  /-- tokens between brackets, with the opening one -/
  | block (opening : Char) (tokens : List Token)

/-- A part of a text. -/
inductive TextPart where
  | plain (content : String)
  /-- tokens that stand for values -/
  | hole (tokens : List Token)

end

instance : Inhabited Token := ⟨.symbol ""⟩

namespace Token

/-! ## Blanks -/

/-- A comment up to the end of its line, and what follows.  A line that ends with an odd number of
backslashes goes on with the next one. -/
def afterComment : Nat → List Char → List Char
  | 0, s => s
  | fuel + 1, s =>
    let line := s.takeWhile (· ≠ '\n')
    let rest := (s.dropWhile (· ≠ '\n')).drop 1
    let line := if line.getLast? = some '\r' then line.dropLast else line
    if (line.reverse.takeWhile (· == '\\')).length % 2 = 0 then rest
    else afterComment fuel rest

/-- What follows blanks and comments. -/
def skip : Nat → List Char → List Char
  | 0, s => s
  | fuel + 1, s =>
    match Text.trimStart s with
    | '#' :: rest => skip fuel (afterComment (rest.length + 1) rest)
    | s => s

/-! ## Names and numbers -/

/-- The characters that a name begins with. -/
def startsName (c : Char) : Bool :=
  ('a' ≤ c && c ≤ 'z') || ('A' ≤ c && c ≤ 'Z') || c == '_'

/-- The digits. -/
def isDigit (c : Char) : Bool :=
  '0' ≤ c && c ≤ '9'

/-- The characters that a name goes on with. -/
def inName (c : Char) : Bool :=
  startsName c || isDigit c

/-- The characters of operators other than the minus sign, which are taken together as long as they
follow each other. -/
def isOperator (c : Char) : Bool :=
  "|=!<>+*/%".toList.contains c

/-- A name at the front of a text. -/
def plainName (s : List Char) : Option (List Char × List Char) :=
  match s with
  | c :: _ => if startsName c then some (s.takeWhile inName, s.dropWhile inName) else none
  | [] => none

/-- A name, perhaps with the name of a module before it. -/
def qualifiedName (s : List Char) : Option (List Char × List Char) := do
  let (first, rest) ← plainName s
  match rest with
  | ':' :: ':' :: more =>
    let (second, rest) ← plainName more
    return (first ++ [':', ':'] ++ second, rest)
  | rest => return (first, rest)

/-- The fraction of a number, which must have digits. -/
def fraction : List Char → Option (List Char × List Char)
  | '.' :: s =>
    let digits := s.takeWhile isDigit
    if digits.isEmpty then none else some ('.' :: digits, s.dropWhile isDigit)
  | s => some ([], s)

/-- The exponent of a number, which must have digits too. -/
def exponent (s : List Char) : Option (List Char × List Char) :=
  match s with
  | c :: s' =>
    if c = 'e' ∨ c = 'E' then
      let (sign, s') := match s' with
        | '+' :: rest => (['+'], rest)
        | '-' :: rest => (['-'], rest)
        | rest => ([], rest)
      let digits := s'.takeWhile isDigit
      if digits.isEmpty then none else some (c :: sign ++ digits, s'.dropWhile isDigit)
    else some ([], s)
  | [] => some ([], [])

/-- A number at the front of a text that begins with a digit. -/
def numeral (s : List Char) : Option (List Char × List Char) := do
  let (f, rest) ← fraction (s.dropWhile isDigit)
  let (e, rest) ← exponent rest
  return (s.takeWhile isDigit ++ f ++ e, rest)

/-! ## Texts -/

/-- The value of a hexadecimal digit. -/
def hexValue? (c : Char) : Option Nat :=
  if isDigit c then some (c.toNat - 48)
  else if 'a' ≤ c ∧ c ≤ 'f' then some (c.toNat - 87)
  else if 'A' ≤ c ∧ c ≤ 'F' then some (c.toNat - 55)
  else none

/-- The character of an escape without values, after its backslash. -/
def escape : List Char → Option (Char × List Char)
  | '\\' :: s => some ('\\', s)
  | '/' :: s => some ('/', s)
  | '"' :: s => some ('"', s)
  | 'b' :: s => some ('\x08', s)
  | 'f' :: s => some ('\x0c', s)
  | 'n' :: s => some ('\n', s)
  | 'r' :: s => some ('\r', s)
  | 't' :: s => some ('\t', s)
  | 'u' :: a :: b :: c :: d :: s => do
    let high := (← hexValue? a) * 16 + (← hexValue? b)
    let n := (high * 16 + (← hexValue? c)) * 16 + (← hexValue? d)
    if n.isValidChar then some (Char.ofNat n, s) else none
  | _ => none

/-- One more character in front of the parts of a text. -/
def addChar (c : Char) : List TextPart → List TextPart
  | .plain content :: rest => .plain (String.singleton c ++ content) :: rest
  | parts => .plain (String.singleton c) :: parts

/-- The bracket that closes a block. -/
def closing : Char → Char
  | '(' => ')'
  | '[' => ']'
  | _ => '}'

/-! ## Tokens -/

mutual

/-- The token at the front of a text without blanks there, and what follows it. -/
def next : Nat → List Char → Option (Token × List Char)
  | 0, _ => none
  | _ + 1, [] => none
  | fuel + 1, c :: s =>
    if startsName c then do
      let (name, rest) ← qualifiedName (c :: s)
      return (.word (String.ofList name), rest)
    else if isDigit c then do
      let (digits, rest) ← numeral (c :: s)
      return (.number (String.ofList digits), rest)
    else if isOperator c then
      some (.symbol (String.ofList (c :: s.takeWhile isOperator)), s.dropWhile isOperator)
    else
      match c with
      | '-' =>
        match s with
        | '=' :: rest => some (.symbol "-=", rest)
        | _ => some (.symbol "-", s)
      | '$' => do
        let (name, rest) ← plainName s
        return (.variable (String.ofList ('$' :: name)), rest)
      | '@' => do
        let (name, rest) ← plainName s
        return (.format (String.ofList ('@' :: name)), rest)
      | '.' =>
        match s, plainName s with
        | '.' :: rest, _ => some (.symbol "..", rest)
        | _, some (name, rest) => some (.symbol (String.ofList ('.' :: name)), rest)
        | _, none => some (.symbol ".", s)
      | '"' => do
        let (parts, rest) ← textParts fuel s
        return (.text parts, rest)
      | c =>
        if c = ':' ∨ c = ';' ∨ c = ',' ∨ c = '?' then some (.symbol c.toString, s)
        else if c = '(' ∨ c = '[' ∨ c = '{' then do
          let (tokens, rest) ← sequence fuel s
          match rest with
          | d :: rest => if d = closing c then some (.block c tokens, rest) else none
          | [] => none
        else none

/-- The tokens up to a closing bracket or the end. -/
def sequence : Nat → List Char → Option (List Token × List Char)
  | 0, _ => none
  | fuel + 1, s =>
    match skip (s.length + 1) s with
    | [] => some ([], [])
    | c :: s =>
      if c = ')' ∨ c = ']' ∨ c = '}' then some ([], c :: s)
      else do
        let (token, rest) ← next fuel (c :: s)
        let (tokens, rest) ← sequence fuel rest
        return (token :: tokens, rest)

/-- The parts of a text after its opening quote, and what follows the closing one. -/
def textParts : Nat → List Char → Option (List TextPart × List Char)
  | 0, _ => none
  | _ + 1, [] => none
  | _ + 1, '"' :: s => some ([], s)
  | fuel + 1, '\\' :: '(' :: s => do
    let (tokens, rest) ← sequence fuel s
    match rest with
    | ')' :: rest =>
      let (parts, rest) ← textParts fuel rest
      return (.hole tokens :: parts, rest)
    | _ => none
  | fuel + 1, '\\' :: s => do
    let (c, rest) ← escape s
    let (parts, rest) ← textParts fuel rest
    return (addChar c parts, rest)
  | fuel + 1, c :: s => do
    let (parts, rest) ← textParts fuel s
    return (addChar c parts, rest)

end

/-- The tokens of a filter, unless its text is not well formed.  Every token takes a character. -/
def ofText? (s : List Char) : Option (List Token) :=
  match sequence (2 * s.length + 2) s with
  | some (tokens, []) => some tokens
  | _ => none

end Token
end ResponseTypes
