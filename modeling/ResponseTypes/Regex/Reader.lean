import ResponseTypes.Regex.Basic
import ResponseTypes.Text.Blank
import ResponseTypes.Text.Letter
import ResponseTypes.Text.LetterCase

/-!
# The written form of regular expressions

Most characters stand for themselves; others set, group and repeat expressions.  Flags say how the
rest of a group is to be read.  An expression must not be nested too deeply or grow too large.

## Main definitions

- `Regex.Flags`: how an expression is to be read.
- `Regex.parse?`: the expression of a text, with its groups and their names.
-/

namespace ResponseTypes
namespace Regex

/-- How an expression is to be read. -/
structure Flags where
  /-- ASCII letters stand for their other case as well -/
  ignoreCase : Bool := false
  /-- `^` and `$` hold at line ends -/
  multiLine : Bool := false
  /-- a point stands for line ends too -/
  dotAll : Bool := false
  /-- repetitions take as little as they can, and those with a question mark as much -/
  lazy : Bool := false
  /-- a carriage return is a line end too -/
  carriageReturn : Bool := false
  /-- blanks and comments in the expression do not count -/
  spaced : Bool := false
deriving DecidableEq, Repr, Inhabited

namespace Flags

/-- Flags with the one of a letter turned on or off. -/
def set? (flags : Flags) (on : Bool) : Char → Option Flags
  | 'i' => some { flags with ignoreCase := on }
  | 'm' => some { flags with multiLine := on }
  | 's' => some { flags with dotAll := on }
  | 'U' => some { flags with lazy := on }
  | 'R' => some { flags with carriageReturn := on }
  | 'x' => some { flags with spaced := on }
  | 'u' => some flags
  | _ => none

/-- What follows blanks and comments; a comment reaches to the end of its line. -/
def afterBlanks (inComment : Bool) : List Char → List Char
  | [] => []
  | c :: s =>
    if inComment then afterBlanks (c ≠ '\n') s
    else if Text.isBlank c then afterBlanks false s
    else if c = '#' then afterBlanks true s
    else c :: s

/-- What is left to read: the whole text, or what follows its blanks if these do not count. -/
def skip (flags : Flags) (s : List Char) : List Char :=
  if flags.spaced then afterBlanks false s else s

end Flags

/-! ## Single characters -/

/-- What a character or an escape stands for. -/
inductive Atom where
  | char (c : Char)
  | set (s : CharSet)
  | anchor (a : Anchor)

namespace Atom

/-- A character, or the set with its other case. -/
def letter (flags : Flags) (c : Char) : Atom :=
  if flags.ignoreCase ∧ c.isAlpha then set (CharSet.single c).foldCase else char c

/-- An atom as an expression. -/
def toRegex : Atom → Regex
  | char c => oneOf (.single c)
  | set s => oneOf s
  | anchor a => .anchor a

end Atom

/-- The value of a hexadecimal digit. -/
def hexValue? (c : Char) : Option Nat :=
  if '0' ≤ c ∧ c ≤ '9' then some (c.toNat - 48)
  else if 'a' ≤ c ∧ c ≤ 'f' then some (c.toNat - 87)
  else if 'A' ≤ c ∧ c ≤ 'F' then some (c.toNat - 55)
  else none

/-- The character of a code point. -/
def charOf? (n : Nat) : Option Char :=
  if n.isValidChar then some (Char.ofNat n) else none

/-- A code point of so many hexadecimal digits, onto the value of those before them. -/
def fixedCode (flags : Flags) : Nat → Nat → List Char → Option (Nat × List Char)
  | 0, n, s => some (n, s)
  | _ + 1, _, [] => none
  | count + 1, n, c :: s => do
    let d ← hexValue? c
    fixedCode flags count (n * 16 + d) (flags.skip s)

/-- A code point of hexadecimal digits up to a closing brace, onto the value of those before them.
Every step takes a character. -/
def bracedCode (flags : Flags) : Nat → Option Nat → List Char → Option (Nat × List Char)
  | 0, _, _ => none
  | _ + 1, _, [] => none
  | fuel + 1, n, c :: s =>
    if c = '}' then n.map (·, flags.skip s)
    else do
      let d ← hexValue? c
      bracedCode flags fuel (some (n.getD 0 * 16 + d)) (flags.skip s)

/-- The character of a code point, after the letter that says how many digits it has. -/
def code (flags : Flags) (digits : Nat) (s : List Char) : Option (Atom × List Char) := do
  let (n, s) ← match flags.skip s with
    | '{' :: s => bracedCode flags (s.length + 1) none (flags.skip s)
    | s => fixedCode flags digits 0 s
  return (.letter flags (← charOf? n), s)

/-- The letters of a name, with blanks between them if these do not count, and what follows. -/
def borderName (flags : Flags) : Nat → List Char → List Char × List Char
  | 0, s => ([], s)
  | _ + 1, [] => ([], [])
  | fuel + 1, c :: s =>
    if c.isAlpha || c == '-' then
      let (name, rest) := borderName flags fuel (flags.skip s)
      (c :: name, rest)
    else ([], c :: s)

/-- A border of a word, which may say in braces which one it is.  Braces that do not begin with a
letter belong to a repetition. -/
def borderOf (flags : Flags) (s : List Char) : Option (Atom × List Char) :=
  match s with
  | '{' :: inner =>
    let inner := flags.skip inner
    match borderName flags (inner.length + 1) inner with
    | ([], []) => none
    | ([], _) => some (.anchor .border, s)
    | (name, '}' :: rest) =>
      match String.ofList name with
      | "start" => some (.anchor .wordStart, rest)
      | "end" => some (.anchor .wordEnd, rest)
      | "start-half" => some (.anchor .outsideBefore, rest)
      | "end-half" => some (.anchor .outsideAfter, rest)
      | _ => none
    | _ => none
  | s => some (.anchor .border, s)

/-- What an escape stands for, after its backslash.  Any ASCII character that is no letter, digit or
angle bracket may be escaped and stands for itself. -/
def escape (flags : Flags) : List Char → Option (Atom × List Char)
  | [] => none
  | c :: s =>
    let plain := fun (c : Char) => some (Atom.letter flags c, s)
    match c with
    | 'x' => code flags 2 s
    | 'u' => code flags 4 s
    | 'U' => code flags 8 s
    | 'd' => some (.set .digits, s)
    | 'D' => some (.set CharSet.digits.complement, s)
    | 's' => some (.set .blanks, s)
    | 'S' => some (.set CharSet.blanks.complement, s)
    | 'w' => some (.set .wordChars, s)
    | 'W' => some (.set CharSet.wordChars.complement, s)
    | 'a' => plain '\x07'
    | 'f' => plain '\x0c'
    | 't' => plain '\t'
    | 'n' => plain '\n'
    | 'r' => plain '\r'
    | 'v' => plain '\x0b'
    | 'A' => some (.anchor .textStart, s)
    | 'z' => some (.anchor .textEnd, s)
    | 'b' => borderOf flags s
    | 'B' => some (.anchor .noBorder, s)
    | '<' => some (.anchor .wordStart, s)
    | '>' => some (.anchor .wordEnd, s)
    | c => if c.toNat < 0x80 ∧ ¬ c.isAlphanum then plain c else none

/-! ## Sets -/

/-- A named set between colons, after the bracket that opens it. -/
def namedSet? (flags : Flags) (s : List Char) : Option (CharSet × List Char) := do
  let s ← match s with
    | ':' :: s => some s
    | _ => none
  let (negated, s) := match s with
    | '^' :: s => (true, s)
    | s => (false, s)
  let set ← CharSet.ofName? (String.ofList (s.takeWhile (· ≠ ':')))
  match s.dropWhile (· ≠ ':') with
  | ':' :: ']' :: rest =>
    let set := if flags.ignoreCase then set.foldCase else set
    return (if negated then set.complement else set, rest)
  | _ => none

/-- A character or an escape in a set. -/
def member (flags : Flags) : List Char → Option (Atom × List Char)
  | [] => none
  | '\\' :: s => escape flags s
  | c :: s => some (.char c, s)

/-- A member of a set, or all characters between two. -/
def members (flags : Flags) (s : List Char) : Option (CharSet × List Char) := do
  let (first, s) ← member flags s
  let alone : Option CharSet := match first with
    | .char c => some (.single c)
    | .set s => some s
    | .anchor _ => none
  match flags.skip s with
  | [] => none
  | '-' :: s =>
    match flags.skip s with
    | [] => none
    | ']' :: _ => return (← alone, '-' :: s)
    | '-' :: _ => return (← alone, '-' :: s)
    | s =>
      let (last, s) ← member flags s
      match first, last with
      | .char a, .char b => if a ≤ b then return (.between a b, s) else none
      | _, _ => none
  | s => return (← alone, s)

/-- The members of a set up to its closing bracket, with those before them.  There are no sets in
sets but the named ones, and no operations on sets. -/
def setItems (flags : Flags) : Nat → CharSet → List Char → Option (CharSet × List Char)
  | 0, _, _ => none
  | fuel + 1, found, s =>
    match flags.skip s with
    | [] => none
    | ']' :: s => some (found, s)
    | '[' :: s => do
      let (set, s) ← namedSet? flags s
      setItems flags fuel (found.union set) s
    | '&' :: '&' :: _ => none
    | '-' :: '-' :: _ => none
    | '~' :: '~' :: _ => none
    | s => do
      let (set, s) ← members flags s
      setItems flags fuel (found.union set) s

/-- The hyphens at the front of a set, which stand for themselves. -/
def leadingHyphens (flags : Flags) : Nat → CharSet → List Char → CharSet × List Char
  | 0, found, s => (found, s)
  | fuel + 1, found, '-' :: s =>
    leadingHyphens flags fuel (found.union (.single '-')) (flags.skip s)
  | _ + 1, found, s => (found, s)

/-- A set after its opening bracket.  A closing bracket at its front stands for itself. -/
def setOf (flags : Flags) (s : List Char) : Option (CharSet × List Char) := do
  let (negated, s) := match flags.skip s with
    | '^' :: s => (true, flags.skip s)
    | s => (false, s)
  let (found, s) := leadingHyphens flags (s.length + 1) ⟨[]⟩ s
  let (found, s) := match found.ranges, s with
    | [], ']' :: s => (CharSet.single ']', s)
    | _, s => (found, s)
  let (found, s) ← setItems flags (s.length + 1) found s
  let found := if flags.ignoreCase then found.foldCase else found
  return (if negated then found.complement else found, s)

/-! ## Repetitions -/

/-- The digits of a natural, with blanks between them if these do not count, and what follows. -/
def digits (flags : Flags) : Nat → List Char → List Char × List Char
  | 0, s => ([], s)
  | _ + 1, [] => ([], [])
  | fuel + 1, c :: s =>
    if c.isDigit then
      let (ds, rest) := digits flags fuel (flags.skip s)
      (c :: ds, rest)
    else ([], c :: s)

/-- A natural below `2 ^ 32` with blanks around it. -/
def natural? (flags : Flags) (s : List Char) : Option (Nat × List Char) :=
  let s := Text.trimStart s
  let (ds, rest) := digits flags (s.length + 1) s
  let n := ds.foldl (fun n d => n * 10 + (d.toNat - 48)) 0
  if ds.isEmpty ∨ 0x100000000 ≤ n then none
  else some (n, match rest with
    | c :: s => if Text.isBlank c then Text.trimStart (flags.skip s) else rest
    | [] => [])

/-- The bounds of a repetition after its opening brace. -/
def bounds? (flags : Flags) (s : List Char) : Option ((Nat × Option Nat) × List Char) := do
  let (least, s) ← natural? flags (flags.skip s)
  match s with
  | '}' :: s => return ((least, some least), s)
  | ',' :: s =>
    match flags.skip s with
    | [] => none
    | '}' :: s => return ((least, none), s)
    | s =>
      let (most, s) ← natural? flags s
      match s with
      | '}' :: s => if least ≤ most then return ((least, some most), s) else none
      | _ => none
  | _ => none

/-- A repetition at the front of a text: its bounds, and whether it has a question mark. -/
def repetition? (flags : Flags) (s : List Char) : Option (Repetition × List Char) := do
  let ((least, most), s) ← match s with
    | '*' :: s => some ((0, none), s)
    | '+' :: s => some ((1, none), s)
    | '?' :: s => some ((0, some 1), s)
    | '{' :: s => do
      let (found, s) ← bounds? flags s
      pure (found, flags.skip s)
    | _ => none
  match s with
  | '?' :: s => return (⟨least, most, flags.lazy⟩, s)
  | s => return (⟨least, most, !flags.lazy⟩, s)

/-! ## Groups -/

/-- Whether a character may stand in the name of a group. -/
def inGroupName (first : Bool) (c : Char) : Bool :=
  c == '_' || Text.isLetter c ||
    (!first && (c == '.' || c == '[' || c == ']' || Text.isNumeral c))

/-- The name of a group up to its closing angle bracket. -/
def groupName? (s : List Char) : Option (String × List Char) :=
  let name := s.takeWhile (· ≠ '>')
  match name, s.dropWhile (· ≠ '>') with
  | c :: rest, '>' :: s =>
    if inGroupName true c ∧ rest.all (inGroupName false) then some (String.ofList name, s) else none
  | _, _ => none

/-- The flags of letters up to a colon or a closing parenthesis; those after a hyphen are turned
off.  No letter may come twice. -/
def flagLetters? (flags : Flags) (on : Bool) (seen : List Char) :
    List Char → Option (Flags × List Char)
  | [] => none
  | ':' :: s => if seen.head? = some '-' then none else some (flags, ':' :: s)
  | ')' :: s => if seen.head? = some '-' then none else some (flags, ')' :: s)
  | '-' :: s => if on then flagLetters? flags false ('-' :: seen) s else none
  | c :: s =>
    match flags.set? on c with
    | some flags => if seen.contains c then none else flagLetters? flags on (c :: seen) s
    | none => none

/-- How far a reader has come: what is left, the flags that hold, and the groups so far. -/
structure Reading where
  rest : List Char
  flags : Flags
  groups : Nat
  names : List (Nat × String)

namespace Reading

/-- A reading with another rest. -/
def goTo (r : Reading) (rest : List Char) : Reading :=
  { r with rest }

/-- A reading with one more group, unless its name is taken. -/
def addGroup (r : Reading) (name : Option String) : Option Reading :=
  let n := r.groups + 1
  match name with
  | none => some { r with groups := n }
  | some name =>
    if r.names.any (·.2 == name) then none
    else some { r with groups := n, names := r.names ++ [(n, name)] }

end Reading

/-- What a point stands for. -/
def point (flags : Flags) : CharSet :=
  if flags.dotAll then CharSet.complement ⟨[]⟩
  else if flags.carriageReturn then CharSet.complement ⟨[(0xA, 0xA), (0xD, 0xD)]⟩
  else (CharSet.single '\n').complement

/-- What `^` stands for. -/
def caret (flags : Flags) : Anchor :=
  match flags.multiLine, flags.carriageReturn with
  | false, _ => .textStart
  | true, false => .lineStart
  | true, true => .anyLineStart

/-- What `$` stands for. -/
def dollar (flags : Flags) : Anchor :=
  match flags.multiLine, flags.carriageReturn with
  | false, _ => .textEnd
  | true, false => .lineEnd
  | true, true => .anyLineEnd

/-- An expression of a single place or character at the front of a text. -/
def primitive (flags : Flags) : List Char → Option (Regex × List Char)
  | [] => none
  | '.' :: s => some (oneOf (point flags), s)
  | '^' :: s => some (anchor (caret flags), s)
  | '$' :: s => some (anchor (dollar flags), s)
  | '[' :: s => do
    let (set, s) ← setOf flags s
    return (oneOf set, s)
  | '\\' :: s => do
    let (a, s) ← escape flags s
    return (a.toRegex, s)
  | c :: s => some ((Atom.letter flags c).toRegex, s)

/-- The greatest nesting of expressions. -/
def maxNesting : Nat := 50

mutual

/-- Expressions up to a closing parenthesis or the end: the ways before the last bar and the parts
since then, the newest first, are known.  Every step takes a character. -/
def ways (depth : Nat) : Nat → List Regex → List Regex → Reading → Option (Regex × Reading)
  | 0, _, _, _ => none
  | fuel + 1, before, parts, r =>
    let s := r.flags.skip r.rest
    let finish := fun (_ : Unit) =>
      (ofWays ((ofParts parts.reverse :: before).reverse), r.goTo s)
    match s with
    | [] => some (finish ())
    | ')' :: _ => if depth = 0 then none else some (finish ())
    | '|' :: s => ways depth fuel (ofParts parts.reverse :: before) [] (r.goTo s)
    | '(' :: s => do
      let (found, inner) ← parenthesis (depth + 1) fuel (r.goTo (r.flags.skip s))
      let parts := found.toList ++ parts
      let inner := if found.isSome then { inner with flags := r.flags } else inner
      match inner.rest with
      | ')' :: s => ways depth fuel before parts (inner.goTo s)
      | _ => none
    | c :: _ =>
      if c = '*' ∨ c = '+' ∨ c = '?' ∨ c = '{' then do
        let (times, s) ← repetition? r.flags s
        match parts with
        | last :: parts => ways depth fuel before (repeated times last :: parts) (r.goTo s)
        | [] => none
      else do
        let (part, s) ← primitive r.flags s
        ways depth fuel before (part :: parts) (r.goTo s)

/-- What stands after an opening parenthesis: an expression, or flags for what follows. -/
def parenthesis (depth : Nat) : Nat → Reading → Option (Option Regex × Reading)
  | 0, _ => none
  | fuel + 1, r =>
    if maxNesting < depth then none
    else
      let grouped := fun (name : Option String) (s : List Char) => do
        let r ← (r.goTo s).addGroup name
        let (inner, after) ← ways depth fuel [] [] r
        return (some (group r.groups inner), after)
      let flagged := fun (s : List Char) => do
        let (flags, rest) ← flagLetters? r.flags true [] s
        match rest with
        | ':' :: rest =>
          let (inner, after) ← ways depth fuel [] [] { r with rest, flags }
          return (some inner, after)
        | rest => if s.head? = some ')' then none else return (none, { r with rest, flags })
      match r.rest with
      | '?' :: 'P' :: '<' :: s => do
        let (name, s) ← groupName? s
        grouped (some name) s
      | '?' :: '<' :: s => do
        let (name, s) ← groupName? s
        grouped (some name) s
      | '?' :: s => flagged s
      | s => grouped none s

end

/-- The greatest size of an expression with its repetitions written out. -/
def maxSize : Nat := 327680

/-- The expression of a text, the number of its groups, and the names of those that have one. -/
def parse? (flags : Flags) (s : List Char) : Option (Regex × Nat × List (Nat × String)) :=
  match ways 0 (2 * s.length + 2) [] [] ⟨s, flags, 0, []⟩ with
  | some (r, reading) =>
    if nesting r ≤ maxNesting ∧ size r ≤ maxSize then some (r, reading.groups, reading.names)
    else none
  | none => none

end Regex
end ResponseTypes
