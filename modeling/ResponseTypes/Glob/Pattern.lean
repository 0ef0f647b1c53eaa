import ResponseTypes.Path

/-!
# Patterns of paths

A pattern is a path in which some characters stand for others: `?` for any character, `*` for any
number of them, `[a-z]` for one of a set and `[!a-z]` for one outside it.  A part `**` stands for
any number of directories.  Nothing else has a meaning of its own, and nothing takes it away.

## Main definitions

- `Glob.Token`, and `Glob.matches` for the names that tokens fit.
- `Glob.Fault`: what is wrong with a pattern, and where.
- `Glob.Pattern`, and `Glob.Pattern.parse`.
-/

namespace ResponseTypes
namespace Glob

/-- What can stand in a part of a pattern. -/
inductive Token where
  | char (c : Char)
  | anyChar
  | anySequence
  /-- any number of directories -/
  | anyDepth
  /-- a character between the ends of one of these ranges -/
  | oneOf (ranges : List (Char × Char))
  /-- a character outside all of these ranges -/
  | noneOf (ranges : List (Char × Char))
deriving DecidableEq, Repr, Inhabited

/-! ## Names that fit -/

/-- Whether a character lies in one of the ranges. -/
def inRanges (ranges : List (Char × Char)) (c : Char) : Bool :=
  ranges.any fun (first, last) => first ≤ c && c ≤ last

/-- Whether a token that stands for one character stands for this one. -/
def Token.fits : Token → Char → Bool
  | char c, d => c == d
  | anyChar, _ => true
  | oneOf ranges, d => inRanges ranges d
  | noneOf ranges, d => !inRanges ranges d
  | anySequence, _ => false
  | anyDepth, _ => false

/-- Whether the token stands for any number of characters. -/
def Token.isSequence : Token → Bool
  | anySequence => true
  | anyDepth => true
  | _ => false

/-- Whether some end of a list passes a test. -/
def anyEnd (test : List Char → Bool) : List Char → Bool
  | [] => test []
  | c :: rest => test (c :: rest) || anyEnd test rest

/-- Whether a name fits tokens, as a whole. -/
def «matches» : List Token → List Char → Bool
  | [], s => s.isEmpty
  | token :: others, s =>
    if token.isSequence then anyEnd («matches» others) s
    else
      match s with
      | [] => false
      | c :: rest => token.fits c && «matches» others rest

/-- The text that tokens stand for if each stands for one text only. -/
def literal? (tokens : List Token) : Option (List Char) :=
  tokens.mapM fun
    | .char c => some c
    | _ => none

/-! ## Faults -/

/-- What can be wrong with a pattern. -/
inductive Defect where
  | range
  | wildcards
  | depth
deriving DecidableEq, Repr, Inhabited

/-- The defect in words. -/
def Defect.message : Defect → String
  | range => "invalid range pattern"
  | wildcards => "wildcards are either regular `*` or recursive `**`"
  | depth => "recursive wildcards must form a single path component"

/-- A defect at a place. -/
structure Fault where
  defect : Defect
  /-- the number of characters before it -/
  position : Nat
deriving DecidableEq, Repr, Inhabited

/-- The fault in words. -/
def Fault.message (fault : Fault) : String :=
  "Pattern syntax error near position " ++ toString fault.position ++ ": " ++
    fault.defect.message

/-! ## Reading -/

/-- The ranges between brackets.  A character that is in no range is one of its own. -/
def ranges : List Char → List (Char × Char)
  | first :: '-' :: last :: rest => (first, last) :: ranges rest
  | c :: rest => (c, c) :: ranges rest
  | [] => []

/-- What precedes the first closing bracket, and what follows it.  The first character is taken
as it is, so that a bracket can be in a set. -/
def untilBracket? : List Char → Option (List Char × List Char)
  | [] => none
  | first :: rest =>
    match rest.dropWhile (· ≠ ']') with
    | [] => none
    | _ :: after => some (first :: rest.takeWhile (· ≠ ']'), after)

/-- The set that follows an opening bracket, and what follows the set. -/
def readSet? : List Char → Option (Token × List Char)
  | '!' :: rest => (untilBracket? rest).map fun (inside, after) => (.noneOf (ranges inside), after)
  | s => (untilBracket? s).map fun (inside, after) => (.oneOf (ranges inside), after)

/-- The tokens of a pattern.  The position is the number of characters before, and `fresh` tells
whether a part of the path begins here.  The fuel is at least the length. -/
def readFrom : (fuel position : Nat) → (fresh : Bool) → List Char → Except Fault (List Token)
  | 0, _, _, _ => .ok []
  | _, _, _, [] => .ok []
  | fuel + 1, position, fresh, c :: rest =>
    if c = '?' then
      (readFrom fuel (position + 1) false rest).map (.anyChar :: ·)
    else if c = '*' then
      let after := rest.dropWhile (· = '*')
      match rest.length - after.length with
      | 0 => (readFrom fuel (position + 1) false rest).map (.anySequence :: ·)
      | 1 =>
        if !fresh then .error ⟨.depth, position - 1⟩
        else
          match after with
          | [] => .ok [.anyDepth]
          | d :: others =>
            if d = Path.separator then
              (readFrom fuel (position + 3) true others).map (.anyDepth :: ·)
            else .error ⟨.depth, position + 2⟩
      | _ => .error ⟨.wildcards, position + 2⟩
    else if c = '[' then
      match readSet? rest with
      | none => .error ⟨.range, position⟩
      | some (token, after) =>
        (readFrom fuel (position + 1 + (rest.length - after.length)) false after).map (token :: ·)
    else
      (readFrom fuel (position + 1) (c = Path.separator) rest).map (.char c :: ·)

/-- The tokens of a whole pattern, or of a part. -/
def read (s : List Char) : Except Fault (List Token) :=
  readFrom s.length 0 true s

/-- A pattern, part by part. -/
structure Pattern where
  /-- whether it starts at the root -/
  absolute : Bool
  parts : List (List Token)
  /-- whether only directories fit -/
  directoriesOnly : Bool
deriving DecidableEq, Repr, Inhabited

namespace Pattern

/-- The texts of the parts.  A separator at the end does not start another part. -/
def texts (s : List Char) : List (List Char) :=
  match s with
  | [] => [[]]
  | _ =>
    let all := Path.split s
    if all.getLast? = some [] then all.dropLast else all

/-- Reads a pattern, first as a whole and then part by part. -/
def parse (text : String) : Except Fault Pattern := do
  let s := text.toList
  let _ ← read s
  let absolute := Path.isAbsolute s
  let parts ← (texts (if absolute then s.drop 1 else s)).mapM read
  return { absolute, parts, directoriesOnly := s.getLast? = some Path.separator }

end Pattern
end Glob
end ResponseTypes
