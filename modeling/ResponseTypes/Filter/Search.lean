import ResponseTypes.Filter.Access
import ResponseTypes.Regex.Machine
import ResponseTypes.Regex.Reader

/-!
# Searching texts

Filters search texts for regular expressions.  What is found comes as values: a match is the list of
its whole stretch and of the stretches of its groups, each with its offset, length and name.

## Main definitions

- `SearchFlags`: what is searched for.
- `Datum.findMatches`: the matches in a text.
- `Datum.splitAtMatches`: a text cut at its matches.
- `Datum.namedGroups`: the stretches of the named groups of a match.
-/

namespace ResponseTypes

/-- What is searched for, and how the expression is to be read. -/
structure SearchFlags where
  /-- all matches and not only the first -/
  everywhere : Bool := false
  /-- no empty matches -/
  notEmpty : Bool := false
  reading : Regex.Flags := {}
deriving DecidableEq, Repr, Inhabited

namespace SearchFlags

/-- Flags with the one of a letter turned on. -/
def add? (flags : SearchFlags) : Char → Option SearchFlags
  | 'g' => some { flags with everywhere := true }
  | 'n' => some { flags with notEmpty := true }
  | 'i' => some { flags with reading.ignoreCase := true }
  | 'x' => some { flags with reading.spaced := true }
  | 's' => some { flags with reading.dotAll := true }
  | 'm' => some { flags with reading.multiLine := true }
  | 'l' => some { flags with reading.lazy := true }
  | 'p' => some { flags with reading.dotAll := true, reading.multiLine := true }
  | _ => none

/-- The flags of letters. -/
def parse? (letters : List Char) : Option SearchFlags :=
  letters.foldlM add? {}

end SearchFlags

namespace Datum

/-- A stretch of a text between two positions. -/
def stretch (s : List Char) (start stop : Nat) : Datum :=
  text (String.ofList ((s.drop start).take (stop - start)))

/-- A stretch that an expression or one of its groups has matched. -/
def matched (s : List Char) (name : Option String) (start stop : Nat) : Datum :=
  object <|
    [("offset", integer start), ("length", integer ((stop - start : Nat) : Int)),
     ("string", stretch s start stop)] ++ (name.map fun n => ("name", text n)).toList

/-- A match: its start, its end, and the stretches of those groups that took part, as their name,
start and end.  The whole match is the first of them. -/
structure Match where
  start : Nat
  stop : Nat
  parts : List (Option String × Nat × Nat)

namespace Match

/-- The match of marks. -/
def ofMarks (names : List (Nat × String)) (marks : Regex.Machine.Marks) : Match :=
  let parts := (List.range (marks.size / 2)).filterMap fun i =>
    (Regex.Machine.stretch? marks i).map fun (a, b) => (names.lookup i, a, b)
  let (start, stop) := (Regex.Machine.stretch? marks 0).getD (0, 0)
  ⟨start, stop, parts⟩

/-- A match as a value.  Its groups are counted off along the text, so none may begin before the one
in front of it. -/
def toDatum (m : Match) (s : List Char) : Calculation Datum :=
  if m.parts.Pairwise fun p q => p.2.1 ≤ q.2.1 then
    .ok (array (m.parts.map fun (name, a, b) => matched s name a b))
  else .error (.final .collapse)

end Match

/-- The characters of a text and the matches of an expression in it. -/
def findAll (value pattern flags : Datum) : Calculation (List Char × List Match) := do
  let letters ← flags.asText
  let pattern ← pattern.asText
  match SearchFlags.parse? letters.toList with
  | none => complain ((text letters).render ++ " is not a valid flag")
  | some flags =>
    match Regex.parse? flags.reading pattern.toList with
    | none => complain ((text pattern).render ++ " is not a valid regex")
    | some (r, groups, names) =>
      let s := (← value.asText).toList
      let found := ((Regex.Machine.ofRegex r groups).matchesOf s).map (Match.ofMarks names)
      let found := if flags.notEmpty then found.filter fun m => m.start ≠ m.stop else found
      return (s, if flags.everywhere then found else found.take 1)

/-- The matches of an expression in a text. -/
def findMatches (value pattern flags : Datum) : Calculation Datum := do
  let (s, found) ← findAll value pattern flags
  return array (← found.mapM (·.toDatum s))

/-- The stretches of a text between matches, with the matches themselves if they are wanted. -/
def between (keep : Bool) (s : List Char) (start : Nat) : List Match → Calculation (List Datum)
  | [] => .ok [stretch s start s.length]
  | m :: rest => do
    let kept ← if keep then do pure [← m.toDatum s] else pure []
    return stretch s start m.start :: kept ++ (← between keep s m.stop rest)

/-- A text cut at the matches of an expression. -/
def splitAtMatches (keep : Bool) (value pattern flags : Datum) : Calculation Datum := do
  let (s, found) ← findAll value pattern flags
  return array (← between keep s 0 found)

/-- The stretches of the named groups of a match, as an object. -/
def namedGroups (value : Datum) : Calculation Datum := do
  let entries ← (← value.asArray).filterMapM fun part =>
    match part with
    | object fields =>
      match Keyed.get? fields "name", Keyed.get? fields "string" with
      | some (text name), some s => pure (some (name, s))
      | _, _ => pure none
    | part => part.cannotUse "object"
  return object (Keyed.ofList entries)

end Datum
end ResponseTypes
