import ResponseTypes.Regex.CharSet

/-!
# Regular expressions

A regular expression says which stretches of a text it matches, and which of its groups match
what parts of them.

## Main definitions

- `Regex`: the expressions, with `Anchor` and `Repetition`.
- `Anchor.holds`: what an anchor asks of the characters around a place.
- `Regex.matchesNothing`: whether an expression can match the empty text.
- `Regex.size` and `Regex.nesting`: what bounds the expressions that are allowed.
- `Regex.same`: whether two expressions are equal, which is decidable.
-/

namespace ResponseTypes

/-- What an expression can ask of a place between two characters. -/
inductive Anchor where
  | textStart
  | textEnd
  /-- the start of the text, or after a line feed -/
  | lineStart
  /-- the end of the text, or before a line feed -/
  | lineEnd
  /-- like `lineStart`, with carriage returns as line ends too -/
  | anyLineStart
  /-- like `lineEnd`, with carriage returns as line ends too -/
  | anyLineEnd
  /-- between a character of a word and another one or the end of the text -/
  | border
  | noBorder
  | wordStart
  | wordEnd
  /-- not after a character of a word -/
  | outsideBefore
  /-- not before a character of a word -/
  | outsideAfter
deriving DecidableEq, Repr, Inhabited

namespace Anchor

/-- Whether there is a character, and it belongs to a word. -/
def inWord (c : Option Char) : Bool :=
  c.any CharSet.wordChars.contains

/-- Whether an anchor holds between two characters, one of which is missing at an end of the
text. -/
def holds (before after : Option Char) : Anchor → Bool
  | textStart => before.isNone
  | textEnd => after.isNone
  | lineStart => before.all (· == '\n')
  | lineEnd => after.all (· == '\n')
  | anyLineStart => before.all (· == '\n') || (before == some '\r' && after != some '\n')
  | anyLineEnd => after.all (· == '\r') || (after == some '\n' && before != some '\r')
  | border => inWord before != inWord after
  | noBorder => inWord before == inWord after
  | wordStart => !inWord before && inWord after
  | wordEnd => inWord before && !inWord after
  | outsideBefore => !inWord before
  | outsideAfter => !inWord after

end Anchor

/-- How often something is repeated. -/
structure Repetition where
  least : Nat
  most : Option Nat
  /-- whether more is tried before less -/
  greedy : Bool
deriving DecidableEq, Repr, Inhabited

/-- A regular expression. -/
inductive Regex where
  | oneOf (set : CharSet)
  | anchor (a : Anchor)
  | sequence (parts : List Regex)
  /-- one of several expressions, the first of them preferred -/
  | choice (ways : List Regex)
  | many (times : Repetition) (inner : Regex)
  | group (number : Nat) (inner : Regex)
deriving Inhabited

namespace Regex

/-- The expression that matches the empty text and nothing else. -/
def empty : Regex :=
  sequence []

/-- Expressions one after the other. -/
def ofParts : List Regex → Regex
  | [r] => r
  | parts => sequence parts

/-- Expressions instead of each other. -/
def ofWays : List Regex → Regex
  | [r] => r
  | ways => choice ways

/-- An expression several times.  What stands for no time or for one time needs no repetition. -/
def repeated (times : Repetition) (inner : Regex) : Regex :=
  if times.most = some 0 then empty
  else if times.least = 1 ∧ times.most = some 1 then inner
  else many times inner

mutual

/-- Whether an expression can match the empty text. -/
def matchesNothing : Regex → Bool
  | oneOf _ => false
  | anchor _ => true
  | sequence parts => allMatchNothing parts
  | choice ways => anyMatchesNothing ways
  | many times inner => times.least == 0 || matchesNothing inner
  | group _ inner => matchesNothing inner

/-- Whether all expressions of a list can match the empty text. -/
def allMatchNothing : List Regex → Bool
  | [] => true
  | r :: rest => matchesNothing r && allMatchNothing rest

/-- Whether one expression of a list can match the empty text. -/
def anyMatchesNothing : List Regex → Bool
  | [] => false
  | r :: rest => matchesNothing r || anyMatchesNothing rest

end

mutual

/-- How many steps an expression stands for, with its repetitions written out. -/
def size : Regex → Nat
  | oneOf _ => 1
  | anchor _ => 1
  | sequence parts => totalSize parts
  | choice ways => totalSize ways + 2
  | many ⟨least, none, _⟩ inner => max least 1 * size inner + 1
  | many ⟨least, some most, _⟩ inner => least * size inner + (most - least) * (size inner + 1)
  | group _ inner => size inner + 2

/-- The steps of all expressions in a list. -/
def totalSize : List Regex → Nat
  | [] => 0
  | r :: rest => size r + totalSize rest

end

mutual

/-- How deeply expressions stand in each other. -/
def nesting : Regex → Nat
  | oneOf _ => 0
  | anchor _ => 0
  | sequence [] => 0
  | sequence (r :: rest) => max (nesting r) (greatestNesting rest) + 1
  | choice ways => greatestNesting ways + 1
  | many _ inner => nesting inner + 1
  | group _ inner => nesting inner + 1

/-- The greatest nesting in a list. -/
def greatestNesting : List Regex → Nat
  | [] => 0
  | r :: rest => max (nesting r) (greatestNesting rest)

end

/-! ## Equality -/

mutual

/-- Whether two expressions are the same. -/
def same : Regex → Regex → Bool
  | oneOf s, oneOf t => s == t
  | anchor a, anchor b => a == b
  | sequence parts, sequence others => allSame parts others
  | choice ways, choice others => allSame ways others
  | many times inner, many times' inner' => times == times' && same inner inner'
  | group n inner, group n' inner' => n == n' && same inner inner'
  | _, _ => false

/-- Whether two lists have the same expressions. -/
def allSame : List Regex → List Regex → Bool
  | [], [] => true
  | r :: rest, s :: others => same r s && allSame rest others
  | _, _ => false

end

mutual

theorem same_iff : ∀ r s : Regex, same r s = true ↔ r = s
  | oneOf _, s | anchor _, s => by cases s <;> simp [same]
  | sequence parts, s | choice parts, s => by cases s <;> simp [same, allSame_iff parts]
  | many _ inner, s | group _ inner, s => by cases s <;> simp [same, same_iff inner]

theorem allSame_iff : ∀ rs ss : List Regex, allSame rs ss = true ↔ rs = ss
  | [], ss => by cases ss <;> simp [allSame]
  | r :: rest, ss => by cases ss <;> simp [allSame, same_iff r, allSame_iff rest]

end

-- Instances are not derived for a type with lists of itself.
instance : DecidableEq Regex :=
  fun r s => decidable_of_iff (same r s = true) (same_iff r s)

end Regex
end ResponseTypes
