import ResponseTypes.Regex.Basic

/-!
# Machines of regular expressions

An expression is turned into a list of steps, and all ways through them are followed at once, one
character after the other, those that are to be preferred first.  A step is visited at most once at
a place: whoever comes later could only find what the first visitor finds.  So a match takes no
longer than the text is long, and a repetition that has taken nothing does not go round again.

## Main definitions

- `Regex.Machine.ofRegex`: the steps of an expression.
- `Regex.Machine.search`: the first match from a place on.
- `Regex.Machine.searchAll`: the matches one after the other.
- `Regex.Machine.isMatch`: whether there is a match at all.
-/

namespace ResponseTypes
namespace Regex

/-- One step of a machine, with the number of the step after it. -/
inductive Step where
  | accept
  | take (set : CharSet) (next : Nat)
  | ask (a : Anchor) (next : Nat)
  /-- two steps, the first preferred -/
  | fork (first second : Nat)
  /-- keeps the position as the start or end of a group -/
  | mark (slot next : Nat)
deriving Inhabited

/-- The steps of a machine, and the number of the first. -/
structure Machine where
  steps : Array Step
  start : Nat
  /-- the number of marks that it keeps -/
  slots : Nat

namespace Machine

/-! ## Making machines

Steps are made from the end: a maker gets the number of the step that is to follow and the steps so
far, and gives the number of its own first step. -/

/-- Makes the steps of something, in front of a given one. -/
abbrev Maker := Nat → Array Step → Nat × Array Step

/-- A fork that prefers to go on, or the way out if that is wanted. -/
def forkOf (greedy : Bool) (again out : Nat) : Step :=
  if greedy then .fork again out else .fork out again

/-- Something so many times in a row. -/
def exactly (body : Maker) : Nat → Maker
  | 0, next, steps => (next, steps)
  | n + 1, next, steps =>
    let (first, steps) := body next steps
    exactly body n first steps

/-- Something once or more: after each time a fork goes back or out. -/
def onceOrMore (greedy : Bool) (body : Maker) : Maker := fun next steps =>
  let back := steps.size
  let (first, steps) := body back (steps.push .accept)
  (first, steps.setIfInBounds back (forkOf greedy first next))

/-- Something any number of times.  What may take nothing is tried once before the fork, so that
the way out after it comes when its turn is. -/
def anyTimes (greedy mayBeEmpty : Bool) (body : Maker) : Maker := fun next steps =>
  if mayBeEmpty then
    let (first, steps) := onceOrMore greedy body next steps
    (steps.size, steps.push (forkOf greedy first next))
  else
    let back := steps.size
    let (first, steps) := body back (steps.push .accept)
    (back, steps.setIfInBounds back (forkOf greedy first next))

/-- Something at most so many times, with a way out before each. -/
def atMost (greedy : Bool) (body : Maker) (out : Nat) : Nat → Maker
  | 0, next, steps => (next, steps)
  | n + 1, next, steps =>
    let (first, steps) := body next steps
    atMost greedy body out n steps.size (steps.push (forkOf greedy first out))

/-- A repetition of something. -/
def repeated (times : Repetition) (mayBeEmpty : Bool) (body : Maker) : Maker := fun next steps =>
  match times.most with
  | some most =>
    let (first, steps) := atMost times.greedy body next (most - times.least) next steps
    exactly body times.least first steps
  | none =>
    match times.least with
    | 0 => anyTimes times.greedy mayBeEmpty body next steps
    | n + 1 =>
      let (first, steps) := onceOrMore times.greedy body next steps
      exactly body n first steps

mutual

/-- The steps of an expression. -/
def make : Regex → Maker
  | .oneOf set, next, steps => (steps.size, steps.push (.take set next))
  | .anchor a, next, steps => (steps.size, steps.push (.ask a next))
  | .sequence parts, next, steps => makeAll parts next steps
  | .choice ways, next, steps => makeAny ways next steps
  | .many times inner, next, steps =>
    repeated times inner.matchesNothing (make inner) next steps
  | .group n inner, next, steps =>
    let (first, steps) := make inner steps.size (steps.push (.mark (2 * n + 1) next))
    (steps.size, steps.push (.mark (2 * n) first))

/-- The steps of expressions one after the other. -/
def makeAll : List Regex → Maker
  | [], next, steps => (next, steps)
  | r :: rest, next, steps =>
    let (first, steps) := makeAll rest next steps
    make r first steps

/-- The steps of expressions instead of each other. -/
def makeAny : List Regex → Maker
  | [], next, steps => (next, steps)
  | [r], next, steps => make r next steps
  | r :: rest, next, steps =>
    let (second, steps) := makeAny rest next steps
    let (first, steps) := make r next steps
    (steps.size, steps.push (.fork first second))

end

/-- The machine of an expression with so many groups.  The whole match is a group of its own, with
the number zero. -/
def ofRegex (r : Regex) (groups : Nat) : Machine :=
  let (start, steps) := make (.group 0 r) 0 #[.accept]
  ⟨steps, start, 2 * groups + 2⟩

/-! ## Running machines -/

/-- A place in a text: the characters before and after it, and their number so far. -/
structure Place where
  position : Nat
  before : Option Char
  rest : List Char

/-- The marks that have been set: the start of group `n` is number `2 * n`, its end comes next. -/
abbrev Marks := Array (Option Nat)

/-- The ways that are open at a place, the preferred ones first, and the steps visited there. -/
structure Frontier where
  visited : Array Bool
  threads : Array (Nat × Marks)

variable (m : Machine)

/-- No way at all. -/
def closed : Frontier :=
  ⟨Array.replicate m.steps.size false, #[]⟩

/-- Follows a step up to those that take a character or accept.  No way through unvisited steps is
longer than there are steps. -/
def follow (place : Place) : Nat → Nat → Marks → Frontier → Frontier
  | 0, _, _, frontier => frontier
  | fuel + 1, i, marks, frontier =>
    if frontier.visited[i]?.getD true then frontier
    else
      let frontier := { frontier with visited := frontier.visited.setIfInBounds i true }
      match m.steps[i]? with
      | some (.fork first second) =>
        follow place fuel second marks (follow place fuel first marks frontier)
      | some (.ask a next) =>
        if a.holds place.before place.rest.head? then follow place fuel next marks frontier
        else frontier
      | some (.mark slot next) =>
        follow place fuel next (marks.setIfInBounds slot (some place.position)) frontier
      | _ => { frontier with threads := frontier.threads.push (i, marks) }

/-- A step followed from a place. -/
def enter (place : Place) (i : Nat) (marks : Marks) (frontier : Frontier) : Frontier :=
  m.follow place (m.steps.size + 1) i marks frontier

/-- The ways after one character, up to the first that accepts before it, with its marks. -/
def advance (c : Option Char) (place : Place) :
    List (Nat × Marks) → Frontier → Frontier × Option Marks
  | [], next => (next, none)
  | (i, marks) :: others, next =>
    match m.steps[i]? with
    | some (.take set target) =>
      let next := if c.any set.contains then m.enter place target marks next else next
      advance c place others next
    | _ => (next, some marks)

/-- The marks of the first match from a place on.  A new way begins at every place as long as
nothing has been found. -/
def searchFrom (found : Option Marks) (position : Nat) (before : Option Char) :
    List Char → Frontier → Option Marks
  | [], frontier =>
    let frontier :=
      if found.isSome then frontier
      else m.enter ⟨position, before, []⟩ m.start (Array.replicate m.slots none) frontier
    (m.advance none ⟨position, before, []⟩ frontier.threads.toList m.closed).2.or found
  | c :: rest, frontier =>
    let frontier :=
      if found.isSome then frontier
      else m.enter ⟨position, before, c :: rest⟩ m.start (Array.replicate m.slots none) frontier
    let (next, accepted) :=
      m.advance (some c) ⟨position + 1, some c, rest⟩ frontier.threads.toList m.closed
    let found := accepted.or found
    if found.isSome && next.threads.isEmpty then found
    else searchFrom found (position + 1) (some c) rest next

/-- Whether there is a match anywhere in a text. -/
def isMatch (s : List Char) : Bool :=
  (m.searchFrom none 0 none s m.closed).isSome

/-- The start and end of a group among marks. -/
def stretch? (marks : Marks) (n : Nat) : Option (Nat × Nat) := do
  let start ← (marks[2 * n]?).join
  let stop ← (marks[2 * n + 1]?).join
  return (start, stop)

/-- The first match from a place on: its marks, its start, and what follows it. -/
def search (place : Place) : Option (Marks × Nat × Place) := do
  let marks ← m.searchFrom none place.position place.before place.rest m.closed
  let (start, stop) ← stretch? marks 0
  let taken := stop - place.position
  let before := if taken = 0 then place.before else place.rest[taken - 1]?
  return (marks, start, ⟨stop, before, place.rest.drop taken⟩)

/-- The matches from a place on.  The next one begins where the last one ended; an empty match right
there does not count, and the search goes on after one more character. -/
def searchAll : Nat → Option Nat → Place → List Marks
  | 0, _, _ => []
  | n + 1, lastEnd, place =>
    match m.search place with
    | none => []
    | some (marks, start, after) =>
      let further := fun (_ : Unit) =>
        if start = after.position then
          match after.rest with
          | [] => []
          | c :: rest => searchAll n (some after.position) ⟨after.position + 1, some c, rest⟩
        else searchAll n (some after.position) after
      if start = after.position ∧ lastEnd = some start then further ()
      else marks :: further ()

/-- The matches in a text. -/
def matchesOf (s : List Char) : List Marks :=
  m.searchAll (s.length + 2) none ⟨0, none, s⟩

end Machine
end Regex
end ResponseTypes
