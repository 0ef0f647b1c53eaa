/-!
# Sets of characters

A set of characters is a list of ranges of code points.  The ranges may come in any order and
overlap.

## Main definitions

- `CharSet`, with `CharSet.contains`, `CharSet.union`, `CharSet.complement` and `CharSet.foldCase`.
- `CharSet.ofName?`: the sets that have names.

Each operation comes with what it does to membership.
-/

namespace ResponseTypes

/-- A set of characters: ranges of code points with both ends in them. -/
structure CharSet where
  ranges : List (Nat × Nat)
deriving DecidableEq, Repr, Inhabited

namespace CharSet

/-- Whether a code point lies in a range. -/
def inRange (n : Nat) (range : Nat × Nat) : Bool :=
  decide (range.1 ≤ n ∧ n ≤ range.2)

/-- Whether a character belongs to a set. -/
def contains (s : CharSet) (c : Char) : Bool :=
  s.ranges.any (inRange c.toNat)

/-- The characters between two, with both of them. -/
def between (first last : Char) : CharSet :=
  ⟨[(first.toNat, last.toNat)]⟩

/-- A single character. -/
def single (c : Char) : CharSet :=
  between c c

/-- The characters of either set. -/
def union (s t : CharSet) : CharSet :=
  ⟨s.ranges ++ t.ranges⟩

/-- The greatest code point. -/
def greatest : Nat :=
  0x10FFFF

/-- What ranges in ascending order of their first code points leave out from a code point on. -/
def gaps (start : Nat) : List (Nat × Nat) → List (Nat × Nat)
  | [] => if start ≤ greatest then [(start, greatest)] else []
  | (a, b) :: rest =>
    (if start < a then [(start, a - 1)] else []) ++ gaps (max start (b + 1)) rest

/-- The characters that do not belong to a set. -/
def complement (s : CharSet) : CharSet :=
  ⟨gaps 0 (s.ranges.mergeSort fun r t => decide (r.1 ≤ t.1))⟩

/-- The part of a range that lies between two code points, moved to start at another one. -/
def moved (first last image : Nat) (range : Nat × Nat) : List (Nat × Nat) :=
  let a := max first range.1
  let b := min last range.2
  if a ≤ b then [(a - first + image, b - first + image)] else []

/-- A set with the other case of each of its ASCII letters. -/
def foldCase (s : CharSet) : CharSet :=
  ⟨s.ranges ++ s.ranges.flatMap (moved 0x41 0x5A 0x61) ++ s.ranges.flatMap (moved 0x61 0x7A 0x41)⟩

/-! ## Named sets -/

/-- The decimal digits. -/
def digits : CharSet :=
  between '0' '9'

/-- The characters of words. -/
def wordChars : CharSet :=
  ⟨[(0x30, 0x39), (0x41, 0x5A), (0x5F, 0x5F), (0x61, 0x7A)]⟩

/-- The blanks. -/
def blanks : CharSet :=
  ⟨[(0x9, 0xD), (0x20, 0x20)]⟩

/-- The set of a name.  All of them are sets of ASCII characters. -/
def ofName? : String → Option CharSet
  | "alnum" => some ⟨[(0x30, 0x39), (0x41, 0x5A), (0x61, 0x7A)]⟩
  | "alpha" => some ⟨[(0x41, 0x5A), (0x61, 0x7A)]⟩
  | "ascii" => some ⟨[(0x0, 0x7F)]⟩
  | "blank" => some ⟨[(0x9, 0x9), (0x20, 0x20)]⟩
  | "cntrl" => some ⟨[(0x0, 0x1F), (0x7F, 0x7F)]⟩
  | "digit" => some digits
  | "graph" => some ⟨[(0x21, 0x7E)]⟩
  | "lower" => some ⟨[(0x61, 0x7A)]⟩
  | "print" => some ⟨[(0x20, 0x7E)]⟩
  | "punct" => some ⟨[(0x21, 0x2F), (0x3A, 0x40), (0x5B, 0x60), (0x7B, 0x7E)]⟩
  | "space" => some blanks
  | "upper" => some ⟨[(0x41, 0x5A)]⟩
  | "word" => some wordChars
  | "xdigit" => some ⟨[(0x30, 0x39), (0x41, 0x46), (0x61, 0x66)]⟩
  | _ => none

/-! ## Membership -/

theorem contains_between (first last c : Char) :
    (between first last).contains c = decide (first.toNat ≤ c.toNat ∧ c.toNat ≤ last.toNat) := by
  simp [between, contains, inRange]

theorem contains_union (s t : CharSet) (c : Char) :
    (s.union t).contains c = (s.contains c || t.contains c) := by
  simp [union, contains]

/-- A code point from `start` on lies in a gap when it lies in none of the ranges. -/
theorem any_gaps (n : Nat) (hn : n ≤ greatest) (rs : List (Nat × Nat))
    (ordered : rs.Pairwise fun r t => r.1 ≤ t.1) (start : Nat) :
    (gaps start rs).any (inRange n) = (decide (start ≤ n) && !rs.any (inRange n)) := by
  induction rs generalizing start with
  | nil =>
    by_cases h : start ≤ greatest
    · simp [gaps, h, inRange, hn]
    · have : ¬ start ≤ n := by omega
      simp [gaps, h, this]
  | cons r rest ih =>
    obtain ⟨a, b⟩ := r
    have after : ∀ t ∈ rest, a ≤ t.1 := (List.pairwise_cons.1 ordered).1
    have none_before : n < a → rest.any (inRange n) = false := by
      intro h
      simp only [List.any_eq_false, inRange, decide_eq_true_eq, not_and]
      intro t ht
      have := after t ht
      omega
    rw [gaps, List.any_append, ih (List.pairwise_cons.1 ordered).2, List.any_cons]
    cases hr : rest.any (inRange n) with
    | true =>
      have : ¬ n < a := fun h => by simp [none_before h] at hr
      by_cases h : start < a
      · simp [h, inRange]
        omega
      · simp [h, inRange]
    | false =>
      rw [Bool.eq_iff_iff]
      by_cases h : start < a <;> simp [h, inRange] <;> omega

theorem contains_complement (s : CharSet) (c : Char) :
    s.complement.contains c = !s.contains c := by
  have bound : c.toNat ≤ greatest := by
    have := c.valid
    unfold greatest
    simp only [UInt32.isValidChar, Nat.isValidChar] at this
    simp only [Char.toNat]
    omega
  have ordered : (s.ranges.mergeSort fun r t => decide (r.1 ≤ t.1)).Pairwise
      fun r t => r.1 ≤ t.1 := by
    have := @List.pairwise_mergeSort _ (fun (r t : Nat × Nat) => decide (r.1 ≤ t.1))
      (by intro a b c; simp; omega) (by intro a b; simp; omega) s.ranges
    simpa using this
  have same := (List.mergeSort_perm s.ranges fun r t => decide (r.1 ≤ t.1)).any_eq
    (f := inRange c.toNat)
  simp [contains, complement, any_gaps c.toNat bound _ ordered, same]

end CharSet
end ResponseTypes
