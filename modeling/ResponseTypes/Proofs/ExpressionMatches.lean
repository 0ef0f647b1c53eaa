import Mathlib.Computability.Language
import ResponseTypes.Regex.Machine

/-!
# What regular expressions match

An expression matches from one place of a text to another.  What it matches may depend on what
stands around, since an anchor asks for the characters before and after a place.  An expression
without anchors matches the words of a language wherever they stand.

Nothing here is about machines: this is what the steps of an expression have to find.  Which of
several matches is preferred does not count, so greed is of no importance.

## Main definitions

- `Regex.Machine.Place.Takes`: from one place to another over some characters.
- `Regex.Matches`: the matches of an expression, by its parts.
- `Regex.Spells`: matches over the words of a language, wherever they stand.

## Main statements

- `Regex.Spells.comp`, `Regex.Spells.or`, `Regex.Spells.many`: the languages of compound
  expressions.
- `Regex.exists_matches_whole_iff`: an expression between the two ends of a text matches the words
  of its language and no part of any other text.
-/

namespace ResponseTypes

/-- Whether a repetition may stand for `n` times. -/
def Repetition.Allows (times : Repetition) (n : Nat) : Prop :=
  times.least ≤ n ∧ ∀ most ∈ times.most, n ≤ max times.least most

theorem Repetition.allows_between_iff {least most n : Nat} {greedy : Bool} (h : least ≤ most) :
    Allows ⟨least, some most, greedy⟩ n ↔ least ≤ n ∧ n ≤ most := by
  simp only [Allows, Option.mem_some_iff, forall_eq', Nat.max_eq_right h]

namespace Regex

open Machine (Place)

/-! ## Places -/

namespace Machine.Place

/-- From one place to another over some characters. -/
inductive Takes : Place → List Char → Place → Prop
  | none (p : Place) : Takes p [] p
  | next (position : Nat) (before : Option Char) {c : Char} {rest front : List Char} {q : Place}
    (h : Takes ⟨position + 1, some c, rest⟩ front q) :
    Takes ⟨position, before, c :: rest⟩ (c :: front) q

variable {p q t : Place} {front more : List Char}

@[simp] theorem takes_nil_iff : p.Takes [] q ↔ p = q :=
  ⟨fun h => by cases h; rfl, fun h => h ▸ .none p⟩

theorem takes_append_iff : p.Takes (front ++ more) t ↔ ∃ q, p.Takes front q ∧ q.Takes more t := by
  induction front generalizing p with
  | nil => simp
  | cons c front ih =>
    constructor
    · rintro (_ | ⟨position, before, h⟩)
      obtain ⟨q, hfront, hmore⟩ := ih.1 h
      exact ⟨q, .next position before hfront, hmore⟩
    · rintro ⟨q, _ | ⟨position, before, hfront⟩, hmore⟩
      exact .next position before (ih.2 ⟨q, hfront, hmore⟩)

/-- What is taken stands there. -/
theorem Takes.rest_eq (h : p.Takes front q) : p.rest = front ++ q.rest := by
  induction h with
  | none => rfl
  | next _ _ _ ih => exact congrArg _ ih

/-- What stands there can be taken. -/
theorem exists_takes (position : Nat) (before : Option Char) (front rest : List Char) :
    ∃ q, Takes ⟨position, before, front ++ rest⟩ front q ∧ q.rest = rest := by
  induction front generalizing position before with
  | nil => exact ⟨_, .none _, rfl⟩
  | cons c front ih =>
    obtain ⟨q, hfront, hrest⟩ := ih (position + 1) (some c)
    exact ⟨q, .next position before hfront, hrest⟩

/-- Nothing can be taken at the end. -/
theorem exists_takes_nil_iff (position : Nat) (before : Option Char) (P : Place → Prop) :
    (∃ front q, Takes ⟨position, before, []⟩ front q ∧ P q) ↔ P ⟨position, before, []⟩ := by
  constructor
  · rintro ⟨_, _, _ | _, hP⟩
    exact hP
  · exact fun hP => ⟨[], _, .none _, hP⟩

/-- Either nothing is taken, or the next character is taken first. -/
theorem exists_takes_cons_iff (position : Nat) (before : Option Char) (c : Char) (rest : List Char)
    (P : Place → Prop) :
    (∃ front q, Takes ⟨position, before, c :: rest⟩ front q ∧ P q) ↔
      P ⟨position, before, c :: rest⟩ ∨
        ∃ front q, Takes ⟨position + 1, some c, rest⟩ front q ∧ P q := by
  constructor
  · rintro ⟨_, q, _ | ⟨_, _, h⟩, hP⟩
    · exact .inl hP
    · exact .inr ⟨_, q, h, hP⟩
  · rintro (hP | ⟨front, q, h, hP⟩)
    · exact ⟨[], _, .none _, hP⟩
    · exact ⟨c :: front, q, .next position before h, hP⟩

/-- After a first character, a place has a character before it. -/
theorem Takes.before_ne_none (h : p.Takes front q) (hp : p.before ≠ Option.none) :
    q.before ≠ Option.none := by
  induction h with
  | none => exact hp
  | next _ _ _ ih => exact ih nofun

end Machine.Place

/-! ## Matches -/

/-- Something `n` times in a row. -/
def Rounds (R : Place → Place → Prop) : Nat → Place → Place → Prop
  | 0 => Eq
  | n + 1 => Relation.Comp (Rounds R n) R

theorem rounds_one (R : Place → Place → Prop) : Rounds R 1 = R :=
  Relation.eq_comp

theorem rounds_add (R : Place → Place → Prop) (m n : Nat) :
    Rounds R (m + n) = Relation.Comp (Rounds R m) (Rounds R n) := by
  induction n with
  | zero => exact Relation.comp_eq.symm
  | succ n ih => rw [← Nat.add_assoc, Rounds, Rounds, ih, Relation.comp_assoc]

/-- So many rounds, and then some more of them. -/
theorem comp_rounds_iff {R : Place → Place → Prop} {p q : Place} (m : Nat) (P : Nat → Prop) :
    Relation.Comp (Rounds R m) (fun p q => ∃ k, P k ∧ Rounds R k p q) p q ↔
      ∃ n, m ≤ n ∧ P (n - m) ∧ Rounds R n p q := by
  constructor
  · rintro ⟨between, hm, k, hP, hk⟩
    refine ⟨m + k, Nat.le_add_right _ _, by rwa [Nat.add_sub_cancel_left], ?_⟩
    rw [rounds_add]
    exact ⟨between, hm, hk⟩
  · rintro ⟨n, hle, hP, hn⟩
    obtain ⟨k, rfl⟩ := Nat.exists_eq_add_of_le hle
    rw [rounds_add] at hn
    obtain ⟨between, hm, hk⟩ := hn
    exact ⟨between, hm, k, by rwa [Nat.add_sub_cancel_left] at hP, hk⟩

mutual

/-- An expression matches from one place to another. -/
def Matches : Regex → Place → Place → Prop
  | .oneOf set => fun p q => ∃ c, set.contains c = true ∧ p.Takes [c] q
  | .anchor a => fun p q => a.holds p.before p.rest.head? = true ∧ p = q
  | .sequence parts => AllMatch parts
  | .choice ways => AnyMatches ways
  | .many times inner => fun p q => ∃ n, times.Allows n ∧ Rounds (Matches inner) n p q
  | .group _ inner => Matches inner

/-- Expressions match one after the other. -/
def AllMatch : List Regex → Place → Place → Prop
  | [] => Eq
  | r :: rest => Relation.Comp (Matches r) (AllMatch rest)

/-- One of several expressions matches.  If there are none, the empty text does. -/
def AnyMatches : List Regex → Place → Place → Prop
  | [] => Eq
  | [r] => Matches r
  | r :: second :: rest => fun p q => Matches r p q ∨ AnyMatches (second :: rest) p q

end

theorem allMatch_append (parts more : List Regex) :
    AllMatch (parts ++ more) = Relation.Comp (AllMatch parts) (AllMatch more) := by
  induction parts with
  | nil => rw [List.nil_append, AllMatch, Relation.eq_comp]
  | cons r parts ih => rw [List.cons_append, AllMatch, AllMatch, ih, Relation.comp_assoc]

/-! ## Languages -/

/-- The matches are those over the words of a language, wherever they stand. -/
def Spells (R : Place → Place → Prop) (L : Language Char) : Prop :=
  ∀ p q, R p q ↔ ∃ word ∈ L, p.Takes word q

variable {R S : Place → Place → Prop} {L M : Language Char}

theorem spells_oneOf {set : CharSet}
    (hL : ∀ word, word ∈ L ↔ ∃ c, set.contains c = true ∧ word = [c]) :
    Spells (Matches (.oneOf set)) L := by
  intro p q
  rw [Matches]
  constructor
  · rintro ⟨c, hc, h⟩
    exact ⟨[c], (hL _).2 ⟨c, hc, rfl⟩, h⟩
  · rintro ⟨word, hword, h⟩
    obtain ⟨c, hc, rfl⟩ := (hL word).1 hword
    exact ⟨c, hc, h⟩

theorem spells_eq : Spells Eq 1 := by
  intro p q
  simp [Language.mem_one]

theorem Spells.comp (hR : Spells R L) (hS : Spells S M) : Spells (Relation.Comp R S) (L * M) := by
  intro p t
  constructor
  · rintro ⟨q, hfirst, hsecond⟩
    obtain ⟨word, hword, hq⟩ := (hR p q).1 hfirst
    obtain ⟨word', hword', ht⟩ := (hS q t).1 hsecond
    exact ⟨word ++ word', Language.append_mem_mul hword hword',
      Place.takes_append_iff.2 ⟨q, hq, ht⟩⟩
  · rintro ⟨_, hmem, h⟩
    obtain ⟨word, hword, word', hword', rfl⟩ := Language.mem_mul.1 hmem
    obtain ⟨q, hq, ht⟩ := Place.takes_append_iff.1 h
    exact ⟨q, (hR p q).2 ⟨word, hword, hq⟩, (hS q t).2 ⟨word', hword', ht⟩⟩

theorem Spells.or (hR : Spells R L) (hS : Spells S M) :
    Spells (fun p q => R p q ∨ S p q) (L + M) := by
  intro p q
  simp only [hR p q, hS p q, Language.mem_add, or_and_right, exists_or]

theorem Spells.rounds (hR : Spells R L) (n : Nat) : Spells (Rounds R n) (L ^ n) := by
  induction n with
  | zero => rw [pow_zero]; exact spells_eq
  | succ n ih => rw [pow_succ]; exact ih.comp hR

theorem Spells.many {r : Regex} (hr : Spells (Matches r) L) {times : Repetition}
    (hM : ∀ word, word ∈ M ↔ ∃ n, times.Allows n ∧ word ∈ L ^ n) :
    Spells (Matches (.many times r)) M := by
  intro p q
  rw [Matches]
  constructor
  · rintro ⟨n, hn, h⟩
    obtain ⟨word, hword, hq⟩ := (hr.rounds n p q).1 h
    exact ⟨word, (hM word).2 ⟨n, hn, hword⟩, hq⟩
  · rintro ⟨word, hword, hq⟩
    obtain ⟨n, hn, hword⟩ := (hM word).1 hword
    exact ⟨n, hn, (hr.rounds n p q).2 ⟨word, hword, hq⟩⟩

theorem Spells.times {r : Regex} (hr : Spells (Matches r) L) (n : Nat) (greedy : Bool) :
    Spells (Matches (.many ⟨n, some n, greedy⟩ r)) (L ^ n) := by
  refine hr.many fun word => ?_
  simp only [Repetition.allows_between_iff le_rfl, ← Nat.le_antisymm_iff, exists_eq_left']

theorem Spells.optional {r : Regex} (hr : Spells (Matches r) L) (greedy : Bool) :
    Spells (Matches (.many ⟨0, some 1, greedy⟩ r)) (1 + L) := by
  refine hr.many fun word => ?_
  simp only [Repetition.allows_between_iff zero_le_one, Nat.zero_le, true_and, Language.mem_add]
  constructor
  · rintro (h | h)
    · exact ⟨0, zero_le_one, by rwa [pow_zero]⟩
    · exact ⟨1, le_rfl, by rwa [pow_one]⟩
  · rintro ⟨_ | _ | n, hn, h⟩
    · exact .inl (by rwa [pow_zero] at h)
    · exact .inr (by rwa [zero_add, pow_one] at h)
    · omega

/-! ## Whole texts -/

theorem matches_whole_iff {parts : List Regex} {p q : Place} :
    Matches (.sequence (.anchor .textStart :: parts ++ [.anchor .textEnd])) p q ↔
      p.before = none ∧ AllMatch parts p q ∧ q.rest = [] := by
  rw [Matches, List.cons_append, AllMatch, allMatch_append]
  constructor
  · rintro ⟨_, ⟨hstart, rfl⟩, _, hparts, _, ⟨hend, rfl⟩, rfl⟩
    exact ⟨by simpa [Anchor.holds] using hstart, hparts, by simpa [Anchor.holds] using hend⟩
  · rintro ⟨hstart, hparts, hend⟩
    refine ⟨p, ⟨?_, rfl⟩, q, hparts, q, ⟨?_, rfl⟩, rfl⟩
    · rw [Anchor.holds, hstart]; rfl
    · rw [Anchor.holds, hend]; rfl

/-- Expressions between the two ends of a text match the words of their language, and no part of
any other text. -/
theorem exists_matches_whole_iff {parts : List Regex} (h : Spells (AllMatch parts) L)
    (s : List Char) :
    (∃ front p q, Place.Takes ⟨0, none, s⟩ front p ∧
      Matches (.sequence (.anchor .textStart :: parts ++ [.anchor .textEnd])) p q) ↔ s ∈ L := by
  simp only [matches_whole_iff, h _ _]
  constructor
  · rintro ⟨front, p, q, hfront, hstart, ⟨word, hword, htakes⟩, hend⟩
    obtain rfl : ⟨0, none, s⟩ = p := by
      cases hfront with
      | none => rfl
      | next _ _ hfront => exact absurd hstart (hfront.before_ne_none nofun)
    have hs : s = word ++ q.rest := htakes.rest_eq
    rw [hend, List.append_nil] at hs
    rwa [hs]
  · intro hs
    obtain ⟨q, htakes, hend⟩ := Place.exists_takes 0 none s []
    rw [List.append_nil] at htakes
    exact ⟨[], _, q, .none _, rfl, ⟨s, hs, htakes⟩, hend⟩

end Regex
end ResponseTypes
