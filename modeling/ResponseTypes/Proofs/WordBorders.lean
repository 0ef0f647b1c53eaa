import ResponseTypes.Proofs.SnakeCaseNames

/-!
# The borders of words in snake case

Snake case goes through a name with a flag that says whether a capital would start a new word.  The
flag is raised behind a small letter or a digit and lowered behind a capital, so it should say
nothing but what the character before was.  It does, because no character is a capital and a small
letter at once; in the tables of letter case, no range of the one kind meets a range of the other.

With the flag gone, a name in snake case is what each character is spelled as next to the one before
it.  Take the underscores away, and small letters are left; what is left of a name without strange
capitals has no capital any more, and snake case keeps it as it is.  A strange capital is one that
has no small letter, as there are in mathematical alphabets, but not in ASCII.

## Main definitions

- `Naming.spelled`: a character in snake case, told from the one before it.
- `Naming.lowered`: a character with a small letter for a capital.

## Main statements

- `Text.isLower_of_isUpper`: capitals are no small letters.
- `Naming.snakeCaseFrom_eq_flatten`: the flag tells what the character before was.
- `Naming.snakeCase_at_borders`: snake case without the flag, and what it makes of ASCII.
-/

namespace ResponseTypes

namespace Text

/-! ## Capitals and small letters -/

namespace CaseTable.Range

/-- Whether the members of a range are all even or all odd. -/
def hasParity (r : Range) : Bool :=
  r.stride % 2 == 0 || r.first == r.last

/-- Whether two ranges can be seen to have no common member: one ends before the other begins, or
the members of the one are even and those of the other are odd. -/
def isApart (r s : Range) : Bool :=
  r.last.blt s.first || s.last.blt r.first ||
    r.hasParity && s.hasParity && r.first % 2 != s.first % 2

theorem contains_iff {r : Range} {n : Nat} :
    r.contains n = true ↔ r.first ≤ n ∧ n ≤ r.last ∧ (n - r.first) % r.stride = 0 := by
  simp [contains, and_assoc]

theorem mod_two_of_contains {r : Range} {n : Nat} (hparity : r.hasParity = true)
    (h : r.contains n = true) : n % 2 = r.first % 2 := by
  obtain ⟨hfirst, hlast, hstride⟩ := contains_iff.1 h
  simp only [hasParity, Bool.or_eq_true, beq_iff_eq] at hparity
  rcases hparity with heven | hsingle
  · have htwo : 2 ∣ n - r.first :=
      Nat.dvd_trans (Nat.dvd_of_mod_eq_zero heven) (Nat.dvd_of_mod_eq_zero hstride)
    omega
  · omega

theorem not_contains_of_isApart {r s : Range} {n : Nat} (hapart : r.isApart s = true)
    (hr : r.contains n = true) : s.contains n = false := by
  rw [← Bool.not_eq_true]
  intro hs
  simp only [isApart, Bool.or_eq_true, Bool.and_eq_true, Nat.blt_eq, bne_iff_ne] at hapart
  obtain ⟨hfirst, hlast, -⟩ := contains_iff.1 hr
  obtain ⟨hfirst', hlast', -⟩ := contains_iff.1 hs
  rcases hapart with (hbefore | hbehind) | ⟨⟨hparity, hparity'⟩, hne⟩
  · omega
  · omega
  · exact hne ((mod_two_of_contains hparity hr).symm.trans (mod_two_of_contains hparity' hs))

end CaseTable.Range

theorem upper_isApart_lower :
    (CaseTable.upper.all fun r => CaseTable.lower.all fun s => r.isApart s) = true := by
  decide +kernel

/-- No capital is a small letter. -/
theorem isLower_of_isUpper {c : Char} (h : isUpper c = true) : isLower c = false := by
  obtain ⟨r, hr, hcontains⟩ := List.any_eq_true.1 h
  rw [isLower, List.any_eq_false]
  intro s hs
  have hapart := List.all_eq_true.1 (List.all_eq_true.1 upper_isApart_lower r hr) s hs
  rw [Bool.not_eq_true]
  exact CaseTable.Range.not_contains_of_isApart hapart hcontains

theorem isDigit_of_isUpper {c : Char} (h : isUpper c = true) : c.isDigit = false := by
  by_contra hdigit
  rw [Bool.not_eq_false] at hdigit
  have hlt : c.toNat < 128 := Naming.lt_of_isSmall (by rw [Naming.isSmall, hdigit, Bool.or_true])
  have hnone := of_all_ascii (P := fun c => c.isDigit = true → c.isUpper = false) (by decide) hlt
  rw [isUpper_ascii hlt, hnone hdigit] at h
  cases h

end Text

namespace Naming

/-! ## Spelling by neighbours -/

/-- Whether a capital starts a new word behind a character. -/
def endsWord (c : Char) : Bool :=
  Text.isLower c || c.isDigit

/-- A character with a small letter for a capital. -/
def lowered (c : Char) : List Char :=
  if Text.isUpper c then Text.toLower c else [c]

/-- A character in snake case, told from the one directly before it, if there is one: a capital has
an underscore before its small letter when the other is a small letter or a digit. -/
def spelled (before? : Option Char) (c : Char) : List Char :=
  (if Text.isUpper c && before?.any endsWord then ['_'] else []) ++ lowered c

/-- Behind a capital the flag is lowered, as if the capital were looked at again. -/
theorem endsWord_of_isUpper {c : Char} (h : Text.isUpper c = true) : endsWord c = false := by
  rw [endsWord, Text.isLower_of_isUpper h, Text.isDigit_of_isUpper h]
  rfl

/-- The flag tells what the character before was.  The induction is on the name, and the invariant
is the equation between the flag and the neighbour. -/
theorem snakeCaseFrom_eq_flatten (before? : Option Char) (s : List Char) :
    snakeCaseFrom (before?.any endsWord) s =
      (List.zipWith spelled (before? :: s.map some) s).flatten := by
  induction s generalizing before? with
  | nil => rfl
  | cons c rest ih =>
    have hnext := ih (some c)
    rw [List.map_cons, List.zipWith_cons_cons, List.flatten_cons, ← hnext, snakeCaseFrom]
    by_cases hupper : Text.isUpper c = true
    · simp [spelled, lowered, hupper, endsWord_of_isUpper hupper]
    · have hflag : (Text.isLower c || ('0' ≤ c && c ≤ '9')) = endsWord c := by
        simp [endsWord, Char.isDigit, Char.le_def]
      simp [spelled, lowered, hupper, hflag]

/-! ## Without underscores -/

/-- Snake case adds nothing but underscores. -/
theorem filter_snakeCaseFrom (afterSmall : Bool) (s : List Char) :
    (snakeCaseFrom afterSmall s).filter (· ≠ '_') = (s.flatMap lowered).filter (· ≠ '_') := by
  induction s generalizing afterSmall with
  | nil => rfl
  | cons c rest ih =>
    rw [snakeCaseFrom, List.flatMap_cons, List.filter_append]
    by_cases hupper : Text.isUpper c = true
    · have hlowered : lowered c = Text.toLower c := if_pos hupper
      have hmarks : (if afterSmall then ['_'] else []).filter (· ≠ '_') = [] := by
        cases afterSmall <;> rfl
      rw [if_pos hupper, hlowered, List.filter_append, List.filter_append, hmarks, ih,
        List.nil_append]
    · have hlowered : lowered c = [c] := if_neg hupper
      rw [if_neg hupper, hlowered, ← ih, ← List.filter_append, List.singleton_append]

theorem mem_snakeCase {s : List Char} {d : Char} (h : d ∈ snakeCase s) :
    d = '_' ∨ ∃ c ∈ s, d ∈ lowered c := by
  by_cases hmark : d = '_'
  · exact .inl hmark
  · have hfilter : d ∈ (snakeCase s).filter (· ≠ '_') := List.mem_filter.2 ⟨h, by simpa using hmark⟩
    rw [snakeCase, filter_snakeCaseFrom] at hfilter
    exact .inr (List.mem_flatMap.1 (List.mem_filter.1 hfilter).1)

/-- A name none of whose characters has a capital in its small letters has none in snake case. -/
theorem isUpper_of_mem_snakeCase {s : List Char}
    (h : ∀ c ∈ s, ∀ d ∈ lowered c, Text.isUpper d = false) :
    ∀ d ∈ snakeCase s, Text.isUpper d = false := by
  intro d hd
  rcases mem_snakeCase hd with rfl | ⟨c, hc, hd⟩
  · exact Text.isUpper_ascii (by decide)
  · exact h c hc d hd

/-! ## Names of ASCII -/

section

variable {c : Char}

theorem lowered_ascii (hc : c.toNat < 128) : lowered c = [c.toLower] := by
  rw [lowered, Text.toLower_ascii hc, Text.isUpper_ascii hc]
  have hkept := Text.of_all_ascii (P := fun c => c.isUpper = false → c.toLower = c) (by decide) hc
  by_cases hupper : c.isUpper = true
  · rw [if_pos hupper]
  · rw [if_neg hupper, hkept (by simpa using hupper)]

theorem isUpper_of_mem_lowered_ascii (hc : c.toNat < 128) :
    ∀ d ∈ lowered c, Text.isUpper d = false := by
  have hlower := Text.of_all_ascii (P := fun c => c.toLower.toNat < 128 ∧ c.toLower.isUpper = false)
    (by decide) hc
  rw [lowered_ascii hc]
  intro d hd
  obtain rfl := List.mem_singleton.1 hd
  rw [Text.isUpper_ascii hlower.1, hlower.2]

end

/-- Snake case is spelled character by character: a capital as its small letter and anything else as
it is, with an underscore before a capital exactly when a small letter or a digit stands directly
before it.  Hence a name of ASCII has no capital left in snake case, differs from the name in small
letters by underscores only, and is kept when it is put in snake case again. -/
theorem snakeCase_at_borders (s : List Char) :
    snakeCase s = (List.zipWith spelled (none :: s.map some) s).flatten ∧
      ((∀ c ∈ s, c.toNat < 128) →
        (∀ c ∈ snakeCase s, Text.isUpper c = false) ∧
        (snakeCase s).filter (· ≠ '_') = (s.map Char.toLower).filter (· ≠ '_') ∧
        snakeCase (snakeCase s) = snakeCase s) := by
  refine ⟨snakeCaseFrom_eq_flatten none s, fun hascii => ?_⟩
  have hnone : ∀ c ∈ snakeCase s, Text.isUpper c = false :=
    isUpper_of_mem_snakeCase fun c hc => isUpper_of_mem_lowered_ascii (hascii c hc)
  have hlower : s.flatMap lowered = s.map Char.toLower := by
    rw [← List.flatMap_singleton' (s.map Char.toLower), List.flatMap_map]
    exact List.flatMap_congr fun c hc => lowered_ascii (hascii c hc)
  refine ⟨hnone, ?_, snakeCaseFrom_of_not_isUpper hnone false⟩
  rw [snakeCase, filter_snakeCaseFrom, hlower]

/-- A run of capitals, a digit before a capital, and an underscore that is there already. -/
theorem snakeCase_at_borders_mixed :
    snakeCase "HTTPServer2Go_Up".toList = "httpserver2_go_up".toList ∧
      snakeCase (snakeCase "HTTPServer2Go_Up".toList) = snakeCase "HTTPServer2Go_Up".toList := by
  have hascii : ("HTTPServer2Go_Up".toList.all fun c => decide (c.toNat < 128)) = true := by decide
  have hborders := (snakeCase_at_borders "HTTPServer2Go_Up".toList).2 fun c hc =>
    of_decide_eq_true (List.all_eq_true.1 hascii c hc)
  exact ⟨by decide, hborders.2.2⟩

/-- The mathematical capital has no small letter and starts a word the second time only. -/
example : snakeCase ['A', '𝐀'] = ['a', '𝐀'] ∧ snakeCase ['a', '𝐀'] = ['a', '_', '𝐀'] := by
  decide

end Naming
end ResponseTypes
