import Mathlib.Data.List.TakeWhile
import ResponseTypes.Proofs.NameStages
import ResponseTypes.Proofs.TypeTableHistory
import ResponseTypes.Proofs.DialectTables

/-!
# Plain spellings by one scan

The plain spelling of a declared type is made in four steps: the type is trimmed, put in small
letters, cut at the first parenthesis, and of what is left the first word is taken.  All of it is
one scan, which skips the blanks at the front and runs to the first parenthesis or blank.  For the
letters that change their case are neither of these, the blanks at the end stop the scan by
themselves, and after the skipped blanks there is none that the first word would skip once more.

A plain spelling has no parenthesis, blank or capital left, so it is its own plain spelling.  In a
table whose types are all listed in their plain spelling, look-up by the letters of a type
therefore finds nothing that look-up by its plain spelling would not, and an annotation depends on
no more of a type than the scan reads.

## Main definitions

- `TypeTable.scan`: the letters of a plain spelling as they stand in the declared type.
- `TypeTable.IsLongestPrefix`: the longest prefix of a text whose characters all pass a test.
- `TypeTable.ListsPlain`: entries under declared types that are spelt plainly.

## Main statements

- `TypeTable.plainSpelling_eq`: the plain spelling is the scanned text in small letters.
- `TypeTable.get?_plainSpelling`: look-up in a table that lists plain spellings.
- `TypeTable.annotates_plainSpelling`: what look-up disregards.
-/

namespace ResponseTypes
namespace Text

/-! ## Small letters of ASCII -/

theorem asciiLower_of_not_ascii {c : Char} (hc : ¬ c.toNat < 128) : asciiLower c = c := by
  refine if_neg fun h => hc ?_
  have hz : c.toNat ≤ 'Z'.toNat := h.2
  exact Nat.lt_of_le_of_lt hz (by decide)

/-- A property that holds of all of ASCII by evaluation, and of every character that has no small
letter in ASCII. -/
theorem of_asciiLower {P : Char → Char → Prop}
    (hascii : ∀ n < 128, P (Char.ofNat n) (asciiLower (Char.ofNat n))) (hother : ∀ c, P c c)
    (c : Char) : P c (asciiLower c) := by
  by_cases hc : c.toNat < 128
  · exact of_all_ascii (P := fun c => P c (asciiLower c)) hascii hc
  · rw [asciiLower_of_not_ascii hc]
    exact hother c

@[simp]
theorem isBlank_asciiLower (c : Char) : isBlank (asciiLower c) = isBlank c :=
  of_asciiLower (P := fun c lower => isBlank lower = isBlank c) (by decide) (fun _ => rfl) c

@[simp]
theorem asciiLower_ne_parenthesis (c : Char) : (asciiLower c ≠ '(') ↔ (c ≠ '(') :=
  of_asciiLower (P := fun c lower => (lower ≠ '(') ↔ (c ≠ '(')) (by decide) (fun _ => .rfl) c

@[simp]
theorem asciiLower_asciiLower (c : Char) : asciiLower (asciiLower c) = asciiLower c := by
  by_cases hc : c.toNat < 128
  · exact of_all_ascii (P := fun c => asciiLower (asciiLower c) = asciiLower c) (by decide) hc
  · rw [asciiLower_of_not_ascii hc, asciiLower_of_not_ascii hc]

/-! ## Trimmed texts -/

theorem trimStart_blanks_append {pad : List Char} (hpad : ∀ c ∈ pad, isBlank c = true)
    (s : List Char) : trimStart (pad ++ s) = trimStart s :=
  List.dropWhile_append_of_pos hpad

theorem trimStart_append {s : List Char} (hs : ∃ c ∈ s, isBlank c = false) (rest : List Char) :
    trimStart (s ++ rest) = trimStart s ++ rest := by
  obtain ⟨c, hc, hblank⟩ := hs
  rw [trimStart, trimStart, List.dropWhile_append, if_neg]
  intro hempty
  have hall := List.dropWhile_eq_nil_iff.1 (List.isEmpty_iff.1 hempty) c hc
  simp [hblank] at hall

theorem trimStart_of_blank {s : List Char} (hs : ∀ c ∈ s, isBlank c = true) : trimStart s = [] :=
  List.dropWhile_eq_nil_iff.2 hs

/-- What is trimmed off the end of a text is blank. -/
theorem exists_trimEnd_append (s : List Char) :
    ∃ pad, (∀ c ∈ pad, isBlank c = true) ∧ s = trimEnd s ++ pad := by
  refine ⟨(s.reverse.takeWhile isBlank).reverse, fun c hc => ?_, ?_⟩
  · exact List.mem_takeWhile_imp (List.mem_reverse.1 hc)
  · rw [trimEnd, ← List.reverse_append, List.takeWhile_append_dropWhile, List.reverse_reverse]

end Text

namespace TypeTable

open Text

/-! ## The scan -/

/-- The characters that the scan goes on past: neither blanks nor parentheses. -/
def continues (c : Char) : Bool :=
  !isBlank c && c ≠ '('

/-- The letters of a declared type from its first character that is not a blank up to the first
parenthesis or blank after it. -/
def scan (declared : List Char) : List Char :=
  (trimStart declared).takeWhile continues

theorem continues_eq_true {c : Char} : continues c = true ↔ isBlank c = false ∧ c ≠ '(' := by
  simp [continues]

@[simp]
theorem continues_asciiLower (c : Char) : continues (asciiLower c) = continues c := by
  rw [Bool.eq_iff_iff, continues_eq_true, continues_eq_true, isBlank_asciiLower,
    asciiLower_ne_parenthesis]

/-- A blank stops the scan, so what is trimmed off the end of a text is never scanned. -/
theorem takeWhile_continues_append {pad : List Char} (hpad : ∀ c ∈ pad, isBlank c = true)
    (s : List Char) : (s ++ pad).takeWhile continues = s.takeWhile continues := by
  have hnothing : pad.takeWhile continues = [] := by
    cases pad with
    | nil => rfl
    | cons first rest => simp [continues, hpad first List.mem_cons_self]
  rw [List.takeWhile_append, hnothing, List.append_nil]
  split
  · rename_i hlength
    exact ((List.takeWhile_prefix continues).eq_of_length hlength).symm
  · rfl

theorem takeWhile_continues_trimEnd (s : List Char) :
    (trimEnd s).takeWhile continues = s.takeWhile continues := by
  obtain ⟨pad, hpad, hs⟩ := exists_trimEnd_append s
  conv_rhs => rw [hs]
  exact (takeWhile_continues_append hpad _).symm

/-- A part of a text that starts where the text does has no blank to skip when the text has none. -/
theorem trimStart_of_isPrefix {front s : List Char} (h : front <+: trimStart s) :
    trimStart front = front := by
  cases front with
  | nil => rfl
  | cons first rest =>
    obtain ⟨ending, hending⟩ := h
    have hne : trimStart s ≠ [] := by rw [← hending]; exact List.cons_ne_nil _ _
    have hfirst := List.head_dropWhile_not isBlank hne
    simp only [trimStart] at hending
    simp only [← hending, List.cons_append, List.head_cons] at hfirst
    rw [trimStart, List.dropWhile_cons_of_neg (by simp [hfirst])]

theorem firstWord_map_asciiLower (s : List Char) :
    firstWord (s.map asciiLower) = (firstWord s).map asciiLower := by
  have hblank : (isBlank ∘ asciiLower) = isBlank := funext isBlank_asciiLower
  have hword : ((fun c => !isBlank c) ∘ asciiLower) = fun c => !isBlank c :=
    funext fun c => congrArg Bool.not (isBlank_asciiLower c)
  rw [firstWord, trimStart, List.dropWhile_map, List.takeWhile_map, hblank, hword]
  rfl

/-- The plain spelling of a declared type is the scanned text in small letters. -/
theorem plainSpelling_eq (declared : String) :
    plainSpelling declared = String.ofList ((scan declared.toList).map asciiLower) := by
  have hcut : ((fun c => decide (c ≠ '(')) ∘ asciiLower) = fun c => decide (c ≠ '(') :=
    funext fun c => decide_eq_decide.2 (asciiLower_ne_parenthesis c)
  have hprefix : (trim declared.toList).takeWhile (fun c => decide (c ≠ '(')) <+:
      trimStart declared.toList := by
    obtain ⟨pad, -, htrim⟩ := exists_trimEnd_append (trimStart declared.toList)
    exact (List.takeWhile_prefix _).trans ⟨pad, htrim.symm⟩
  have hscan : firstWord ((trim declared.toList).takeWhile fun c => decide (c ≠ '(')) =
      scan declared.toList := by
    rw [firstWord, trimStart_of_isPrefix hprefix, List.takeWhile_takeWhile, trim, scan,
      ← takeWhile_continues_trimEnd]
    congr 1
    funext c
    simp [continues]
  rw [plainSpelling, List.takeWhile_map, hcut, firstWord_map_asciiLower, hscan]

/-- The scan stops at the same character whatever the case of the letters is. -/
theorem scan_map_asciiLower (s : List Char) :
    scan (s.map asciiLower) = (scan s).map asciiLower := by
  have hblank : (isBlank ∘ asciiLower) = isBlank := funext isBlank_asciiLower
  have hcontinues : (continues ∘ asciiLower) = continues := funext continues_asciiLower
  rw [scan, trimStart, List.dropWhile_map, List.takeWhile_map, hblank, hcontinues]
  rfl

/-- There is nothing for a second scan to leave out. -/
theorem scan_scan (s : List Char) : scan (scan s) = scan s := by
  have hskip : trimStart (scan s) = scan s := trimStart_of_isPrefix (List.takeWhile_prefix _)
  rw [scan, hskip, scan, List.takeWhile_takeWhile]
  simp

theorem plainSpelling_plainSpelling (declared : String) :
    plainSpelling (plainSpelling declared) = plainSpelling declared := by
  rw [plainSpelling_eq, plainSpelling_eq, String.toList_ofList, scan_map_asciiLower, scan_scan,
    List.map_map]
  congr 2
  exact funext asciiLower_asciiLower

/-! ## What the scan disregards -/

/-- Types that differ in the case of ASCII letters at most. -/
def SameLetters (declared other : String) : Prop :=
  declared.toList.map asciiLower = other.toList.map asciiLower

theorem plainSpelling_of_sameLetters {declared other : String} (h : SameLetters declared other) :
    plainSpelling declared = plainSpelling other := by
  rw [plainSpelling_eq, plainSpelling_eq, ← scan_map_asciiLower, h, scan_map_asciiLower]

theorem plainSpelling_padded (declared : String) {before after : String}
    (hbefore : ∀ c ∈ before.toList, isBlank c = true)
    (hafter : ∀ c ∈ after.toList, isBlank c = true) :
    plainSpelling (before ++ declared ++ after) = plainSpelling declared := by
  have hscan : scan (before.toList ++ (declared.toList ++ after.toList)) =
      scan declared.toList := by
    rw [scan, trimStart_blanks_append hbefore]
    by_cases hdeclared : ∃ c ∈ declared.toList, isBlank c = false
    · rw [trimStart_append hdeclared, takeWhile_continues_append hafter, scan]
    · have hblank : ∀ c ∈ declared.toList, isBlank c = true := by simpa using hdeclared
      rw [trimStart_blanks_append hblank, trimStart_of_blank hafter, scan,
        trimStart_of_blank hblank]
  rw [plainSpelling_eq, plainSpelling_eq, String.toList_append, String.toList_append,
    List.append_assoc, hscan]

theorem plainSpelling_continued {declared : String}
    (hdeclared : ∃ c ∈ declared.toList, isBlank c = false) {mark : Char}
    (hmark : mark = '(' ∨ isBlank mark = true) (rest : String) :
    plainSpelling (declared ++ mark.toString ++ rest) = plainSpelling declared := by
  have hstop : continues mark = false := by
    rcases hmark with rfl | hblank
    · rfl
    · simp [continues, hblank]
  have hnothing : (mark :: rest.toList).takeWhile continues = [] := by simp [hstop]
  have hscan : scan (declared.toList ++ mark :: rest.toList) = scan declared.toList := by
    rw [scan, trimStart_append hdeclared, List.takeWhile_append, hnothing, List.append_nil, scan]
    split
    · rename_i hlength
      exact ((List.takeWhile_prefix continues).eq_of_length hlength).symm
    · rfl
  have hletters : (declared ++ mark.toString ++ rest).toList =
      declared.toList ++ mark :: rest.toList := by
    simp [String.toList_append]
  rw [plainSpelling_eq, plainSpelling_eq, hletters, hscan]

/-! ## Look-up in a table of plain spellings -/

/-- Entries under declared types that are spelt plainly. -/
def ListsPlain (more : List (String × String)) : Prop :=
  ∀ entry ∈ more, plainSpelling entry.1 = entry.1

instance (more : List (String × String)) : Decidable (ListsPlain more) :=
  inferInstanceAs (Decidable (∀ entry ∈ more, plainSpelling entry.1 = entry.1))

theorem listsPlain_standardTypes : ListsPlain standardTypes := by
  decide +kernel

/-- The built-in tables list plain spellings only. -/
theorem exists_builtin_eq (dialect : Dialect) :
    ∃ more, ListsPlain more ∧ builtin dialect = insertAll ⟨dialect, [], []⟩ more := by
  refine ⟨_, fun entry hentry => ?_, rfl⟩
  obtain ⟨standard, hstandard, rfl⟩ := List.mem_map.1 hentry
  exact listsPlain_standardTypes standard hstandard

variable {dialect : Dialect} {more : List (String × String)}

/-- Among plainly spelt types, those that are spelt like a declared type are the one that is its
plain spelling. -/
theorem last?_isLike (hplain : ListsPlain more) (declared : String) :
    Keyed.last? (IsLike · declared) more = Keyed.last? (· = plainSpelling declared) more := by
  induction more with
  | nil => rw [Keyed.last?_nil, Keyed.last?_nil]
  | cons entry more ih =>
    have hentry := hplain entry List.mem_cons_self
    have hmore : ListsPlain more := fun other hother => hplain other (List.mem_cons_of_mem _ hother)
    rw [Keyed.last?_cons, Keyed.last?_cons, ih hmore]
    simp only [IsLike, hentry]

/-- Look-up in a table of plain spellings goes by the plain spelling alone. -/
theorem get?_of_listsPlain (hplain : ListsPlain more) (declared : String) :
    (insertAll ⟨dialect, [], []⟩ more).get? declared =
      Keyed.last? (· = plainSpelling declared) more := by
  rw [get?_insertAll, Keyed.get?_nil, Keyed.get?_nil, Option.or_none, Option.or_none,
    last?_isLike hplain]
  cases hexact : Keyed.last? (· = declared) more with
  | none => exact Option.none_or
  | some type =>
    obtain ⟨entry, hmem, hkey, -⟩ := Keyed.mem_of_last?_eq_some hexact
    have hdeclared : entry.1 = declared := by simpa using hkey
    rw [← hdeclared, hplain entry hmem, hdeclared, hexact, Option.some_or]

theorem get?_plainSpelling (hplain : ListsPlain more) (declared : String) :
    (insertAll ⟨dialect, [], []⟩ more).get? (plainSpelling declared) =
      (insertAll ⟨dialect, [], []⟩ more).get? declared := by
  rw [get?_of_listsPlain hplain, get?_of_listsPlain hplain, plainSpelling_plainSpelling]

/-- Types of one plain spelling have one annotation. -/
theorem lookup_of_isLike (hplain : ListsPlain more) {declared other : String}
    (h : IsLike declared other) :
    (insertAll ⟨dialect, [], []⟩ more).lookup declared =
      (insertAll ⟨dialect, [], []⟩ more).lookup other := by
  rw [lookup, lookup, get?_of_listsPlain hplain, get?_of_listsPlain hplain, h]

/-- The longest prefix of a text whose characters all pass a test. -/
structure IsLongestPrefix (test : Char → Prop) (front s : List Char) : Prop where
  isPrefix : front <+: s
  passes : ∀ c ∈ front, test c
  longest : ∀ other, other <+: s → (∀ c ∈ other, test c) → other <+: front

theorem isLongestPrefix_takeWhile (test : Char → Bool) (s : List Char) :
    IsLongestPrefix (test · = true) (s.takeWhile test) s := by
  refine ⟨List.takeWhile_prefix test, fun c hc => List.mem_takeWhile_imp hc, ?_⟩
  rintro other ⟨rest, rfl⟩ hother
  rw [List.takeWhile_append_of_pos hother]
  exact List.prefix_append _ _

/-- Plain spellings, and look-up by them.  The plain spelling of a declared type is, in small ASCII
letters, the longest prefix without blanks and opening parentheses of what follows its leading
blanks; and it is its own plain spelling.  In any table that lists plain spellings only, as the
built-in tables do, a type is annotated as its plain spelling is.  There an annotation does not
change with the case of ASCII letters, with blanks around the type, or with what follows a type
that is not blank after an opening parenthesis or a blank. -/
theorem annotates_plainSpelling (hplain : ListsPlain more) :
    (∀ declared, ∃ front,
      IsLongestPrefix (fun c => isBlank c = false ∧ c ≠ '(') front (trimStart declared.toList) ∧
        plainSpelling declared = String.ofList (front.map asciiLower)) ∧
    (∀ declared, plainSpelling (plainSpelling declared) = plainSpelling declared) ∧
    (∀ dialect, ∃ listed, ListsPlain listed ∧
      builtin dialect = insertAll ⟨dialect, [], []⟩ listed) ∧
    let table := insertAll ⟨dialect, [], []⟩ more
    (∀ declared, table.get? declared = table.get? (plainSpelling declared)) ∧
    (∀ declared other, SameLetters declared other →
      table.lookup declared = table.lookup other) ∧
    (∀ before declared after, (∀ c ∈ before.toList, isBlank c = true) →
      (∀ c ∈ after.toList, isBlank c = true) →
        table.lookup (before ++ declared ++ after) = table.lookup declared) ∧
    ∀ (declared : String) (mark : Char) (rest : String),
      (∃ c ∈ declared.toList, isBlank c = false) → (mark = '(' ∨ isBlank mark = true) →
        table.lookup (declared ++ mark.toString ++ rest) = table.lookup declared := by
  refine ⟨fun declared => ?_, plainSpelling_plainSpelling, exists_builtin_eq, fun declared => ?_,
    fun declared other h => ?_, fun before declared after hbefore hafter => ?_,
    fun declared mark rest hdeclared hmark => ?_⟩
  · have hfront := isLongestPrefix_takeWhile continues (trimStart declared.toList)
    simp only [continues_eq_true] at hfront
    exact ⟨_, hfront, plainSpelling_eq declared⟩
  · exact (get?_plainSpelling hplain declared).symm
  · exact lookup_of_isLike hplain (plainSpelling_of_sameLetters h)
  · exact lookup_of_isLike hplain (plainSpelling_padded declared hbefore hafter)
  · exact lookup_of_isLike hplain (plainSpelling_continued hdeclared hmark rest)

/-- A table with one plainly spelt type finds it in capitals, between blanks and before a list of
parameters. -/
theorem annotates_plainSpelling_int :
    ListsPlain [("int", "Money")] ∧
      (insertAll ⟨.typeScript, [], []⟩ [("int", "Money")]).lookup "\tINT (11)" = "Money" := by
  have hplain : ListsPlain [("int", "Money")] := by decide
  obtain ⟨-, -, -, -, hletters, hpadded, hcontinued⟩ :=
    @annotates_plainSpelling .typeScript _ hplain
  refine ⟨hplain, ?_⟩
  have hpad := hpadded "\t" "INT (11)" "" (List.all_eq_true.1 (by decide)) nofun
  have hparameters := hcontinued "INT" ' ' "(11)" ⟨'I', by decide, by decide⟩ (.inr (by decide))
  have hsmall := hletters "INT" "int" (by unfold SameLetters; decide)
  exact hpad.trans (hparameters.trans (hsmall.trans (by decide)))

end TypeTable
end ResponseTypes
