import ResponseTypes.Proofs.NameStages

/-!
# Names of tables and names of types

A table is named in snake case and a type by joined words with capitals.  On names made of words
the two ways of writing are inverse to each other: the parts of a table's name come back out of the
type's name at its capitals.

A capital starts a new part only behind a small letter or a digit.  Reading a name therefore depends
on what stood before, and a word of a single letter is nothing but a capital, so the word behind it
is read as if it went on.  Hence all words but the last have at least two characters.

## Main definitions

- `Naming.IsWord`: small letters and digits, with a letter at the front.

## Main statements

- `Naming.snakeCaseFrom_capitals`: words with capitals are read back in snake case.
- `Naming.snakeCase_roundTrip`: the type and the table of joined words.
-/

namespace ResponseTypes
namespace Naming

/-- The characters of words. -/
def isSmall (c : Char) : Bool :=
  c.isLower || c.isDigit

/-- A word of a name in snake case: small letters and digits, with a letter at the front. -/
def IsWord (word : List Char) : Prop :=
  ∃ first rest, word = first :: rest ∧ first.isLower = true ∧ ∀ c ∈ rest, isSmall c = true

/-- A word with its letter at the front as a capital. -/
def withCapital (word : List Char) : List Char :=
  word.modifyHead Char.toUpper

section

variable {c : Char}

theorem isSmall_of_isLower (hc : c.isLower = true) : isSmall c = true := by
  rw [isSmall, hc, Bool.true_or]

theorem isAlphanum_of_isSmall (hc : isSmall c = true) : c.isAlphanum = true := by
  rw [isSmall, Bool.or_eq_true] at hc
  change ((c.isUpper || c.isLower) || c.isDigit) = true
  rcases hc with hc | hc <;> simp [hc]

theorem lt_of_isSmall (hc : isSmall c = true) : c.toNat < 128 :=
  lt_of_isNameChar (isNameChar_of_isAlphanum (isAlphanum_of_isSmall hc))

/-- A small character is kept in snake case, and a capital may follow it. -/
theorem snakeCase_of_isSmall (hc : isSmall c = true) :
    Text.isUpper c = false ∧ (Text.isLower c || ('0' ≤ c && c ≤ '9')) = true := by
  rw [Text.isUpper_ascii (lt_of_isSmall hc), Text.isLower_ascii (lt_of_isSmall hc)]
  exact Text.of_all_ascii (P := fun c => isSmall c = true →
    c.isUpper = false ∧ (c.isLower || ('0' ≤ c && c ≤ '9')) = true) (by decide)
    (lt_of_isSmall hc) hc

/-- A letter comes back from its capital. -/
theorem capital_of_isLower (hc : c.isLower = true) :
    Text.isUpper c.toUpper = true ∧ Text.toLower c.toUpper = [c] := by
  have hlt : c.toNat < 128 := lt_of_isSmall (isSmall_of_isLower hc)
  have hupper : c.toUpper.toNat < 128 ∧ c.toUpper.isUpper = true ∧ c.toUpper.toLower = c :=
    Text.of_all_ascii (P := fun c => c.isLower = true →
      c.toUpper.toNat < 128 ∧ c.toUpper.isUpper = true ∧ c.toUpper.toLower = c)
      (by decide) hlt hc
  rw [Text.isUpper_ascii hupper.1, Text.toLower_ascii hupper.1, hupper.2.2]
  exact ⟨hupper.2.1, rfl⟩

end

/-! ## Reading names back -/

/-- What has no capitals is kept in snake case, and its last character tells whether a capital
behind it starts a new part. -/
theorem snakeCaseFrom_small_append {small : List Char} (hsmall : ∀ c ∈ small, isSmall c = true)
    (afterSmall : Bool) (rest : List Char) :
    snakeCaseFrom afterSmall (small ++ rest) =
      small ++ snakeCaseFrom (afterSmall || !small.isEmpty) rest := by
  induction small generalizing afterSmall with
  | nil => simp
  | cons c small ih =>
    obtain ⟨hc, hsmall⟩ := List.forall_mem_cons.1 hsmall
    obtain ⟨hupper, hafter⟩ := snakeCase_of_isSmall hc
    rw [List.cons_append, snakeCaseFrom, hupper, if_neg Bool.false_ne_true, hafter, ih hsmall]
    simp

/-- A word with a capital is read back, with an underscore where a small character came before.  A
capital behind it starts a new part if the word has more than its own capital. -/
theorem snakeCaseFrom_withCapital_append {word : List Char} (hword : IsWord word)
    (afterSmall : Bool) (rest : List Char) :
    snakeCaseFrom afterSmall (withCapital word ++ rest) =
      (if afterSmall then ['_'] else []) ++ word ++ snakeCaseFrom (2 ≤ word.length) rest := by
  obtain ⟨first, small, rfl, hfirst, hsmall⟩ := hword
  obtain ⟨hupper, hlower⟩ := capital_of_isLower hfirst
  have hlength : decide (2 ≤ (first :: small).length) = (false || !small.isEmpty) := by
    cases small <;> simp
  rw [withCapital, List.modifyHead_cons, List.cons_append, snakeCaseFrom, if_pos hupper, hlower,
    snakeCaseFrom_small_append hsmall, hlength]
  simp

/-- A name without capitals is in snake case. -/
theorem snakeCaseFrom_of_not_isUpper {s : List Char} (h : ∀ c ∈ s, Text.isUpper c = false)
    (afterSmall : Bool) : snakeCaseFrom afterSmall s = s := by
  induction s generalizing afterSmall with
  | nil => rfl
  | cons c s ih =>
    obtain ⟨hc, hs⟩ := List.forall_mem_cons.1 h
    rw [snakeCaseFrom, hc, if_neg Bool.false_ne_true, ih hs]

/-- Words with capitals are read back with underscores between them. -/
theorem snakeCaseFrom_capitals {words : List (List Char)} (hwords : ∀ word ∈ words, IsWord word)
    (hlong : ∀ word ∈ words.dropLast, 2 ≤ word.length) :
    snakeCaseFrom false (words.flatMap withCapital) = ['_'].intercalate words := by
  suffices h : ∀ afterSmall, words ≠ [] → snakeCaseFrom afterSmall (words.flatMap withCapital) =
      (if afterSmall then ['_'] else []) ++ ['_'].intercalate words by
    by_cases hne : words = []
    · rw [hne]
      rfl
    · exact h false hne
  intro afterSmall hne
  induction words generalizing afterSmall with
  | nil => exact absurd rfl hne
  | cons word others ih =>
    obtain ⟨hword, hothers⟩ := List.forall_mem_cons.1 hwords
    cases others with
    | nil =>
      have hnothing := snakeCaseFrom_withCapital_append hword afterSmall []
      simpa [snakeCaseFrom] using hnothing
    | cons next others =>
      rw [List.dropLast_cons_cons] at hlong
      obtain ⟨hlength, hlong⟩ := List.forall_mem_cons.1 hlong
      rw [List.flatMap_cons, snakeCaseFrom_withCapital_append hword, decide_eq_true hlength,
        ih hothers hlong true (List.cons_ne_nil next others), List.intercalate_cons_cons]
      simp

/-! ## Joined words -/

theorem mem_intercalate {mark c : Char} {words : List (List Char)}
    (hc : c ∈ [mark].intercalate words) : c = mark ∨ ∃ word ∈ words, c ∈ word := by
  induction words with
  | nil => simp at hc
  | cons word others ih =>
    cases others with
    | nil => exact .inr ⟨word, List.mem_cons_self, by simpa using hc⟩
    | cons next others =>
      rw [List.intercalate_cons_cons, List.append_assoc, List.mem_append, List.singleton_append,
        List.mem_cons] at hc
      rcases hc with hc | hc | hc
      · exact .inr ⟨word, List.mem_cons_self, hc⟩
      · exact .inl hc
      · refine (ih hc).imp_right fun ⟨word', hword', hc⟩ => ?_
        exact ⟨word', List.mem_cons_of_mem _ hword', hc⟩

theorem isSmall_of_mem_word {word : List Char} (hword : IsWord word) {c : Char} (hc : c ∈ word) :
    isSmall c = true := by
  obtain ⟨first, small, rfl, hfirst, hsmall⟩ := hword
  rcases List.mem_cons.1 hc with rfl | hc
  · exact isSmall_of_isLower hfirst
  · exact hsmall c hc

/-- Joined words are joined with capitals. -/
theorem joined_intercalate {words : List (List Char)} (hwords : ∀ word ∈ words, IsWord word) :
    joined (['_'].intercalate words) = words.flatMap withCapital := by
  induction words with
  | nil => rfl
  | cons word others ih =>
    obtain ⟨hword, hothers⟩ := List.forall_mem_cons.1 hwords
    have hplain : ∀ c ∈ word, isSeparator c = false := fun c hc =>
      isSeparator_of_isAlphanum (isAlphanum_of_isSmall (isSmall_of_mem_word hword hc))
    have hcapital : capitalised word = withCapital word := by
      obtain ⟨first, small, rfl, hfirst, -⟩ := hword
      rw [capitalised, Text.toUpper_ascii (lt_of_isSmall (isSmall_of_isLower hfirst))]
      rfl
    cases others with
    | nil =>
      rw [List.intercalate_singleton, joined_of_not_separator hplain, hcapital]
      simp
    | cons next others =>
      rw [List.intercalate_cons_cons, List.append_assoc, List.singleton_append,
        joined_append (by decide), ih hothers, joined_of_not_separator hplain, hcapital,
        ← List.flatMap_cons]

section

variable {words : List (List Char)} (hwords : ∀ word ∈ words, IsWord word)
include hwords

theorem mem_joinedWords {c : Char} (hc : c ∈ ['_'].intercalate words) :
    c = '_' ∨ isSmall c = true :=
  (mem_intercalate hc).imp_right fun ⟨_, hword, hc⟩ => isSmall_of_mem_word (hwords _ hword) hc

theorem isNameChar_of_mem_joinedWords {c : Char} (hc : c ∈ ['_'].intercalate words) :
    isNameChar c = true := by
  rcases mem_joinedWords hwords hc with rfl | hc
  · decide
  · exact isNameChar_of_isAlphanum (isAlphanum_of_isSmall hc)

/-- There is nothing about joined words that would be cut off. -/
theorem coreName_joinedWords : coreName (['_'].intercalate words) = ['_'].intercalate words := by
  have hmissing : ∀ c ∈ ['.', '/', 'R'], c ∉ ['_'].intercalate words := by
    intro c hmark hc
    have hnone : ['.', '/', 'R'].any isSmall = false := by decide
    rcases mem_joinedWords hwords hc with rfl | hsmall
    · exact absurd hmark (by decide)
    · exact List.any_eq_false.1 hnone c hmark hsmall
  have hroute : ∀ start ∈ routeStarts, ¬ start <+: ['_'].intercalate words := by
    intro start hstart hstarts
    have hmark : ∀ start ∈ routeStarts, start.any (['.', '/', 'R'].contains ·) = true := by decide
    obtain ⟨c, hmem, hc⟩ := List.any_eq_true.1 (hmark start hstart)
    exact hmissing c (List.contains_iff_mem.1 hc) (hstarts.subset hmem)
  have hclass : ¬ "Resource".toList <:+ ['_'].intercalate words := fun hsuffix =>
    hmissing 'R' (by decide) (hsuffix.subset (by decide))
  rw [coreName_of_isNameChar fun _ => isNameChar_of_mem_joinedWords hwords,
    routeName_of_not_route hroute, className_of_not_suffix hclass]

/-- Joined words are in snake case. -/
theorem snakeCase_joinedWords : snakeCase (['_'].intercalate words) = ['_'].intercalate words := by
  refine snakeCaseFrom_of_not_isUpper (fun c hc => ?_) false
  rcases mem_joinedWords hwords hc with rfl | hc
  · exact Text.isUpper_ascii (by decide)
  · exact (snakeCase_of_isSmall hc).1

end

/-- Of letters, digits and separators, all is used for the name of a table. -/
theorem tableName_of_isNameChar {model : String} (h : ∀ c ∈ model.toList, isNameChar c = true) :
    tableName model = String.ofList (plural (snakeCase model.toList)) := by
  have hslash : '\\' ∉ model.toList := fun hc => (plain_of_isNameChar (h _ hc)).2.1 rfl
  have hcolon : ':' ∉ model.toList := fun hc => (plain_of_isNameChar (h _ hc)).2.2 rfl
  rw [tableName, baseName_of_not_mem hslash hcolon]

/-- For words of small letters and digits, all of them but the last with two characters or more: the
type of the joined words is named by the words with capitals, its name in snake case is the joined
words again, and so both have the same table. -/
theorem snakeCase_roundTrip (words : List String) (hwords : ∀ word ∈ words, IsWord word.toList)
    (hlong : ∀ word ∈ words.dropLast, 2 ≤ word.length) :
    typeName ("_".intercalate words) "" =
        String.join (words.map fun word => String.ofList (withCapital word.toList)) ∧
      String.ofList (snakeCase (typeName ("_".intercalate words) "").toList) =
        "_".intercalate words ∧
      tableName (typeName ("_".intercalate words) "") = tableName ("_".intercalate words) := by
  have hchars : ∀ word ∈ words.map String.toList, IsWord word := by simpa using hwords
  have hlengths : ∀ word ∈ (words.map String.toList).dropLast, 2 ≤ word.length := by
    rw [← List.map_dropLast]
    exact List.forall_mem_map.2 hlong
  have hjoined : ("_".intercalate words).toList = ['_'].intercalate (words.map String.toList) :=
    String.toList_intercalate
  have htype : (typeName ("_".intercalate words) "").toList =
      (words.map String.toList).flatMap withCapital := by
    rw [typeName_eq_joined, String.append_empty, String.toList_ofList, hjoined,
      coreName_joinedWords hchars, joined_intercalate hchars]
  have hsnake : snakeCase (typeName ("_".intercalate words) "").toList =
      ("_".intercalate words).toList := by
    rw [htype, snakeCase, snakeCaseFrom_capitals hchars hlengths, hjoined]
  refine ⟨String.toList_inj.1 ?_, by rw [hsnake, String.ofList_toList], ?_⟩
  · rw [htype, String.toList_join]
    simp [List.flatMap_map]
  · have hnames : ∀ c ∈ ("_".intercalate words).toList, isNameChar c = true := by
      rw [hjoined]
      exact fun _ => isNameChar_of_mem_joinedWords hchars
    have htypeNames : ∀ c ∈ (typeName ("_".intercalate words) "").toList, isNameChar c = true := by
      intro c hc
      rw [typeName_eq_joined, String.append_empty, String.toList_ofList, hjoined,
        coreName_joinedWords hchars, ← hjoined] at hc
      exact isNameChar_of_isAlphanum (isAlphanum_of_mem_joined hnames hc)
    rw [tableName_of_isNameChar htypeNames, tableName_of_isNameChar hnames, hsnake, hjoined,
      snakeCase_joinedWords hchars]

/-- Two words, of which the last is a letter. -/
theorem snakeCase_roundTrip_planB :
    tableName (typeName "plan_b" "") = tableName "plan_b" ∧ typeName "plan_b" "" = "PlanB" := by
  have hroundTrip := snakeCase_roundTrip ["plan", "b"]
    (by simp [IsWord, isSmall]) (by decide)
  exact ⟨hroundTrip.2.2, hroundTrip.1⟩

/-- Behind a word of one letter there is no new part. -/
example : typeName "a_plan" "" = "APlan" ∧ snakeCase "APlan".toList = "aplan".toList := by
  decide

end Naming
end ResponseTypes
