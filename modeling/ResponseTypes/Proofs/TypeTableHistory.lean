import Mathlib.Data.List.Basic
import ResponseTypes.TypeTable

/-!
# Look-up after a history of insertions

A type table keeps two lists of entries, by the declared type as it was written and by its plain
spelling, and look-up goes to the first before the second.  What it finds after any number of
insertions is told by the last of them under the very spelling that is looked up, and only then
by the last under a like spelling.

Entries that a user lays over the built-in table therefore win over a built-in type unless that
type is looked up letter by letter and none of them has this very spelling.

## Main definitions

- `Keyed.last?`: the value of the last entry whose key passes a test.
- `TypeTable.IsLike`: two declared types with one plain spelling.

## Main statements

- `TypeTable.get?_insertAll`: look-up after any insertions into any table.
- `TypeTable.lookup_withOverrides`: look-up of a type that some override is spelt like.
-/

namespace ResponseTypes
namespace Keyed

variable {α : Type}

/-- The value of the last entry whose key passes a test. -/
def last? (test : String → Bool) (more : List (String × α)) : Option α :=
  (more.findRev? fun entry => test entry.1).map (·.2)

@[simp]
theorem last?_nil (test : String → Bool) : last? test ([] : List (String × α)) = none := rfl

theorem last?_cons (test : String → Bool) (entry : String × α) (more : List (String × α)) :
    last? test (entry :: more) =
      (last? test more).or (if test entry.1 then some entry.2 else none) := by
  rw [last?, last?, List.findRev?]
  cases more.findRev? fun entry => test entry.1 with
  | some found => rfl
  | none => cases h : test entry.1 <;> simp

/-- The last of the entries that pass is one of them. -/
theorem mem_of_last?_eq_some {test : String → Bool} {more : List (String × α)} {value : α}
    (h : last? test more = some value) : ∃ entry ∈ more, test entry.1 ∧ entry.2 = value := by
  induction more with
  | nil => simp at h
  | cons first more ih =>
    rw [last?_cons, Option.or_eq_some_iff] at h
    rcases h with h | ⟨-, h⟩
    · obtain ⟨entry, hmem, hentry⟩ := ih h
      exact ⟨entry, List.mem_cons_of_mem _ hmem, hentry⟩
    · split at h
      · rename_i htest
        exact ⟨first, List.mem_cons_self, htest, Option.some.inj h⟩
      · simp at h

theorem last?_eq_none_iff {test : String → Bool} {more : List (String × α)} :
    last? test more = none ↔ ∀ entry ∈ more, ¬ test entry.1 := by
  induction more with
  | nil => simp
  | cons first more ih =>
    rw [last?_cons, Option.or_eq_none_iff, ih, List.forall_mem_cons, and_comm]
    cases test first.1 <;> simp

/-- A test of renamed keys is another test of the keys. -/
theorem last?_map (test : String → Bool) (rename : String → String) (more : List (String × α)) :
    last? test (more.map fun (key, value) => (rename key, value)) =
      last? (fun key => test (rename key)) more := by
  induction more with
  | nil => rfl
  | cons entry more ih => rw [List.map_cons, last?_cons, last?_cons, ih]

/-- After insertions a key has the value that was inserted last under it, or else the value it had
before. -/
theorem get?_insertAll (entries : Keyed α) (more : List (String × α)) (key : String) :
    (entries.insertAll more).get? key = (last? (· = key) more).or (entries.get? key) := by
  induction more generalizing entries with
  | nil => rfl
  | cons entry more ih =>
    have hstep : entries.insertAll (entry :: more) =
        (entries.insert entry.1 entry.2).insertAll more := rfl
    rw [hstep, ih, last?_cons, Option.or_assoc]
    congr 1
    by_cases h : entry.1 = key
    · simp [h]
    · simp [h, get?_insert_of_ne entries entry.2 (Ne.symm h)]

end Keyed

namespace TypeTable

/-! ## Look-up after insertions -/

/-- Two declared types with one plain spelling. -/
def IsLike (declared other : String) : Prop :=
  plainSpelling declared = plainSpelling other

instance (declared other : String) : Decidable (IsLike declared other) :=
  inferInstanceAs (Decidable (plainSpelling declared = plainSpelling other))

theorem entries_insertAll (table : TypeTable) (more : List (String × String)) :
    (table.insertAll more).entries = Keyed.insertAll table.entries more := by
  induction more generalizing table with
  | nil => rfl
  | cons entry more ih => exact ih (table.insert entry.1 entry.2)

theorem spellings_insertAll (table : TypeTable) (more : List (String × String)) :
    (table.insertAll more).spellings =
      Keyed.insertAll table.spellings
        (more.map fun (declared, type) => (plainSpelling declared, type)) := by
  induction more generalizing table with
  | nil => rfl
  | cons entry more ih => exact ih (table.insert entry.1 entry.2)

theorem get?_eq_or (table : TypeTable) (declared : String) :
    table.get? declared =
      (table.entries.get? declared).or (table.spellings.get? (plainSpelling declared)) := by
  rw [get?]
  cases table.entries.get? declared <;> rfl

/-- The annotation after insertions: the last one under the very spelling, here or before, and
else the last one under a like spelling, here or before. -/
theorem get?_insertAll (table : TypeTable) (more : List (String × String)) (declared : String) :
    (table.insertAll more).get? declared =
      ((Keyed.last? (· = declared) more).or (table.entries.get? declared)).or
        ((Keyed.last? (IsLike · declared) more).or
          (table.spellings.get? (plainSpelling declared))) := by
  rw [get?_eq_or, entries_insertAll, spellings_insertAll, Keyed.get?_insertAll,
    Keyed.get?_insertAll, Keyed.last?_map]
  rfl

/-! ## Overrides -/

/-- A type that every table starts with, spelt as it is listed. -/
def IsStandard (declared : String) : Prop :=
  declared ∈ standardTypes.map (·.1)

instance (declared : String) : Decidable (IsStandard declared) :=
  inferInstanceAs (Decidable (declared ∈ standardTypes.map (·.1)))

/-- The built-in tables list the standard types, in their listed spelling, and nothing else. -/
theorem entries_builtin_eq_none_iff (dialect : Dialect) (declared : String) :
    (builtin dialect).entries.get? declared = none ↔ ¬ IsStandard declared := by
  rw [builtin, entries_insertAll, Keyed.get?_insertAll, Keyed.get?_nil, Option.or_none,
    Keyed.last?_eq_none_iff, List.forall_mem_map, IsStandard, List.mem_map]
  simp only [decide_eq_true_eq, not_exists, not_and]

/-- An override under the very spelling is found before anything else. -/
theorem lookup_withOverrides_of_exact {overrides : List (String × String)} {declared type : String}
    (hexact : Keyed.last? (· = declared) overrides = some type) (dialect : Dialect) :
    (withOverrides dialect overrides).lookup declared = type := by
  rw [lookup, withOverrides, get?_insertAll, hexact, Option.some_or, Option.some_or,
    Option.getD_some]

/-- A standard type that no override spells letter by letter keeps its built-in annotation. -/
theorem lookup_withOverrides_of_isStandard {overrides : List (String × String)} {declared : String}
    (hexact : Keyed.last? (· = declared) overrides = none) (hstandard : IsStandard declared)
    (dialect : Dialect) :
    (withOverrides dialect overrides).lookup declared = (builtin dialect).lookup declared := by
  have hlisted : (builtin dialect).entries.get? declared ≠ none := fun hnone =>
    (entries_builtin_eq_none_iff dialect declared).1 hnone hstandard
  obtain ⟨type, htype⟩ := Option.ne_none_iff_exists'.1 hlisted
  rw [lookup, withOverrides, get?_insertAll, hexact, lookup, get?_eq_or, htype, Option.none_or,
    Option.some_or, Option.some_or, Option.getD_some, Option.getD_some]

/-- Any other type has the annotation of the last override that is spelt like it. -/
theorem lookup_withOverrides_of_like {overrides : List (String × String)} {declared type : String}
    (hexact : Keyed.last? (· = declared) overrides = none) (hstandard : ¬ IsStandard declared)
    (hlike : Keyed.last? (IsLike · declared) overrides = some type) (dialect : Dialect) :
    (withOverrides dialect overrides).lookup declared = type := by
  have hlisted := (entries_builtin_eq_none_iff dialect declared).2 hstandard
  rw [lookup, withOverrides, get?_insertAll, hexact, hlisted, hlike, Option.none_or,
    Option.none_or, Option.some_or, Option.getD_some]

/-- What a declared type is annotated with when some override is spelt like it.  An override under
its very spelling wins; failing that, a standard type keeps its built-in annotation, and any
other type has the annotation of the last override spelt like it.  So the annotation is that of
one of these overrides unless the type is a standard one in its listed spelling, no override has
this very spelling, and none of them happens to give the built-in annotation. -/
theorem lookup_withOverrides {dialect : Dialect} {overrides : List (String × String)}
    {declared : String} (h : ∃ entry ∈ overrides, IsLike entry.1 declared) :
    (withOverrides dialect overrides).lookup declared =
      (match Keyed.last? (· = declared) overrides with
        | some type => type
        | none =>
          if IsStandard declared then (builtin dialect).lookup declared
          else (Keyed.last? (IsLike · declared) overrides).getD dialect.unknown) ∧
    ((∃ entry ∈ overrides, IsLike entry.1 declared ∧
        (withOverrides dialect overrides).lookup declared = entry.2) ↔
      ¬ IsStandard declared ∨ (∃ entry ∈ overrides, entry.1 = declared) ∨
        ∃ entry ∈ overrides, IsLike entry.1 declared ∧
          (builtin dialect).lookup declared = entry.2) := by
  cases hexact : Keyed.last? (· = declared) overrides with
  | some type =>
    have hlookup := lookup_withOverrides_of_exact hexact dialect
    obtain ⟨entry, hmem, hkey, hvalue⟩ := Keyed.mem_of_last?_eq_some hexact
    have hdeclared : entry.1 = declared := by simpa using hkey
    refine ⟨hlookup, ⟨fun _ => .inr (.inl ⟨entry, hmem, hdeclared⟩), fun _ => ?_⟩⟩
    exact ⟨entry, hmem, congrArg plainSpelling hdeclared, hlookup.trans hvalue.symm⟩
  | none =>
    have hnone : ¬ ∃ entry ∈ overrides, entry.1 = declared := by
      rintro ⟨entry, hmem, hkey⟩
      exact Keyed.last?_eq_none_iff.1 hexact entry hmem (by simpa using hkey)
    by_cases hstandard : IsStandard declared
    · have hlookup := lookup_withOverrides_of_isStandard hexact hstandard dialect
      refine ⟨by simpa [hstandard] using hlookup, ?_⟩
      rw [hlookup]
      simp only [hstandard, hnone, not_true, false_or]
    · obtain ⟨entry, hmem, hentry⟩ := h
      obtain ⟨type, hlike⟩ : ∃ type, Keyed.last? (IsLike · declared) overrides = some type := by
        refine Option.ne_none_iff_exists'.1 fun habsent => ?_
        exact Keyed.last?_eq_none_iff.1 habsent entry hmem (by simpa using hentry)
      have hlookup := lookup_withOverrides_of_like hexact hstandard hlike dialect
      obtain ⟨winner, hwinner, hkey, hvalue⟩ := Keyed.mem_of_last?_eq_some hlike
      refine ⟨by simpa [hstandard, hlike] using hlookup, fun _ => .inl hstandard, fun _ => ?_⟩
      exact ⟨winner, hwinner, by simpa using hkey, hlookup.trans hvalue.symm⟩

/-- One override in capitals is found for a padded and parametrised spelling, and not for the type
as the built-in table lists it. -/
theorem lookup_withOverrides_capitals :
    (∃ entry ∈ [("INT", "Money")], IsLike entry.1 " Int(11) unsigned") ∧
    (∃ entry ∈ [("INT", "Money")],
      IsLike entry.1 " Int(11) unsigned" ∧
        (withOverrides .typeScript [("INT", "Money")]).lookup " Int(11) unsigned" = entry.2) := by
  have hlike : ∃ entry ∈ [("INT", "Money")], IsLike entry.1 " Int(11) unsigned" := by decide
  exact ⟨hlike, (lookup_withOverrides hlike).2.2 (.inl (by decide))⟩

/-- It is not so that a type which some override is spelt like is always annotated by such an
override: the built-in entry of the type's very spelling comes first. -/
theorem not_forall_lookup_withOverrides :
    ¬ ∀ (dialect : Dialect) (overrides : List (String × String)) (declared : String),
      (∃ entry ∈ overrides, IsLike entry.1 declared) →
        ∃ entry ∈ overrides, IsLike entry.1 declared ∧
          (withOverrides dialect overrides).lookup declared = entry.2 := by
  intro h
  have hint := h .typeScript [("INT", "Money")] "int" (by decide)
  exact absurd hint (by decide)

end TypeTable
end ResponseTypes
