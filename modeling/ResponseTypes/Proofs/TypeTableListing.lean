import Mathlib.Data.Finset.Card
import Mathlib.Data.List.Induction
import ResponseTypes.Proofs.DialectTables
import ResponseTypes.Proofs.TypeTableHistory

/-!
# What a type table holds

A type table is made by insertions into an empty one: the built-in entries first, then those of a
user, or any others.  Look-up goes back to the last insertion that fits.  The listing keeps the
order in which the declared types first came, since an insertion under a spelling that is listed
already changes the annotation in its place.  So both are functions of the history of insertions,
and an insertion under another spelling of the same type adds a line to the listing and leaves the
lines of the other spellings alone.

## Main statements

- `Keyed.keys_ofList`, `Keyed.last?_of_mem_ofList`: the keys and the values of inserted entries.
- `TypeTable.holds_last_inserted`: look-up, listing and size of a table by its history.
-/

namespace ResponseTypes
namespace Keyed

variable {α : Type}

/-- The keys of entries that are inserted one after the other are there once each, in the order in
which they first came. -/
theorem keys_ofList (more : List (String × α)) :
    (ofList more).keys = (more.map (·.1)).eraseDups := by
  induction more using List.reverseRecOn with
  | nil => rfl
  | append_singleton more entry ih =>
    have hstep : ofList (more ++ [entry]) = (ofList more).insert entry.1 entry.2 :=
      List.foldl_concat _ _ _ _
    rw [hstep, keys_insert, ih, List.map_append, List.map_singleton, List.eraseDups_append]
    by_cases h : entry.1 ∈ more.map (·.1)
    · have hnothing : [entry.1].removeAll (more.map (·.1)) = [] := by simp [List.removeAll, h]
      rw [if_pos (List.mem_eraseDups.2 h), hnothing, List.eraseDups_nil, List.append_nil]
    · have hentry : [entry.1].removeAll (more.map (·.1)) = [entry.1] := by
        simp [List.removeAll, h]
      rw [if_neg (mt List.mem_eraseDups.1 h), hentry]
      rfl

/-- Inserted entries are as many as their different keys. -/
theorem length_ofList (more : List (String × α)) :
    (ofList more).length = (more.map (·.1)).toFinset.card := by
  have hset : (more.map (·.1)).toFinset = (ofList more).keys.toFinset := by
    ext key
    rw [List.mem_toFinset, List.mem_toFinset, keys_ofList, List.mem_eraseDups]
  rw [hset, List.toFinset_card_of_nodup (nodup_keys_ofList more), keys, List.length_map]

/-- Among entries without a repeated key, an entry is what is found under its key. -/
theorem get?_of_mem {entries : Keyed α} (hnodup : entries.keys.Nodup) {entry : String × α}
    (h : entry ∈ entries) : entries.get? entry.1 = some entry.2 := by
  induction entries with
  | nil => cases h
  | cons first rest ih =>
    obtain ⟨hfirst, hrest⟩ := List.nodup_cons.1 hnodup
    rw [get?]
    rcases List.mem_cons.1 h with rfl | hmem
    · rw [if_pos rfl]
    · have hne : first.1 ≠ entry.1 := by
        intro heq
        exact hfirst (List.mem_map.2 ⟨entry, hmem, heq.symm⟩)
      rw [if_neg hne, ih hrest hmem]

/-- An entry has the value that was inserted last under its key. -/
theorem last?_of_mem_ofList {more : List (String × α)} {entry : String × α}
    (h : entry ∈ ofList more) : last? (· = entry.1) more = some entry.2 := by
  rw [← get?_of_mem (nodup_keys_ofList more) h, ofList, get?_insertAll, get?_nil, Option.or_none]

end Keyed

namespace TypeTable

/-- What a table holds after any insertions into an empty one.  A declared type has the annotation
that was inserted last under its very spelling, else the one that was inserted last under a like
spelling, and else none, which makes it unknown.  The table lists every spelling that was inserted
once, in the order in which the spellings first came, each with the annotation that was inserted
last under it. -/
theorem holds_last_inserted (dialect : Dialect) (more : List (String × String)) :
    let table := insertAll ⟨dialect, [], []⟩ more
    (∀ declared, table.get? declared =
      (Keyed.last? (· = declared) more).or (Keyed.last? (IsLike · declared) more)) ∧
    (∀ declared, table.lookup declared =
      ((Keyed.last? (· = declared) more).or
        (Keyed.last? (IsLike · declared) more)).getD dialect.unknown) ∧
    table.toList.map (·.1) = (more.map (·.1)).eraseDups ∧
    (∀ entry ∈ table.toList, Keyed.last? (· = entry.1) more = some entry.2) ∧
    table.size = (more.map (·.1)).toFinset.card := by
  intro table
  have hget : ∀ declared, table.get? declared =
      (Keyed.last? (· = declared) more).or (Keyed.last? (IsLike · declared) more) := by
    intro declared
    rw [get?_insertAll, Keyed.get?_nil, Keyed.get?_nil, Option.or_none, Option.or_none]
  have hlisted : table.toList = Keyed.ofList more := entries_insertAll _ more
  refine ⟨hget, fun declared => ?_, ?_, fun entry hentry => ?_, ?_⟩
  · rw [lookup, hget, dialect_insertAll]
  · rw [hlisted]
    exact Keyed.keys_ofList more
  · exact Keyed.last?_of_mem_ofList (hlisted ▸ hentry)
  · rw [← Keyed.length_ofList, ← hlisted]
    rfl

/-- Three spellings of one type: each keeps the annotation that was inserted last under it, and any
other spelling has the one that was inserted last of all. -/
example :
    let table := insertAll ⟨.typeScript, [], []⟩
      [("INT", "a"), ("int", "b"), ("Int(11)", "c"), ("INT", "d")]
    table.toList = [("INT", "d"), ("int", "b"), ("Int(11)", "c")] ∧
      table.lookup "int" = "b" ∧ table.lookup "int unsigned" = "d" := by
  decide

end TypeTable
end ResponseTypes
