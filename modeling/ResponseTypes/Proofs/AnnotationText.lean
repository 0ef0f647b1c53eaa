import Mathlib.Data.List.Basic
import ResponseTypes.Column
import ResponseTypes.Settings

/-!
# What annotations are made of

An inferred annotation is built from a few base annotations by putting array marks around them, so
whatever holds of these and is kept by the marks holds of every inferred annotation.  An annotation
of a column comes from the type table in effect, whose entries are built in or a user's own.

## Main definitions

- `Inference.baseTypes`: the annotations that arrays are built from.
- `TypeTable.Gives`: all annotations that a table lists have a property.

## Main statements

- `Inference.typeOf_of_closed`: a property of the base annotations that arrays keep.
- `Inference.not_mem_typeOf`: a character that is in no base annotation and in no array mark.
- `TypeTable.Gives.insertAll`, `TypeTable.Gives.lookup`: what a table lists is what it gives.
- `Column.newline_not_mem_typeIn`: no annotation of a column breaks its line if no entry does.
-/

namespace ResponseTypes

/-! ## Inferred annotations -/

namespace Inference

/-- The annotations that are not those of arrays. -/
def baseTypes (i : Inference) : List String :=
  [i.dialect.nullType i.nullPolicy, i.dialect.boolean, i.dialect.number, i.dialect.date,
    i.dialect.string, i.dialect.object, i.dialect.unknown]

section

variable {P : String → Prop} {i : Inference}

mutual

/-- A property of the base annotations that arrays keep is one of every inferred annotation. -/
theorem typeOf_of_closed (hbase : ∀ type ∈ i.baseTypes, P type)
    (harray : ∀ type, P type → P (i.dialect.arrayOf type)) (sample : Sample) :
    P (i.typeOf sample) := by
  cases sample with
  | null => exact hbase _ (by simp [typeOf, baseTypes])
  | boolean b => exact hbase _ (by simp [typeOf, baseTypes])
  | integer n => exact hbase _ (by simp [typeOf, baseTypes])
  | double x => exact hbase _ (by simp [typeOf, baseTypes])
  | text s =>
    rw [typeOf]
    split_ifs
    · exact hbase _ (by simp [baseTypes])
    · exact hbase _ (by simp [baseTypes])
  | sequence items =>
    rw [typeOf]
    exact harray _ (firstItem_of_closed hbase harray items)
  | mapping entries =>
    rw [typeOf]
    split_ifs
    · exact harray _ (firstEntry_of_closed hbase harray entries)
    · exact hbase _ (by simp [baseTypes])

theorem firstItem_of_closed (hbase : ∀ type ∈ i.baseTypes, P type)
    (harray : ∀ type, P type → P (i.dialect.arrayOf type)) (items : List Sample) :
    P (i.firstItem items) := by
  cases items with
  | nil => exact hbase _ (by simp [firstItem, baseTypes])
  | cons first rest =>
    rw [firstItem]
    exact typeOf_of_closed hbase harray first

theorem firstEntry_of_closed (hbase : ∀ type ∈ i.baseTypes, P type)
    (harray : ∀ type, P type → P (i.dialect.arrayOf type)) (entries : List (String × Sample)) :
    P (i.firstEntry entries) := by
  cases entries with
  | nil => exact hbase _ (by simp [firstEntry, baseTypes])
  | cons first rest =>
    rw [firstEntry]
    exact typeOf_of_closed hbase harray first.2

end

end

/-- The annotation of an array has the characters of its element's, and the array marks. -/
theorem not_mem_arrayOf {c : Char} (hmarks : c ∉ "Array<>()[]".toList) (dialect : Dialect)
    {type : String} (htype : c ∉ type.toList) : c ∉ (dialect.arrayOf type).toList := by
  cases dialect with
  | typeScript =>
    rw [Dialect.arrayOf]
    split_ifs <;> simp_all
  | jsDoc =>
    rw [Dialect.arrayOf]
    simp_all

/-- A character that is in no base annotation and in no array mark is in no inferred annotation. -/
theorem not_mem_typeOf {i : Inference} {c : Char}
    (hbase : ∀ type ∈ i.baseTypes, c ∉ type.toList) (hmarks : c ∉ "Array<>()[]".toList)
    (sample : Sample) : c ∉ (i.typeOf sample).toList :=
  typeOf_of_closed (P := fun type => c ∉ type.toList) hbase
    (fun _ => not_mem_arrayOf hmarks i.dialect) sample

/-- The characters of inferred annotations are neither line feeds nor slashes. -/
theorem newline_not_mem_typeOf (i : Inference) (sample : Sample) :
    '\n' ∉ (i.typeOf sample).toList := by
  refine not_mem_typeOf ?_ (by decide) sample
  obtain ⟨dialect, policy⟩ := i
  cases dialect <;> cases policy <;> decide

theorem slash_not_mem_typeOf (i : Inference) (sample : Sample) :
    '/' ∉ (i.typeOf sample).toList := by
  refine not_mem_typeOf ?_ (by decide) sample
  obtain ⟨dialect, policy⟩ := i
  cases dialect <;> cases policy <;> decide

end Inference

/-! ## Annotations of a table -/

namespace Keyed

variable {α : Type}

theorem mem_of_get?_eq_some {entries : Keyed α} {key : String} {value : α}
    (h : entries.get? key = some value) : (key, value) ∈ entries := by
  induction entries with
  | nil => cases h
  | cons first rest ih =>
    rw [get?] at h
    split_ifs at h with hkey
    · rw [← hkey, ← Option.some.inj h]
      exact List.mem_cons_self
    · exact List.mem_cons_of_mem _ (ih h)

/-- An insertion brings in no value but its own. -/
theorem value_of_mem_insert {entries : Keyed α} {key : String} {value : α} {entry : String × α}
    (h : entry ∈ entries.insert key value) : entry.2 = value ∨ entry ∈ entries := by
  induction entries with
  | nil => exact .inl (by rw [List.mem_singleton.1 h])
  | cons first rest ih =>
    rw [insert] at h
    split_ifs at h with hkey
    · rcases List.mem_cons.1 h with rfl | hrest
      · exact .inl rfl
      · exact .inr (List.mem_cons_of_mem _ hrest)
    · rcases List.mem_cons.1 h with rfl | hrest
      · exact .inr List.mem_cons_self
      · exact (ih hrest).imp_right (List.mem_cons_of_mem _)

end Keyed

namespace TypeTable

/-- All annotations that a table lists have a property. -/
structure Gives (P : String → Prop) (table : TypeTable) : Prop where
  entries : ∀ entry ∈ table.entries, P entry.2
  spellings : ∀ entry ∈ table.spellings, P entry.2

namespace Gives

variable {P : String → Prop} {table : TypeTable}

theorem insert (h : Gives P table) {declared type : String} (htype : P type) :
    Gives P (table.insert declared type) := by
  constructor
  · intro entry hentry
    rcases Keyed.value_of_mem_insert hentry with heq | hmem
    · rwa [heq]
    · exact h.entries entry hmem
  · intro entry hentry
    rcases Keyed.value_of_mem_insert hentry with heq | hmem
    · rwa [heq]
    · exact h.spellings entry hmem

theorem insertAll (h : Gives P table) {more : List (String × String)}
    (hmore : ∀ entry ∈ more, P entry.2) : Gives P (table.insertAll more) := by
  induction more generalizing table with
  | nil => exact h
  | cons first rest ih =>
    obtain ⟨hfirst, hrest⟩ := List.forall_mem_cons.1 hmore
    exact ih (h.insert hfirst) hrest

/-- What a table gives is what it lists, or that nothing is known. -/
theorem lookup (h : Gives P table) (hunknown : P table.dialect.unknown) (declared : String) :
    P (table.lookup declared) := by
  rw [TypeTable.lookup]
  cases hget : table.get? declared with
  | none => exact hunknown
  | some type =>
    rw [TypeTable.get?] at hget
    cases hentry : table.entries.get? declared with
    | some found =>
      rw [hentry] at hget
      obtain rfl := Option.some.inj hget
      exact h.entries _ (Keyed.mem_of_get?_eq_some hentry)
    | none =>
      rw [hentry] at hget
      exact h.spellings _ (Keyed.mem_of_get?_eq_some hget)

end Gives

/-- The built-in tables list the standard annotations as their dialect spells them. -/
theorem gives_builtin {P : String → Prop} {dialect : Dialect}
    (hstandard : ∀ entry ∈ standardTypes,
      P (match dialect with | .typeScript => entry.2 | .jsDoc => respell entry.2)) :
    Gives P (builtin dialect) := by
  have hempty : Gives P ⟨dialect, [], []⟩ := ⟨by simp, by simp⟩
  refine hempty.insertAll fun entry hentry => ?_
  obtain ⟨standard, hmem, rfl⟩ := List.mem_map.1 hentry
  exact hstandard standard hmem

end TypeTable

namespace Settings

/-- If no mapping of a user has a line feed, the table in effect lists none. -/
theorem gives_typeTable {settings : Settings}
    (h : ∀ mapping ∈ settings.typeMappings, '\n' ∉ mapping.2.toList) :
    settings.typeTable.Gives fun type => '\n' ∉ type.toList := by
  rw [typeTable]
  cases settings.dialect with
  | typeScript => exact (TypeTable.gives_builtin (by decide)).insertAll h
  | jsDoc => exact TypeTable.gives_builtin (by decide)

end Settings

namespace Column

/-- A column's annotation is one that its table lists, perhaps widened by null, or one of the
dialect's own. -/
theorem newline_not_mem_typeIn {table : TypeTable}
    (h : table.Gives fun type => '\n' ∉ type.toList) (column : Column) :
    '\n' ∉ (column.typeIn table).toList := by
  have hunknown : '\n' ∉ table.dialect.unknown.toList := by
    cases table.dialect <;> decide
  have hlookup := h.lookup hunknown column.declaredType
  rw [typeIn]
  split_ifs
  · exact (by decide : '\n' ∉ "number".toList)
  · exact (by decide : '\n' ∉ "string".toList)
  · cases hdialect : table.dialect with
    | typeScript =>
      rw [Dialect.nullable, String.toList_append, List.mem_append]
      exact not_or.2 ⟨hlookup, by decide⟩
    | jsDoc => exact hlookup
  · exact hlookup

end Column
end ResponseTypes
