import Mathlib.Data.List.Basic
import ResponseTypes.Column

/-!
# The type tables of the two dialects

The built-in JSDoc table is the TypeScript one with every annotation respelled.  Respelling goes
through all that a table is made and asked by: an insertion of respelled annotations, and a look-up
by the letters of a declared type, by its plain spelling, or in vain.  So the two tables agree on
every declared type, whether it is listed or not.

## Main definitions

- `Keyed.mapValues`: the same keys with other values.
- `TypeTable.respelled`: a table with its annotations respelled for JSDoc.

## Main statements

- `TypeTable.builtin_jsDoc`: the JSDoc table is the respelled TypeScript table.
- `TypeTable.lookup_respelled`, `Column.typeIn_respelled`: what a respelled table gives.
- `Column.builtin_tables_agree`: both for the built-in tables.
-/

namespace ResponseTypes

/-! ## Other values under the same keys -/

namespace Keyed

variable {α β : Type}

/-- The same keys with other values. -/
def mapValues (f : α → β) (entries : Keyed α) : Keyed β :=
  entries.map fun entry => (entry.1, f entry.2)

theorem get?_mapValues (f : α → β) (entries : Keyed α) (key : String) :
    (entries.mapValues f).get? key = (entries.get? key).map f := by
  induction entries with
  | nil => rfl
  | cons first rest ih =>
    rw [mapValues, List.map_cons, get?, get?]
    split_ifs
    · rfl
    · exact ih

theorem insert_mapValues (f : α → β) (entries : Keyed α) (key : String) (value : α) :
    (entries.mapValues f).insert key (f value) = (entries.insert key value).mapValues f := by
  induction entries with
  | nil => rfl
  | cons first rest ih =>
    rw [mapValues, List.map_cons, insert, insert]
    split_ifs
    · rfl
    · rw [mapValues, List.map_cons]
      exact congrArg _ ih

end Keyed

/-! ## Respelled tables -/

namespace TypeTable

/-- A table with its annotations respelled for JSDoc. -/
def respelled (table : TypeTable) : TypeTable where
  dialect := .jsDoc
  entries := table.entries.mapValues respell
  spellings := table.spellings.mapValues respell

theorem insert_respelled (table : TypeTable) (declared type : String) :
    table.respelled.insert declared (respell type) = (table.insert declared type).respelled := by
  rw [insert, respelled, Keyed.insert_mapValues, Keyed.insert_mapValues]
  rfl

theorem insertAll_respelled (table : TypeTable) (more : List (String × String)) :
    table.respelled.insertAll (more.map fun (declared, type) => (declared, respell type)) =
      (table.insertAll more).respelled := by
  induction more generalizing table with
  | nil => rfl
  | cons first rest ih =>
    have hfirst := insert_respelled table first.1 first.2
    rw [List.map_cons, insertAll, List.foldl_cons]
    dsimp only
    rw [hfirst]
    exact ih (table.insert first.1 first.2)

/-- Entries do not change the dialect. -/
theorem dialect_insertAll (table : TypeTable) (more : List (String × String)) :
    (table.insertAll more).dialect = table.dialect := by
  induction more generalizing table with
  | nil => rfl
  | cons first rest ih => exact ih (table.insert first.1 first.2)

theorem dialect_builtin (dialect : Dialect) : (builtin dialect).dialect = dialect :=
  dialect_insertAll _ _

/-- The JSDoc table is the TypeScript table, respelled. -/
theorem builtin_jsDoc : builtin .jsDoc = (builtin .typeScript).respelled := by
  have hplain : (standardTypes.map fun (declared, type) => (declared, type)) = standardTypes :=
    List.map_id _
  rw [builtin, builtin]
  dsimp only
  rw [hplain, ← insertAll_respelled]
  rfl

theorem get?_respelled (table : TypeTable) (declared : String) :
    table.respelled.get? declared = (table.get? declared).map respell := by
  rw [get?, get?, respelled, Keyed.get?_mapValues, Keyed.get?_mapValues]
  cases table.entries.get? declared <;> rfl

/-- A type that is not listed is unknown in either spelling. -/
theorem lookup_respelled {table : TypeTable} (h : table.dialect = .typeScript) (declared : String) :
    table.respelled.lookup declared = respell (table.lookup declared) := by
  rw [lookup, lookup, get?_respelled, h]
  cases table.get? declared <;> rfl

end TypeTable

/-! ## Columns -/

namespace Column

open TypeTable

/-- JSDoc has nothing to say of null, and the annotations of decimals and enumerations are the same
in both spellings. -/
theorem typeIn_respelled {table : TypeTable} (h : table.dialect = .typeScript) (column : Column) :
    column.typeIn table.respelled = respell ({ column with nullable := false }.typeIn table) := by
  obtain ⟨name, declared, nullable, enumeration, decimal⟩ := column
  cases decimal with
  | true => rfl
  | false =>
    cases enumeration with
    | true => rfl
    | false => cases nullable <;> exact lookup_respelled h declared

/-- In TypeScript a column that may be null is widened by null. -/
theorem typeIn_nullable {table : TypeTable} (h : table.dialect = .typeScript)
    (name declared : String) :
    typeIn { name, declaredType := declared, nullable := true } table =
      typeIn { name, declaredType := declared } table ++ " | null" := by
  rw [typeIn, typeIn, h]
  rfl

/-- The built-in tables of the two dialects agree.  The same declared types are listed in both, and
any declared type has in JSDoc the respelled annotation that it has in TypeScript; if it is not
listed, this is `*` for `any`.  So has any column, but for null, of which JSDoc says nothing; and by
null a TypeScript column is widened if it is neither a decimal nor an enumeration. -/
theorem builtin_tables_agree :
    (∀ declared, (builtin .jsDoc).get? declared =
      ((builtin .typeScript).get? declared).map respell) ∧
    (∀ declared, (builtin .jsDoc).lookup declared =
      respell ((builtin .typeScript).lookup declared)) ∧
    respell Dialect.typeScript.unknown = Dialect.jsDoc.unknown ∧
    (∀ column : Column, column.typeIn (builtin .jsDoc) =
      respell ({ column with nullable := false }.typeIn (builtin .typeScript))) ∧
    ∀ name declared, typeIn { name, declaredType := declared, nullable := true }
        (builtin .typeScript) =
      typeIn { name, declaredType := declared } (builtin .typeScript) ++ " | null" := by
  have hdialect := dialect_builtin .typeScript
  rw [builtin_jsDoc]
  exact ⟨get?_respelled _, lookup_respelled hdialect, rfl, typeIn_respelled hdialect,
    typeIn_nullable hdialect⟩

end Column
end ResponseTypes
