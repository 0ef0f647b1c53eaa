import Mathlib.Data.List.Forall2
import ResponseTypes.Proofs.UnansweredQuestions

/-!
# Schemas as sources of answers

A schema is asked for the names of a table's columns, and then four questions about each of them.
Every question looks the column up anew, but all of them look at the same place: at the first column
of this name.  So either all four are answered from one column, or all four fail, and then for one
reason, which is the table or else the column.

A name that a table lists has a first column.  A model that is declared by a schema is therefore
declared without warnings, and a column that is listed twice is described twice by the first.

## Main definitions

- `Schema.IsFirst`: the first column of a name in a table.
- `SchemaSource.Answers.of`, `SchemaSource.Answers.failing`: answers from one column, and none at
  all.

## Main statements

- `Schema.answers_cases`: a schema answers all questions, or none.
- `Generation.perform_modelDeclaration_source`: models are declared by schemas without warnings.
- `Generation.schema_coherent`: the answers of a schema, and the declarations made from them.
-/

namespace ResponseTypes

theorem Keyed.get?_eq_none_iff {α : Type} {entries : Keyed α} {key : String} :
    entries.get? key = none ↔ key ∉ entries.keys := by
  induction entries with
  | nil => simp [keys]
  | cons e rest ih =>
    rw [get?, keys, List.map_cons, List.mem_cons, not_or, ← keys, ← ih, eq_comm (a := key)]
    split_ifs with h <;> simp [h]

namespace SchemaSource.Answers

/-- The answers of one column. -/
def of (column : Column) : Answers where
  declaredType := .ok column.declaredType
  nullable := .ok column.nullable
  enumeration := .ok column.enumeration
  decimal := .ok column.decimal

/-- No question is answered, and for one reason. -/
def failing (fault : SchemaFault) : Answers where
  declaredType := .error fault
  nullable := .error fault
  enumeration := .error fault
  decimal := .error fault

theorem fault?_of (column : Column) (question : Question) :
    (of column).fault? question = none := by
  cases question <;> rfl

theorem failing_inj {fault fault' : SchemaFault} :
    failing fault = failing fault' ↔ fault = fault' :=
  ⟨fun h => Except.error.inj (congrArg declaredType h), congrArg failing⟩

theorem of_ne_failing (column : Column) (fault : SchemaFault) : of column ≠ failing fault := by
  intro h
  cases congrArg declaredType h

end SchemaSource.Answers

namespace Schema

open SchemaSource

variable (schema : Schema) (table name : String)

/-! ## One column for all questions -/

/-- The first column of a name in a table. -/
def IsFirst (column : Column) : Prop :=
  ∃ before after, schema.tables.get? table = some (before ++ column :: after) ∧
    column.name = name ∧ ∀ other ∈ before, other.name ≠ name

/-- All questions look the column up alike. -/
theorem answers_source : schema.source.answers table name =
    match schema.column table name with
    | .ok column => .of column
    | .error fault => .failing fault := by
  change Answers.mk ((schema.column table name).map _) ((schema.column table name).map _)
    ((schema.column table name).map _) ((schema.column table name).map _) = _
  cases schema.column table name <;> rfl

variable {schema table name}

theorem source_columns_eq_ok {names : List String} : schema.source.columns table = .ok names ↔
    ∃ columns, schema.tables.get? table = some columns ∧ columns.map (·.name) = names := by
  change (schema.columns table).map _ = _ ↔ _
  rw [columns]
  cases schema.tables.get? table <;> simp [Except.map]

theorem source_columns_eq_error {fault : SchemaFault} :
    schema.source.columns table = .error fault ↔
      schema.tables.get? table = none ∧ .noTable table = fault := by
  change (schema.columns table).map _ = _ ↔ _
  rw [columns]
  cases schema.tables.get? table <;> simp [Except.map]

/-- The first column of a name is the one that is found. -/
theorem isFirst_iff {column : Column} :
    schema.IsFirst table name column ↔ schema.column table name = .ok column := by
  rw [IsFirst, Schema.column, columns]
  cases schema.tables.get? table with
  | none => simp [bind, Except.bind]
  | some columns =>
    have hfind : columns.find? (·.name == name) = some column ↔
        ∃ before after, columns = before ++ column :: after ∧ column.name = name ∧
          ∀ other ∈ before, other.name ≠ name := by
      simp [List.find?_eq_some_iff_append, and_left_comm]
    simp only [Option.some.injEq, ← hfind, bind, Except.bind]
    cases columns.find? (·.name == name) <;> simp [pure, Except.pure]

variable (schema table name)

/-- A schema answers all questions about a column from the first of its name, or none, because there
is no such table, or no such column in it. -/
theorem answers_cases :
    (schema.tables.get? table = none ∧
      schema.source.answers table name = .failing (.noTable table)) ∨
    ∃ columns, schema.tables.get? table = some columns ∧
      ((name ∉ columns.map (·.name) ∧
        schema.source.answers table name = .failing (.noColumn table name)) ∨
      (name ∈ columns.map (·.name) ∧ ∃ column, schema.IsFirst table name column ∧
        schema.source.answers table name = .of column)) := by
  simp only [isFirst_iff]
  rw [answers_source, column, columns]
  cases schema.tables.get? table with
  | none => exact .inl ⟨rfl, rfl⟩
  | some columns =>
    refine .inr ⟨columns, rfl, ?_⟩
    simp only [bind, Except.bind]
    cases hfind : columns.find? (·.name == name) with
    | none => exact .inl ⟨by simpa using hfind, rfl⟩
    | some column =>
      have hname := List.find?_some hfind
      rw [beq_iff_eq] at hname
      exact .inr ⟨List.mem_map.2 ⟨column, List.mem_of_find?_eq_some hfind, hname⟩, column, rfl, rfl⟩

variable {schema table name}

/-- No question is answered for want of the table exactly if there is no such table. -/
theorem answers_eq_noTable_iff :
    schema.source.answers table name = .failing (.noTable table) ↔
      schema.tables.get? table = none := by
  rcases schema.answers_cases table name with
    ⟨hnone, hanswers⟩ | ⟨columns, hsome, ⟨-, hanswers⟩ | ⟨-, column, -, hanswers⟩⟩
  · simp [hnone, hanswers]
  · simp [hsome, hanswers, Answers.failing_inj]
  · simp [hsome, hanswers, Answers.of_ne_failing]

/-- No question is answered for want of the column exactly if the table does not list it. -/
theorem answers_eq_noColumn_iff :
    schema.source.answers table name = .failing (.noColumn table name) ↔
      ∃ columns, schema.tables.get? table = some columns ∧ name ∉ columns.map (·.name) := by
  rcases schema.answers_cases table name with
    ⟨hnone, hanswers⟩ | ⟨columns, hsome, ⟨hmissing, hanswers⟩ | ⟨hmem, column, -, hanswers⟩⟩
  · simp [hnone, hanswers, Answers.failing_inj]
  · simpa [hsome, hanswers] using hmissing
  · simpa [hsome, hanswers, Answers.of_ne_failing] using hmem

end Schema

namespace Generation

open Session

variable {schema : Schema} {table : String} {names : List String}

/-! ## Declarations from schemas -/

/-- A schema answers all questions about a column that it lists from the first of its name. -/
theorem answers_of_mem (hnames : schema.source.columns table = .ok names) {name : String}
    (hname : name ∈ names) : ∃ column, schema.IsFirst table name column ∧
      schema.source.answers table name = .of column := by
  obtain ⟨columns, htable, rfl⟩ := Schema.source_columns_eq_ok.1 hnames
  rcases schema.answers_cases table name with ⟨hnone, -⟩ | ⟨_, hsome, ⟨hmissing, -⟩ | ⟨-, hfirst⟩⟩
  · rw [htable] at hnone
    cases hnone
  · obtain rfl := Option.some.inj (htable.symm.trans hsome)
    exact absurd hname hmissing
  · exact hfirst

theorem warnings_source (hnames : schema.source.columns table = .ok names) :
    warnings schema.source table names = [] := by
  refine List.flatMap_eq_nil_iff.2 fun name hname =>
    List.filterMap_eq_nil_iff.2 fun question _ => ?_
  obtain ⟨column, -, hanswers⟩ := answers_of_mem hnames hname
  rw [hanswers, SchemaSource.Answers.fault?_of, Option.map_none]

/-- The field of a listed column is the field of the first column of its name. -/
theorem fieldOf_of {settings : Settings} {name : String} {column : Column}
    (hfirst : schema.IsFirst table name column) :
    fieldOf settings name (.of column) = ⟨name, column.typeIn settings.typeTable⟩ := by
  obtain ⟨_, _, -, rfl, -⟩ := hfirst
  rfl

/-- A model that is declared by a schema has one field for each column that the schema lists, with
the annotation of the first column of this name. -/
theorem fields_source (settings : Settings) (hnames : schema.source.columns table = .ok names) :
    List.Forall₂ (fun name field => ∃ column, schema.IsFirst table name column ∧
        field = ⟨name, column.typeIn settings.typeTable⟩)
      names (Column.fields (columnsOf schema.source table names) settings.typeTable) := by
  rw [fields_columnsOf, List.forall₂_map_right_iff, List.forall₂_same]
  intro name hname
  obtain ⟨column, hfirst, hanswers⟩ := answers_of_mem hnames hname
  exact ⟨column, hfirst, by rw [hanswers, fieldOf_of hfirst]⟩

/-- Nothing is put out when a model is declared by a schema. -/
theorem perform_modelDeclaration_source (settings : Settings) (schema : Schema) (name : String)
    (session : Session) :
    session.perform (modelDeclaration settings schema.source name) =
      ((session.perform (Model.load settings.modelsPath name)).1.bind fun model =>
        (columnNames schema.source model.table).map fun names =>
          declarationOf settings model (columnsOf schema.source model.table names), session) := by
  rw [perform_modelDeclaration]
  cases (session.perform (Model.load settings.modelsPath name)).1 with
  | error failure => rfl
  | ok model =>
    dsimp only [Except.bind]
    cases hnames : columnNames schema.source model.table with
    | error failure => rfl
    | ok names =>
      dsimp only [Except.map]
      rw [warnings_source (columnNames_eq_ok.1 hnames), List.map_nil, List.append_nil]

/-- A schema answers the questions about a column together, from the first column of its name; it
answers none if there is no such table, or no such column among those that it lists.  A model is
declared by it without a warning, by the columns that it lists in their order, each with the
annotation of the first column of its name. -/
theorem schema_coherent (schema : Schema) :
    (∀ table, (∃ fault, schema.source.columns table = .error fault) ↔
      table ∉ schema.tables.keys) ∧
    (∀ table column,
      (schema.source.answers table column = .failing (.noTable table) ↔
        table ∉ schema.tables.keys) ∧
      (schema.source.answers table column = .failing (.noColumn table column) ↔
        ∃ names, schema.source.columns table = .ok names ∧ column ∉ names) ∧
      ∀ names, schema.source.columns table = .ok names → column ∈ names →
        ∃ first, schema.IsFirst table column first ∧
          schema.source.answers table column = .of first) ∧
    ∀ (settings : Settings) (name : String) (session : Session),
      (session.perform (modelDeclaration settings schema.source name)).2 = session ∧
      ∀ model names, (session.perform (Model.load settings.modelsPath name)).1 = .ok model →
        schema.source.columns model.table = .ok names → ∃ declaration,
          (session.perform (modelDeclaration settings schema.source name)).1 = .ok declaration ∧
          declaration.fields.map (·.name) = names ∧
          List.Forall₂ (fun column field => ∃ first, schema.IsFirst model.table column first ∧
            field = ⟨column, first.typeIn settings.typeTable⟩) names declaration.fields := by
  refine ⟨fun table => ?_, fun table column => ⟨?_, ?_, fun _ hnames => answers_of_mem hnames⟩,
    fun settings name session => ?_⟩
  · rw [← Keyed.get?_eq_none_iff]
    simp [Schema.source_columns_eq_error]
  · rw [Schema.answers_eq_noTable_iff, Keyed.get?_eq_none_iff]
  · rw [Schema.answers_eq_noColumn_iff]
    simp [Schema.source_columns_eq_ok]
  · rw [perform_modelDeclaration_source]
    refine ⟨rfl, fun model names hload hnames => ?_⟩
    refine ⟨declarationOf settings model (columnsOf schema.source model.table names), ?_,
      names_columnsOf settings schema.source model.table names, fields_source settings hnames⟩
    rw [hload]
    dsimp only [Except.bind]
    rw [columnNames_eq_ok.2 hnames]
    rfl

/-- A table that lists a column twice, and is the only one. -/
def repeatedly : Schema where
  tables :=
    [("users", [⟨"id", "bigint", false, false, false⟩, ⟨"name", "varchar", true, false, false⟩,
      ⟨"id", "varchar", true, true, true⟩])]

/-- Both fields of the repeated column have the annotation of the first. -/
theorem schema_coherent_repeatedly : ∃ declaration,
    emptyManifest.perform (modelDeclaration {} repeatedly.source "User") =
      (.ok declaration, emptyManifest) ∧
    declaration.fields = [⟨"id", "number"⟩, ⟨"name", "string | null"⟩, ⟨"id", "number"⟩] := by
  have hload : (emptyManifest.perform (Model.load "models" "User")).1 =
      .ok ⟨"User", "users", "models/User.json"⟩ := by
    rw [(Model.load_yields "models" "User" emptyManifest.files emptyManifest.now
      emptyManifest.stamp).perform_fst]
    decide
  obtain ⟨hstill, hdeclared⟩ := (schema_coherent repeatedly).2.2 {} "User" emptyManifest
  obtain ⟨declaration, hdeclaration, -, hfields⟩ := hdeclared _ _ hload rfl
  refine ⟨declaration, Prod.ext hdeclaration hstill, ?_⟩
  simp only [Schema.isFirst_iff] at hfields
  have hid : repeatedly.column "users" "id" = .ok ⟨"id", "bigint", false, false, false⟩ := rfl
  have hname : repeatedly.column "users" "name" = .ok ⟨"name", "varchar", true, false, false⟩ := rfl
  obtain ⟨_, others, ⟨_, hfirst, rfl⟩, hothers, heq⟩ := List.forall₂_cons_left_iff.1 hfields
  obtain ⟨_, last, ⟨_, hsecond, rfl⟩, hlast, rfl⟩ := List.forall₂_cons_left_iff.1 hothers
  obtain ⟨_, none, ⟨_, hthird, rfl⟩, hnone, rfl⟩ := List.forall₂_cons_left_iff.1 hlast
  obtain rfl := List.forall₂_nil_left_iff.1 hnone
  obtain rfl := Except.ok.inj (hid.symm.trans hfirst)
  obtain rfl := Except.ok.inj (hname.symm.trans hsecond)
  obtain rfl := Except.ok.inj (hid.symm.trans hthird)
  rw [heq]
  decide

end Generation
end ResponseTypes
