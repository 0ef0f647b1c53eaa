import ResponseTypes.Proofs.ReadingRuns

/-!
# Questions without an answer

A source is asked four questions about each column of a model, and each of them may fail, for
whatever reason.  A question that fails is as good as one that is answered by nothing: by no type,
or by a no.  The one thing that tells the two apart is a warning.

A column is described by its own four answers, so nothing that fails for one column shows in
another, and a model is declared as soon as its manifest can be loaded and its columns are known.

## Main definitions

- `Question`: what a source is asked about a column.
- `SchemaSource.Answers`: the four answers about one column.
- `SchemaSource.defaulted`: a source that answers by nothing where another one fails.
- `Generation.warnings`: the warnings about columns.

## Main statements

- `Generation.describeAll_eq`: columns are described one by one.
- `Generation.perform_modelDeclaration`: what becomes of a session when a model is declared.
- `Generation.modelDeclaration_defaulted`: failing and being answered by nothing come to the same.
-/

namespace ResponseTypes

/-! ## Questions and answers -/

/-- What a source is asked about a column. -/
inductive Question where
  | declaredType
  | nullability
  | enumeration
  | decimal
deriving DecidableEq, Repr, Inhabited

namespace Question

/-- The question as it is called in a warning. -/
def name : Question → String
  | declaredType => "type"
  | nullability => "nullability"
  | enumeration => "enum"
  | decimal => "decimal"

/-- The questions in the order in which they are asked. -/
def all : List Question := [declaredType, nullability, enumeration, decimal]

end Question

namespace SchemaSource

/-- The answers of a source about one column. -/
structure Answers where
  declaredType : Except SchemaFault String
  nullable : Except SchemaFault Bool
  enumeration : Except SchemaFault Bool
  decimal : Except SchemaFault Bool

/-- What a source answers about a column. -/
def answers (schema : SchemaSource) (table column : String) : Answers where
  declaredType := schema.declaredType table column
  nullable := schema.nullable table column
  enumeration := schema.enumeration table column
  decimal := schema.decimal table column

/-- The fault in the place of an answer. -/
def faultOf {α : Type} : Except SchemaFault α → Option SchemaFault
  | .ok _ => none
  | .error fault => some fault

namespace Answers

/-- Why a question has no answer, if it has none. -/
def fault? (answers : Answers) : Question → Option SchemaFault
  | .declaredType => faultOf answers.declaredType
  | .nullability => faultOf answers.nullable
  | .enumeration => faultOf answers.enumeration
  | .decimal => faultOf answers.decimal

/-- The column of which these are the answers. -/
def column (answers : Answers) (name : String) : Column where
  name
  declaredType := answers.declaredType.toOption.getD ""
  nullable := answers.nullable.toOption.getD false
  enumeration := answers.enumeration.toOption.getD false
  decimal := answers.decimal.toOption.getD false

/-- The same answers, and nothing in the place of each that is missing. -/
def defaulted (answers : Answers) : Answers where
  declaredType := .ok (answers.declaredType.toOption.getD "")
  nullable := .ok (answers.nullable.toOption.getD false)
  enumeration := .ok (answers.enumeration.toOption.getD false)
  decimal := .ok (answers.decimal.toOption.getD false)

theorem column_defaulted (answers : Answers) (name : String) :
    answers.defaulted.column name = answers.column name := rfl

theorem fault?_defaulted (answers : Answers) (question : Question) :
    answers.defaulted.fault? question = none := by
  cases question <;> rfl

end Answers

/-- A source that knows the same columns and answers by nothing where the other one fails. -/
def defaulted (schema : SchemaSource) : SchemaSource where
  columns := schema.columns
  declaredType table column := (schema.answers table column).defaulted.declaredType
  nullable table column := (schema.answers table column).defaulted.nullable
  enumeration table column := (schema.answers table column).defaulted.enumeration
  decimal table column := (schema.answers table column).defaulted.decimal

theorem answers_defaulted (schema : SchemaSource) (table column : String) :
    schema.defaulted.answers table column = (schema.answers table column).defaulted := rfl

end SchemaSource

namespace Generation

open Session

/-! ## Descriptions -/

/-- The warnings about one column, in the order of the questions. -/
def columnWarnings (schema : SchemaSource) (table column : String) : List Event :=
  Question.all.filterMap fun question =>
    ((schema.answers table column).fault? question).map (fallback question.name table column)

/-- The warnings about columns, one column after the other. -/
def warnings (schema : SchemaSource) (table : String) (names : List String) : List Event :=
  names.flatMap (columnWarnings schema table)

/-- The columns of the given names by the answers about each. -/
def columnsOf (schema : SchemaSource) (table : String) (names : List String) : List Column :=
  names.map fun name => (schema.answers table name).column name

/-- A column is described by its answers, with one warning for each that is missing. -/
theorem describe_eq (schema : SchemaSource) (table name : String) :
    describe schema table name =
      ((schema.answers table name).column name, columnWarnings schema table name) := by
  rw [describe, columnWarnings, SchemaSource.answers]
  cases schema.declaredType table name <;> cases schema.nullable table name <;>
    cases schema.enumeration table name <;> cases schema.decimal table name <;> rfl

theorem describeAll_eq (schema : SchemaSource) (table : String) :
    describeAll schema table = (columnNames schema table).map fun names =>
      (columnsOf schema table names, warnings schema table names) := by
  rw [describeAll]
  cases columnNames schema table with
  | error failure => rfl
  | ok names =>
    have hcolumns : (names.map (describe schema table)).map (·.1) =
        columnsOf schema table names := by
      rw [List.map_map]
      exact List.map_congr_left fun name _ => congrArg Prod.fst (describe_eq schema table name)
    have hwarnings : (names.map (describe schema table)).flatMap (·.2) =
        warnings schema table names := by
      rw [List.flatMap_map]
      exact congrArg names.flatMap <| funext fun name =>
        congrArg Prod.snd (describe_eq schema table name)
    change Except.ok (_, _) = Except.ok (_, _)
    rw [hcolumns, hwarnings]

/-- A source and the one that answers by nothing describe the same columns. -/
theorem columnsOf_defaulted (schema : SchemaSource) (table : String) (names : List String) :
    columnsOf schema.defaulted table names = columnsOf schema table names :=
  List.map_congr_left fun name _ => (schema.answers table name).column_defaulted name

/-- There is nothing to warn of if every question is answered. -/
theorem warnings_defaulted (schema : SchemaSource) (table : String) (names : List String) :
    warnings schema.defaulted table names = [] := by
  refine List.flatMap_eq_nil_iff.2 fun name _ => List.filterMap_eq_nil_iff.2 fun question _ => ?_
  rw [SchemaSource.answers_defaulted, SchemaSource.Answers.fault?_defaulted, Option.map_none]

/-! ## Declarations -/

/-- A model is declared by the answers about its columns, and all warnings about them are put out.
Without a manifest or without columns nothing is put out. -/
theorem perform_modelDeclaration (settings : Settings) (schema : SchemaSource) (name : String)
    (session : Session) :
    session.perform (modelDeclaration settings schema name) =
      match (session.perform (Model.load settings.modelsPath name)).1 with
      | .error failure => (.error failure, session)
      | .ok model =>
        match columnNames schema model.table with
        | .error failure => (.error failure, session)
        | .ok names =>
          (.ok (declarationOf settings model (columnsOf schema model.table names)),
            { session with output :=
                session.output ++ (warnings schema model.table names).map .event }) := by
  rw [modelDeclaration, perform_bind, Model.still_load settings.modelsPath name session]
  cases (session.perform (Model.load settings.modelsPath name)).1 with
  | error failure => rfl
  | ok model =>
    dsimp only
    rw [describeAll_eq]
    cases columnNames schema model.table with
    | error failure => rfl
    | ok names =>
      dsimp only [Except.map]
      rw [perform_bind, perform_reports]
      rfl

/-- The names of the columns are known if the source knows them. -/
theorem columnNames_eq_ok {schema : SchemaSource} {table : String} {names : List String} :
    columnNames schema table = .ok names ↔ schema.columns table = .ok names := by
  rw [columnNames]
  cases schema.columns table <;> simp [Except.mapError]

theorem columnNames_defaulted (schema : SchemaSource) (table : String) :
    columnNames schema.defaulted table = columnNames schema table := rfl

/-- The field of a column, which is told by the answers about this column. -/
def fieldOf (settings : Settings) (name : String) (answers : SchemaSource.Answers) : Field :=
  ⟨name, (answers.column name).typeIn settings.typeTable⟩

theorem fields_columnsOf (settings : Settings) (schema : SchemaSource) (table : String)
    (names : List String) : Column.fields (columnsOf schema table names) settings.typeTable =
      names.map fun name => fieldOf settings name (schema.answers table name) := by
  rw [Column.fields, columnsOf, List.map_map]
  rfl

theorem names_columnsOf (settings : Settings) (schema : SchemaSource) (table : String)
    (names : List String) : (Column.fields (columnsOf schema table names) settings.typeTable).map
      (·.name) = names := by
  rw [fields_columnsOf, List.map_map]
  exact List.map_id names

/-- A model is declared alike, or fails alike, whether questions about its columns fail or are
answered by nothing.  It fails only without its manifest or its columns.  Its fields are the columns
of the table in order, each told by the four answers about it, and there is one warning for each
question that fails. -/
theorem modelDeclaration_defaulted (settings : Settings) (schema : SchemaSource) (name : String)
    (session : Session) :
    (session.perform (modelDeclaration settings schema.defaulted name)) =
      ((session.perform (modelDeclaration settings schema name)).1, session) ∧
    ((∃ failure, (session.perform (modelDeclaration settings schema name)).1 = .error failure) ↔
      (∃ failure, (session.perform (Model.load settings.modelsPath name)).1 = .error failure) ∨
      ∃ model fault, (session.perform (Model.load settings.modelsPath name)).1 = .ok model ∧
        schema.columns model.table = .error fault) ∧
    (∀ failure, (session.perform (modelDeclaration settings schema name)).1 = .error failure →
      (session.perform (modelDeclaration settings schema name)).2 = session) ∧
    ∀ model names, (session.perform (Model.load settings.modelsPath name)).1 = .ok model →
      schema.columns model.table = .ok names →
      ∃ declaration,
        session.perform (modelDeclaration settings schema name) =
          (.ok declaration, { session with output :=
            session.output ++ (names.flatMap fun column => Question.all.filterMap fun question =>
              ((schema.answers model.table column).fault? question).map
                (fallback question.name model.table column)).map .event }) ∧
        declaration.fields.map (·.name) = names ∧
        declaration.fields = names.map fun column =>
          fieldOf settings column (schema.answers model.table column) := by
  rw [perform_modelDeclaration, perform_modelDeclaration]
  cases (session.perform (Model.load settings.modelsPath name)).1 with
  | error failure =>
    refine ⟨rfl, ⟨fun _ => .inl ⟨failure, rfl⟩, fun _ => ⟨failure, rfl⟩⟩, fun _ _ => rfl, ?_⟩
    rintro model names ⟨⟩
  | ok model =>
    dsimp only
    rw [columnNames_defaulted]
    cases hnames : columnNames schema model.table with
    | error failure =>
      refine ⟨rfl, ⟨fun _ => .inr ?_, fun _ => ⟨failure, rfl⟩⟩, fun _ _ => rfl, ?_⟩
      · cases hcolumns : schema.columns model.table with
        | error fault => exact ⟨model, fault, rfl, hcolumns⟩
        | ok names =>
          rw [columnNames_eq_ok.2 hcolumns] at hnames
          cases hnames
      · rintro _ names ⟨rfl⟩ hcolumns
        rw [columnNames_eq_ok.2 hcolumns] at hnames
        cases hnames
    | ok names =>
      have hcolumns := columnNames_eq_ok.1 hnames
      refine ⟨?_, ⟨?_, ?_⟩, ?_, ?_⟩
      · dsimp only
        rw [columnsOf_defaulted, warnings_defaulted, List.map_nil, List.append_nil]
      · rintro ⟨failure, ⟨⟩⟩
      · rintro (⟨failure, ⟨⟩⟩ | ⟨_, fault, ⟨rfl⟩, hfault⟩)
        rw [hcolumns] at hfault
        cases hfault
      · rintro failure ⟨⟩
      · rintro _ others ⟨rfl⟩ hothers
        obtain rfl := Except.ok.inj (hcolumns.symm.trans hothers)
        exact ⟨_, rfl, names_columnsOf settings schema model.table names,
          fields_columnsOf settings schema model.table names⟩

/-- A source that knows two columns, one of them twice, and little else. -/
def reticent : SchemaSource where
  columns _ := .ok ["id", "legacy", "id"]
  declaredType table column :=
    if column = "id" then .ok "bigint" else .error (.noColumn table column)
  nullable _ _ := .error (.introspection "driver went away")
  enumeration table column := if column = "id" then .ok false else .error (.noTable table)

/-- A session with an empty manifest. -/
def emptyManifest : Session where
  files :=
    { entries :=
        [(["models".toList], .directory 0), (["models".toList, "User.json".toList], .file [] 0)]
      home := [] }
  now := 0
  stamp := "2025-06-29 10:30:00"

theorem modelDeclaration_defaulted_reticent :
    ∃ declaration after,
      emptyManifest.perform (modelDeclaration {} reticent "User") = (.ok declaration, after) ∧
      emptyManifest.perform (modelDeclaration {} reticent.defaulted "User") =
        (.ok declaration, emptyManifest) ∧
      declaration.fields = [⟨"id", "number"⟩, ⟨"legacy", "any"⟩, ⟨"id", "number"⟩] ∧
      after.events.map (·.message) =
        ["nullability lookup failed, falling back", "type lookup failed, falling back",
          "nullability lookup failed, falling back", "enum lookup failed, falling back",
          "nullability lookup failed, falling back"] := by
  obtain ⟨hdefaulted, -, -, hdeclared⟩ :=
    modelDeclaration_defaulted {} reticent "User" emptyManifest
  have hload : (emptyManifest.perform (Model.load "models" "User")).1 =
      .ok ⟨"User", "users", "models/User.json"⟩ := by
    rw [(Model.load_yields "models" "User" emptyManifest.files emptyManifest.now
      emptyManifest.stamp).perform_fst]
    decide +kernel
  obtain ⟨declaration, hperform, -, hfields⟩ :=
    hdeclared ⟨"User", "users", "models/User.json"⟩ _ hload rfl
  refine ⟨declaration, _, hperform, by rw [hdefaulted, hperform], ?_, by decide⟩
  rw [hfields]
  decide +kernel

end Generation
end ResponseTypes
