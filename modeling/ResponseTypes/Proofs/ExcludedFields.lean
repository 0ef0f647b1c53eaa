import ResponseTypes.Proofs.DeclaringLines
import ResponseTypes.Proofs.TypeNames

/-!
# Fields that are left out

A field whose name is excluded has no part in a declaration file: not its value, however deep, not
its place among the others, and not that it is there at all.  Every other field is written once, in
its place.  Both follow from one equation for records and one for columns: what is kept of a
declaration is what would be declared if nothing of an excluded name had been there.

## Main definitions

- `Keyed.without`, `Column.without`: what is left without the excluded names.
- `Generation.recordDeclaration`: the declaration of a record.

## Main statements

- `Generation.keptFields_recordDeclaration`, `Generation.keptFields_declarationOf`: the two
  equations.
- `Generation.render_without`: what files say of records and of columns.
-/

namespace ResponseTypes

/-! ## Without the excluded names -/

/-- The entries whose keys are not excluded, in order. -/
def Keyed.without {α : Type} (entries : Keyed α) (excluded : List String) : Keyed α :=
  entries.filter fun entry => !excluded.contains entry.1

/-- The columns whose names are not excluded, in order. -/
def Column.without (columns : List Column) (excluded : List String) : List Column :=
  columns.filter fun column => !excluded.contains column.name

theorem Sample.ofEntries_eq_map (record : Keyed Json) :
    Sample.ofEntries record = record.map fun entry => (entry.1, Sample.ofJson entry.2) := by
  induction record with
  | nil => rfl
  | cons entry rest ih => rw [Sample.ofEntries, ih, List.map_cons]

namespace Declaration

variable {declaration other : Declaration} {excluded : List String}

@[simp]
theorem keptFields_nil (declaration : Declaration) :
    declaration.keptFields [] = declaration.fields :=
  List.filter_eq_self.2 fun _ _ => rfl

/-- The text of a declaration is that of its kept fields alone. -/
theorem render_eq_of_keptFields (hfields : declaration.keptFields excluded = other.fields)
    (hname : declaration.name = other.name) (hsource : declaration.source = other.source)
    (dialect : Dialect) (generatedAt : String) :
    declaration.render dialect excluded generatedAt = other.render dialect [] generatedAt := by
  refine render_congr hsource hname ?_ dialect generatedAt
  rw [hfields, keptFields_nil]

/-- A text from which nothing was left out is read back whole. -/
theorem read_render_of_isLine (hname : IsLine declaration.name)
    (hsource : ∀ source ∈ declaration.source, IsLine source)
    (htypes : ∀ field ∈ declaration.fields, IsLine field.type) (dialect : Dialect)
    {generatedAt : String} (hstamp : IsLine generatedAt) :
    read dialect (declaration.render dialect [] generatedAt) = some (generatedAt, declaration) := by
  have hline : declaration.OneLine [] :=
    ⟨hname, hsource, fun field hfield => htypes field (List.mem_filter.1 hfield).1⟩
  rw [read_render hline dialect hstamp, keptFields_nil]

end Declaration

namespace Generation

open Declaration

variable {settings : Settings}

/-! ## Declarations -/

/-- The declaration of a record. -/
def recordDeclaration (settings : Settings) (name origin : String) (record : Keyed Json) :
    Declaration where
  name := Naming.typeName name settings.valueSuffix
  fields := settings.inference.fields (Sample.ofEntries record)
  source := some origin

/-- Each entry of a record is annotated by itself. -/
theorem fields_recordDeclaration (settings : Settings) (name origin : String)
    (record : Keyed Json) : (recordDeclaration settings name origin record).fields =
      record.map fun entry => ⟨entry.1, settings.inference.typeOf (Sample.ofJson entry.2)⟩ := by
  rw [recordDeclaration, Inference.fields, Sample.ofEntries_eq_map, List.map_map]
  rfl

/-- What is kept of a record is what is declared of it without the excluded keys. -/
theorem keptFields_recordDeclaration (settings : Settings) (name origin : String)
    (record : Keyed Json) (excluded : List String) :
    (recordDeclaration settings name origin record).keptFields excluded =
      (recordDeclaration settings name origin (record.without excluded)).fields := by
  rw [keptFields, fields_recordDeclaration, fields_recordDeclaration, List.filter_map]
  rfl

/-- What is kept of a model's columns is what is declared of them without the excluded names. -/
theorem keptFields_declarationOf (settings : Settings) (model : Model) (columns : List Column)
    (excluded : List String) :
    (declarationOf settings model columns).keptFields excluded =
      (declarationOf settings model (Column.without columns excluded)).fields := by
  rw [keptFields, declarationOf, declarationOf, Column.fields, Column.fields, List.filter_map]
  rfl

/-! ## Files -/

/-- The file of a record is that of the record without the excluded keys. -/
theorem render_recordDeclaration (settings : Settings) (name origin : String)
    (record : Keyed Json) (excluded : List String) (dialect : Dialect) (generatedAt : String) :
    (recordDeclaration settings name origin record).render dialect excluded generatedAt =
      (recordDeclaration settings name origin (record.without excluded)).render dialect []
        generatedAt := by
  have hfields := keptFields_recordDeclaration settings name origin record excluded
  exact render_eq_of_keptFields hfields rfl rfl dialect generatedAt

/-- The file of a model is that of its columns without the excluded names. -/
theorem render_declarationOf (settings : Settings) (model : Model) (columns : List Column)
    (excluded : List String) (dialect : Dialect) (generatedAt : String) :
    (declarationOf settings model columns).render dialect excluded generatedAt =
      (declarationOf settings model (Column.without columns excluded)).render dialect []
        generatedAt := by
  have hfields := keptFields_declarationOf settings model columns excluded
  exact render_eq_of_keptFields hfields rfl rfl dialect generatedAt

/-- The declaration of a record is read back from its file if nothing that is written as it is
breaks its line. -/
theorem read_render_recordDeclaration {name origin generatedAt : String} (hname : IsLine name)
    (hsuffix : IsLine settings.valueSuffix) (horigin : IsLine origin) (hstamp : IsLine generatedAt)
    (record : Keyed Json) (dialect : Dialect) :
    read dialect ((recordDeclaration settings name origin record).render dialect [] generatedAt) =
      some (generatedAt, recordDeclaration settings name origin record) := by
  have hline : IsLine (recordDeclaration settings name origin record).name :=
    Naming.newline_not_mem_typeName hname hsuffix
  refine read_render_of_isLine hline ?_ ?_ dialect hstamp
  · rintro source ⟨rfl⟩
    exact horigin
  · intro field hfield
    rw [fields_recordDeclaration] at hfield
    obtain ⟨entry, -, rfl⟩ := List.mem_map.1 hfield
    exact settings.inference.newline_not_mem_typeOf _

/-- The declaration of a model is read back from its file under the same condition. -/
theorem read_render_declarationOf {model : Model} {generatedAt : String}
    (hname : IsLine model.name) (hsuffix : IsLine settings.modelSuffix)
    (htable : IsLine model.table)
    (hmappings : ∀ mapping ∈ settings.typeMappings, IsLine mapping.2) (hstamp : IsLine generatedAt)
    (columns : List Column) (dialect : Dialect) :
    read dialect ((declarationOf settings model columns).render dialect [] generatedAt) =
      some (generatedAt, declarationOf settings model columns) := by
  have hline : IsLine (declarationOf settings model columns).name :=
    Naming.newline_not_mem_typeName hname hsuffix
  refine read_render_of_isLine hline ?_ ?_ dialect hstamp
  · rintro source ⟨rfl⟩
    exact isLine_append.2 ⟨by decide, htable⟩
  · exact fun field hfield => isLine_type_of_declarationOf hmappings hfield

/-- Two payloads whose records agree but for the excluded keys have the same file.  It is the file
of the other entries alone, and as long as nothing breaks its line these are read back from it, each
once and in order.  The same is true of two descriptions of a model's columns. -/
theorem render_without (settings : Settings) (generatedAt : String) :
    (∀ (name origin : String) (document document' : Json) (record record' : Keyed Json),
      Payload.record document = .ok record → Payload.record document' = .ok record' →
      record.without settings.excludedColumns = record'.without settings.excludedColumns →
      ∃ declaration declaration' text,
        valueDeclaration settings name origin document = .ok declaration ∧
        valueDeclaration settings name origin document' = .ok declaration' ∧
        declaration.render settings.dialect settings.excludedColumns generatedAt = text ∧
        declaration'.render settings.dialect settings.excludedColumns generatedAt = text ∧
        (recordDeclaration settings name origin (record.without settings.excludedColumns)).render
          settings.dialect [] generatedAt = text ∧
        (IsLine name → IsLine settings.valueSuffix → IsLine origin → IsLine generatedAt →
          (read settings.dialect text).map (·.2.fields) =
            some ((record.without settings.excludedColumns).map fun entry =>
              ⟨entry.1, settings.inference.typeOf (Sample.ofJson entry.2)⟩))) ∧
    ∀ (model : Model) (columns columns' : List Column),
      Column.without columns settings.excludedColumns =
        Column.without columns' settings.excludedColumns →
      ∃ text,
        (declarationOf settings model columns).render settings.dialect settings.excludedColumns
          generatedAt = text ∧
        (declarationOf settings model columns').render settings.dialect settings.excludedColumns
          generatedAt = text ∧
        (declarationOf settings model
          (Column.without columns settings.excludedColumns)).render settings.dialect []
          generatedAt = text ∧
        (IsLine model.name → IsLine settings.modelSuffix → IsLine model.table →
          (∀ mapping ∈ settings.typeMappings, IsLine mapping.2) → IsLine generatedAt →
          (read settings.dialect text).map (·.2.fields) =
            some ((Column.without columns settings.excludedColumns).map fun column =>
              ⟨column.name, column.typeIn settings.typeTable⟩)) := by
  constructor
  · intro name origin document document' record record' hrecord hrecord' hkept
    refine ⟨recordDeclaration settings name origin record,
      recordDeclaration settings name origin record', _,
      valueDeclaration_eq_ok.2 ⟨record, hrecord, rfl⟩,
      valueDeclaration_eq_ok.2 ⟨record', hrecord', rfl⟩,
      render_recordDeclaration settings name origin record _ _ generatedAt, ?_, rfl, ?_⟩
    · rw [hkept]
      exact render_recordDeclaration settings name origin record' _ _ generatedAt
    · intro hname hsuffix horigin hstamp
      rw [read_render_recordDeclaration hname hsuffix horigin hstamp, Option.map_some,
        fields_recordDeclaration]
  · intro model columns columns' hkept
    refine ⟨_, render_declarationOf settings model columns _ _ generatedAt, ?_, rfl, ?_⟩
    · rw [hkept]
      exact render_declarationOf settings model columns' _ _ generatedAt
    · intro hname hsuffix htable hmappings hstamp
      rw [read_render_declarationOf hname hsuffix htable hmappings hstamp, Option.map_some]
      rfl

/-- Settings that keep two names out of what is written. -/
def guarded : Settings :=
  { dialect := .jsDoc, nullPolicy := .unknown, excludedColumns := ["password", "token"] }

/-- A record in an envelope, with secrets of any depth at both ends. -/
def enveloped : Json :=
  .object [("data", .array [.object [("token", .object [("0", .array [.null])]),
    ("id", .integer 1), ("a b", .null), ("password", .string "*/")], .null])]

/-- The same record by itself, with another secret at another place. -/
def bare : Json :=
  .object [("id", .integer 1), ("password", .array []), ("a b", .null)]

theorem render_without_secrets :
    (∃ declaration declaration' text,
      valueDeclaration guarded "user" "user.json" enveloped = .ok declaration ∧
      valueDeclaration guarded "user" "user.json" bare = .ok declaration' ∧
      declaration.render .jsDoc ["password", "token"] "2025-06-29 10:30:00" = text ∧
      declaration'.render .jsDoc ["password", "token"] "2025-06-29 10:30:00" = text ∧
      (read .jsDoc text).map (·.2.fields) = some [⟨"id", "number"⟩, ⟨"a b", "*"⟩]) ∧
    (declarationOf guarded ⟨"User", "users", "models/User.json"⟩
        [⟨"password", "varchar", true, false, false⟩, ⟨"id", "bigint", false, false, false⟩]).render
      .jsDoc ["password", "token"] "2025-06-29 10:30:00" =
    (declarationOf guarded ⟨"User", "users", "models/User.json"⟩
        [⟨"id", "bigint", false, false, false⟩, ⟨"token", "json", false, false, false⟩]).render
      .jsDoc ["password", "token"] "2025-06-29 10:30:00" := by
  obtain ⟨hvalues, hmodels⟩ := render_without guarded "2025-06-29 10:30:00"
  constructor
  · obtain ⟨declaration, declaration', text, hdeclaration, hdeclaration', htext, htext', -,
      hread⟩ := hvalues "user" "user.json" enveloped bare _ _ rfl rfl rfl
    refine ⟨declaration, declaration', text, hdeclaration, hdeclaration', htext, htext', ?_⟩
    exact hread (by decide) (by decide) (by decide) (by decide)
  · obtain ⟨text, htext, htext', -⟩ := hmodels ⟨"User", "users", "models/User.json"⟩
      [⟨"password", "varchar", true, false, false⟩, ⟨"id", "bigint", false, false, false⟩]
      [⟨"id", "bigint", false, false, false⟩, ⟨"token", "json", false, false, false⟩] (by decide)
    exact htext.trans htext'.symm

end Generation
end ResponseTypes
