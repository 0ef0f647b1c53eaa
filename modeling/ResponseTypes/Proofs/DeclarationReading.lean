import Mathlib.Data.List.Basic
import ResponseTypes.Proofs.PropertyKey

/-!
# Declaration files read back

The text of a declaration file determines what it was made from: the time, the source, the name
of the type, and the fields that were kept, with repetitions and in order.  All that is asked of
the name, the source, the time and the annotations is that none of them breaks its line.  Names
of fields are arbitrary, since a key never does.

## Main definitions

- `Declaration.OneLine`: no part that is written as it is breaks its line.
- `Declaration.read`: the time and the declaration that a text was made from.

## Main statements

- `Declaration.read_render`: reading undoes rendering.
- `Declaration.render_determines`: two texts are the same only if all they were made from is.
-/

namespace ResponseTypes
namespace Declaration

/-! ## Lines -/

/-- A text without line feeds. -/
def IsLine (s : String) : Prop := '\n' ∉ s.toList

instance (s : String) : Decidable (IsLine s) := inferInstanceAs (Decidable ('\n' ∉ s.toList))

/-- What is written as it is breaks no line: the name, the source and the annotations of the fields
that are kept. -/
structure OneLine (declaration : Declaration) (excluded : List String) : Prop where
  name : IsLine declaration.name
  source : ∀ source ∈ declaration.source, IsLine source
  types : ∀ field ∈ declaration.keptFields excluded, IsLine field.type

theorem isLine_append {s t : String} : IsLine (s ++ t) ↔ IsLine s ∧ IsLine t := by
  rw [IsLine, String.toList_append, List.mem_append, not_or]
  rfl

/-- Texts without line feeds. -/
def AreLines (lines : List String) : Prop := ∀ line ∈ lines, IsLine line

instance (lines : List String) : Decidable (AreLines lines) :=
  inferInstanceAs (Decidable (∀ line ∈ lines, IsLine line))

theorem areLines_append {lines more : List String} :
    AreLines (lines ++ more) ↔ AreLines lines ∧ AreLines more := List.forall_mem_append

theorem areLines_cons {line : String} {lines : List String} :
    AreLines (line :: lines) ↔ IsLine line ∧ AreLines lines := List.forall_mem_cons

/-- Lines are told apart by the line feeds that close them. -/
theorem splitOn_join {lines : List String} (h : AreLines lines) :
    (String.join (lines.map (· ++ "\n"))).toList.splitOn '\n' =
      lines.map String.toList ++ [[]] := by
  induction lines with
  | nil => rfl
  | cons line lines ih =>
    have hline : '\n' ∉ line.toList := h line List.mem_cons_self
    have htext : (String.join ((line :: lines).map (· ++ "\n"))).toList =
        line.toList ++ '\n' :: (String.join (lines.map (· ++ "\n"))).toList := by
      rw [List.map_cons, String.join_cons, String.toList_append, String.toList_append,
        List.append_assoc]
      rfl
    rw [htext, List.splitOn_append_cons_self_of_not_mem hline,
      ih fun other hother => h other (List.mem_cons_of_mem _ hother)]
    rfl

theorem isLine_propertyKey (field : String) : IsLine (propertyKey field) :=
  newline_not_mem_propertyKey field

theorem isLine_interfaceField {field : Field} (h : IsLine field.type) :
    IsLine (interfaceField field) := by
  simp only [interfaceField, isLine_append, isLine_propertyKey, h]
  decide

theorem isLine_property {type key : String} (htype : IsLine type) (hkey : IsLine key) :
    IsLine (property type key) := by
  have hopen : IsLine " * @property \x7b" := by decide
  have hclose : IsLine "\x7d " := by decide
  exact isLine_append.2 ⟨isLine_append.2 ⟨isLine_append.2 ⟨hopen, htype⟩, hclose⟩, hkey⟩

theorem areLines_interfaces {name : String} {fields : List Field} (hname : IsLine name)
    (hfields : ∀ field ∈ fields, IsLine field.type) : AreLines (interfaces name fields) := by
  have hlinks : AreLines (interfaceMember "links" linkMembers) := by decide
  have hmeta : AreLines (interfaceMember "meta" metaMembers) := by decide
  have hlines : AreLines (fields.map interfaceField) := by
    intro line hline
    obtain ⟨field, hfield, rfl⟩ := List.mem_map.1 hline
    exact isLine_interfaceField (hfields field hfield)
  simp only [interfaces, areLines_append, areLines_cons, isLine_append, hname, hlines, hlinks,
    hmeta, and_true]
  decide

theorem areLines_typedefBlock {name : String} {properties : List String} (hname : IsLine name)
    (hproperties : AreLines properties) : AreLines (typedefBlock name properties) := by
  simp only [typedefBlock, areLines_append, areLines_cons, isLine_append, hname, hproperties,
    and_true]
  decide

theorem areLines_typedefs {name : String} {fields : List Field} (hname : IsLine name)
    (hfields : ∀ field ∈ fields, IsLine field.type) : AreLines (typedefs name fields) := by
  have hlinks : AreLines (nestedProperty "links" linkMembers) := by decide
  have hmeta : AreLines (nestedProperty "meta" metaMembers) := by decide
  have hlines : AreLines (fields.map fun f => property f.type (propertyKey f.name)) := by
    intro line hline
    obtain ⟨field, hfield, rfl⟩ := List.mem_map.1 hline
    exact isLine_property (hfields field hfield) (isLine_propertyKey field.name)
  have hdata : IsLine "data" := by decide
  have hitems : IsLine ("Array<" ++ name ++ ">") := by
    simp only [isLine_append, hname]
    decide
  have hpage : AreLines ([property ("Array<" ++ name ++ ">") "data"] ++
      nestedProperty "links" linkMembers ++ nestedProperty "meta" metaMembers) := by
    simp only [areLines_append, areLines_cons, isLine_property hitems hdata, hlinks, hmeta]
    decide
  have hsingle : AreLines [property name "data"] := by
    simp only [areLines_cons, isLine_property hname hdata]
    decide
  have hcollection : IsLine (name ++ "Collection") := isLine_append.2 ⟨hname, by decide⟩
  have hresponse : IsLine (name ++ "Response") := isLine_append.2 ⟨hname, by decide⟩
  simp only [typedefs, areLines_append, areLines_typedefBlock hname hlines,
    areLines_typedefBlock hcollection hpage, areLines_typedefBlock hresponse hsingle]
  decide

theorem areLines_headerLines {generatedAt : String} {source : Option String}
    (htime : IsLine generatedAt) (hsource : ∀ s ∈ source, IsLine s) :
    AreLines (headerLines generatedAt source) := by
  cases source with
  | none =>
    simp only [headerLines, areLines_append, areLines_cons, isLine_append, htime]
    decide
  | some s =>
    simp only [headerLines, areLines_append, areLines_cons, isLine_append, htime,
      hsource s rfl]
    decide

/-- The lines of a file are lines, whatever its fields are called. -/
theorem areLines_lines {declaration : Declaration} {excluded : List String}
    (h : declaration.OneLine excluded) (dialect : Dialect) {generatedAt : String}
    (htime : IsLine generatedAt) :
    AreLines (declaration.lines dialect excluded generatedAt) := by
  refine areLines_append.2 ⟨areLines_headerLines htime h.source, ?_⟩
  cases dialect with
  | typeScript => exact areLines_interfaces h.name h.types
  | jsDoc => exact areLines_typedefs h.name h.types

/-! ## Reading -/

/-- The time and the source in the header of a file, with the lines that follow the header. -/
def readHeader : List (List Char) → Option (String × Option String × List (List Char))
  | _ :: stamp :: line :: rest => do
    let generatedAt := String.ofList (← "// Generated at: ".toList.isPrefixOf? stamp)
    if line.isEmpty then return (generatedAt, none, rest)
    else
      let source := String.ofList (← "// Source: ".toList.isPrefixOf? line)
      return (generatedAt, some source, rest.drop 1)
  | _ => none

/-- The name that the first declaration of a file declares, with the lines that follow. -/
def readName : Dialect → List (List Char) → Option (String × List (List Char))
  | .typeScript, opening :: rest => do
    let named ← "export interface ".toList.isPrefixOf? opening
    return (String.ofList (← " \x7b".toList.isSuffixOf? named), rest)
  | .jsDoc, _ :: opening :: rest => do
    return (String.ofList (← " * @typedef \x7bObject\x7d ".toList.isPrefixOf? opening), rest)
  | _, _ => none

/-- The line that closes the first declaration of a file. -/
def closing : Dialect → List Char
  | .typeScript => "\x7d".toList
  | .jsDoc => " */".toList

/-- The field that a line declares. -/
def readField : Dialect → List Char → Option Field
  | .typeScript, line => do
    let (name, rest) ← frontKey? (← "  ".toList.isPrefixOf? line)
    let type ← ";".toList.isSuffixOf? (← ": ".toList.isPrefixOf? rest)
    return ⟨name, String.ofList type⟩
  | .jsDoc, line => do
    let (name, before) ← backKey? (← " * @property \x7b".toList.isPrefixOf? line)
    let type ← "\x7d ".toList.isSuffixOf? before
    return ⟨name, String.ofList type⟩

/-- The time and the declaration that the text of a file was made from. -/
def read (dialect : Dialect) (text : String) : Option (String × Declaration) := do
  let (generatedAt, source, body) ← readHeader (text.toList.splitOn '\n')
  let (name, rest) ← readName dialect body
  let fields ← (rest.takeWhile (· ≠ closing dialect)).mapM (readField dialect)
  return (generatedAt, { name, fields, source })

/-! ## Reading undoes rendering -/

theorem isSuffixOf?_append (before ending : List Char) :
    ending.isSuffixOf? (before ++ ending) = some before :=
  List.isSuffixOf?_eq_some_iff_append_eq.2 rfl

theorem readHeader_headerLines (generatedAt : String) (source : Option String)
    (rest : List (List Char)) :
    readHeader ((headerLines generatedAt source).map String.toList ++ rest) =
      some (generatedAt, source, rest) := by
  cases source with
  | none => simp [headerLines, readHeader, List.isPrefixOf?]
  | some s => simp [headerLines, readHeader, List.isPrefixOf?]

theorem readField_interfaceField (field : Field) :
    readField .typeScript (interfaceField field).toList = some field := by
  have hkey := frontKey?_propertyKey field.name (' ' :: (field.type.toList ++ [';']))
  have htype := isSuffixOf?_append field.type.toList [';']
  simp [readField, interfaceField, List.isPrefixOf?, hkey, htype]

theorem readField_property (field : Field) :
    readField .jsDoc (property field.type (propertyKey field.name)).toList = some field := by
  have hkey := backKey?_propertyKey field.name (field.type.toList ++ ['\x7d'])
  have htype := isSuffixOf?_append field.type.toList ['\x7d', ' ']
  simp only [List.append_assoc, List.cons_append, List.nil_append] at hkey
  simp [readField, property, List.isPrefixOf?, hkey, htype]

/-- Fields are read back from their lines, up to the line that closes the declaration. -/
theorem readFields {dialect : Dialect} {write : Field → String}
    (hread : ∀ field, readField dialect (write field).toList = some field)
    (hopen : ∀ field, (write field).toList ≠ closing dialect) (fields : List Field)
    (rest : List (List Char)) :
    (((fields.map write).map String.toList ++ closing dialect :: rest).takeWhile
      (· ≠ closing dialect)).mapM (readField dialect) = some fields := by
  induction fields with
  | nil => simp
  | cons field fields ih =>
    rw [List.map_cons, List.map_cons, List.cons_append,
      List.takeWhile_cons_of_pos (by simpa using hopen field), List.mapM_cons, hread, ih]
    rfl

theorem readName_interfaces (name : String) (fields : List Field) (after : List (List Char)) :
    ∃ rest, readName .typeScript ((interfaces name fields).map String.toList ++ after) =
      some (name, (fields.map interfaceField).map String.toList ++
        closing .typeScript :: rest) := by
  have hname := isSuffixOf?_append name.toList [' ', '\x7b']
  have hsplit : ∃ rest, interfaces name fields =
      ("export interface " ++ name ++ " \x7b") :: (fields.map interfaceField ++ "\x7d" :: rest) :=
    ⟨_, by simp only [interfaces, List.append_assoc, List.cons_append, List.nil_append]; rfl⟩
  obtain ⟨rest, hrest⟩ := hsplit
  refine ⟨rest.map String.toList ++ after, ?_⟩
  simp [hrest, readName, List.isPrefixOf?, hname, closing]

theorem readName_typedefs (name : String) (fields : List Field) (after : List (List Char)) :
    ∃ rest, readName .jsDoc ((typedefs name fields).map String.toList ++ after) =
      some (name, (fields.map fun f => property f.type (propertyKey f.name)).map String.toList ++
        closing .jsDoc :: rest) := by
  have hsplit : ∃ rest, typedefs name fields =
      "/**" :: (" * @typedef \x7bObject\x7d " ++ name) ::
        ((fields.map fun f => property f.type (propertyKey f.name)) ++ " */" :: rest) :=
    ⟨_, by simp only [typedefs, typedefBlock, List.append_assoc, List.cons_append,
      List.nil_append]; rfl⟩
  obtain ⟨rest, hrest⟩ := hsplit
  refine ⟨rest.map String.toList ++ after, ?_⟩
  simp [hrest, readName, List.isPrefixOf?, closing]

theorem interfaceField_ne_closing (field : Field) :
    (interfaceField field).toList ≠ closing .typeScript := by
  simp [interfaceField, closing]

theorem property_ne_closing (type key : String) :
    (property type key).toList ≠ closing .jsDoc := by
  simp [property, closing]

theorem lines_typeScript (declaration : Declaration) (excluded : List String)
    (generatedAt : String) :
    declaration.lines .typeScript excluded generatedAt =
      headerLines generatedAt declaration.source ++
        interfaces declaration.name (declaration.keptFields excluded) := rfl

theorem lines_jsDoc (declaration : Declaration) (excluded : List String) (generatedAt : String) :
    declaration.lines .jsDoc excluded generatedAt =
      headerLines generatedAt declaration.source ++
        typedefs declaration.name (declaration.keptFields excluded) := rfl

/-- Reading undoes rendering: a text gives back the time, the source and the name, and of the
fields those that were not excluded. -/
theorem read_render {declaration : Declaration} {excluded : List String}
    (h : declaration.OneLine excluded) (dialect : Dialect) {generatedAt : String}
    (htime : IsLine generatedAt) :
    read dialect (declaration.render dialect excluded generatedAt) =
      some (generatedAt, { declaration with fields := declaration.keptFields excluded }) := by
  have hlines := splitOn_join (areLines_lines h dialect htime)
  rw [read, render, hlines]
  cases dialect with
  | typeScript =>
    obtain ⟨rest, hname⟩ := readName_interfaces declaration.name
      (declaration.keptFields excluded) [[]]
    have hfields := readFields readField_interfaceField interfaceField_ne_closing
      (declaration.keptFields excluded) rest
    rw [lines_typeScript, List.map_append, List.append_assoc, readHeader_headerLines]
    simp only [Option.bind_eq_bind, Option.bind_some, hname, hfields]
    rfl
  | jsDoc =>
    obtain ⟨rest, hname⟩ := readName_typedefs declaration.name
      (declaration.keptFields excluded) [[]]
    have hfields := readFields readField_property
      (fun field => property_ne_closing field.type (propertyKey field.name))
      (declaration.keptFields excluded) rest
    rw [lines_jsDoc, List.map_append, List.append_assoc, readHeader_headerLines]
    simp only [Option.bind_eq_bind, Option.bind_some, hname, hfields]
    rfl

/-! ## Texts determine declarations -/

/-- Only the time, the source, the name and the kept fields have a part in a text. -/
theorem render_congr {declaration other : Declaration} {excluded excluded' : List String}
    (hsource : declaration.source = other.source) (hname : declaration.name = other.name)
    (hfields : declaration.keptFields excluded = other.keptFields excluded') (dialect : Dialect)
    (generatedAt : String) :
    declaration.render dialect excluded generatedAt =
      other.render dialect excluded' generatedAt := by
  cases dialect with
  | typeScript => rw [render, render, lines_typeScript, lines_typeScript, hsource, hname, hfields]
  | jsDoc => rw [render, render, lines_jsDoc, lines_jsDoc, hsource, hname, hfields]

/-- Two files have the same text only if all they were made from is the same: the time, the
source, the name, and the kept fields in order.  `read` recovers these from the text.  Keys take
part in this by being injective, by keeping to their line, and by never being bare for one field
and quoted for another. -/
theorem render_determines {dialect : Dialect} {declaration other : Declaration}
    {excluded excluded' : List String} {generatedAt generatedAt' : String}
    (h : declaration.OneLine excluded) (h' : other.OneLine excluded')
    (htime : IsLine generatedAt) (htime' : IsLine generatedAt') :
    (declaration.render dialect excluded generatedAt =
        other.render dialect excluded' generatedAt' ↔
      generatedAt = generatedAt' ∧ declaration.source = other.source ∧
        declaration.name = other.name ∧
        declaration.keptFields excluded = other.keptFields excluded') ∧
    read dialect (declaration.render dialect excluded generatedAt) =
      some (generatedAt, { declaration with fields := declaration.keptFields excluded }) ∧
    Function.Injective propertyKey ∧
    (∀ field, '\n' ∉ (propertyKey field).toList) ∧
    (∀ bare quoted : String, isIdentifier bare.toList → ¬ isIdentifier quoted.toList →
      propertyKey bare = bare ∧ propertyKey quoted = Json.quote quoted ∧
        bare ≠ Json.quote quoted) := by
  refine ⟨⟨?_, ?_⟩, read_render h dialect htime, propertyKey_injective,
    newline_not_mem_propertyKey, ?_⟩
  · intro htext
    have hread := read_render h dialect htime
    rw [htext, read_render h' dialect htime'] at hread
    simp only [Option.some.injEq, Prod.mk.injEq, Declaration.mk.injEq] at hread
    obtain ⟨hstamp, hname, hfields, hsource⟩ := hread
    exact ⟨hstamp.symm, hsource.symm, hname.symm, hfields.symm⟩
  · rintro ⟨rfl, hsource, hname, hfields⟩
    exact render_congr hsource hname hfields dialect generatedAt
  · intro bare quoted hbare hquoted
    have hb := propertyKey_of_isIdentifier hbare
    have hq := propertyKey_of_not_isIdentifier hquoted
    refine ⟨hb, hq, fun heq => hquoted ?_⟩
    have hsame : propertyKey bare = propertyKey quoted := by rw [hb, hq, heq]
    rwa [← propertyKey_injective hsame]

/-- A declaration whose fields look like the syntax around them. -/
def lookalike : Declaration where
  name := "Page"
  fields := [⟨"", "a: b; \x7d \"c\""⟩, ⟨"\x7d \"id", "string"⟩, ⟨"*/\n\\", "\x7d \""⟩,
    ⟨"password", "string"⟩, ⟨"id", "number"⟩, ⟨"id", "\x7d \"id"⟩]
  source := some "table pages"

theorem render_determines_lookalike :
    (lookalike.OneLine ["password"] ∧ lookalike.OneLine [] ∧ IsLine "2025-06-29 10:30:00") ∧
    read .jsDoc (lookalike.render .jsDoc ["password"] "2025-06-29 10:30:00") =
      some ("2025-06-29 10:30:00",
        { lookalike with fields := lookalike.keptFields ["password"] }) ∧
    lookalike.render .jsDoc ["password"] "2025-06-29 10:30:00" ≠
      lookalike.render .jsDoc [] "2025-06-29 10:30:00" := by
  have hkept : lookalike.OneLine ["password"] := ⟨by decide, by decide, by decide⟩
  have hall : lookalike.OneLine [] := ⟨by decide, by decide, by decide⟩
  have htime : IsLine "2025-06-29 10:30:00" := by decide
  obtain ⟨htext, hread, -⟩ := @render_determines .jsDoc _ _ _ _ _ _ hkept hall htime htime
  refine ⟨⟨hkept, hall, htime⟩, hread, fun heq => ?_⟩
  exact absurd (htext.1 heq).2.2.2 (by decide)

end Declaration
end ResponseTypes
