import Mathlib.Data.List.Basic
import ResponseTypes.Proofs.AnnotationText
import ResponseTypes.Proofs.DeclarationReading
import ResponseTypes.Proofs.ReadingRuns

/-!
# The lines that declare

A declaration file declares three types, each by one line, and only blank lines and comments stand
before the first of them.  Field names cannot disturb this, because a key never breaks its line, and
annotations cannot, because they are inferred or looked up.  The name of the type and the source are
written as they are, so it is settled by them: the name has to be a line, and whatever lines the
source is made of have to be blank or comments themselves.

## Main definitions

- `Text.lines`: the lines of a text.
- `Declaration.DeclaresThree`: three declaring lines in order, and nothing else before them.
- `Generation.Declares`: the declarations that are made from models and from payloads.

## Main statements

- `Text.lines_join`: the lines of lines that are put together.
- `Declaration.declaresThree_render_iff`: when a rendered declaration declares three.
- `Generation.declaresThree_iff`: the same for everything that is generated.
-/

namespace ResponseTypes

/-! ## Lines of a text -/

namespace Text

/-- The lines of a text: what stands between line feeds, before the first and after the last. -/
def lines (text : String) : List (List Char) :=
  text.toList.splitOn '\n'

theorem lines_of_isLine {line : String} (h : Declaration.IsLine line) :
    lines line = [line.toList] :=
  List.splitOn_eq_singleton h

/-- Lines that are put together keep their own lines, and the last line feed is followed by an
empty one. -/
theorem lines_join (parts : List String) :
    lines (String.join (parts.map (· ++ "\n"))) = parts.flatMap lines ++ [[]] := by
  induction parts with
  | nil => rfl
  | cons part parts ih =>
    have htext : (String.join ((part :: parts).map (· ++ "\n"))).toList =
        part.toList ++ '\n' :: (String.join (parts.map (· ++ "\n"))).toList := by
      rw [List.map_cons, String.join_cons, String.toList_append, String.toList_append,
        List.append_assoc]
      rfl
    rw [lines] at ih ⊢
    rw [htext, List.splitOn_append_cons_self, ih, List.flatMap_cons, List.append_assoc, lines]

theorem flatMap_lines {parts : List String} (h : Declaration.AreLines parts) :
    parts.flatMap lines = parts.map String.toList := by
  induction parts with
  | nil => rfl
  | cons part parts ih =>
    obtain ⟨hpart, hparts⟩ := Declaration.areLines_cons.1 h
    rw [List.flatMap_cons, lines_of_isLine hpart, ih hparts]
    rfl

theorem newline_not_mem_of_mem_splitOn {s line : List Char} (h : line ∈ s.splitOn '\n') :
    '\n' ∉ line := by
  induction s generalizing line with
  | nil => simp_all [List.splitOn_nil]
  | cons c s ih =>
    obtain ⟨first, rest, hs⟩ := List.exists_cons_of_ne_nil (List.splitOn_ne_nil '\n' s)
    rw [List.splitOn_cons_eq_if_modifyHead, hs] at h
    rw [hs] at ih
    by_cases hc : c = '\n'
    · rw [if_pos (by simpa using hc)] at h
      rcases List.mem_cons.1 h with rfl | hmem
      · exact List.not_mem_nil
      · exact ih hmem
    · rw [if_neg (by simpa using hc), List.modifyHead_cons] at h
      rcases List.mem_cons.1 h with rfl | hmem
      · have hfirst := ih List.mem_cons_self
        simp [Ne.symm hc, hfirst]
      · exact ih (List.mem_cons_of_mem _ hmem)

/-- No line holds a line feed. -/
theorem newline_not_mem_of_mem_lines {text : String} {line : List Char} (h : line ∈ lines text) :
    '\n' ∉ line :=
  newline_not_mem_of_mem_splitOn h

end Text

namespace Declaration

/-! ## Declaring lines -/

/-- What a line that declares a type begins with. -/
def marker : Dialect → List Char
  | .typeScript => "export interface ".toList
  | .jsDoc => " * @typedef \x7bObject\x7d ".toList

/-- A line that declares a type. -/
def isDeclaring (dialect : Dialect) (line : List Char) : Bool :=
  (marker dialect).isPrefixOf line

/-- The line that declares the type of a name. -/
def declaringLine : Dialect → String → List Char
  | .typeScript, name => ("export interface " ++ name ++ " \x7b").toList
  | .jsDoc, name => (" * @typedef \x7bObject\x7d " ++ name).toList

/-- The lines of a declaration before the one that declares. -/
def opening : Dialect → List (List Char)
  | .typeScript => []
  | .jsDoc => ["/**".toList]

/-- A line that is blank or a comment of its own. -/
def IsHeaderLine (line : List Char) : Prop :=
  line = [] ∨ "//".toList <+: line

/-- A text in which exactly three lines declare a type, those of a name, of its page and of its
envelope in this order, and in which all lines before the first declaration are blank or
comments. -/
structure DeclaresThree (dialect : Dialect) (text name : String) : Prop where
  declaring : (Text.lines text).filter (isDeclaring dialect) =
    [declaringLine dialect name, declaringLine dialect (name ++ "Collection"),
      declaringLine dialect (name ++ "Response")]
  before : ∃ header, (Text.lines text).takeWhile (!isDeclaring dialect ·) =
    header ++ opening dialect ∧ ∀ line ∈ header, IsHeaderLine line

/-- A comment is no declaration. -/
theorem isDeclaring_of_isHeaderLine {line : List Char} (h : IsHeaderLine line)
    (dialect : Dialect) : isDeclaring dialect line = false := by
  rcases h with rfl | ⟨rest, rfl⟩
  · cases dialect <;> rfl
  · cases dialect <;> rfl

/-! ## The declarations of a file -/

/-- The lines of a file after its header. -/
def blocks : Dialect → String → List Field → List String
  | .typeScript, name, fields => interfaces name fields
  | .jsDoc, name, fields => typedefs name fields

theorem lines_eq (declaration : Declaration) (dialect : Dialect) (excluded : List String)
    (generatedAt : String) :
    declaration.lines dialect excluded generatedAt =
      headerLines generatedAt declaration.source ++
        blocks dialect declaration.name (declaration.keptFields excluded) := by
  cases dialect <;> rfl

theorem areLines_blocks (dialect : Dialect) {name : String} {fields : List Field}
    (hname : IsLine name) (hfields : ∀ field ∈ fields, IsLine field.type) :
    AreLines (blocks dialect name fields) := by
  cases dialect with
  | typeScript => exact areLines_interfaces hname hfields
  | jsDoc => exact areLines_typedefs hname hfields

theorem isDeclaring_declaringLine (dialect : Dialect) (name : String) :
    isDeclaring dialect (declaringLine dialect name) = true := by
  cases dialect with
  | typeScript =>
    rw [declaringLine, String.append_assoc, String.toList_append]
    rfl
  | jsDoc =>
    rw [declaringLine, String.toList_append]
    rfl

theorem isDeclaring_interfaceField (field : Field) :
    isDeclaring .typeScript (interfaceField field).toList = false := by
  rw [interfaceField, String.append_assoc, String.append_assoc, String.append_assoc,
    String.toList_append]
  rfl

theorem isDeclaring_property (type key : String) :
    isDeclaring .jsDoc (property type key).toList = false := by
  rw [property, String.append_assoc, String.append_assoc, String.toList_append]
  rfl

/-- Lines of which none declares leave nothing when the declaring lines are picked out. -/
theorem filter_declaring_map {α : Type} {dialect : Dialect} {write : α → String}
    (h : ∀ item, isDeclaring dialect (write item).toList = false) (items : List α) :
    ((items.map write).map String.toList).filter (isDeclaring dialect) = [] := by
  simp [h]

/-- One line of an interface declares, the first one. -/
theorem filter_interface (name : String) {members : List String}
    (hmembers : (members.map String.toList).filter (isDeclaring .typeScript) = []) :
    ((("export interface " ++ name ++ " \x7b") :: members).map String.toList).filter
      (isDeclaring .typeScript) = [declaringLine .typeScript name] := by
  have hfirst := isDeclaring_declaringLine .typeScript name
  rw [List.map_cons, ← declaringLine, List.filter_cons_of_pos hfirst, hmembers]

/-- One line of a typedef declares, the one after its opening. -/
theorem filter_typedefBlock (name : String) {properties : List String}
    (hproperties : (properties.map String.toList).filter (isDeclaring .jsDoc) = []) :
    ((typedefBlock name properties).map String.toList).filter (isDeclaring .jsDoc) =
      [declaringLine .jsDoc name] := by
  have hfirst : ¬ isDeclaring .jsDoc "/**".toList := Bool.false_ne_true
  have hlast : ¬ isDeclaring .jsDoc " */".toList := Bool.false_ne_true
  have hname := isDeclaring_declaringLine .jsDoc name
  rw [typedefBlock, List.map_append, List.map_append, List.filter_append, List.filter_append,
    hproperties, List.append_nil, List.map_cons, List.map_cons, List.map_nil, List.map_cons,
    List.map_nil, ← declaringLine, List.filter_cons_of_neg hfirst, List.filter_cons_of_pos hname,
    List.filter_cons_of_neg hlast]
  rfl

/-- The interfaces one by one: each is the line that declares it and the lines of its members. -/
theorem interfaces_eq (name : String) (fields : List Field) :
    interfaces name fields =
      (("export interface " ++ name ++ " \x7b") :: (fields.map interfaceField ++ ["\x7d", ""])) ++
      (("export interface " ++ (name ++ "Collection") ++ " \x7b") ::
        ("  data: " ++ name ++ "[];") ::
          (interfaceMember "links" linkMembers ++ interfaceMember "meta" metaMembers ++
            ["\x7d", ""])) ++
      (("export interface " ++ (name ++ "Response") ++ " \x7b") ::
        [("  data: " ++ name ++ ";"), "\x7d"]) := by
  have hcollection : "export interface " ++ (name ++ "Collection") ++ " \x7b" =
      "export interface " ++ name ++ "Collection \x7b" := by
    rw [← String.append_assoc, String.append_assoc]
    rfl
  have hresponse : "export interface " ++ (name ++ "Response") ++ " \x7b" =
      "export interface " ++ name ++ "Response \x7b" := by
    rw [← String.append_assoc, String.append_assoc]
    rfl
  rw [hcollection, hresponse, interfaces]
  simp only [List.cons_append, List.nil_append, List.append_assoc]

/-- Of the lines after the header, three declare. -/
theorem filter_interfaces (name : String) (fields : List Field) :
    ((interfaces name fields).map String.toList).filter (isDeclaring .typeScript) =
      [declaringLine .typeScript name, declaringLine .typeScript (name ++ "Collection"),
        declaringLine .typeScript (name ++ "Response")] := by
  have hfields : ((fields.map interfaceField).map String.toList).filter
      (isDeclaring .typeScript) = [] :=
    filter_declaring_map isDeclaring_interfaceField fields
  have hlast : (["\x7d", ""].map String.toList).filter (isDeclaring .typeScript) = [] := by decide
  have hmembers : ((interfaceMember "links" linkMembers ++ interfaceMember "meta" metaMembers).map
      String.toList).filter (isDeclaring .typeScript) = [] := by decide
  have hdata : ∀ rest, ¬ isDeclaring .typeScript ("  data: " ++ name ++ rest).toList := by
    intro rest
    rw [String.append_assoc, String.toList_append]
    exact Bool.false_ne_true
  rw [interfaces_eq, List.map_append, List.map_append, List.filter_append, List.filter_append,
    filter_interface name, filter_interface (name ++ "Collection"),
    filter_interface (name ++ "Response")]
  · rfl
  · rw [List.map_cons, List.filter_cons_of_neg (hdata _)]
    decide
  · rw [List.map_cons, List.filter_cons_of_neg (hdata _), List.map_append, List.filter_append,
      hmembers, hlast]
    rfl
  · rw [List.map_append, List.filter_append, hfields, hlast]
    rfl

/-- Of the lines of the typedefs, three declare. -/
theorem filter_typedefs (name : String) (fields : List Field) :
    ((typedefs name fields).map String.toList).filter (isDeclaring .jsDoc) =
      [declaringLine .jsDoc name, declaringLine .jsDoc (name ++ "Collection"),
        declaringLine .jsDoc (name ++ "Response")] := by
  have hfields : ((fields.map fun f => property f.type (propertyKey f.name)).map
      String.toList).filter (isDeclaring .jsDoc) = [] := by
    refine filter_declaring_map (fun field => ?_) fields
    exact isDeclaring_property field.type (propertyKey field.name)
  have hmembers : ((nestedProperty "links" linkMembers ++ nestedProperty "meta" metaMembers).map
      String.toList).filter (isDeclaring .jsDoc) = [] := by decide
  have hdata : ∀ type, ¬ isDeclaring .jsDoc (property type "data").toList := by
    intro type
    rw [isDeclaring_property]
    exact Bool.false_ne_true
  have hblank : ([""].map String.toList).filter (isDeclaring .jsDoc) = [] := by decide
  have hcollection : (([property ("Array<" ++ name ++ ">") "data"] ++
      nestedProperty "links" linkMembers ++ nestedProperty "meta" metaMembers).map
      String.toList).filter (isDeclaring .jsDoc) = [] := by
    rw [List.append_assoc, List.map_append, List.filter_append, hmembers, List.map_cons,
      List.filter_cons_of_neg (hdata _)]
    rfl
  have hresponse : (([property name "data"]).map String.toList).filter (isDeclaring .jsDoc) =
      [] := by
    rw [List.map_cons, List.filter_cons_of_neg (hdata _)]
    rfl
  rw [typedefs]
  simp only [List.map_append, List.filter_append]
  rw [filter_typedefBlock name hfields, filter_typedefBlock (name ++ "Collection") hcollection,
    filter_typedefBlock (name ++ "Response") hresponse, hblank]
  rfl

/-- Of the lines after the header, three declare. -/
theorem filter_blocks (dialect : Dialect) (name : String) (fields : List Field) :
    ((blocks dialect name fields).map String.toList).filter (isDeclaring dialect) =
      [declaringLine dialect name, declaringLine dialect (name ++ "Collection"),
        declaringLine dialect (name ++ "Response")] := by
  cases dialect with
  | typeScript => exact filter_interfaces name fields
  | jsDoc => exact filter_typedefs name fields

/-- Of the lines after the header, only the opening of a comment stands before the one that
declares. -/
theorem takeWhile_blocks (dialect : Dialect) (name : String) (fields : List Field)
    (after : List (List Char)) :
    ((blocks dialect name fields).map String.toList ++ after).takeWhile (!isDeclaring dialect ·) =
      opening dialect := by
  have hname : (!isDeclaring dialect (declaringLine dialect name)) = false := by
    rw [isDeclaring_declaringLine]
    rfl
  have hnone : ∀ lines : List (List Char),
      (declaringLine dialect name :: lines).takeWhile (!isDeclaring dialect ·) = [] :=
    fun lines => List.takeWhile_cons_of_neg (by rw [hname]; exact Bool.false_ne_true)
  cases dialect with
  | typeScript => exact hnone _
  | jsDoc =>
    change List.takeWhile (!isDeclaring .jsDoc ·)
      ("/**".toList :: declaringLine .jsDoc name :: _) = _
    rw [List.takeWhile_cons_of_pos (by rfl), hnone]
    rfl

/-! ## Rendered declarations -/

/-- The lines of the header of a file, as far as they do not depend on a name.  The source may be
made of several lines. -/
def headerTextLines (generatedAt : String) (source : Option String) : List (List Char) :=
  header.toList :: ("// Generated at: " ++ generatedAt).toList ::
    (source.toList.flatMap (fun source => Text.lines ("// Source: " ++ source)) ++ [[]])

theorem flatMap_lines_headerLines {generatedAt : String} (hstamp : IsLine generatedAt)
    (source : Option String) :
    (headerLines generatedAt source).flatMap Text.lines = headerTextLines generatedAt source := by
  have hheader : Text.lines header = [header.toList] := Text.lines_of_isLine (by decide)
  have htime : Text.lines ("// Generated at: " ++ generatedAt) =
      [("// Generated at: " ++ generatedAt).toList] :=
    Text.lines_of_isLine (isLine_append.2 ⟨by decide, hstamp⟩)
  have hblank : Text.lines "" = [[]] := rfl
  cases source with
  | none =>
    rw [headerLines, headerTextLines]
    simp only [List.flatMap_append, List.flatMap_cons, List.flatMap_nil, hheader, htime, hblank]
    rfl
  | some source =>
    rw [headerLines, headerTextLines]
    simp only [List.flatMap_append, List.flatMap_cons, List.flatMap_nil, hheader, htime, hblank,
      Option.toList_some, List.append_nil]
    rfl

/-- All lines of a header are blank or comments if those of the source are. -/
theorem isHeaderLine_of_mem_headerTextLines {generatedAt : String} {source : Option String}
    (hsource : ∀ text ∈ source, ∀ line ∈ Text.lines ("// Source: " ++ text), IsHeaderLine line)
    {line : List Char} (hline : line ∈ headerTextLines generatedAt source) :
    IsHeaderLine line := by
  rw [headerTextLines, List.mem_cons, List.mem_cons, List.mem_append, List.mem_flatMap,
    List.mem_singleton] at hline
  rcases hline with rfl | rfl | ⟨text, htext, hline⟩ | rfl
  · exact .inr ⟨_, rfl⟩
  · rw [String.toList_append]
    exact .inr ⟨_, rfl⟩
  · exact hsource text (Option.mem_toList.1 htext) line hline
  · exact .inl rfl

theorem isLine_of_declaringLine {dialect : Dialect} {name : String}
    (h : '\n' ∉ declaringLine dialect name) : IsLine name := by
  cases dialect with
  | typeScript => exact (isLine_append.1 (isLine_append.1 h).1).2
  | jsDoc => exact (isLine_append.1 h).2

section

variable {declaration : Declaration} {dialect : Dialect} {excluded : List String}
  {generatedAt : String}

/-- The lines of a file: those of the header, those that declare, and the empty one after the last
line feed. -/
theorem lines_render (hstamp : IsLine generatedAt) :
    Text.lines (declaration.render dialect excluded generatedAt) =
      headerTextLines generatedAt declaration.source ++
        ((blocks dialect declaration.name (declaration.keptFields excluded)).flatMap Text.lines ++
          [[]]) := by
  rw [render, Text.lines_join, lines_eq, List.flatMap_append, flatMap_lines_headerLines hstamp,
    List.append_assoc]

/-- If the name is a line and so are all annotations, whatever lines the source is made of, only
they can declare a type besides the three. -/
theorem filter_lines_render (hstamp : IsLine generatedAt)
    (hname : IsLine declaration.name)
    (hfields : ∀ field ∈ declaration.keptFields excluded, IsLine field.type) :
    (Text.lines (declaration.render dialect excluded generatedAt)).filter (isDeclaring dialect) =
      (headerTextLines generatedAt declaration.source).filter (isDeclaring dialect) ++
        [declaringLine dialect declaration.name,
          declaringLine dialect (declaration.name ++ "Collection"),
          declaringLine dialect (declaration.name ++ "Response")] := by
  have hlast : ([[]] : List (List Char)).filter (isDeclaring dialect) = [] := by
    cases dialect <;> rfl
  rw [lines_render hstamp, List.filter_append, List.filter_append,
    Text.flatMap_lines (areLines_blocks dialect hname hfields), filter_blocks, hlast]
  rfl

/-- If no line of the header declares, the lines before the first declaration are those of the
header. -/
theorem takeWhile_lines_render (hstamp : IsLine generatedAt)
    (hname : IsLine declaration.name)
    (hfields : ∀ field ∈ declaration.keptFields excluded, IsLine field.type)
    (hheader : ∀ line ∈ headerTextLines generatedAt declaration.source,
      isDeclaring dialect line = false) :
    (Text.lines (declaration.render dialect excluded generatedAt)).takeWhile
        (!isDeclaring dialect ·) =
      headerTextLines generatedAt declaration.source ++ opening dialect := by
  rw [lines_render hstamp, Text.flatMap_lines (areLines_blocks dialect hname hfields),
    List.takeWhile_append_of_pos, takeWhile_blocks]
  intro line hline
  rw [hheader line hline]
  rfl

/-- A rendered declaration declares three exactly if its name is a line and its source brings in
only lines that are blank or comments. -/
theorem declaresThree_render_iff (hstamp : IsLine generatedAt)
    (hfields : ∀ field ∈ declaration.keptFields excluded, IsLine field.type) :
    DeclaresThree dialect (declaration.render dialect excluded generatedAt) declaration.name ↔
      IsLine declaration.name ∧ ∀ source ∈ declaration.source,
        ∀ line ∈ Text.lines ("// Source: " ++ source), IsHeaderLine line := by
  constructor
  · intro h
    have hmem : declaringLine dialect declaration.name ∈
        (Text.lines (declaration.render dialect excluded generatedAt)).filter
          (isDeclaring dialect) := by
      rw [h.declaring]
      exact List.mem_cons_self
    have hname : IsLine declaration.name :=
      isLine_of_declaringLine (Text.newline_not_mem_of_mem_lines (List.mem_filter.1 hmem).1)
    have hnone : (headerTextLines generatedAt declaration.source).filter (isDeclaring dialect) =
        [] := by
      rw [← List.append_left_eq_self, ← filter_lines_render hstamp hname hfields]
      exact h.declaring
    obtain ⟨before, hbefore, hlines⟩ := h.before
    rw [takeWhile_lines_render hstamp hname hfields fun line hline =>
      Bool.eq_false_iff.2 (List.filter_eq_nil_iff.1 hnone line hline)] at hbefore
    refine ⟨hname, fun source hsource line hline => hlines line ?_⟩
    rw [← List.append_cancel_right hbefore, headerTextLines]
    have hsourceLine : line ∈ declaration.source.toList.flatMap
        fun source => Text.lines ("// Source: " ++ source) :=
      List.mem_flatMap.2 ⟨source, Option.mem_toList.2 hsource, hline⟩
    exact List.mem_cons_of_mem _ (List.mem_cons_of_mem _ (List.mem_append_left _ hsourceLine))
  · rintro ⟨hname, hsource⟩
    have hheader : ∀ line ∈ headerTextLines generatedAt declaration.source, IsHeaderLine line :=
      fun line hline => isHeaderLine_of_mem_headerTextLines hsource hline
    have hdeclaring : ∀ line ∈ headerTextLines generatedAt declaration.source,
        isDeclaring dialect line = false :=
      fun line hline => isDeclaring_of_isHeaderLine (hheader line hline) dialect
    constructor
    · rw [filter_lines_render hstamp hname hfields, List.filter_eq_nil_iff.2, List.nil_append]
      intro line hline
      exact Bool.eq_false_iff.1 (hdeclaring line hline)
    · exact ⟨_, takeWhile_lines_render hstamp hname hfields hdeclaring, hheader⟩

end

end Declaration

/-! ## Declarations of models and payloads -/

namespace Generation

open Declaration

/-- What is declared for models and for payloads. -/
inductive Declares (settings : Settings) : Declaration → Prop
  | model {session : Session} {schema : SchemaSource} {name : String} {declaration : Declaration}
      (h : (session.perform (modelDeclaration settings schema name)).1 = .ok declaration) :
      Declares settings declaration
  | value {name origin : String} {document : Json} {declaration : Declaration}
      (h : valueDeclaration settings name origin document = .ok declaration) :
      Declares settings declaration

variable {settings : Settings}

/-- The annotations of a model's fields are lines if those are that a user maps to. -/
theorem isLine_type_of_declarationOf
    (hmappings : ∀ mapping ∈ settings.typeMappings, IsLine mapping.2) {model : Model}
    {columns : List Column} {field : Field}
    (hfield : field ∈ (declarationOf settings model columns).fields) : IsLine field.type := by
  obtain ⟨column, -, rfl⟩ := List.mem_map.1 hfield
  exact column.newline_not_mem_typeIn (Settings.gives_typeTable hmappings)

/-- The record of a payload gives the fields of its declaration. -/
theorem valueDeclaration_eq_ok {name origin : String} {document : Json}
    {declaration : Declaration} :
    valueDeclaration settings name origin document = .ok declaration ↔
      ∃ record, Payload.record document = .ok record ∧ declaration =
        { name := Naming.typeName name settings.valueSuffix
          fields := settings.inference.fields (Sample.ofEntries record)
          source := some origin } := by
  rw [valueDeclaration]
  cases hrecord : Payload.record document with
  | error defect => simp [Except.mapError, bind, Except.bind]
  | ok record => simp [Except.mapError, bind, Except.bind, pure, Except.pure, eq_comm]

/-- The annotations of a payload's fields are inferred. -/
theorem exists_typeOf_of_valueDeclaration {name origin : String} {document : Json}
    {declaration : Declaration}
    (h : valueDeclaration settings name origin document = .ok declaration) {field : Field}
    (hfield : field ∈ declaration.fields) :
    ∃ sample, field.type = settings.inference.typeOf sample := by
  obtain ⟨record, -, rfl⟩ := valueDeclaration_eq_ok.1 h
  obtain ⟨entry, -, rfl⟩ := List.mem_map.1 hfield
  exact ⟨entry.2, rfl⟩

/-- The annotations of all fields that are declared are lines. -/
theorem Declares.isLine_type (hmappings : ∀ mapping ∈ settings.typeMappings, IsLine mapping.2)
    {declaration : Declaration} (h : Declares settings declaration) {field : Field}
    (hfield : field ∈ declaration.fields) : IsLine field.type := by
  cases h with
  | @model session schema name _ h =>
    rw [(modelDeclaration_yields settings schema name session.files session.now
      session.stamp).perform_fst] at h
    obtain ⟨model, described, -, -, rfl⟩ := declarationFrom_eq_ok h
    exact isLine_type_of_declarationOf hmappings hfield
  | value h =>
    obtain ⟨sample, htype⟩ := exists_typeOf_of_valueDeclaration h hfield
    rw [htype]
    exact settings.inference.newline_not_mem_typeOf sample

/-- Everything that is generated declares three types, in order and after nothing but comments,
exactly if its name is a line and no line of its source is anything but blank or a comment. -/
theorem declaresThree_iff (hmappings : ∀ mapping ∈ settings.typeMappings, IsLine mapping.2)
    {generatedAt : String} (hstamp : IsLine generatedAt) {declaration : Declaration}
    (h : Declares settings declaration) :
    DeclaresThree settings.dialect
        (declaration.render settings.dialect settings.excludedColumns generatedAt)
        declaration.name ↔
      IsLine declaration.name ∧ ∀ source ∈ declaration.source,
        ∀ line ∈ Text.lines ("// Source: " ++ source), IsHeaderLine line :=
  declaresThree_render_iff hstamp fun _ hfield =>
    h.isLine_type hmappings (List.mem_filter.1 hfield).1

/-- What is declared for a record with a field whose name looks like a declaration. -/
def deceptiveField : Declaration where
  name := "UserType"
  fields := [⟨"export interface \n", "number"⟩]
  source := some "payloads/user.json"

theorem declaresThree_iff_deceptiveField :
    Declares {} deceptiveField ∧ DeclaresThree .typeScript
      (deceptiveField.render .typeScript ["password", "remember_token"] "2024-01-01 00:00:00")
      "UserType" := by
  have hdeclares : Declares {} deceptiveField :=
    @Declares.value {} "user" "payloads/user.json"
      (.object [("export interface \n", .integer 1)]) deceptiveField (by decide +kernel)
  have hmappings : ∀ mapping ∈ ({} : Settings).typeMappings, IsLine mapping.2 := by decide
  have hstamp : IsLine "2024-01-01 00:00:00" := by decide
  refine ⟨hdeclares, (declaresThree_iff hmappings hstamp hdeclares).2 ⟨by decide, ?_⟩⟩
  rintro source ⟨rfl⟩ line hline
  rw [Text.lines_of_isLine (by decide), List.mem_singleton] at hline
  rw [hline]
  exact .inr ⟨_, rfl⟩

/-- A manifest that names a table by two lines. -/
def brokenManifest : String :=
  "\x7b\"table\":\"users\\nexport interface Evil\"\x7d"

/-- Files with this manifest and nothing else. -/
def brokenModel : Session where
  files :=
    { entries :=
        [(["models".toList], .directory 0),
         (["models".toList, "User.json".toList], .file brokenManifest.toUTF8.toList 0)]
      home := [] }
  now := 0
  stamp := "2024-01-01 00:00:00"

/-- A schema in which no table has columns. -/
def noColumns : SchemaSource where
  columns _ := .ok []
  declaredType _ _ := .ok ""
  nullable _ _ := .ok false

/-- The declaration for this manifest. -/
def brokenDeclaration : Declaration where
  name := "UserResource"
  fields := []
  source := some "table users\nexport interface Evil"

theorem declares_broken : Declares {} brokenDeclaration := by
  refine @Declares.model {} brokenModel noColumns "User" brokenDeclaration ?_
  rw [(modelDeclaration_yields {} noColumns "User" brokenModel.files brokenModel.now
    brokenModel.stamp).perform_fst]
  decide +kernel

/-- Settings and a time that are made of lines do not see to it that three types are declared: a
table's name can bring in a line that declares a fourth one. -/
theorem not_forall_declaresThree :
    ¬ ∀ (settings : Settings) (generatedAt : String) (declaration : Declaration),
      (∀ mapping ∈ settings.typeMappings, IsLine mapping.2) → IsLine settings.modelSuffix →
      IsLine settings.valueSuffix → IsLine generatedAt → Declares settings declaration →
      DeclaresThree settings.dialect
        (declaration.render settings.dialect settings.excludedColumns generatedAt)
        declaration.name := by
  intro h
  have hthree := h {} "2024-01-01 00:00:00" brokenDeclaration (by decide) (by decide) (by decide)
    (by decide) declares_broken
  obtain ⟨-, hsource⟩ := (declaresThree_render_iff (by decide) (by decide)).1 hthree
  have hline : IsHeaderLine "export interface Evil".toList :=
    hsource _ rfl _ (by decide +kernel)
  have hdeclaring := isDeclaring_of_isHeaderLine hline .typeScript
  exact absurd hdeclaring (by decide)

end Generation

end ResponseTypes
