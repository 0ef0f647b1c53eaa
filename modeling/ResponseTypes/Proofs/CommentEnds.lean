import Mathlib.Algebra.GroupWithZero.Nat
import ResponseTypes.Proofs.DeclaringLines
import ResponseTypes.Proofs.TypeNames

/-!
# Where comments end

In JSDoc a declaration stands in comment blocks, so it holds together only as long as nothing in it
ends a comment too early.  Annotations cannot, because they have no slash.  The quotes around a
field's name do not help: neither of the two characters that end a comment is escaped.  So it is the
names of fields, and the name of the type where it runs into its suffix, that decide it.

The count of ends is additive wherever no star meets a slash, which is the case at every place where
a line is put together from parts; this reduces the count of a file to that of its names.

## Main definitions

- `Text.terminators`: how often a text ends a comment.
- `Declaration.bodyLines`: the lines of a file after the comments at its top.
- `Declaration.ClosesThree`: three typedef blocks, each ended by its last line and nowhere else.

## Main statements

- `Text.terminators_flatMap_quoteChar`: quoting a text does not change the count.
- `Declaration.sumTerminators_typedefs`: the count of all typedefs.
- `Generation.closesThree_iff`: the count for a payload, and when its blocks hold together.
-/

namespace ResponseTypes

/-! ## Ends of comments -/

namespace Text

/-- How often a text ends a comment. -/
def terminators (s : List Char) : Nat :=
  s.tails.countP ("*/".toList.isPrefixOf ·)

@[simp]
theorem terminators_nil : terminators [] = 0 := rfl

theorem terminators_cons (c : Char) (s : List Char) :
    terminators (c :: s) = terminators s + if c = '*' ∧ s.head? = some '/' then 1 else 0 := by
  have hhead : "*/".toList.isPrefixOf (c :: s) = decide (c = '*' ∧ s.head? = some '/') := by
    change ('*' == c && ['/'].isPrefixOf s) = _
    cases s with
    | nil => simp
    | cons d s => simp [List.isPrefixOf, eq_comm, Bool.beq_eq_decide_eq]
  change ((c :: s) :: s.tails).countP ("*/".toList.isPrefixOf ·) = _
  rw [List.countP_cons, hhead, terminators]
  simp only [decide_eq_true_eq]

/-- Two texts that are put together end a comment once more if a star meets a slash. -/
theorem terminators_append (s t : List Char) :
    terminators (s ++ t) = terminators s + terminators t +
      if s.getLast? = some '*' ∧ t.head? = some '/' then 1 else 0 := by
  induction s with
  | nil =>
    rw [List.nil_append, terminators_nil, Nat.zero_add]
    simp
  | cons c s ih =>
    rw [List.cons_append, terminators_cons, ih, terminators_cons]
    cases s with
    | nil => simp [Nat.add_comm]
    | cons d s =>
      rw [List.cons_append, List.head?_cons, List.head?_cons, List.getLast?_cons_cons]
      omega

theorem terminators_append_of_getLast? {s t : List Char} (h : s.getLast? ≠ some '*') :
    terminators (s ++ t) = terminators s + terminators t := by
  rw [terminators_append, if_neg fun hboth => h hboth.1, Nat.add_zero]

theorem terminators_append_of_head? {s t : List Char} (h : t.head? ≠ some '/') :
    terminators (s ++ t) = terminators s + terminators t := by
  rw [terminators_append, if_neg fun hboth => h hboth.2, Nat.add_zero]

/-- Without a slash no comment is ended. -/
theorem terminators_of_slash_not_mem {s : List Char} (h : '/' ∉ s) : terminators s = 0 := by
  induction s with
  | nil => rfl
  | cons c s ih =>
    obtain ⟨-, hs⟩ := not_or.1 (mt List.mem_cons.2 h)
    have hhead : s.head? ≠ some '/' := fun heq => hs (List.mem_of_head? heq)
    rw [terminators_cons, ih hs, if_neg fun hboth => hhead hboth.2]

/-- An end of a comment is in one line, so the lines of a text have all of its ends. -/
theorem terminators_intercalate (lines : List (List Char)) :
    terminators (['\n'].intercalate lines) = (lines.map terminators).sum := by
  induction lines with
  | nil => rfl
  | cons line lines ih =>
    cases lines with
    | nil => simp
    | cons next lines =>
      have hhead : (['\n'] ++ ['\n'].intercalate (next :: lines)).head? ≠ some '/' := by simp
      have hlast : (['\n'] : List Char).getLast? ≠ some '*' := by decide
      have hfeed : terminators ['\n'] = 0 := rfl
      rw [List.intercalate_cons_cons, List.append_assoc, terminators_append_of_head? hhead,
        terminators_append_of_getLast? hlast, ih, hfeed, Nat.zero_add]
      rfl

/-- An escape has no star and no slash, and is not written for one. -/
theorem quoteChar_cases (c : Char) : Json.quoteChar c = [c] ∨
    c ≠ '*' ∧ c ≠ '/' ∧ (Json.quoteChar c).head? = some '\\' ∧ '*' ∉ Json.quoteChar c ∧
      '/' ∉ Json.quoteChar c := by
  by_cases hcontrol : c.toNat < 0x20
  · have hall : ∀ n < 0x20, Char.ofNat n ≠ '*' ∧ Char.ofNat n ≠ '/' ∧
        (Json.quoteChar (Char.ofNat n)).head? = some '\\' ∧
        '*' ∉ Json.quoteChar (Char.ofNat n) ∧ '/' ∉ Json.quoteChar (Char.ofNat n) := by decide
    right
    simpa using hall c.toNat hcontrol
  · by_cases hquote : c = '"'
    · rw [hquote]
      decide
    by_cases hslash : c = '\\'
    · rw [hslash]
      decide
    left
    unfold Json.quoteChar
    split_ifs <;> simp_all

/-- Quoting neither brings in a slash at the front nor takes one away. -/
theorem head?_flatMap_quoteChar (s : List Char) :
    (s.flatMap Json.quoteChar).head? = some '/' ↔ s.head? = some '/' := by
  cases s with
  | nil => rfl
  | cons c s =>
    rw [List.flatMap_cons, List.head?_cons, List.head?_append]
    rcases quoteChar_cases c with hplain | ⟨-, hslash, hfront, -, -⟩
    · rw [hplain]
      rfl
    · rw [hfront]
      simpa using hslash

/-- Quoting a text does not change how often it ends a comment. -/
theorem terminators_flatMap_quoteChar (s : List Char) :
    terminators (s.flatMap Json.quoteChar) = terminators s := by
  induction s with
  | nil => rfl
  | cons c s ih =>
    rw [List.flatMap_cons, terminators_cons]
    rcases quoteChar_cases c with hplain | ⟨hstar, -, -, hnoStar, hnoSlash⟩
    · rw [hplain, List.singleton_append, terminators_cons, ih]
      simp only [head?_flatMap_quoteChar]
    · have hlast : (Json.quoteChar c).getLast? ≠ some '*' :=
        fun heq => hnoStar (List.mem_of_getLast? heq)
      rw [terminators_append_of_getLast? hlast, terminators_of_slash_not_mem hnoSlash, ih,
        if_neg fun hboth => hstar hboth.1, Nat.zero_add, Nat.add_zero]

end Text

/-! ## Ends of comments in a file -/

namespace Declaration

open Text

/-- A key ends a comment as often as the name of its field does, be it quoted or not. -/
theorem terminators_propertyKey (field : String) :
    terminators (propertyKey field).toList = terminators field.toList := by
  by_cases h : isIdentifier field.toList
  · rw [propertyKey_of_isIdentifier h]
  · have hquote : (['"'] : List Char).head? ≠ some '/' := by decide
    rw [propertyKey_of_not_isIdentifier h, Json.quote, String.toList_ofList, Json.quoteChars,
      List.cons_append, terminators_cons, terminators_append_of_head? hquote,
      terminators_flatMap_quoteChar, if_neg fun hboth => absurd hboth.1 (by decide)]
    rfl

/-- The end of a comment in a line for a property is in its annotation or in its key. -/
theorem terminators_property (type key : String) :
    terminators (property type key).toList =
      terminators type.toList + terminators key.toList := by
  have hopen : " * @property \x7b".toList.getLast? ≠ some '*' := by decide
  have hclose : ("\x7d " ++ key).toList.head? ≠ some '/' := by
    rw [String.toList_append]
    exact (by decide : some '\x7d' ≠ some '/')
  have hspace : "\x7d ".toList.getLast? ≠ some '*' := by decide
  rw [property, String.append_assoc, String.append_assoc, String.toList_append,
    terminators_append_of_getLast? hopen, String.toList_append,
    terminators_append_of_head? hclose, String.toList_append,
    terminators_append_of_getLast? hspace]
  simp only [show terminators " * @property \x7b".toList = 0 from rfl,
    show terminators "\x7d ".toList = 0 from rfl, Nat.zero_add]

/-! ### Typedefs -/

/-- How often the lines of a file end a comment. -/
def sumTerminators (lines : List String) : Nat :=
  (lines.map fun line => terminators line.toList).sum

@[simp]
theorem sumTerminators_append (lines more : List String) :
    sumTerminators (lines ++ more) = sumTerminators lines + sumTerminators more := by
  rw [sumTerminators, List.map_append, List.sum_append]
  rfl

@[simp]
theorem sumTerminators_cons (line : String) (lines : List String) :
    sumTerminators (line :: lines) = terminators line.toList + sumTerminators lines := by
  rw [sumTerminators, List.map_cons, List.sum_cons]
  rfl

@[simp]
theorem sumTerminators_nil : sumTerminators [] = 0 := rfl

/-- The end of a comment in the line that declares a type is in its name. -/
theorem terminators_declaringLine (name : String) :
    terminators (declaringLine .jsDoc name) = terminators name.toList := by
  have hopen : " * @typedef \x7bObject\x7d ".toList.getLast? ≠ some '*' := by decide
  rw [declaringLine, String.toList_append, terminators_append_of_getLast? hopen,
    show terminators " * @typedef \x7bObject\x7d ".toList = 0 from rfl, Nat.zero_add]

/-- A typedef block ends a comment with its last line, and wherever its name and its properties
do. -/
theorem sumTerminators_typedefBlock (name : String) (properties : List String) :
    sumTerminators (typedefBlock name properties) =
      terminators name.toList + sumTerminators properties + 1 := by
  have hfirst : terminators "/**".toList = 0 := rfl
  have hlast : terminators " */".toList = 1 := rfl
  have hname := terminators_declaringLine name
  rw [declaringLine] at hname
  rw [typedefBlock, sumTerminators_append, sumTerminators_append, sumTerminators_cons,
    sumTerminators_cons, sumTerminators_cons, sumTerminators_nil, hfirst, hlast, hname]
  omega

/-- A name that goes on with a text ends a comment as often as before, unless the text begins with
a slash. -/
theorem terminators_name_append (name : String) {rest : String}
    (hhead : rest.toList.head? ≠ some '/') (hrest : terminators rest.toList = 0) :
    terminators (name ++ rest).toList = terminators name.toList := by
  rw [String.toList_append, terminators_append_of_head? hhead, hrest, Nat.add_zero]

theorem terminators_arrayName (name : String) :
    terminators ("Array<" ++ name ++ ">").toList = terminators name.toList := by
  have hopen : "Array<".toList.getLast? ≠ some '*' := by decide
  rw [terminators_name_append _ (by decide) rfl, String.toList_append,
    terminators_append_of_getLast? hopen, show terminators "Array<".toList = 0 from rfl,
    Nat.zero_add]

/-- Properties with annotations that have no slash end comments only in the names of their
fields. -/
theorem sumTerminators_properties {fields : List Field}
    (hfields : ∀ field ∈ fields, '/' ∉ field.type.toList) :
    sumTerminators (fields.map fun field => property field.type (propertyKey field.name)) =
      (fields.map fun field => terminators field.name.toList).sum := by
  induction fields with
  | nil => rfl
  | cons field fields ih =>
    obtain ⟨hfield, hrest⟩ := List.forall_mem_cons.1 hfields
    rw [List.map_cons, sumTerminators_cons, ih hrest, terminators_property,
      terminators_of_slash_not_mem hfield, terminators_propertyKey, Nat.zero_add, List.map_cons,
      List.sum_cons]

/-- The properties of a page end comments only in the name of its type. -/
theorem sumTerminators_page (name : String) :
    sumTerminators ([property ("Array<" ++ name ++ ">") "data"] ++
      nestedProperty "links" linkMembers ++ nestedProperty "meta" metaMembers) =
        terminators name.toList := by
  have hlinks : sumTerminators (nestedProperty "links" linkMembers) = 0 := by decide
  have hmeta : sumTerminators (nestedProperty "meta" metaMembers) = 0 := by decide
  have hdata : terminators "data".toList = 0 := rfl
  rw [sumTerminators_append, sumTerminators_append, sumTerminators_cons, sumTerminators_nil,
    terminators_property, terminators_arrayName, hlinks, hmeta, hdata]
  rfl

/-- The property of an envelope ends comments only in the name of its type. -/
theorem sumTerminators_envelope (name : String) :
    sumTerminators [property name "data"] = terminators name.toList := by
  rw [sumTerminators_cons, sumTerminators_nil, terminators_property]
  rfl

/-- The three typedefs end a comment once each, once more for every end in the name of a field, and
five times more for every end in the name of the type. -/
theorem sumTerminators_typedefs (name : String) {fields : List Field}
    (hfields : ∀ field ∈ fields, '/' ∉ field.type.toList) :
    sumTerminators (typedefs name fields) =
      3 + (fields.map fun field => terminators field.name.toList).sum +
        5 * terminators name.toList := by
  have hblank : sumTerminators [""] = 0 := rfl
  have hcollection : terminators (name ++ "Collection").toList = terminators name.toList :=
    terminators_name_append name (by decide) rfl
  have hresponse : terminators (name ++ "Response").toList = terminators name.toList :=
    terminators_name_append name (by decide) rfl
  rw [typedefs, sumTerminators_append, sumTerminators_append, sumTerminators_append,
    sumTerminators_append, sumTerminators_typedefBlock, sumTerminators_typedefBlock,
    sumTerminators_typedefBlock, sumTerminators_properties hfields, sumTerminators_page,
    sumTerminators_envelope, hcollection, hresponse, hblank]
  omega

/-! ### The body of a file -/

/-- The lines of a file after the comments at its top. -/
def bodyLines (text : String) : List (List Char) :=
  (Text.lines text).dropWhile ("//".toList.isPrefixOf ·)

/-- A comment block that defines the type of a name and is not ended before its last line. -/
def IsTypedef (name : String) (block : List (List Char)) : Prop :=
  ∃ properties, block = "/**".toList :: declaringLine .jsDoc name :: properties ++ [" */".toList] ∧
    ∀ line ∈ "/**".toList :: declaringLine .jsDoc name :: properties, terminators line = 0

/-- A text that is made, after the comments at its top, of the three blocks for a name, and in which
each is ended by its last line and nowhere else. -/
def ClosesThree (text name : String) : Prop :=
  ∃ own page envelope, bodyLines text = [[]] ++ own ++ [[]] ++ page ++ [[]] ++ envelope ++ [[]] ∧
    IsTypedef name own ∧ IsTypedef (name ++ "Collection") page ∧
    IsTypedef (name ++ "Response") envelope

/-- How often a comment is ended after the comments at the top of a text. -/
def bodyTerminators (text : String) : Nat :=
  terminators (['\n'].intercalate (bodyLines text))

theorem sum_terminators_of_isTypedef {name : String} {block : List (List Char)}
    (h : IsTypedef name block) : (block.map terminators).sum = 1 := by
  obtain ⟨properties, rfl, hnone⟩ := h
  have hzero : (("/**".toList :: declaringLine .jsDoc name :: properties).map terminators).sum =
      0 := by
    refine List.sum_eq_zero_iff_forall_eq_nat.2 fun n hn => ?_
    obtain ⟨line, hline, rfl⟩ := List.mem_map.1 hn
    exact hnone line hline
  rw [List.map_append, List.sum_append, hzero]
  rfl

theorem bodyTerminators_of_closesThree {text name : String} (h : ClosesThree text name) :
    bodyTerminators text = 3 := by
  obtain ⟨own, page, envelope, hbody, hown, hpage, henvelope⟩ := h
  rw [bodyTerminators, terminators_intercalate, hbody]
  simp only [List.map_append, List.sum_append, sum_terminators_of_isTypedef hown,
    sum_terminators_of_isTypedef hpage, sum_terminators_of_isTypedef henvelope]
  rfl

/-- A block that ends a comment just once does so in its last line. -/
theorem isTypedef_typedefBlock {name : String} {properties : List String}
    (h : sumTerminators (typedefBlock name properties) = 1) :
    IsTypedef name ((typedefBlock name properties).map String.toList) := by
  rw [sumTerminators_typedefBlock] at h
  refine ⟨properties.map String.toList, ?_, ?_⟩
  · rw [typedefBlock, List.map_append, List.map_append]
    rfl
  · intro line hline
    rw [List.mem_cons, List.mem_cons] at hline
    rcases hline with rfl | rfl | hline
    · rfl
    · rw [terminators_declaringLine]
      omega
    · obtain ⟨property, hproperty, rfl⟩ := List.mem_map.1 hline
      have hsum : sumTerminators properties = 0 := by omega
      exact List.sum_eq_zero_iff_forall_eq_nat.1 hsum _ (List.mem_map.2 ⟨property, hproperty, rfl⟩)

section

variable {declaration : Declaration} {excluded : List String} {generatedAt : String}

/-- The header of a file is made of comments and an empty line. -/
theorem headerTextLines_eq (generatedAt : String) {source : Option String}
    (hsource : ∀ text ∈ source, IsLine text) :
    ∃ comments, headerTextLines generatedAt source = comments ++ [[]] ∧
      ∀ line ∈ comments, "//".toList.isPrefixOf line := by
  refine ⟨header.toList :: ("// Generated at: " ++ generatedAt).toList ::
    source.toList.map fun text => ("// Source: " ++ text).toList, ?_, ?_⟩
  · cases source with
    | none => rfl
    | some text =>
      have hline : IsLine ("// Source: " ++ text) :=
        isLine_append.2 ⟨by decide, hsource text rfl⟩
      rw [headerTextLines, Option.toList_some, List.flatMap_cons, Text.lines_of_isLine hline]
      rfl
  · intro line hline
    rw [List.mem_cons, List.mem_cons, List.mem_map] at hline
    rcases hline with rfl | rfl | ⟨text, -, rfl⟩
    · rfl
    · rw [String.toList_append]
      rfl
    · rw [String.toList_append]
      rfl

/-- After the comments at its top a file has an empty line and the typedefs. -/
theorem bodyLines_render (hstamp : IsLine generatedAt)
    (hsource : ∀ source ∈ declaration.source, IsLine source) (hname : IsLine declaration.name)
    (hfields : ∀ field ∈ declaration.keptFields excluded, IsLine field.type) :
    bodyLines (declaration.render .jsDoc excluded generatedAt) =
      [[]] ++ (typedefs declaration.name (declaration.keptFields excluded)).map String.toList ++
        [[]] := by
  have hblocks : AreLines (typedefs declaration.name (declaration.keptFields excluded)) :=
    areLines_typedefs hname hfields
  obtain ⟨comments, heq, hcomments⟩ := headerTextLines_eq generatedAt hsource
  rw [bodyLines, lines_render hstamp, blocks, Text.flatMap_lines hblocks, heq, List.append_assoc,
    List.dropWhile_append_of_pos hcomments]
  rfl

/-- The body of a file ends a comment once for each block, and wherever names do. -/
theorem bodyTerminators_render (hstamp : IsLine generatedAt)
    (hsource : ∀ source ∈ declaration.source, IsLine source) (hname : IsLine declaration.name)
    (hlines : ∀ field ∈ declaration.keptFields excluded, IsLine field.type)
    (hslash : ∀ field ∈ declaration.keptFields excluded, '/' ∉ field.type.toList) :
    bodyTerminators (declaration.render .jsDoc excluded generatedAt) =
      3 + ((declaration.keptFields excluded).map fun field =>
        terminators field.name.toList).sum + 5 * terminators declaration.name.toList := by
  rw [bodyTerminators, terminators_intercalate, bodyLines_render hstamp hsource hname hlines,
    List.map_append, List.map_append, List.sum_append, List.sum_append, List.map_map,
    ← sumTerminators_typedefs declaration.name hslash, sumTerminators]
  simp
  rfl

/-- The blocks of a file hold together exactly if no name ends a comment. -/
theorem closesThree_render_iff (hstamp : IsLine generatedAt)
    (hsource : ∀ source ∈ declaration.source, IsLine source) (hname : IsLine declaration.name)
    (hlines : ∀ field ∈ declaration.keptFields excluded, IsLine field.type)
    (hslash : ∀ field ∈ declaration.keptFields excluded, '/' ∉ field.type.toList) :
    ClosesThree (declaration.render .jsDoc excluded generatedAt) declaration.name ↔
      terminators declaration.name.toList = 0 ∧
        ∀ field ∈ declaration.keptFields excluded, terminators field.name.toList = 0 := by
  constructor
  · intro h
    have htotal := bodyTerminators_of_closesThree h
    rw [bodyTerminators_render hstamp hsource hname hlines hslash] at htotal
    have hsum : ((declaration.keptFields excluded).map fun field =>
        terminators field.name.toList).sum = 0 := by omega
    refine ⟨by omega, fun field hfield => ?_⟩
    exact List.sum_eq_zero_iff_forall_eq_nat.1 hsum _ (List.mem_map.2 ⟨field, hfield, rfl⟩)
  · rintro ⟨hzero, hnone⟩
    have hsum : ((declaration.keptFields excluded).map fun field =>
        terminators field.name.toList).sum = 0 := by
      refine List.sum_eq_zero_iff_forall_eq_nat.2 fun n hn => ?_
      obtain ⟨field, hfield, rfl⟩ := List.mem_map.1 hn
      exact hnone field hfield
    have hcollection : terminators (declaration.name ++ "Collection").toList =
        terminators declaration.name.toList := terminators_name_append _ (by decide) rfl
    have hresponse : terminators (declaration.name ++ "Response").toList =
        terminators declaration.name.toList := terminators_name_append _ (by decide) rfl
    have hown := @isTypedef_typedefBlock declaration.name
      ((declaration.keptFields excluded).map fun f => property f.type (propertyKey f.name))
      (by rw [sumTerminators_typedefBlock, sumTerminators_properties hslash, hzero, hsum])
    have hpage := @isTypedef_typedefBlock (declaration.name ++ "Collection")
      ([property ("Array<" ++ declaration.name ++ ">") "data"] ++
        nestedProperty "links" linkMembers ++ nestedProperty "meta" metaMembers)
      (by rw [sumTerminators_typedefBlock, sumTerminators_page, hcollection, hzero])
    have henvelope := @isTypedef_typedefBlock (declaration.name ++ "Response")
      [property declaration.name "data"]
      (by rw [sumTerminators_typedefBlock, sumTerminators_envelope, hresponse, hzero])
    refine ⟨_, _, _, ?_, hown, hpage, henvelope⟩
    rw [bodyLines_render hstamp hsource hname hlines, typedefs]
    simp only [List.map_append, List.append_assoc]
    rfl

end

end Declaration

/-! ## Declarations of payloads -/

namespace Generation

open Declaration Text

/-- The keys of a record that are not excluded, in order. -/
def keptKeys (settings : Settings) (record : Keyed Json) : List String :=
  record.keys.filter (!settings.excludedColumns.contains ·)

theorem keys_ofEntries (record : Keyed Json) :
    Keyed.keys (Sample.ofEntries record) = record.keys := by
  induction record with
  | nil => rfl
  | cons entry rest ih =>
    rw [Sample.ofEntries, Keyed.keys, List.map_cons, ← Keyed.keys, ih]
    rfl

/-- The fields that are written are named after the keys of the record. -/
theorem names_keptFields {settings : Settings} {name origin : String} {document : Json}
    {declaration : Declaration} {record : Keyed Json}
    (h : valueDeclaration settings name origin document = .ok declaration)
    (hrecord : Payload.record document = .ok record) :
    (declaration.keptFields settings.excludedColumns).map (·.name) =
      keptKeys settings record := by
  obtain ⟨found, hfound, rfl⟩ := valueDeclaration_eq_ok.1 h
  obtain rfl := Except.ok.inj (hfound.symm.trans hrecord)
  have hnames : (settings.inference.fields (Sample.ofEntries found)).map (·.name) = found.keys := by
    rw [Inference.fields, List.map_map, ← keys_ofEntries]
    rfl
  rw [keptKeys, ← hnames, List.filter_map]
  rfl

/-- A document that has a record is declared, and the body of its declaration ends a comment three
times, besides the ends in the names of fields and in the name of the type.  So the three blocks
hold together exactly if no name of a field that is kept ends a comment, and neither does the name
of the type. -/
theorem closesThree_iff {settings : Settings} (hdialect : settings.dialect = .jsDoc)
    (hsuffix : IsLine settings.valueSuffix) {name origin generatedAt : String}
    (hname : IsLine name) (horigin : IsLine origin) (hstamp : IsLine generatedAt)
    {document : Json} {record : Keyed Json} (hrecord : Payload.record document = .ok record) :
    ∃ declaration, valueDeclaration settings name origin document = .ok declaration ∧
      bodyTerminators
          (declaration.render settings.dialect settings.excludedColumns generatedAt) =
        3 + ((keptKeys settings record).map fun key => terminators key.toList).sum +
          5 * terminators declaration.name.toList ∧
      (ClosesThree (declaration.render settings.dialect settings.excludedColumns generatedAt)
          declaration.name ↔
        terminators declaration.name.toList = 0 ∧
          ∀ key ∈ keptKeys settings record, terminators key.toList = 0) := by
  obtain ⟨declaration, hdeclaration⟩ :
      ∃ declaration, valueDeclaration settings name origin document = .ok declaration :=
    ⟨_, valueDeclaration_eq_ok.2 ⟨record, hrecord, rfl⟩⟩
  have hkept := names_keptFields hdeclaration hrecord
  obtain ⟨found, -, heq⟩ := valueDeclaration_eq_ok.1 hdeclaration
  have hlineName : IsLine declaration.name := by
    rw [heq]
    exact Naming.newline_not_mem_typeName hname hsuffix
  have hsource : ∀ source ∈ declaration.source, IsLine source := by
    rw [heq]
    rintro source ⟨rfl⟩
    exact horigin
  have hlines : ∀ field ∈ declaration.keptFields settings.excludedColumns,
      IsLine field.type := by
    intro field hfield
    obtain ⟨sample, htype⟩ :=
      exists_typeOf_of_valueDeclaration hdeclaration (List.mem_filter.1 hfield).1
    rw [htype]
    exact settings.inference.newline_not_mem_typeOf sample
  have hslash : ∀ field ∈ declaration.keptFields settings.excludedColumns,
      '/' ∉ field.type.toList := by
    intro field hfield
    obtain ⟨sample, htype⟩ :=
      exists_typeOf_of_valueDeclaration hdeclaration (List.mem_filter.1 hfield).1
    rw [htype]
    exact settings.inference.slash_not_mem_typeOf sample
  refine ⟨declaration, hdeclaration, ?_, ?_⟩
  · rw [hdialect, bodyTerminators_render hstamp hsource hlineName hlines hslash, ← hkept,
      List.map_map]
    rfl
  · rw [hdialect, closesThree_render_iff hstamp hsource hlineName hlines hslash, ← hkept,
      List.forall_mem_map]

/-- Settings for JSDoc. -/
def documented : Settings := { dialect := .jsDoc }

/-- A record whose fields have both characters that end a comment in their names, but not one after
the other. -/
theorem closesThree_iff_documented :
    ∃ declaration, valueDeclaration documented "user" "user.json"
        (.object [("*", .integer 1), ("/ *", .array [])]) = .ok declaration ∧
      ClosesThree (declaration.render .jsDoc documented.excludedColumns "2024-01-01 00:00:00")
        declaration.name := by
  have hrecord : Payload.record (.object [("*", .integer 1), ("/ *", .array [])]) =
      .ok [("*", .integer 1), ("/ *", .array [])] := rfl
  obtain ⟨declaration, hdeclaration, -, hiff⟩ :=
    @closesThree_iff documented rfl (by decide) "user" "user.json" "2024-01-01 00:00:00"
      (by decide) (by decide) (by decide) _ _ hrecord
  have hname : terminators (Naming.typeName "user" "Type").toList = 0 := by decide +kernel
  obtain ⟨_, -, heq⟩ := valueDeclaration_eq_ok.1 hdeclaration
  refine ⟨declaration, hdeclaration, hiff.2 ⟨?_, by decide +kernel⟩⟩
  rw [heq]
  exact hname

/-- Sources and suffixes that are made of lines and end no comment do not see to it that a
declaration ends its comments three times: the name of a field can end one more. -/
theorem not_forall_closesThree :
    ¬ ∀ (settings : Settings) (name origin generatedAt : String) (document : Json)
      (declaration : Declaration), settings.dialect = .jsDoc → IsLine settings.valueSuffix →
      terminators settings.valueSuffix.toList = 0 → IsLine name → IsLine origin →
      IsLine generatedAt → valueDeclaration settings name origin document = .ok declaration →
      bodyTerminators
        (declaration.render settings.dialect settings.excludedColumns generatedAt) = 3 := by
  intro h
  have hthree := h documented "user" "user.json" "2024-01-01 00:00:00"
    (.object [("*/", .integer 1)]) ⟨"UserType", [⟨"*/", "number"⟩], some "user.json"⟩ rfl
    (by decide) (by decide) (by decide) (by decide) (by decide) (by decide +kernel)
  rw [show documented.dialect = .jsDoc from rfl, bodyTerminators_render (by decide) (by decide)
    (by decide) (by decide) (by decide)] at hthree
  exact absurd hthree (by decide +kernel)

end Generation
end ResponseTypes
