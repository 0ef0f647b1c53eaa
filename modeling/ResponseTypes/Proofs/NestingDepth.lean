import ResponseTypes.Proofs.BracketNesting
import ResponseTypes.Proofs.DeclaringLines
import ResponseTypes.Proofs.ElementTypes
import ResponseTypes.Proofs.Envelopes
import ResponseTypes.Proofs.FilterRuns
import ResponseTypes.Proofs.IdentityFilter

/-!
# How deep annotations go

A field is annotated as an array once for each step down by first elements, so how long an
annotation gets depends on how deep a document is nested.  Documents come from files or from
filters.  Both are read, and reading stops at the 128th array or object inside each other; but a
filter nests values as deep as it likes, and only reading what it has put out bounds them again.

A value of a greater depth is written with as many open brackets, and is refused
(`Filter.run_of_deep`).  A document of a payload is one that was read, and has at most 127 arrays
and objects inside each other (`Payload.depth_le_of_load`).  One of these is the record with the
fields, so at most 126 are left for an annotation (`Generation.arrayMarks_lt_depth`).

## Main definitions

- `Dialect.arrayMarks`: the number of array marks in an annotation.
- `Outputs.Emits`: outputs among which is a value.

## Main statements

- `Inference.arrayMarks_typeOf`: an annotation has a mark for each step.
- `Sample.arrayDepth_ofJson_le`: and no more steps than its sample is deep.
- `Generation.nesting_bounded`: the bounds for all payloads.
-/

namespace ResponseTypes

/-! ## Depth of documents -/

namespace Json

theorem listDepth_le_iff {items : List Json} {n : Nat} :
    listDepth items ≤ n ↔ ∀ item ∈ items, item.depth ≤ n := by
  induction items with
  | nil => simp [listDepth]
  | cons item items ih => rw [listDepth, Nat.max_le, ih, List.forall_mem_cons]

theorem entryDepth_le_iff {entries : List (String × Json)} {n : Nat} :
    entryDepth entries ≤ n ↔ ∀ entry ∈ entries, entry.2.depth ≤ n := by
  induction entries with
  | nil => simp [entryDepth]
  | cons entry entries ih => rw [entryDepth, Nat.max_le, ih, List.forall_mem_cons]

theorem depth_lt_of_mem_array {items : List Json} {item : Json} (h : item ∈ items) :
    item.depth < (array items).depth :=
  Nat.lt_succ_of_le (listDepth_le_iff.1 le_rfl item h)

theorem depth_lt_of_mem_object {entries : Keyed Json} {entry : String × Json}
    (h : entry ∈ entries) : entry.2.depth < (object entries).depth :=
  Nat.lt_succ_of_le (entryDepth_le_iff.1 le_rfl entry h)

/-- What a reader gives is nested no deeper than it reads. -/
theorem Bounded.depth_le {depth : Nat} {v : Json} (h : Bounded depth v) : v.depth ≤ depth := by
  induction h with
  | array _ ih => exact Nat.succ_le_succ (listDepth_le_iff.2 ih)
  | object _ _ ih => exact Nat.succ_le_succ (entryDepth_le_iff.2 ih)
  | _ => exact Nat.zero_le _

theorem depth_le_of_parseWhole {bytes : Bytes} {v : Json} (h : parseWhole bytes = .ok v) :
    v.depth ≤ maxDepth := by
  obtain ⟨before, text, after, -, htext, -⟩ := parseWhole_eq_ok.1 h
  exact (bounded_of_text htext).depth_le

end Json

namespace Datum

mutual

/-- A document is as deep as the value that a filter works on. -/
theorem depth_ofJson : ∀ v : Json, (ofJson v).depth = v.depth
  | .array items => congrArg (· + 1) (listDepth_ofItems items)
  | .object entries => congrArg (· + 1) (entryDepth_ofEntries entries)
  | .integer n => by
    rw [ofJson]
    split_ifs <;> rfl
  | .null | .boolean _ | .double _ | .string _ => rfl

theorem listDepth_ofItems : ∀ items : List Json,
    listDepth (ofItems items) = Json.listDepth items
  | [] => rfl
  | item :: rest => congrArg₂ max (depth_ofJson item) (listDepth_ofItems rest)

theorem entryDepth_ofEntries : ∀ entries : List (String × Json),
    entryDepth (ofEntries entries) = Json.entryDepth entries
  | [] => rfl
  | (_, v) :: rest => congrArg₂ max (depth_ofJson v) (entryDepth_ofEntries rest)

end

mutual

/-- The numbers of a document that a filter keeps as they are written are made of the characters of
numbers. -/
theorem plain_ofJson : ∀ v : Json, (ofJson v).Plain
  | .null => .null
  | .boolean b => .boolean b
  | .integer n => by
    rw [ofJson]
    split_ifs
    · exact .integer n
    · exact .numeral (numeric_toString n)
  | .double x => .numeral ((String.toList_ofList).symm ▸ numeric_write _ x)
  | .string s => .text s
  | .array items => .array (plain_ofItems items)
  | .object entries => .object (plain_ofEntries entries)

theorem plain_ofItems : ∀ items : List Json, ∀ item ∈ ofItems items, item.Plain
  | [] => nofun
  | item :: rest => List.forall_mem_cons.2 ⟨plain_ofJson item, plain_ofItems rest⟩

theorem plain_ofEntries : ∀ entries : List (String × Json),
    ∀ entry ∈ ofEntries entries, entry.2.Plain
  | [] => nofun
  | (_, v) :: rest => List.forall_mem_cons.2 ⟨plain_ofJson v, plain_ofEntries rest⟩

end

end Datum

/-- A record is nested no deeper than the document it is found in. -/
theorem Payload.Wraps.depth_le {record : Keyed Json} {document : Json} (h : Wraps record document) :
    (Json.object record).depth ≤ document.depth := by
  have hdata : ∀ (before after : Keyed Json) (v : Json),
      v.depth < (Json.object (before ++ ("data", v) :: after)).depth := fun before after v =>
    @Json.depth_lt_of_mem_object _ ("data", v) (List.mem_append_right before List.mem_cons_self)
  have hfirst : ∀ items : List Json,
      (Json.object record).depth < (Json.array (.object record :: items)).depth := fun items =>
    Json.depth_lt_of_mem_array List.mem_cons_self
  cases h with
  | member before after _ => exact (hdata before after _).le
  | members before after items _ => exact ((hfirst items).trans (hdata before after _)).le
  | list items => exact (hfirst items).le
  | bare _ _ => exact le_rfl

/-! ## Array marks -/

namespace Dialect

/-- The character that each array mark has once. -/
def arrayMark : Dialect → Char
  | .typeScript => '['
  | .jsDoc => '<'

/-- The number of array marks in an annotation. -/
def arrayMarks (dialect : Dialect) (type : String) : Nat :=
  type.toList.count dialect.arrayMark

variable (dialect : Dialect)

theorem arrayMarks_arrayOf (type : String) :
    dialect.arrayMarks (dialect.arrayOf type) = dialect.arrayMarks type + 1 := by
  cases dialect with
  | typeScript =>
    rw [arrayOf]
    split_ifs <;> simp [arrayMarks, arrayMark]
  | jsDoc => simp [arrayMarks, arrayMark, arrayOf]

theorem arrayMarks_iterate_arrayOf (n : Nat) (type : String) :
    dialect.arrayMarks (dialect.arrayOf^[n] type) = dialect.arrayMarks type + n := by
  induction n with
  | zero => rfl
  | succ n ih => rw [Function.iterate_succ_apply', arrayMarks_arrayOf, ih, Nat.add_assoc]

theorem arrayMarks_typeOfKind (policy : NullPolicy) (kind : Sample.Kind) :
    dialect.arrayMarks (dialect.typeOfKind policy kind) = 0 := by
  cases dialect <;> cases policy <;> cases kind <;> decide

end Dialect

/-- An annotation has one array mark for each step down by first elements. -/
theorem Inference.arrayMarks_typeOf (i : Inference) (sample : Sample) :
    i.dialect.arrayMarks (i.typeOf sample) = sample.arrayDepth := by
  rw [typeOf_eq_iterate, Dialect.arrayMarks_iterate_arrayOf, Dialect.arrayMarks_typeOfKind,
    Nat.zero_add]

namespace Sample

theorem ofItems_eq_map (items : List Json) : ofItems items = items.map ofJson := by
  induction items with
  | nil => rfl
  | cons item items ih => rw [ofItems, ih, List.map_cons]

/-- The first element of a sample is the sample of something inside the document. -/
theorem exists_of_first? {v : Json} {first : Sample} (h : (ofJson v).first? = some first) :
    ∃ w, first = ofJson w ∧ w.depth < v.depth := by
  obtain ⟨elements, helements, hhead⟩ := Option.bind_eq_some_iff.1 h
  have hmem := List.mem_of_head? hhead
  cases v with
  | array items =>
    obtain rfl := Option.some.inj helements
    rw [ofItems_eq_map] at hmem
    obtain ⟨w, hw, rfl⟩ := List.mem_map.1 hmem
    exact ⟨w, rfl, Json.depth_lt_of_mem_array hw⟩
  | object entries =>
    rw [ofJson, elements?] at helements
    split_ifs at helements
    obtain rfl := Option.some.inj helements
    rw [ofEntries_eq_map, Keyed.values, List.map_map] at hmem
    obtain ⟨entry, hentry, rfl⟩ := List.mem_map.1 hmem
    exact ⟨entry.2, rfl, Json.depth_lt_of_mem_object hentry⟩
  | integer n =>
    rw [ofJson] at helements
    split_ifs at helements <;> cases helements
  | _ => cases helements

theorem arrayDepth_le_of_none {v : Json} (h : (ofJson v).first? = none) :
    (ofJson v).arrayDepth ≤ v.depth := by
  rw [arrayDepth, follow_of_none h, Nat.zero_add]
  split_ifs with hkind
  · cases v with
    | array items => exact Nat.succ_le_succ (Nat.zero_le _)
    | object entries => exact Nat.succ_le_succ (Nat.zero_le _)
    | integer n =>
      simp only [ofJson] at hkind
      split_ifs at hkind <;> cases hkind
    | string s =>
      simp only [ofJson, kind] at hkind
      split_ifs at hkind
    | _ => cases hkind
  · exact Nat.zero_le _

theorem arrayDepth_of_first? {sample first : Sample} (h : sample.first? = some first) :
    sample.arrayDepth = first.arrayDepth + 1 := by
  rw [arrayDepth, arrayDepth, follow_of_some h]
  exact Nat.add_right_comm _ _ _

/-- The way down by first elements is no longer than a document is deep, by induction on the
depth. -/
theorem arrayDepth_ofJson_le (v : Json) : (ofJson v).arrayDepth ≤ v.depth := by
  induction hdepth : v.depth using Nat.strong_induction_on generalizing v with
  | _ depth ih =>
    subst hdepth
    cases hfirst : (ofJson v).first? with
    | none => exact arrayDepth_le_of_none hfirst
    | some first =>
      obtain ⟨w, rfl, hlt⟩ := exists_of_first? hfirst
      rw [arrayDepth_of_first? hfirst]
      exact Nat.succ_le_of_lt ((ih w.depth hlt w rfl).trans_lt hlt)

end Sample

/-! ## Runs of filters -/

/-- Outputs among which is a value. -/
inductive Outputs.Emits {α : Type} (value : α) : Outputs α → Prop
  | here {rest : Unit → Outputs α} : Emits value (.emit value rest)
  | later {other : α} {rest : Unit → Outputs α} (h : Emits value (rest ())) :
      Emits value (.emit other rest)

theorem Outputs.All.of_emits {α : Type} {p : α → Prop} {outputs : Outputs α} (h : outputs.All p)
    {value : α} (hemits : outputs.Emits value) : p value := by
  induction hemits with
  | here =>
    cases h with
    | emit hvalue _ => exact hvalue
  | later _ ih =>
    cases h with
    | emit _ hrest => exact ih hrest

namespace Filter

/-- The documents that outputs are have been read. -/
theorem depth_le_of_documents {outputs : Outputs Datum} {found : List Json}
    (h : documents outputs = .ok (.ok found)) :
    ∀ document ∈ found, document.depth ≤ Json.maxDepth := by
  induction outputs generalizing found with
  | done =>
    obtain rfl := Except.ok.inj (Except.ok.inj h)
    exact nofun
  | raise reason => cases reason <;> cases h
  | emit value rest ih =>
    rw [documents] at h
    cases hparse : Json.parseWhole value.render.toUTF8.toList with
    | error fault =>
      obtain ⟨detail, hdocument⟩ := document_eq_error hparse
      rw [hdocument] at h
      cases h
    | ok first =>
      rw [document_eq_ok hparse] at h
      rcases hrest : documents (rest ()) with reason | (failure | others)
      all_goals rw [hrest] at h
      · cases h
      · cases h
      · obtain rfl := Except.ok.inj (Except.ok.inj h)
        exact List.forall_mem_cons.2 ⟨Json.depth_le_of_parseWhole hparse, ih () hrest⟩

/-- One value whose text is refused makes a run fail as a filter, whatever comes after it. -/
theorem documents_of_emits {outputs : Outputs Datum} {value : Datum} (hemits : outputs.Emits value)
    {fault : Json.Fault} (hrefused : Json.parseWhole value.render.toUTF8.toList = .error fault) :
    ∃ detail, documents outputs = .ok (.error (.filter detail)) := by
  induction hemits with
  | here =>
    obtain ⟨detail, hdocument⟩ := document_eq_error hrefused
    rw [documents, hdocument]
    exact ⟨detail, rfl⟩
  | @later other rest _ ih =>
    obtain ⟨detail, hrest⟩ := ih
    rw [documents]
    cases hparse : Json.parseWhole other.render.toUTF8.toList with
    | error fault =>
      obtain ⟨detail, hdocument⟩ := document_eq_error hparse
      rw [hdocument]
      exact ⟨detail, rfl⟩
    | ok first =>
      rw [document_eq_ok hparse, hrest]
      exact ⟨detail, rfl⟩

variable {now : Int} {text : String} {t : Term} {document : Json}

theorem run_eq_documents (h : read text = .ok t) (now : Int) (document : Json) :
    run now text document = documents (outputs now t document) := by
  rw [run, h]

theorem depth_le_of_run {found : List Json} (h : run now text document = .ok (.ok found)) :
    ∀ v ∈ found, v.depth ≤ Json.maxDepth := by
  cases hread : read text with
  | error failure =>
    rw [run, hread] at h
    cases h
  | ok t => exact depth_le_of_documents ((run_eq_documents hread now document).symm.trans h)

/-- The outputs of a filter for a document are plain. -/
theorem all_outputs (h : read text = .ok t) (now : Int) (input : Json) :
    (outputs now t input).All Datum.Plain :=
  (Term.plain_evaluator now maxDepth).run Scope.plain_nil (plain_of_read h)
    (Datum.plain_ofJson input)

/-- A run with a value that is nested too deeply to be read. -/
theorem run_of_deep {value : Datum} (hread : read text = .ok t)
    (hemits : (outputs now t document).Emits value) (hdeep : Json.maxDepth < value.depth) :
    ∃ detail, run now text document = .ok (.error (.filter detail)) := by
  have hplain := (all_outputs hread now document).of_emits hemits
  cases hparse : Json.parseWhole value.render.toUTF8.toList with
  | ok v => exact absurd (Nesting.depth_le_of_parseWhole hplain hparse) (Nat.not_le_of_lt hdeep)
  | error fault =>
    obtain ⟨detail, hdetail⟩ := documents_of_emits hemits hparse
    exact ⟨detail, (run_eq_documents hread now document).trans hdetail⟩

end Filter

/-! ## Payloads -/

/-- The documents of a payload are nested no deeper than is read, with a filter and without. -/
theorem Payload.depth_le_of_load {session : Session} {path : String} {filter? : Option String}
    {documents : List Json} (h : (session.perform (load path filter?)).1 = .ok (.ok documents)) :
    ∀ document ∈ documents, document.depth ≤ Json.maxDepth := by
  cases filter? with
  | none =>
    obtain ⟨document, hholds, rfl⟩ := exists_holds_of_load h
    exact List.forall_mem_singleton.2 hholds.bounded.depth_le
  | some text =>
    rw [(load_yields path (some text) session.files session.now session.stamp).perform_fst] at h
    cases hread : (session.files.read path).toOption with
    | none => rw [hread] at h; cases h
    | some content =>
      rw [hread, ofContent] at h
      cases hdocument : documentOf path content with
      | error failure => rw [hdocument] at h; cases h
      | ok document =>
        rw [hdocument] at h
        exact Filter.depth_le_of_run h

namespace Generation

/-- One of the arrays and objects of a document is the record whose fields are annotated. -/
theorem arrayMarks_lt_depth {settings : Settings} {name origin : String} {document : Json}
    {declaration : Declaration}
    (h : valueDeclaration settings name origin document = .ok declaration) :
    ∀ field ∈ declaration.fields, settings.dialect.arrayMarks field.type < document.depth := by
  obtain ⟨record, hrecord, rfl⟩ := valueDeclaration_eq_ok.1 h
  have hwraps := Payload.record_eq_ok.1 hrecord
  rw [fields_ofEntries, List.forall_mem_map]
  intro entry hentry
  have hmarks := settings.inference.arrayMarks_typeOf (Sample.ofJson entry.2)
  calc settings.dialect.arrayMarks (settings.inference.typeOf (Sample.ofJson entry.2))
      = (Sample.ofJson entry.2).arrayDepth := hmarks
    _ ≤ entry.2.depth := Sample.arrayDepth_ofJson_le entry.2
    _ < (Json.object record).depth := Json.depth_lt_of_mem_object hentry
    _ ≤ document.depth := hwraps.depth_le

/-- Annotations are of bounded depth whatever a filter builds.  The documents of a payload, with
any filter or none, have at most 127 arrays and objects inside each other, so that each field that
is declared for one of them has at most 126 array marks, under any settings and in either dialect.
A filter that builds a value of a greater depth has no documents at all: the run fails as a filter,
and leaves the session as it was. -/
theorem nesting_bounded (session : Session) (path : String) (filter? : Option String) :
    (∀ documents, (session.perform (Payload.load path filter?)).1 = .ok (.ok documents) →
      ∀ document ∈ documents, document.depth ≤ 127 ∧
        ∀ (settings : Settings) (name origin : String) (declaration : Declaration),
          valueDeclaration settings name origin document = .ok declaration →
          ∀ field ∈ declaration.fields, settings.dialect.arrayMarks field.type ≤ 126) ∧
    ∀ text t document, filter? = some text → Payload.Holds session.files path document →
      Filter.read text = .ok t → ∀ value,
        (Filter.outputs session.now t document).Emits value → 127 < value.depth →
        ∃ detail, Filter.run session.now text document = .ok (.error (.filter detail)) ∧
          session.perform (Payload.load path filter?) =
            (.ok (.error (.filter detail)), session) := by
  refine ⟨fun documents hload document hdocument => ?_, ?_⟩
  · have hdepth : document.depth ≤ 127 := Payload.depth_le_of_load hload document hdocument
    exact ⟨hdepth, fun settings name origin declaration hdeclaration field hfield =>
      Nat.le_of_lt_succ ((arrayMarks_lt_depth hdeclaration field hfield).trans_le hdepth)⟩
  · rintro text t document rfl hholds hread value hemits hdeep
    obtain ⟨detail, hdetail⟩ := Filter.run_of_deep hread hemits hdeep
    exact ⟨detail, hdetail, by rw [Payload.perform_load_filter hholds, hdetail]⟩

/-- Arrays inside each other, the innermost of which is empty. -/
def nested : Nat → Json
  | 0 => .array []
  | n + 1 => .array [nested n]

/-- Whether a document has nested arrays and nothing else, under a key. -/
def isNestedUnder (key : String) (n : Nat) : Json → Bool
  | .object [(found, v)] => found == key && isNested n v
  | _ => false
where
  /-- Whether a document is made of nested arrays. -/
  isNested : Nat → Json → Bool
    | 0, .array [] => true
    | n + 1, .array [v] => isNested n v
    | _, _ => false

theorem eq_of_isNested {n : Nat} {v : Json} (h : isNestedUnder.isNested n v = true) :
    v = nested n := by
  induction n generalizing v with
  | zero =>
    unfold isNestedUnder.isNested at h
    split at h
    · rfl
    · rename_i heq
      cases heq
    · cases h
  | succ n ih =>
    unfold isNestedUnder.isNested at h
    split at h
    · cases ‹_ = 0›
    · rename_i heq
      obtain rfl := Nat.succ.inj heq
      rw [nested, ih h]
    · cases h

theorem eq_of_isNestedUnder {key : String} {n : Nat} {v : Json} (h : isNestedUnder key n v = true) :
    v = .object [(key, nested n)] := by
  unfold isNestedUnder at h
  split at h
  · obtain ⟨hkey, hnested⟩ := Bool.and_eq_true_iff.1 h
    rw [eq_of_beq hkey, eq_of_isNested hnested]
  · cases h

theorem depth_nested (n : Nat) : (nested n).depth = n + 1 := by
  induction n with
  | zero => rfl
  | succ n ih => rw [nested, Json.depth, Json.listDepth, Json.listDepth, ih, Nat.max_zero]

/-- Nested arrays have an array mark each. -/
theorem arrayDepth_nested (n : Nat) : (Sample.ofJson (nested n)).arrayDepth = n + 1 := by
  induction n with
  | zero => rw [nested, Sample.ofJson, Sample.arrayDepth, Sample.follow_of_none rfl]; rfl
  | succ n ih =>
    have hfirst : (Sample.ofJson (nested (n + 1))).first? = some (Sample.ofJson (nested n)) := rfl
    rw [Sample.arrayDepth_of_first? hfirst, ih]

/-- A record with 126 arrays inside each other under its one key, in a session of its own. -/
def deeplyNested : Session where
  files := {
    entries :=
      [(["deep.json".toList], .file ([123, 34, 97, 34, 58] ++ List.replicate 126 91 ++
        List.replicate 126 93 ++ [125]) 0)]
    home := [] }
  now := 7200000000000
  stamp := "2024-01-01 02:00:00"

theorem exists_holds_deep : ∃ v, Payload.Holds deeplyNested.files "deep.json" (.object [("a", v)]) ∧
    v.depth = 126 ∧ (Sample.ofJson v).arrayDepth = 126 := by
  have hdocument : (Json.parse .any ([123, 34, 97, 34, 58] ++ List.replicate 126 91 ++
      List.replicate 126 93 ++ [125])).toOption.any (isNestedUnder "a" 125) = true := by
    decide +kernel
  obtain ⟨document, hparse, hnested⟩ := exists_eq_ok hdocument
  rw [eq_of_isNestedUnder hnested] at hparse
  exact ⟨nested 125, ⟨_, by decide +kernel, hparse⟩, depth_nested 125, arrayDepth_nested 125⟩

/-- Whether a term puts its input into an array. -/
def isWrapped : Term → Bool
  | .array .identity => true
  | _ => false

theorem read_wrapped : Filter.read "[.]" = .ok (.array .identity) := by
  have hterm : (Filter.read "[.]").toOption.any isWrapped = true := by decide +kernel
  obtain ⟨t, hread, ht⟩ := exists_eq_ok hterm
  unfold isWrapped at ht
  split at ht
  · exact hread
  · cases ht

/-- The bounds are met by a record as deep as can be read, and one array around it is too much. -/
theorem nesting_bounded_deepest :
    ∃ document declaration detail,
      (deeplyNested.perform (Payload.load "deep.json" none)).1 = .ok (.ok [document]) ∧
      document.depth = 127 ∧
      valueDeclaration {} "deep" "deep.json" document = .ok declaration ∧
      declaration.fields.map (fun field => Dialect.typeScript.arrayMarks field.type) = [126] ∧
      deeplyNested.perform (Payload.load "deep.json" (some "[.]")) =
        (.ok (.error (.filter detail)), deeplyNested) := by
  obtain ⟨v, hholds, hdepth, harrays⟩ := exists_holds_deep
  have hload := (Payload.load_yields "deep.json" none deeplyNested.files deeplyNested.now
    deeplyNested.stamp).perform_fst
  rw [Payload.ofContent_of_holds hholds] at hload
  have hrecord : Payload.record (.object [("a", v)]) = .ok [("a", v)] := rfl
  have hdeclaration := (@valueDeclaration_eq_ok {} "deep" "deep.json" _ _).2 ⟨_, hrecord, rfl⟩
  obtain ⟨-, hdeclared⟩ := (nesting_bounded deeplyNested "deep.json" none).1 _ hload _
    (List.mem_singleton_self _)
  have hmarks := hdeclared {} "deep" "deep.json" _ hdeclaration _ List.mem_cons_self
  have hdeep : (Json.object [("a", v)]).depth = 127 := by
    rw [Json.depth, Json.entryDepth, Json.entryDepth, hdepth]
    rfl
  have hemits : (Filter.outputs deeplyNested.now (.array .identity) (.object [("a", v)])).Emits
      (.array [.ofJson (.object [("a", v)])]) := .here
  have hdeeper : 127 < (Datum.array [.ofJson (.object [("a", v)])]).depth := by
    rw [Datum.depth, Datum.listDepth, Datum.listDepth, Datum.depth_ofJson, hdeep]
    decide
  obtain ⟨detail, -, herror⟩ := (nesting_bounded deeplyNested "deep.json" (some "[.]")).2 _ _ _ rfl
    hholds read_wrapped _ hemits hdeeper
  have hattained : Dialect.typeScript.arrayMarks (Inference.typeOf {} (Sample.ofJson v)) = 126 :=
    Nat.le_antisymm hmarks ((Inference.arrayMarks_typeOf {} _).trans harrays).ge
  exact ⟨_, _, detail, hload, hdeep, hdeclaration, congrArg (· :: []) hattained, herror⟩

end Generation
end ResponseTypes
