import Mathlib.Data.List.Forall2
import Mathlib.Logic.Function.Iterate
import ResponseTypes.Inference

/-!
# What an inferred annotation tells of a sample

An annotation is told from the first element of the first element, and so on down to a sample that
has no first element.  The way down gives the number of array marks, and the sample at its end gives
the annotation that they are put around.  This does without the recursion of inference, and without
its look at the text made so far: no annotation of a sample has a blank or a bar in TypeScript, so
the parentheses of unions never come up.

## Main definitions

- `Sample.first?`: the first element of a sequence, or of a mapping that is one in disguise.
- `Sample.follow`: the way down by first elements.
- `Sample.kind`: what counts of the sample at the end of the way.
- `Sample.SameFirsts`: samples that agree on the way down.
- `Sample.Unmasks`: samples that differ in disguised sequences.

## Main statements

- `Inference.typeOf_eq_iterate`: an annotation by the way down.
- `Inference.typeOf_of_sameFirsts`, `Inference.typeOf_unmasked`: what makes no difference.
- `Inference.typeOf_closed_form`: all of it, with the texts that it comes to.
-/

namespace ResponseTypes

/-! ## The way down -/

namespace Sample

/-- A mapping whose `i`-th key is the numeral of `i` for every `i`. -/
def IsIndexed (entries : Keyed Sample) : Prop :=
  entries.keys = (List.range entries.length).map toString

instance (entries : Keyed Sample) : Decidable (IsIndexed entries) :=
  inferInstanceAs (Decidable (_ = _))

theorem areIndices_iff {start : Nat} {keys : List String} : areIndices start keys = true ↔
    keys = (List.range' start keys.length).map toString := by
  induction keys generalizing start with
  | nil => simp [areIndices]
  | cons key rest ih =>
    rw [areIndices, Bool.and_eq_true, beq_iff_eq, ih, List.length_cons, List.range'_succ,
      List.map_cons, List.cons.injEq]

theorem areIndices_keys_iff {entries : Keyed Sample} :
    areIndices 0 entries.keys = true ↔ IsIndexed entries := by
  rw [areIndices_iff, IsIndexed, List.range_eq_range', Keyed.keys, List.length_map]

/-- The elements of a sequence, or of a mapping that is one in disguise. -/
def elements? : Sample → Option (List Sample)
  | .sequence items => some items
  | .mapping entries => if IsIndexed entries then some (Keyed.values entries) else none
  | _ => none

/-- The first of the elements of a sample. -/
def first? (sample : Sample) : Option Sample :=
  sample.elements?.bind List.head?

theorem sizeOf_lt_of_mem_values {entries : List (String × Sample)} {value : Sample}
    (h : value ∈ Keyed.values entries) : sizeOf value < sizeOf entries := by
  obtain ⟨entry, hentry, rfl⟩ := List.mem_map.1 h
  have hlt := List.sizeOf_lt_of_mem hentry
  have hpair : sizeOf entry = 1 + sizeOf entry.1 + sizeOf entry.2 := by cases entry; rfl
  omega

theorem sizeOf_lt_of_first? {sample first : Sample} (h : sample.first? = some first) :
    sizeOf first < sizeOf sample := by
  obtain ⟨elements, helements, hhead⟩ := Option.bind_eq_some_iff.1 h
  have hmem := List.mem_of_head? hhead
  cases sample with
  | sequence items =>
    obtain rfl := Option.some.inj helements
    have hlt := List.sizeOf_lt_of_mem hmem
    simp only [sequence.sizeOf_spec]
    omega
  | mapping entries =>
    rw [elements?] at helements
    split_ifs at helements
    obtain rfl := Option.some.inj helements
    have hlt := sizeOf_lt_of_mem_values hmem
    simp only [mapping.sizeOf_spec]
    omega
  | _ => cases helements

/-- The way down by first elements: the number of its steps, and the sample at its end, which has no
first element. -/
def follow (sample : Sample) : Nat × Sample :=
  match h : sample.first? with
  | none => (0, sample)
  | some first => (first.follow.1 + 1, first.follow.2)
termination_by sizeOf sample
decreasing_by all_goals exact sizeOf_lt_of_first? h

theorem follow_of_none {sample : Sample} (h : sample.first? = none) :
    sample.follow = (0, sample) := by
  rw [follow]
  split
  · rfl
  · next hfirst => rw [h] at hfirst; cases hfirst

theorem follow_of_some {sample first : Sample} (h : sample.first? = some first) :
    sample.follow = (first.follow.1 + 1, first.follow.2) := by
  rw [follow]
  split
  · next hfirst => rw [h] at hfirst; cases hfirst
  · next other hfirst =>
    obtain rfl := Option.some.inj (h.symm.trans hfirst)
    rfl

/-- What counts of a sample without a first element. -/
inductive Kind where
  /-- a sequence or a mapping without elements -/
  | empty
  | null
  | boolean
  | number
  | date
  | text
  | object
deriving DecidableEq, Repr

/-- The kind of a sample without a first element. -/
def kind : Sample → Kind
  | .null => .null
  | .boolean _ => .boolean
  | .integer _ => .number
  | .double _ => .number
  | .text s => if DateShape.isDate s then .date else .text
  | .sequence _ => .empty
  | .mapping entries => if entries.isEmpty then .empty else .object

/-- The number of array marks of a sample's annotation: one for each step, and one more for a
sequence or a mapping without elements. -/
def arrayDepth (sample : Sample) : Nat :=
  sample.follow.1 + if sample.follow.2.kind = .empty then 1 else 0

/-! ## Samples that differ where it does not count -/

/-- Samples that agree on the way down by first elements, whatever stands beside it. -/
inductive SameFirsts : Sample → Sample → Prop where
  | same (sample : Sample) : SameFirsts sample sample
  | down {sample other first first' : Sample} : sample.first? = some first →
      other.first? = some first' → SameFirsts first first' → SameFirsts sample other

/-- Samples that differ in disguised sequences: any number of mappings that are sequences in
disguise stand as such in the second one, at any depth. -/
inductive Unmasks : Sample → Sample → Prop where
  | same (sample : Sample) : Unmasks sample sample
  | sequence {items items' : List Sample} : List.Forall₂ Unmasks items items' →
      Unmasks (.sequence items) (.sequence items')
  | mapping {entries entries' : Keyed Sample} : entries.keys = entries'.keys →
      List.Forall₂ Unmasks entries.values entries'.values →
      Unmasks (.mapping entries) (.mapping entries')
  | unmask {entries : Keyed Sample} {items : List Sample} : IsIndexed entries →
      List.Forall₂ Unmasks entries.values items → Unmasks (.mapping entries) (.sequence items)

theorem isIndexed_congr {entries entries' : Keyed Sample} (h : entries.keys = entries'.keys) :
    IsIndexed entries ↔ IsIndexed entries' := by
  have hlength : entries.length = entries'.length := by
    simpa [Keyed.keys] using congrArg List.length h
  rw [IsIndexed, IsIndexed, h, hlength]

theorem Unmasks.forall₂_same (items : List Sample) : List.Forall₂ Unmasks items items :=
  List.forall₂_same.2 fun item _ => Unmasks.same item

/-- Taking off disguises keeps the elements one by one, and leaves a sample without elements of the
same kind. -/
theorem Unmasks.elements {sample other : Sample} (h : Unmasks sample other) :
    (∃ items items', sample.elements? = some items ∧ other.elements? = some items' ∧
      List.Forall₂ Unmasks items items') ∨
    sample.elements? = none ∧ other.elements? = none ∧ sample.kind = other.kind := by
  cases h with
  | same =>
    cases helements : sample.elements? with
    | none => exact .inr ⟨rfl, rfl, rfl⟩
    | some items => exact .inl ⟨items, items, rfl, rfl, forall₂_same items⟩
  | sequence hitems => exact .inl ⟨_, _, rfl, rfl, hitems⟩
  | @mapping entries entries' hkeys hvalues =>
    by_cases hindexed : IsIndexed entries
    · refine .inl ⟨_, _, ?_, ?_, hvalues⟩
      · rw [elements?, if_pos hindexed]
      · rw [elements?, if_pos ((isIndexed_congr hkeys).1 hindexed)]
    · refine .inr ⟨?_, ?_, ?_⟩
      · rw [elements?, if_neg hindexed]
      · rw [elements?, if_neg (mt (isIndexed_congr hkeys).2 hindexed)]
      · have hlength : entries.length = entries'.length := by
          simpa [Keyed.keys] using congrArg List.length hkeys
        cases entries <;> cases entries' <;> simp_all [kind]
  | unmask hindexed hitems => exact .inl ⟨_, _, by rw [elements?, if_pos hindexed], rfl, hitems⟩

theorem first?_of_elements {sample : Sample} {elements : List Sample}
    (h : sample.elements? = some elements) : sample.first? = elements.head? := by
  rw [first?, h]
  rfl

theorem first?_of_none {sample : Sample} (h : sample.elements? = none) :
    sample.first? = none := by
  rw [first?, h]
  rfl

theorem kind_of_elements {sample : Sample} (h : sample.elements? = some []) :
    sample.kind = .empty := by
  cases sample with
  | sequence => rfl
  | mapping entries =>
    rw [elements?] at h
    split_ifs at h
    cases entries with
    | nil => rfl
    | cons => cases h
  | _ => cases h

end Sample

/-- The annotation that array marks are put around. -/
def Dialect.typeOfKind (dialect : Dialect) (policy : NullPolicy) : Sample.Kind → String
  | .empty => dialect.unknown
  | .null => dialect.nullType policy
  | .boolean => dialect.boolean
  | .number => dialect.number
  | .date => dialect.date
  | .text => dialect.string
  | .object => dialect.object

namespace Inference

open Sample

variable (i : Inference)

/-! ## Annotations by the way down -/

/-- One step down takes off one array mark. -/
theorem typeOf_of_first? {sample first : Sample} (h : sample.first? = some first) :
    i.typeOf sample = i.dialect.arrayOf (i.typeOf first) := by
  obtain ⟨elements, helements, hhead⟩ := Option.bind_eq_some_iff.1 h
  cases sample with
  | sequence items =>
    obtain rfl := Option.some.inj helements
    obtain ⟨rest, rfl⟩ := List.head?_eq_some_iff.1 hhead
    rw [typeOf, firstItem]
  | mapping entries =>
    rw [elements?] at helements
    split_ifs at helements with hindexed
    obtain rfl := Option.some.inj helements
    cases entries with
    | nil => cases hhead
    | cons entry rest =>
      obtain rfl := Option.some.inj hhead
      rw [typeOf, if_pos (areIndices_keys_iff.2 hindexed), firstEntry]
  | _ => cases helements

/-- At the end of the way the kind of a sample tells its annotation. -/
theorem typeOf_of_none {sample : Sample} (h : sample.first? = none) :
    i.typeOf sample = i.dialect.arrayOf^[if sample.kind = .empty then 1 else 0]
      (i.dialect.typeOfKind i.nullPolicy sample.kind) := by
  cases sample with
  | text s =>
    rw [typeOf, kind]
    split_ifs <;> simp_all [Dialect.typeOfKind]
  | sequence items =>
    obtain rfl : items = [] := List.head?_eq_none_iff.1 h
    rfl
  | mapping entries =>
    cases entries with
    | nil => rfl
    | cons entry rest =>
      have hobject : ¬ IsIndexed (entry :: rest) := by
        intro hindexed
        rw [first?, elements?, if_pos hindexed] at h
        cases h
      rw [typeOf, if_neg (mt areIndices_keys_iff.1 hobject)]
      rfl
  | _ => rfl

/-- An annotation is that of the kind at the end of the way, with an array mark for each step. -/
theorem typeOf_eq_iterate (sample : Sample) :
    i.typeOf sample = i.dialect.arrayOf^[sample.arrayDepth]
      (i.dialect.typeOfKind i.nullPolicy sample.follow.2.kind) := by
  cases hfirst : sample.first? with
  | none =>
    rw [typeOf_of_none i hfirst, arrayDepth, follow_of_none hfirst, Nat.zero_add]
  | some first =>
    have hdepth : sample.arrayDepth = first.arrayDepth + 1 := by
      rw [arrayDepth, arrayDepth, follow_of_some hfirst]
      exact Nat.add_right_comm _ _ _
    rw [typeOf_of_first? i hfirst, typeOf_eq_iterate first, hdepth, follow_of_some hfirst,
      Function.iterate_succ_apply']
termination_by sizeOf sample
decreasing_by exact sizeOf_lt_of_first? hfirst

/-! ## What makes no difference -/

/-- Only first elements count. -/
theorem typeOf_of_sameFirsts {sample other : Sample} (h : SameFirsts sample other) :
    i.typeOf other = i.typeOf sample := by
  induction h with
  | same => rfl
  | down hfirst hfirst' _ ih => rw [typeOf_of_first? i hfirst, typeOf_of_first? i hfirst', ih]

/-- Whether a sequence stands in disguise makes no difference to an annotation. -/
theorem typeOf_unmasked {sample other : Sample} (h : Unmasks sample other) :
    i.typeOf other = i.typeOf sample := by
  rcases h.elements with ⟨items, items', hitems, hitems', hall⟩ | ⟨hnone, hnone', hkind⟩
  · cases hall with
    | nil =>
      rw [typeOf_of_none i (first?_of_elements hitems),
        typeOf_of_none i (first?_of_elements hitems'), kind_of_elements hitems,
        kind_of_elements hitems']
    | @cons first first' rest rest' hfirst _ =>
      have hlead : sample.first? = some first := first?_of_elements hitems
      have hlead' : other.first? = some first' := first?_of_elements hitems'
      rw [typeOf_of_first? i hlead, typeOf_of_first? i hlead', typeOf_unmasked hfirst]
  · rw [typeOf_of_none i (first?_of_none hnone), typeOf_of_none i (first?_of_none hnone'), hkind]
termination_by sizeOf sample
decreasing_by exact sizeOf_lt_of_first? hlead

/-! ## Texts -/

/-- The same mark some times over. -/
def marks (n : Nat) (mark : String) : String :=
  String.join (List.replicate n mark)

theorem marks_succ (n : Nat) (mark : String) : marks (n + 1) mark = mark ++ marks n mark := by
  rw [marks, List.replicate_succ, String.join_cons]
  rfl

theorem marks_succ' (n : Nat) (mark : String) : marks (n + 1) mark = marks n mark ++ mark := by
  rw [marks, List.replicate_succ', String.join_append, String.join_cons, String.join_nil,
    String.append_empty]
  rfl

theorem iterate_arrayOf_jsDoc (n : Nat) (type : String) :
    Dialect.jsDoc.arrayOf^[n] type = marks n "Array<" ++ type ++ marks n ">" := by
  induction n with
  | zero => simp [marks]
  | succ n ih =>
    rw [Function.iterate_succ_apply', ih, Dialect.arrayOf, marks_succ, marks_succ']
    simp only [String.append_assoc]

theorem arrayOf_typeScript {type : String} (hblank : ' ' ∉ type.toList) (hbar : '|' ∉ type.toList) :
    Dialect.typeScript.arrayOf type = type ++ "[]" := by
  rw [Dialect.arrayOf]
  simp [hblank, hbar]

/-- The characters that make up unions in TypeScript. -/
def unionMarks : List Char := [' ', '|', '(', ')']

theorem forall_mem_unionMarks {p : Char → Prop} :
    (∀ c ∈ unionMarks, p c) ↔ p ' ' ∧ p '|' ∧ p '(' ∧ p ')' := by
  simp [unionMarks]

theorem unionMarks_not_mem_typeOfKind (policy : NullPolicy) (kind : Kind) :
    ∀ c ∈ unionMarks, c ∉ (Dialect.typeScript.typeOfKind policy kind).toList := by
  rw [forall_mem_unionMarks]
  cases policy <;> cases kind <;> decide

theorem unionMarks_not_mem_marks (n : Nat) : ∀ c ∈ unionMarks, c ∉ (marks n "[]").toList := by
  intro c hc
  induction n with
  | zero => exact List.not_mem_nil
  | succ n ih =>
    have hmark : ∀ c ∈ unionMarks, c ∉ "[]".toList := forall_mem_unionMarks.2 (by decide)
    rw [marks_succ, String.toList_append, List.mem_append]
    exact not_or.2 ⟨hmark c hc, ih⟩

/-- The parentheses of unions never come up. -/
theorem iterate_arrayOf_typeScript {type : String} (h : ∀ c ∈ unionMarks, c ∉ type.toList)
    (n : Nat) : Dialect.typeScript.arrayOf^[n] type = type ++ marks n "[]" := by
  induction n with
  | zero => simp [marks]
  | succ n ih =>
    have hplain : ∀ c ∈ unionMarks, c ∉ (type ++ marks n "[]").toList := by
      intro c hc
      rw [String.toList_append, List.mem_append]
      exact not_or.2 ⟨h c hc, unionMarks_not_mem_marks n c hc⟩
    rw [Function.iterate_succ_apply', ih,
      arrayOf_typeScript (hplain ' ' (by decide)) (hplain '|' (by decide)), marks_succ',
      String.append_assoc]

/-- The annotation of a sample in both dialects.  It is that of the kind of the sample at the end of
the way down by first elements, with an array mark for each step, and one more if that sample is a
sequence or a mapping without elements.  Hence no annotation has anything of a union in TypeScript,
samples that agree on the way down are annotated alike, and so are samples that differ in disguised
sequences at any depth. -/
theorem typeOf_closed_form (policy : NullPolicy) (sample : Sample) :
    let kind := sample.follow.2.kind
    let depth := sample.follow.1 + if kind = .empty then 1 else 0
    typeOf ⟨.typeScript, policy⟩ sample =
      Dialect.typeScript.typeOfKind policy kind ++ marks depth "[]" ∧
    typeOf ⟨.jsDoc, policy⟩ sample =
      marks depth "Array<" ++ Dialect.jsDoc.typeOfKind policy kind ++ marks depth ">" ∧
    (∀ c ∈ [' ', '|', '(', ')'], c ∉ (typeOf ⟨.typeScript, policy⟩ sample).toList) ∧
    (∀ other, SameFirsts sample other → ∀ dialect,
      typeOf ⟨dialect, policy⟩ other = typeOf ⟨dialect, policy⟩ sample) ∧
    ∀ other, Unmasks sample other → ∀ dialect,
      typeOf ⟨dialect, policy⟩ other = typeOf ⟨dialect, policy⟩ sample := by
  intro kind depth
  have hkind := unionMarks_not_mem_typeOfKind policy kind
  have htypeScript : typeOf ⟨.typeScript, policy⟩ sample =
      Dialect.typeScript.typeOfKind policy kind ++ marks depth "[]" :=
    (typeOf_eq_iterate _ sample).trans (iterate_arrayOf_typeScript hkind depth)
  refine ⟨htypeScript, (typeOf_eq_iterate _ sample).trans (iterate_arrayOf_jsDoc depth _), ?_,
    fun other h dialect => typeOf_of_sameFirsts _ h, fun other h dialect => typeOf_unmasked _ h⟩
  intro c hc
  rw [htypeScript, String.toList_append, List.mem_append]
  exact not_or.2 ⟨hkind c hc, unionMarks_not_mem_marks depth c hc⟩

/-- Two elements, the first of which is a sequence in disguise. -/
def disguised : Sample :=
  .sequence [.mapping [("0", .sequence [.null]), ("1", .integer 3)], .text "x"]

/-- The disguise, and what comes after the first elements, make no difference to the annotation. -/
theorem typeOf_closed_form_disguised :
    typeOf ⟨.typeScript, .unknown⟩
          (.sequence [.sequence [.sequence [.null], .integer 3], .text "x"]) =
        typeOf ⟨.typeScript, .unknown⟩ disguised ∧
      typeOf ⟨.typeScript, .unknown⟩ (.sequence [.sequence [.sequence [.null]]]) =
        typeOf ⟨.typeScript, .unknown⟩ disguised ∧
      typeOf ⟨.typeScript, .unknown⟩ disguised = "any[][][]" := by
  obtain ⟨-, -, -, hfirsts, hunmasks⟩ := typeOf_closed_form .unknown disguised
  have hmask : Unmasks disguised
      (.sequence [.sequence [.sequence [.null], .integer 3], .text "x"]) :=
    .sequence (.cons (.unmask (by decide) (Unmasks.forall₂_same _)) (Unmasks.forall₂_same _))
  have hsame : SameFirsts disguised (.sequence [.sequence [.sequence [.null]]]) :=
    .down rfl rfl (.down rfl rfl (.same _))
  exact ⟨hunmasks _ hmask .typeScript, hfirsts _ hsame .typeScript, by decide⟩

end Inference
end ResponseTypes
