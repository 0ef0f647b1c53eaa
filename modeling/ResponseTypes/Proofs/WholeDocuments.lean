import ResponseTypes.Proofs.JsonGrammar

/-!
# Documents and what follows them

Two readers take documents: the one for files stops after the document at the front of a text, the
one for the outputs of filters goes on to the end of the text.  Here both are described by the
grammar of written forms, so that it can be said exactly on which texts they differ.

A text has at most one document at its front, and at most one place where it ends
(`Opening.unique`).  The strict reader takes the text when only white space is left after this
place; the reader for files takes it whatever is left.  So the two agree on a text unless something
else than white space is left, and there the reader for files still takes the text for its first
document: `{"a":1} {"b":2}` is read as `{"a":1}`, and the rest of the file is passed over in
silence.

Main statements: `wholly_read_iff`, and `not_forall_document` at the text above.
-/

namespace ResponseTypes
namespace Json

/-- A text that is one document with white space around it. -/
def Document (v : Json) (bytes : Bytes) : Prop :=
  ∃ before text after, Blank before ∧ Text maxDepth v text ∧ Blank after ∧
    bytes = before ++ (text ++ after)

/-- A document at the front of a text, after white space, and what is left after it. -/
def Opening (v : Json) (bytes rest : Bytes) : Prop :=
  ∃ before text, Blank before ∧ Text maxDepth v text ∧ goesOn text rest = false ∧
    bytes = before ++ (text ++ rest)

theorem value_eq_ok {v : Json} {bytes rest : Bytes} :
    value maxDepth .any bytes = .ok (v, rest) ↔ Opening v bytes rest := by
  have hreads := reads_value maxDepth
  rw [hreads.eq_ok]
  constructor
  · rintro ⟨text, hv, hgoes, hskip⟩
    obtain ⟨before, hbefore, hbytes⟩ := exists_blank_append bytes
    exact ⟨before, text, hbefore, hv, hgoes, by rw [← hskip]; exact hbytes⟩
  · rintro ⟨before, text, hbefore, hv, hgoes, rfl⟩
    obtain ⟨b, text, rfl, hblank, -⟩ := hreads.start hv
    exact ⟨_, hv, hgoes, by rw [skipBlank_append hbefore, List.cons_append, skipBlank_cons hblank]⟩

namespace Opening

variable {v w : Json} {bytes rest other : Bytes}

/-- What stands at the front of a text, and where it ends, is determined by the text. -/
theorem unique (h : Opening v bytes rest) (h' : Opening w bytes other) : v = w ∧ rest = other := by
  have hsame := (value_eq_ok.2 h).symm.trans (value_eq_ok.2 h')
  exact Prod.mk.inj (Except.ok.inj hsame)

theorem document (h : Opening v bytes rest) (hrest : Blank rest) : Document v bytes := by
  obtain ⟨before, text, hbefore, hv, -, hbytes⟩ := h
  exact ⟨before, text, rest, hbefore, hv, hrest, hbytes⟩

end Opening

theorem goesOn_of_blank {rest : Bytes} (h : Blank rest) (text : Bytes) :
    goesOn text rest = false := by
  cases rest with
  | nil => simp [goesOn]
  | cons b rest => exact goesOn_of_settled (by simp [settled, h b List.mem_cons_self]) text

theorem document_iff {v : Json} {bytes : Bytes} :
    Document v bytes ↔ ∃ rest, Opening v bytes rest ∧ Blank rest := by
  constructor
  · rintro ⟨before, text, after, hbefore, hv, hafter, hbytes⟩
    exact ⟨after, ⟨before, text, hbefore, hv, goesOn_of_blank hafter text, hbytes⟩, hafter⟩
  · rintro ⟨rest, hopening, hrest⟩
    exact hopening.document hrest

/-! ## The two readers -/

theorem parse_eq_ok {v : Json} {bytes : Bytes} :
    parse .any bytes = .ok v ↔ ∃ rest, Opening v bytes rest := by
  simp only [← value_eq_ok, parse]
  cases value maxDepth .any bytes with
  | error fault => simp [Except.map]
  | ok result =>
    obtain ⟨w, after⟩ := result
    simp [Except.map]

/-- A reader that goes on to the end of the text stops at the first byte that is left over. -/
theorem parseWhole_of_opening {v : Json} {bytes rest : Bytes} (h : Opening v bytes rest) :
    parseWhole bytes =
      if skipBlank rest = [] then .ok v else stopAfter .trailingCharacters (skipBlank rest) := by
  rw [parseWhole, value_eq_ok.2 h]
  cases hskip : skipBlank rest with
  | nil => simp [bind, Except.bind, hskip]; rfl
  | cons b after => simp [bind, Except.bind, hskip]

theorem parseWhole_eq_ok {v : Json} {bytes : Bytes} :
    parseWhole bytes = .ok v ↔ Document v bytes := by
  rw [document_iff]
  constructor
  · intro h
    obtain ⟨⟨w, rest⟩, hvalue, -⟩ := bind_eq_ok.1 h
    have hopening := value_eq_ok.1 hvalue
    rw [parseWhole_of_opening hopening] at h
    split_ifs at h with hrest
    · obtain rfl := Except.ok.inj h
      exact ⟨rest, hopening, skipBlank_eq_nil.1 hrest⟩
    · exact absurd h stopAfter_ne_ok
  · rintro ⟨rest, hopening, hrest⟩
    rw [parseWhole_of_opening hopening, if_pos (skipBlank_eq_nil.2 hrest)]

/-- The reader for files takes a text for the document at its front, whatever is left after it; the
strict reader takes exactly the texts that are one document.  So the two agree on a text unless
something else than white space is left after its first document, and these are the texts that one
of them takes while the other finds trailing characters in them. -/
theorem wholly_read_iff (bytes : Bytes) (v : Json) :
    (parse .any bytes = .ok v ↔ ∃ rest, Opening v bytes rest) ∧
    (parseWhole bytes = .ok v ↔ Document v bytes) ∧
    ((parse .any bytes = .ok v ↔ Document v bytes) ↔
      ¬ ∃ rest, Opening v bytes rest ∧ ¬ Blank rest) ∧
    ((∃ rest, Opening v bytes rest ∧ ¬ Blank rest) ↔
      parse .any bytes = .ok v ∧
        ∃ fault, parseWhole bytes = .error fault ∧ fault.problem = .trailingCharacters) := by
  refine ⟨parse_eq_ok, parseWhole_eq_ok, ?_, ?_⟩
  · rw [parse_eq_ok, document_iff]
    constructor
    · rintro hagree ⟨rest, hopening, hrest⟩
      obtain ⟨other, hother, hblank⟩ := hagree.1 ⟨rest, hopening⟩
      exact hrest ((hopening.unique hother).2 ▸ hblank)
    · intro hnone
      constructor
      · rintro ⟨rest, hopening⟩
        exact ⟨rest, hopening, by_contra fun hrest => hnone ⟨rest, hopening, hrest⟩⟩
      · rintro ⟨rest, hopening, -⟩
        exact ⟨rest, hopening⟩
  · rw [parse_eq_ok]
    constructor
    · rintro ⟨rest, hopening, hrest⟩
      have hstrict := parseWhole_of_opening hopening
      rw [if_neg (mt skipBlank_eq_nil.1 hrest)] at hstrict
      exact ⟨⟨rest, hopening⟩, _, hstrict, rfl⟩
    · rintro ⟨⟨rest, hopening⟩, fault, hfault, -⟩
      refine ⟨rest, hopening, fun hrest => ?_⟩
      rw [parseWhole_eq_ok.2 (hopening.document hrest)] at hfault
      exact nomatch hfault

/-- The text `{"a":1} {"b":2}`. -/
def twoDocuments : Bytes := [123, 34, 97, 34, 58, 49, 125, 32, 123, 34, 98, 34, 58, 50, 125]

/-- Two documents in one text are read as the first of them. -/
theorem not_forall_document :
    ¬ ∀ (bytes : Bytes) (v : Json), (parse .any bytes = .ok v ↔ Document v bytes) ∧
      (parse .any bytes = .ok v ↔ parseWhole bytes = .ok v) := by
  intro h
  have hread : parse .any twoDocuments = .ok (.object [("a", .integer 1)]) := rfl
  have hwhole := (h twoDocuments _).2.1 hread
  have hstrict : parseWhole twoDocuments =
      stopAfter .trailingCharacters (twoDocuments.drop 8) := rfl
  rw [hstrict] at hwhole
  exact stopAfter_ne_ok hwhole

end Json
end ResponseTypes
