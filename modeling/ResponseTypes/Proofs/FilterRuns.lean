import ResponseTypes.Proofs.NamedRuns

/-!
# Filter runs are all or nothing

A filter that is evaluated to the end gives a stream of values and errors.  Each value is written
and read again, and the run stops at the first item of the stream that makes no document: an error,
or a value whose text is refused.  What came before it is given up, and what would come after it is
never asked for.

So a run has a document for each item, in order, or it has none and fails as a filter; then the
payload is one failed unit, and the session is left as it was.

## Main definitions

- `Outputs.Gives`: outputs that evaluate to a stream of values and errors.
- `Filter.Reads`, `Filter.Spoils`: an item that is a document, and one that is none.

## Main statements

- `Filter.documents_of_reads`, `Filter.documents_of_spoils`: what comes of a stream.
- `Generation.filter_all_or_nothing`: both for the payload of a session.
-/

namespace ResponseTypes

open Session

/-! ## Streams of values and errors -/

/-- Outputs that evaluate to a stream of values and errors.  They end with the first error, whatever
the stream has after it. -/
inductive Outputs.Gives {α : Type} : Outputs α → List (Except Raise α) → Prop
  | done : Gives .done []
  | raise {reason : Raise} (hreason : reason.isFinal = false) (later : List (Except Raise α)) :
      Gives (.raise reason) (.error reason :: later)
  | emit (value : α) {rest : Unit → Outputs α} {later : List (Except Raise α)}
      (hrest : Gives (rest ()) later) : Gives (.emit value rest) (.ok value :: later)

/-- Each stream is what some outputs give, if none of its errors ends a whole evaluation. -/
theorem Outputs.exists_gives {α : Type} {stream : List (Except Raise α)}
    (h : ∀ reason, .error reason ∈ stream → reason.isFinal = false) :
    ∃ outputs : Outputs α, outputs.Gives stream := by
  induction stream with
  | nil => exact ⟨.done, .done⟩
  | cons item later ih =>
    cases item with
    | error reason => exact ⟨.raise reason, .raise (h reason List.mem_cons_self) later⟩
    | ok value =>
      obtain ⟨rest, hrest⟩ := ih fun reason hmem => h reason (List.mem_cons_of_mem _ hmem)
      exact ⟨.emit value fun _ => rest, .emit value hrest⟩

namespace Filter

/-! ## What comes of a stream -/

/-- An item of a stream is a value whose text is that of a document. -/
inductive Reads : Except Raise Datum → Json → Prop
  | value {value : Datum} {document : Json}
      (h : Json.parseWhole value.render.toUTF8.toList = .ok document) :
      Reads (.ok value) document

/-- An item of a stream is an error, or a value whose text is refused. -/
inductive Spoils : Except Raise Datum → Prop
  | error (reason : Raise) : Spoils (.error reason)
  | refused {value : Datum} {fault : Json.Fault}
      (h : Json.parseWhole value.render.toUTF8.toList = .error fault) : Spoils (.ok value)

theorem Reads.not_spoils {item : Except Raise Datum} {document : Json} (h : Reads item document) :
    ¬ Spoils item := by
  cases h with
  | value h =>
    intro hspoils
    cases hspoils with
    | refused hrefused =>
      rw [h] at hrefused
      cases hrefused

/-- An item is a document or spoils the run. -/
theorem spoils_or_reads (item : Except Raise Datum) :
    Spoils item ∨ ∃ document, Reads item document := by
  cases item with
  | error reason => exact .inl (.error reason)
  | ok value =>
    cases h : Json.parseWhole value.render.toUTF8.toList with
    | error fault => exact .inl (.refused h)
    | ok document => exact .inr ⟨document, .value h⟩

theorem exists_forall₂_reads {stream : List (Except Raise Datum)}
    (h : ¬ ∃ item ∈ stream, Spoils item) : ∃ documents, List.Forall₂ Reads stream documents := by
  induction stream with
  | nil => exact ⟨[], .nil⟩
  | cons item later ih =>
    have hitem := (spoils_or_reads item).resolve_left fun hitem =>
      h ⟨item, List.mem_cons_self, hitem⟩
    obtain ⟨documents, hlater⟩ := ih fun ⟨other, hmem, hother⟩ =>
      h ⟨other, List.mem_cons_of_mem _ hmem, hother⟩
    obtain ⟨document, hdocument⟩ := hitem
    exact ⟨document :: documents, .cons hdocument hlater⟩

/-- The text of a value is read as a whole, and any complaint about it is one about the filter. -/
theorem document_eq_ok {value : Datum} {found : Json}
    (h : Json.parseWhole value.render.toUTF8.toList = .ok found) : document value = .ok found := by
  rw [document, h]
  rfl

theorem document_eq_error {value : Datum} {fault : Json.Fault}
    (h : Json.parseWhole value.render.toUTF8.toList = .error fault) :
    ∃ detail, document value = .error (.filter detail) := by
  rw [document, h]
  exact ⟨_, rfl⟩

variable {outputs : Outputs Datum} {stream : List (Except Raise Datum)}

/-- A stream of documents gives these documents, one each and in order. -/
theorem documents_of_reads (hgives : outputs.Gives stream) {found : List Json}
    (hreads : List.Forall₂ Reads stream found) : documents outputs = .ok (.ok found) := by
  induction hgives generalizing found with
  | done => cases hreads; rfl
  | raise => obtain _ | ⟨⟨⟩, -⟩ := hreads
  | emit value hrest ih =>
    obtain _ | ⟨⟨hvalue⟩, hlater⟩ := hreads
    rw [documents, document_eq_ok hvalue, ih hlater]
    rfl

/-- One item that is no document spoils the run, wherever it stands. -/
theorem documents_of_spoils (hgives : outputs.Gives stream)
    (hspoils : ∃ item ∈ stream, Spoils item) :
    ∃ detail, documents outputs = .ok (.error (.filter detail)) := by
  induction hgives with
  | done => simp at hspoils
  | @raise reason hreason later =>
    cases reason with
    | error value => exact ⟨_, rfl⟩
    | leave label => exact ⟨_, rfl⟩
    | final reason => cases hreason
  | @emit value rest later hrest ih =>
    rw [documents]
    rcases spoils_or_reads (.ok value) with (_ | hrefused) | ⟨first, ⟨hfirst⟩⟩
    · obtain ⟨detail, hdocument⟩ := document_eq_error hrefused
      rw [hdocument]
      exact ⟨detail, rfl⟩
    · obtain ⟨item, hmem, hitem⟩ := hspoils
      have hlater : item ∈ later := by
        rcases List.mem_cons.1 hmem with rfl | hlater
        · exact absurd hitem (Reads.value hfirst).not_spoils
        · exact hlater
      obtain ⟨detail, hrest⟩ := ih ⟨item, hlater, hitem⟩
      rw [document_eq_ok hfirst, hrest]
      exact ⟨detail, rfl⟩

end Filter

/-- A result whose value passes a test. -/
theorem exists_eq_ok {ε α : Type} {result : Except ε α} {test : α → Bool}
    (h : result.toOption.any test = true) : ∃ a, result = .ok a ∧ test a = true := by
  cases result with
  | error reason => cases h
  | ok a => exact ⟨a, rfl, h⟩

/-! ## Filtered payloads -/

namespace Payload

/-- Loading a payload puts nothing out and changes no file. -/
theorem still_load (path : String) (filter? : Option String) : Still (load path filter?) := by
  refine (Still.isFile path).bind fun isFile => .ite (.pure _) ?_
  refine (Still.read path).bind fun content => ?_
  cases content with
  | error fault => exact .pure _
  | ok content =>
    dsimp only
    cases documentOf path content with
    | error failure => exact .pure _
    | ok document =>
      cases filter? with
      | none => exact .pure _
      | some filter => exact Still.bind .now fun _ => .pure _

variable {session : Session} {path : String} {document : Json}

/-- A filter is applied to the document in the file. -/
theorem perform_load_filter (h : Holds session.files path document) (text : String) :
    session.perform (load path (some text)) =
      (Filter.run session.now text document, session) := by
  obtain ⟨content, hread, hparse⟩ := h
  have hanswer := (load_yields path (some text) session.files session.now session.stamp).perform_fst
  refine Prod.ext (hanswer.trans ?_) (still_load path (some text) session)
  rw [hread, Except.toOption, ofContent, documentOf, hparse]
  rfl

end Payload

namespace Generation

/-- A payload that does not load is one failed unit. -/
theorem perform_generatePayload_of_error (settings : Settings) {filter? : Option String}
    (replacement : Replacement) {session : Session} {path : String} {failure : Failure}
    (h : session.perform (Payload.load path filter?) = (.ok (.error failure), session)) :
    session.perform (generatePayload settings filter? replacement path) =
      (.ok ⟨[⟨unitName path, .error failure⟩]⟩, session) := by
  rw [generatePayload, perform_bind, h]
  rfl

/-- A filter run is all or nothing.  A stream of values and errors may be any, and whatever outputs
give it, they make a document of each item, one each and in order, unless an item is an error or a
value whose text is refused, and then they fail as a filter.  When a filter is applied to the
document of a payload and gives such a stream, so does the run; if an item spoils it, the payload
has no document and makes one unit, which is named after it and has failed, and the session with all
its files is left as it was. -/
theorem filter_all_or_nothing (settings : Settings) (replacement : Replacement) {session : Session}
    {path text : String} {t : Term} {document : Json} {stream : List (Except Raise Datum)}
    (hholds : Payload.Holds session.files path document) (hread : Filter.read text = .ok t)
    (hgives : (Filter.outputs session.now t document).Gives stream) :
    (∀ stream : List (Except Raise Datum),
      (∀ reason, .error reason ∈ stream → reason.isFinal = false) →
      (∃ outputs : Outputs Datum, outputs.Gives stream) ∧
      ∀ outputs : Outputs Datum, outputs.Gives stream →
        ((∃ item ∈ stream, Filter.Spoils item) →
          ∃ detail, Filter.documents outputs = .ok (.error (.filter detail))) ∧
        ((¬ ∃ item ∈ stream, Filter.Spoils item) →
          ∃ found, List.Forall₂ Filter.Reads stream found ∧
            Filter.documents outputs = .ok (.ok found))) ∧
    ((∃ item ∈ stream, Filter.Spoils item) → ∃ detail,
      Filter.run session.now text document = .ok (.error (.filter detail)) ∧
      session.perform (Payload.load path (some text)) =
        (.ok (.error (.filter detail)), session) ∧
      session.perform (generatePayload settings (some text) replacement path) =
        (.ok ⟨[⟨unitName path, .error (.filter detail)⟩]⟩, session)) ∧
    ((¬ ∃ item ∈ stream, Filter.Spoils item) → ∃ found,
      List.Forall₂ Filter.Reads stream found ∧
      Filter.run session.now text document = .ok (.ok found) ∧
      session.perform (Payload.load path (some text)) = (.ok (.ok found), session)) := by
  have hload := Payload.perform_load_filter hholds text
  have hrun : Filter.run session.now text document =
      Filter.documents (Filter.outputs session.now t document) := by
    rw [Filter.run, hread]
  refine ⟨fun stream hstream => ⟨Outputs.exists_gives hstream, fun outputs hany =>
    ⟨Filter.documents_of_spoils hany, fun hnone => ?_⟩⟩, fun hspoils => ?_, fun hnone => ?_⟩
  · obtain ⟨found, hreads⟩ := Filter.exists_forall₂_reads hnone
    exact ⟨found, hreads, Filter.documents_of_reads hany hreads⟩
  · obtain ⟨detail, hdetail⟩ := Filter.documents_of_spoils hgives hspoils
    rw [hrun, hdetail] at hload
    exact ⟨detail, hrun.trans hdetail, hload,
      perform_generatePayload_of_error settings replacement hload⟩
  · obtain ⟨found, hreads⟩ := Filter.exists_forall₂_reads hnone
    have hfound := Filter.documents_of_reads hgives hreads
    rw [hrun, hfound] at hload
    exact ⟨found, hreads, hrun.trans hfound, hload⟩

/-- Two commas and a constant: the input, the constant and the input again. -/
theorem gives_input_constant_input (now : Int) (depth : Nat) (constant input : Datum) :
    (Term.run now (depth + 3) [] (.comma (.comma .identity (.constant constant)) .identity)
      input).Gives [.ok input, .ok constant, .ok input] :=
  .emit _ (.emit _ (.emit _ .done))

/-- Whether a term gives its input, a number as it is written, and its input again. -/
def isInputNumeralInput (text : String) : Term → Bool
  | .comma (.comma .identity (.constant (.numeral s))) .identity => s == text
  | _ => false

theorem eq_of_isInputNumeralInput {text : String} {t : Term}
    (h : isInputNumeralInput text t = true) :
    t = .comma (.comma .identity (.constant (.numeral text))) .identity := by
  unfold isInputNumeralInput at h
  split at h
  · rw [eq_of_beq h]
  · cases h

/-- A number beyond all doubles between two documents that are usable. -/
theorem filter_all_or_nothing_overflow :
    Payload.Holds mixedPayloads.files "user.json" (.object [("id", .integer 1)]) ∧
      ∃ detail, mixedPayloads.perform
          (generatePayload {} (some "., 1e1000, .") .always "user.json") =
        (.ok ⟨[⟨"user", .error (.filter detail)⟩]⟩, mixedPayloads) := by
  have hterm : (Filter.read "., 1e1000, .").toOption.any (isInputNumeralInput "1e1000") = true := by
    decide +kernel
  obtain ⟨t, hread, ht⟩ := exists_eq_ok hterm
  obtain rfl := eq_of_isInputNumeralInput ht
  have hgives := gives_input_constant_input mixedPayloads.now 999997 (.numeral "1e1000")
    (.ofJson (.object [("id", .integer 1)]))
  have hrefused :
      (Json.parseWhole (Datum.render (.numeral "1e1000")).toUTF8.toList).isOk = false := by
    decide +kernel
  cases hfault : Json.parseWhole (Datum.render (.numeral "1e1000")).toUTF8.toList with
  | ok document => rw [hfault] at hrefused; cases hrefused
  | error fault =>
    obtain ⟨detail, -, -, hunits⟩ :=
      (filter_all_or_nothing {} .always holds_user hread hgives).2.1
        ⟨.ok (.numeral "1e1000"), by simp, .refused hfault⟩
    exact ⟨holds_user, detail, hunits⟩

end Generation
end ResponseTypes
