import ResponseTypes.Proofs.ChronicleRuns
import ResponseTypes.Proofs.UnitOutcomes

/-!
# Runs under a name

A run under a name makes one unit from one of its payloads.  It takes the first payload that loads,
and only then looks for a record in its document.  A payload that cannot be read is passed over, but
one that is read and has no record ends the run, although a later one may have a record.

So the unit is that of the first usable payload exactly when no payload before it loads.

## Main definitions

- `Payload.Holds`, `Payload.Loads`, `Payload.IsUsable`: a payload that holds a document, any
  document, or a document with a record.

## Main statements

- `Generation.firstDocument_yields`: the search for a document by what the files hold.
- `Generation.generateNamed_of_first`: the unit is that of the first payload that loads.
- `Generation.named_uses_first_usable_iff`: when it is that of the first usable payload.
-/

namespace ResponseTypes

open Session
open Chronicle (firstIn)

/-! ## Payloads that can be used -/

namespace Payload

variable {files : Files} {path : String} {document : Json}

/-- The file of a payload holds a document. -/
def Holds (files : Files) (path : String) (document : Json) : Prop :=
  ∃ content, files.read path = .ok content ∧ Json.parse .any content = .ok document

/-- The file of a payload is there, can be read, and holds some document. -/
def Loads (files : Files) (path : String) : Prop :=
  ∃ document, Holds files path document

/-- The file of a payload holds a document with a record. -/
def IsUsable (files : Files) (path : String) : Prop :=
  ∃ document entries, Holds files path document ∧ record document = .ok entries

theorem ofContent_of_holds (h : Holds files path document) (t : Int) :
    ofContent path none t (files.read path).toOption = .ok (.ok [document]) := by
  obtain ⟨content, hread, hparse⟩ := h
  rw [hread, Except.toOption, ofContent, documentOf, hparse]
  rfl

/-- Without a filter there is a failure for a payload that does not load. -/
theorem ofContent_of_not_loads (h : ¬ Loads files path) (t : Int) :
    ∃ failure, ofContent path none t (files.read path).toOption = .ok (.error failure) := by
  cases hread : files.read path with
  | error fault => exact ⟨.absent .payload path, rfl⟩
  | ok content =>
    cases hparse : Json.parse .any content with
    | ok document => exact absurd ⟨document, content, hread, hparse⟩ h
    | error fault =>
      refine ⟨.malformed path (fault.located content), ?_⟩
      rw [Except.toOption, ofContent, documentOf, hparse]
      rfl

/-- A payload holds one document at most. -/
theorem Holds.unique {other : Json} (h : Holds files path document)
    (h' : Holds files path other) : document = other := by
  obtain ⟨content, hread, hparse⟩ := h
  obtain ⟨content', hread', hparse'⟩ := h'
  obtain rfl := Except.ok.inj (hread.symm.trans hread')
  exact Except.ok.inj (hparse.symm.trans hparse')

end Payload

namespace Generation

variable {settings : Settings} {replacement : Replacement} {t : Int} {date : String}
variable {files : Files} {name path : String} {document : Json}

/-! ## The first document -/

/-- The search for a document reads files and changes none. -/
theorem firstDocument_yields (filter? : Option String) (failure : Failure) (paths : List String)
    (files : Files) (t : Int) (date : String) :
    Yields (firstDocument filter? failure paths) t date files
      (firstIn filter? files (fun _ => t) failure paths) files := by
  induction paths generalizing failure with
  | nil => exact .pure _ _
  | cons path others ih =>
    have hload := Payload.load_yields path filter? files t date
    rw [firstIn]
    rcases hdocuments : Payload.ofContent path filter? t (files.read path).toOption with
      reason | (last | (_ | ⟨document, _ | ⟨second, rest⟩⟩))
    all_goals rw [hdocuments] at hload
    · exact hload.bind (.pure _ _)
    · exact hload.bind ((Yields.report _ _).bind (ih last))
    · exact hload.bind (ih failure)
    · exact hload.bind (.pure _ _)
    · exact hload.bind ((Yields.report _ _).bind (.pure _ _))

/-- Payloads that do not load are passed over, and the first one that does ends the search. -/
theorem firstIn_of_holds {earlier : List String} (later : List String) (failure : Failure)
    (hearlier : ∀ other ∈ earlier, ¬ Payload.Loads files other)
    (h : Payload.Holds files path document) (readings : Nat → Int) :
    firstIn none files readings failure (earlier ++ path :: later) =
      .ok (.ok (path, document)) := by
  induction earlier generalizing failure readings with
  | nil => rw [List.nil_append, firstIn, Payload.ofContent_of_holds h]
  | cons other earlier ih =>
    obtain ⟨hother, hrest⟩ := List.forall_mem_cons.1 hearlier
    obtain ⟨last, hfailed⟩ := Payload.ofContent_of_not_loads hother (readings 0)
    rw [List.cons_append, firstIn, hfailed]
    exact ih last hrest _

/-- Of the payloads that load there is a first one. -/
theorem exists_first {paths : List String} (h : ∃ other ∈ paths, Payload.Loads files other) :
    ∃ before other behind, paths = before ++ other :: behind ∧ Payload.Loads files other ∧
      ∀ passed ∈ before, ¬ Payload.Loads files passed := by
  classical
  obtain ⟨other, hother⟩ :=
    Option.isSome_iff_exists.1 (List.find?_isSome.2 (h.imp fun _ => And.imp_right decide_eq_true))
  obtain ⟨hloads, before, behind, hsplit, hbefore⟩ := List.find?_eq_some_iff_append.1 hother
  exact ⟨before, other, behind, hsplit, of_decide_eq_true hloads,
    fun passed hpassed => by simpa using hbefore passed hpassed⟩

/-! ## The unit of a run under a name -/

/-- The unit of a run under a name is that of the first payload that loads. -/
theorem generateNamed_of_first (hauto : settings.autoGenerate = true) (replacement : Replacement)
    (session : Session) (name : String) {earlier : List String} (later : List String)
    (hearlier : ∀ other ∈ earlier, ¬ Payload.Loads session.files other)
    (h : Payload.Holds session.files path document) :
    let run := session.perform
      (generateValues settings (some name) none replacement (earlier ++ path :: later))
    let own := session.perform (generateValue settings replacement name path document)
    run.1 = .ok ⟨[⟨name, own.1⟩]⟩ ∧ run.2.files = own.2.files := by
  intro run own
  obtain ⟨result, after, -, hyields⟩ := generateValue_yields hauto replacement session.now
    session.stamp session.files name path document
  have hfirst := firstDocument_yields none noDocuments (earlier ++ path :: later) session.files
    session.now session.stamp
  rw [firstIn_of_holds later noDocuments hearlier h] at hfirst
  have hnamed : Yields (generateNamed settings none replacement name (earlier ++ path :: later))
      session.now session.stamp session.files (.ok result) after :=
    hfirst.bind (hyields.bind (.pure _ _))
  have hrun : Yields (generateValues settings (some name) none replacement
      (earlier ++ path :: later)) session.now session.stamp session.files
      (.ok ⟨[⟨name, result⟩]⟩) after := by
    rw [generateValues, hauto]
    exact hnamed.bind (.pure _ _)
  rw [hrun.perform_fst, hrun.perform_snd, hyields.perform_fst, hyields.perform_snd]
  exact ⟨rfl, rfl⟩

/-- A document without a record ends its unit before anything is done. -/
theorem generateValue_of_defect (hauto : settings.autoGenerate = true) (replacement : Replacement)
    (session : Session) (name origin : String) {defect : Payload.Defect}
    (h : Payload.record document = .error defect) :
    let own := session.perform (generateValue settings replacement name origin document)
    own.1 = .error (.unsupported origin defect.message) ∧ own.2.files = session.files := by
  have hyields : Yields (generateValue settings replacement name origin document) session.now
      session.stamp session.files (.error (.unsupported origin defect.message))
      session.files := by
    rw [generateValue, hauto, valueDeclaration, h]
    exact .pure _ _
  exact ⟨hyields.perform_fst, hyields.perform_snd⟩

theorem place_ne_unsupported (declaration : Declaration) (origin reason : String) :
    (place settings replacement t date files declaration).1 ≠
      .error (.unsupported origin reason) := by
  cases hkept : isKeptIn settings replacement t files (settings.artifactPath declaration.name) with
  | true =>
    rw [place_of_kept hkept]
    simp
  | false =>
    cases hwrite : files.write (settings.artifactPath declaration.name)
        (content settings declaration date) t with
    | error fault =>
      rw [place_of_error hkept hwrite]
      exact fun h => Failure.noConfusion (Except.error.inj h)
    | ok after =>
      rw [place_of_ok hkept hwrite]
      simp

/-- The unit of a document with a record does not say that there is none. -/
theorem generateValue_ne_unsupported (hauto : settings.autoGenerate = true)
    (replacement : Replacement) (session : Session) (name origin : String)
    {entries : Keyed Json} (h : Payload.record document = .ok entries) (other reason : String) :
    (session.perform (generateValue settings replacement name origin document)).1 ≠
      .error (.unsupported other reason) := by
  obtain ⟨result, after, hsettles, hyields⟩ := generateValue_yields hauto replacement
    session.now session.stamp session.files name origin document
  rw [hyields.perform_fst]
  generalize htask : documentTask settings origin name document = task at hsettles
  cases hsettles with
  | undeclared =>
    obtain ⟨defect, hrecord, -⟩ := valueDeclaration_eq_error (Task.mk.inj htask).2
    rw [h] at hrecord
    cases hrecord
  | declared hwrites =>
    cases hwrites with
    | homeless => exact fun h => Failure.noConfusion (Except.error.inj h)
    | housed => exact place_ne_unsupported _ other reason

/-- A run under a name with a usable payload, before which no payload is usable.  Its unit is the
one that this payload gives on its own exactly if no payload before it loads.  Otherwise the first
of them that loads ends the run: the unit says that its document has no record, and nothing is
done. -/
theorem named_uses_first_usable_iff {settings : Settings} (hauto : settings.autoGenerate = true)
    (replacement : Replacement) (session : Session) (name : String) {earlier : List String}
    {path : String} {document : Json} {entries : Keyed Json} (later : List String)
    (hearlier : ∀ other ∈ earlier, ¬ Payload.IsUsable session.files other)
    (hholds : Payload.Holds session.files path document)
    (hrecord : Payload.record document = .ok entries) :
    let run := session.perform
      (generateValues settings (some name) none replacement (earlier ++ path :: later))
    let own := session.perform (generateValue settings replacement name path document)
    (run.1 = .ok ⟨[⟨name, own.1⟩]⟩ ∧ run.2.files = own.2.files ↔
      ∀ other ∈ earlier, ¬ Payload.Loads session.files other) ∧
    ∀ before other behind, earlier = before ++ other :: behind →
      (∀ passed ∈ before, ¬ Payload.Loads session.files passed) →
      ∀ document', Payload.Holds session.files other document' →
        ∃ defect, Payload.record document' = .error defect ∧
          run.1 = .ok ⟨[⟨name, .error (.unsupported other defect.message)⟩]⟩ ∧
          run.2.files = session.files := by
  intro run own
  have hstopped : ∀ before other behind, earlier = before ++ other :: behind →
      (∀ passed ∈ before, ¬ Payload.Loads session.files passed) →
      ∀ document', Payload.Holds session.files other document' →
        ∃ defect, Payload.record document' = .error defect ∧
          run.1 = .ok ⟨[⟨name, .error (.unsupported other defect.message)⟩]⟩ ∧
          run.2.files = session.files := by
    rintro before other behind rfl hbefore document' hother
    cases hdefect : Payload.record document' with
    | ok entries' => exact absurd ⟨document', entries', hother, hdefect⟩ (hearlier other (by simp))
    | error defect =>
      obtain ⟨hunits, hfiles⟩ := generateNamed_of_first hauto replacement session name
        (behind ++ path :: later) hbefore hother
      obtain ⟨hresult, hkept⟩ :=
        generateValue_of_defect hauto replacement session name other hdefect
      rw [hresult, ← List.cons_append, ← List.append_assoc] at hunits
      rw [hkept, ← List.cons_append, ← List.append_assoc] at hfiles
      exact ⟨defect, rfl, hunits, hfiles⟩
  refine ⟨⟨?_, fun hnone => ?_⟩, hstopped⟩
  · rintro ⟨hunits, -⟩
    by_contra! hloads
    obtain ⟨before, other, behind, hsplit, ⟨document', hother⟩, hbefore⟩ :=
      exists_first hloads
    obtain ⟨defect, -, hunsupported, -⟩ :=
      hstopped before other behind hsplit hbefore document' hother
    rw [hunits] at hunsupported
    have hunits := congrArg Report.units (Except.ok.inj hunsupported)
    have hown : own.1 = .error (.unsupported other defect.message) :=
      congrArg UnitReport.result (List.singleton_inj.1 hunits)
    exact generateValue_ne_unsupported hauto replacement session name path hrecord _ _ hown
  · exact generateNamed_of_first hauto replacement session name later hnone hholds

/-- The texts `{"a":`, `[]` and `{"id":1}`: one that breaks off, one that is empty, and one with a
record. -/
def mixedPayloads : Session where
  files := {
    entries :=
      [(["broken.json".toList], .file [123, 34, 97, 34, 58] 0),
        (["empty.json".toList], .file [91, 93] 0),
        (["user.json".toList], .file [123, 34, 105, 100, 34, 58, 49, 125] 0)]
    home := [] }
  now := 7200000000000
  stamp := "2024-01-01 02:00:00"

theorem holds_user : Payload.Holds mixedPayloads.files "user.json" (.object [("id", .integer 1)]) :=
  ⟨[123, 34, 105, 100, 34, 58, 49, 125], by decide +kernel, rfl⟩

theorem holds_empty : Payload.Holds mixedPayloads.files "empty.json" (.array []) :=
  ⟨[91, 93], by decide +kernel, rfl⟩

theorem not_isUsable_empty : ¬ Payload.IsUsable mixedPayloads.files "empty.json" := by
  rintro ⟨document, entries, hholds, hrecord⟩
  rw [hholds.unique holds_empty] at hrecord
  cases hrecord

theorem not_loads_missing : ¬ Payload.Loads mixedPayloads.files "missing.json" := by
  rintro ⟨document, content, hread, hparse⟩
  have hmissing : (mixedPayloads.files.read "missing.json").isOk = false := by decide +kernel
  rw [hread] at hmissing
  cases hmissing

theorem not_loads_broken : ¬ Payload.Loads mixedPayloads.files "broken.json" := by
  rintro ⟨document, content, hread, hparse⟩
  have hcontent : mixedPayloads.files.read "broken.json" = .ok [123, 34, 97, 34, 58] := by
    decide +kernel
  obtain rfl := Except.ok.inj (hcontent.symm.trans hread)
  have hfault : (Json.parse .any [123, 34, 97, 34, 58]).isOk = false := by decide +kernel
  rw [hparse] at hfault
  cases hfault

/-- A payload that is not there and one that breaks off do not stand in the way of a usable one. -/
theorem named_uses_first_usable_iff_passedOver :
    let run := mixedPayloads.perform (generateValues {} (some "user") none .whenStale
      ["missing.json", "broken.json", "user.json", "empty.json"])
    run.1 = .ok ⟨[⟨"user", .ok (.written "types/UserType.ts")⟩]⟩ := by
  have hnone : ∀ other ∈ ["missing.json", "broken.json"],
      ¬ Payload.Loads mixedPayloads.files other := by
    simp only [List.forall_mem_cons, List.not_mem_nil, false_implies, implies_true, and_true]
    exact ⟨not_loads_missing, not_loads_broken⟩
  have hown : (mixedPayloads.perform (generateValue {} .whenStale "user" "user.json"
      (.object [("id", .integer 1)]))).1 = .ok (.written "types/UserType.ts") := by
    decide +kernel
  have hunusable : ∀ other ∈ ["missing.json", "broken.json"],
      ¬ Payload.IsUsable mixedPayloads.files other :=
    fun other hother ⟨document, _, hholds, _⟩ => hnone other hother ⟨document, hholds⟩
  obtain ⟨hunits, -⟩ := (@named_uses_first_usable_iff {} rfl .whenStale mixedPayloads "user" _ _ _ _
    ["empty.json"] hunusable holds_user rfl).1.2 hnone
  rwa [hown] at hunits

/-- An empty payload stands in the way of the usable one behind it. -/
theorem not_forall_first_usable :
    ¬ ∀ (settings : Settings) (replacement : Replacement) (session : Session) (name : String)
      (earlier : List String) (path : String) (document : Json) (entries : Keyed Json)
      (later : List String), settings.autoGenerate = true →
      (∀ other ∈ earlier, ¬ Payload.IsUsable session.files other) →
      Payload.Holds session.files path document → Payload.record document = .ok entries →
      (session.perform (generateValues settings (some name) none replacement
        (earlier ++ path :: later))).1 =
        .ok ⟨[⟨name,
          (session.perform (generateValue settings replacement name path document)).1⟩]⟩ := by
  intro h
  have hrun := h {} .whenStale mixedPayloads "user" ["empty.json"] "user.json" _ _ [] rfl
    (by simpa only [List.forall_mem_singleton] using not_isUsable_empty) holds_user rfl
  exact absurd hrun (by decide +kernel)

end Generation
end ResponseTypes
