import ResponseTypes.Proofs.DirectoryCreation
import ResponseTypes.Proofs.ReadingRuns
import ResponseTypes.Proofs.TypeNames

/-!
# What a generator leaves on disk

A generator makes the output directory with those above it, and writes files directly in it that are
named after types.  However often it is called, and with whatever names and payloads, nothing else
is ever touched.

## Main definitions

- `Generation.IsArtifact`: a location directly in the output directory, named after a type.
- `Generation.Footprint`: a growth by the output directory and by artifacts.
- `Generation.Call`, `Generation.runCalls`: calls of a generator, each at a time of its own.

## Main statements

- `Generation.within_write`: writing a declaration leaves a footprint and nothing else.
- `Generation.runCalls_touches_only_output`: neither does any sequence of calls.
-/

namespace ResponseTypes

open Session

/-! ## Writing a file -/

namespace Files

variable {t : Int} {files after : Files} {path : String} {content : Bytes}

theorem write_of_lost {fault : FileFault} (h : files.locate path = .error fault) :
    files.write path content t = .error fault := by
  rw [write, h]
  rfl

theorem write_of_directory {location : Location} (h : files.locate path = .ok location)
    (hdirectory : files.occupancy location = .directory) :
    files.write path content t = .error .isDirectory := by
  rw [occupancy] at hdirectory
  rw [write, h]
  simp only [bind, Except.bind]
  rcases hentry : files.at? location with _ | (_ | _) <;> rw [hentry] at hdirectory <;>
    simp_all [Entry.occupancy]

/-- A file is written wherever there is no directory, and nothing else changes. -/
theorem write_of_ne_directory (content : Bytes) (t : Int) {location : Location}
    (h : files.locate path = .ok location) (hfree : files.occupancy location ≠ .directory) :
    ∃ after, files.write path content t = .ok after ∧ after.home = files.home ∧
      ∀ other, after.occupancy other =
        if other = location then .file content else files.occupancy other := by
  have hroot : location ≠ [] := by
    rintro rfl
    exact hfree rfl
  rw [occupancy] at hfree
  rw [write, h]
  simp only [bind, Except.bind]
  rcases hentry : files.at? location with _ | (_ | _) <;> rw [hentry] at hfree
  · exact ⟨_, rfl, home_create _ _ _ _, fun other => occupancy_create _ _ _ hroot other⟩
  · exact ⟨_, rfl, home_put _ _ _, fun other => occupancy_put _ _ hroot other⟩
  · exact absurd rfl hfree

theorem write_eq_error {fault : FileFault} : files.write path content t = .error fault ↔
    files.locate path = .error fault ∨ fault = .isDirectory ∧
      ∃ location, files.locate path = .ok location ∧ files.occupancy location = .directory := by
  cases hlocate : files.locate path with
  | error other => simp [write_of_lost hlocate]
  | ok location =>
    by_cases hdirectory : files.occupancy location = .directory
    · simp [write_of_directory hlocate hdirectory, hdirectory, eq_comm]
    · obtain ⟨after, hwrite, -⟩ :=
        write_of_ne_directory content t hlocate hdirectory
      simp [hwrite, hdirectory]

/-- Writing a file changes nothing but the location that its path leads to. -/
theorem write_growth {made : Location → Prop} (h : files.write path content t = .ok after) :
    Growth made (fun location => after.locate path = .ok location) files after := by
  cases hlocate : files.locate path with
  | error fault => rw [write_of_lost hlocate] at h; cases h
  | ok location =>
    by_cases hfree : files.occupancy location = .directory
    · rw [write_of_directory hlocate hfree] at h; cases h
    · obtain ⟨last, hwrite, hhome, hoccupancy⟩ :=
        write_of_ne_directory content t hlocate hfree
      obtain rfl : after = last := Except.ok.inj (h.symm.trans hwrite)
      have hgrown : ∀ written : Location → Prop, written location →
          Growth made written files after := by
        refine fun written hwritten => ⟨hhome, fun other => ?_⟩
        rw [hoccupancy]
        split_ifs with hother
        · subst hother
          exact .written content hwritten hfree
        · exact .kept _
      exact hgrown _ (locate_grown (hgrown (fun _ => True) trivial) hlocate)

end Files

namespace Generation

variable {t : Int} {date : String} {files after : Files} {settings : Settings}

/-! ## What the parts of writing yield -/

/-- The output directory is made whenever it is not there, and that it is there is no fault. -/
theorem ensureOutput_yields (settings : Settings) (t : Int) (date : String) (files : Files) :
    ∃ result after, Files.Creates t files settings.outputPath result after ∧
      Yields (ensureOutput settings) t date files (result.mapError (.file settings.outputPath))
        after := by
  cases hdirectory : files.isDirectory settings.outputPath with
  | true =>
    refine ⟨.ok (), files, Files.creates_of_isDirectory fun _ => hdirectory, ?_⟩
    refine (Yields.isDirectory settings.outputPath files).bind ?_
    rw [hdirectory]
    exact .pure _ _
  | false =>
    obtain ⟨result, after, hyields, hcreates⟩ :=
      Files.createDirectories_yields t date files settings.outputPath
    refine ⟨result, after, hcreates, ?_⟩
    refine (Yields.isDirectory settings.outputPath files).bind ?_
    rw [hdirectory]
    refine hyields.bind ?_
    cases result with
    | error fault => exact .pure _ _
    | ok _ => exact (Yields.report _ _).bind (.pure _ _)

/-- The bytes of a declaration at a date. -/
def content (settings : Settings) (declaration : Declaration) (date : String) : Bytes :=
  (declaration.render settings.dialect settings.excludedColumns date).toUTF8.toList

theorem writeTo_ok {declaration : Declaration} {path : String}
    (h : files.write path (content settings declaration date) t = .ok after) :
    Yields (writeTo settings declaration path) t date files (.ok (.written path)) after :=
  (Yields.stamp files).bind <| (Yields.write_ok h).bind <| (Yields.report _ _).bind (.pure _ _)

theorem writeTo_error {declaration : Declaration} {path : String} {fault : FileFault}
    (h : files.write path (content settings declaration date) t = .error fault) :
    Yields (writeTo settings declaration path) t date files (.error (.file path fault)) files :=
  (Yields.stamp files).bind <| (Yields.write_error h).bind (.pure _ _)

/-! ## Footprints -/

/-- A location directly in the output directory, named after a type with one of the suffixes. -/
def IsArtifact (settings : Settings) (files : Files) (location : Location) : Prop :=
  ∃ source suffix directory, (suffix = settings.modelSuffix ∨ suffix = settings.valueSuffix) ∧
    Files.IsPlain (settings.artifactName (Naming.typeName source suffix)).toList ∧
    files.locateFolder settings.outputPath = .ok directory ∧
    location = directory ++ [(settings.artifactName (Naming.typeName source suffix)).toList]

/-- A growth by the output directory, by those above it, and by artifacts. -/
def Footprint (settings : Settings) (before after : Files) : Prop :=
  Files.Growth (after.IsAbove settings.outputPath) (IsArtifact settings after) before after

theorem IsArtifact.grown {made written : Location → Prop}
    (h : Files.Growth made written files after) {location : Location}
    (hartifact : IsArtifact settings files location) : IsArtifact settings after location := by
  obtain ⟨source, suffix, directory, hsuffix, hplain, hfolder, hlocation⟩ := hartifact
  exact ⟨source, suffix, directory, hsuffix, hplain, Files.locateFolder_grown h hfolder, hlocation⟩

instance (settings : Settings) : IsPreorder Files (Footprint settings) where
  refl files := .refl files
  trans _ _ _ hfirst hsecond :=
    (hfirst.mono (fun _ habove => habove.grown hsecond)
      fun _ hartifact => hartifact.grown hsecond).trans hsecond

theorem within_ensureOutput : Within (Footprint settings) (ensureOutput settings) := by
  intro t date files
  obtain ⟨result, after, hcreates, hyields⟩ := ensureOutput_yields settings t date files
  exact ⟨_, after, hyields, hcreates.growth _⟩

/-- A suffix that a call may use, which has no separator. -/
structure IsSuffix (settings : Settings) (suffix : String) : Prop where
  mem : suffix = settings.modelSuffix ∨ suffix = settings.valueSuffix
  single : Path.separator ∉ suffix.toList

/-- Where the file of a type leads, it leads to an artifact. -/
theorem isArtifact_of_locate {source suffix : String} (hsuffix : IsSuffix settings suffix)
    {location : Location}
    (h : files.locate (settings.artifactPath (Naming.typeName source suffix)) = .ok location) :
    IsArtifact settings files location := by
  have hplain := settings.isPlain_artifactName
    (Naming.separator_not_mem_typeName source hsuffix.single)
  obtain ⟨directory, hfolder, -, hlocation⟩ := Files.locate_join hplain h
  exact ⟨source, suffix, directory, hsuffix.mem, hplain, hfolder, hlocation⟩

/-- Writing the file of a type leaves a footprint. -/
theorem write_footprint {source suffix : String} (hsuffix : IsSuffix settings suffix)
    {written : Bytes} (h : files.write (settings.artifactPath (Naming.typeName source suffix))
      written t = .ok after) {made : Location → Prop} :
    Files.Growth made (IsArtifact settings after) files after :=
  (Files.write_growth h).mono (fun _ => id) fun _ => isArtifact_of_locate hsuffix

theorem within_writeTo {declaration : Declaration} {source suffix : String}
    (hsuffix : IsSuffix settings suffix)
    (hname : declaration.name = Naming.typeName source suffix) :
    Within (Footprint settings)
      (writeTo settings declaration (settings.artifactPath declaration.name)) := by
  intro t date before
  cases hwrite : before.write (settings.artifactPath declaration.name)
      (content settings declaration date) t with
  | error fault => exact ⟨_, _, writeTo_error hwrite, refl_of (Footprint settings) before⟩
  | ok after =>
    refine ⟨_, _, writeTo_ok hwrite, ?_⟩
    rw [hname] at hwrite
    exact write_footprint hsuffix hwrite

/-- Writing a declaration leaves a footprint and nothing else. -/
theorem within_write (replacement : Replacement) {declaration : Declaration}
    {source suffix : String} (hsuffix : IsSuffix settings suffix)
    (hname : declaration.name = Naming.typeName source suffix) :
    Within (Footprint settings) (write settings replacement declaration) := by
  refine within_ensureOutput.bind fun made => ?_
  cases made with
  | error failure => exact .pure _
  | ok _ =>
    have hkept : Within (Footprint settings)
        (isKept settings replacement (settings.artifactPath declaration.name)) := by
      cases replacement with
      | always => exact .pure false
      | whenStale =>
        refine (Within.modified? _).bind fun time? => ?_
        cases time? with
        | none => exact .pure false
        | some time => exact Within.now.bind fun _ => .pure _
    exact hkept.bind fun _ =>
      .ite ((Within.report _).bind fun _ => .pure _) (within_writeTo hsuffix hname)

/-! ## Calls -/

/-- Neither suffix has a separator. -/
structure HasPlainSuffixes (settings : Settings) : Prop where
  model : Path.separator ∉ settings.modelSuffix.toList
  value : Path.separator ∉ settings.valueSuffix.toList

theorem name_of_valueDeclaration {name origin : String} {document : Json}
    {declaration : Declaration}
    (h : valueDeclaration settings name origin document = .ok declaration) :
    declaration.name = Naming.typeName name settings.valueSuffix := by
  rw [valueDeclaration] at h
  cases hrecord : Payload.record document with
  | error defect => rw [hrecord] at h; cases h
  | ok record =>
    rw [hrecord] at h
    obtain rfl := Except.ok.inj h
    rfl

theorem within_generateModel (hsuffixes : HasPlainSuffixes settings) (schema : SchemaSource)
    (name : String) : Within (Footprint settings) (generateModel settings schema name) := by
  refine (Within.report _).bind fun _ => ?_
  refine Within.bind_of_yields
    (fun _ _ files => modelDeclaration_yields settings schema name files _ _) fun files => ?_
  split
  · exact .pure _
  · next declaration hdeclaration =>
    exact within_write .always ⟨.inl rfl, hsuffixes.model⟩ (name_of_declarationFrom hdeclaration)

theorem within_generateModels (hsuffixes : HasPlainSuffixes settings) (schema : SchemaSource) :
    Within (Footprint settings) (generateModels settings schema) := by
  refine (Model.within_discover settings.modelsPath).bind fun found => ?_
  cases found with
  | error failure => exact .pure _
  | ok names =>
    exact (Within.mapM (fun name =>
      (within_generateModel hsuffixes schema name).bind fun _ => .pure _) names).bind
        fun _ => .pure _

theorem within_generateValue (hsuffixes : HasPlainSuffixes settings) (replacement : Replacement)
    (name origin : String) (document : Json) :
    Within (Footprint settings) (generateValue settings replacement name origin document) := by
  refine .ite (.pure _) ?_
  split
  · exact .pure _
  · next declaration hdeclaration =>
    exact within_write replacement ⟨.inr rfl, hsuffixes.value⟩
      (name_of_valueDeclaration hdeclaration)

theorem within_generatePayload (hsuffixes : HasPlainSuffixes settings) (filter? : Option String)
    (replacement : Replacement) (path : String) :
    Within (Footprint settings) (generatePayload settings filter? replacement path) := by
  refine (Payload.within_load path filter?).bind fun found => ?_
  rcases found with reason | (failure | (_ | ⟨document, _ | ⟨second, rest⟩⟩))
  · exact .pure _
  · exact .pure _
  · exact .pure _
  · exact (within_generateValue hsuffixes replacement _ path document).bind fun _ => .pure _
  · refine (Within.report _).bind fun _ => Within.bind ?_ fun _ => .pure _
    refine (Within.mapM (fun item => ?_) _).bind fun _ => .pure _
    exact (within_generateValue hsuffixes replacement _ path item.1).bind fun _ => .pure _

theorem within_generatePayloads (hsuffixes : HasPlainSuffixes settings) (filter? : Option String)
    (replacement : Replacement) (paths : List String) :
    Within (Footprint settings) (generatePayloads settings filter? replacement paths) := by
  induction paths with
  | nil => exact .pure _
  | cons path others ih =>
    refine (within_generatePayload hsuffixes filter? replacement path).bind fun first => ?_
    cases first with
    | error reason => exact .pure _
    | ok report => exact ih.bind fun _ => .pure _

theorem within_generateValues (hsuffixes : HasPlainSuffixes settings)
    (name? filter? : Option String) (replacement : Replacement) (paths : List String) :
    Within (Footprint settings) (generateValues settings name? filter? replacement paths) := by
  refine .ite (.pure _) ?_
  cases name? with
  | none => exact within_generatePayloads hsuffixes filter? replacement paths
  | some name =>
    refine Within.bind ?_ fun _ => .pure _
    refine (within_firstDocument filter? noDocuments paths).bind fun found => ?_
    rcases found with reason | (failure | ⟨origin, document⟩)
    · exact .pure _
    · exact .pure _
    · exact (within_generateValue hsuffixes replacement name origin document).bind fun _ =>
        .pure _

/-- A call of a generator. -/
inductive Call where
  | model (schema : SchemaSource) (name : String)
  | models (schema : SchemaSource)
  | value (replacement : Replacement) (name origin : String) (document : Json)
  | values (name? filter? : Option String) (replacement : Replacement) (paths : List String)

/-- What a call does, apart from its answer. -/
def Call.action (settings : Settings) : Call → StateM Session Unit
  | .model schema name => do
    let _ ← generateModel settings schema name
  | .models schema => do
    let _ ← generateModels settings schema
  | .value replacement name origin document => do
    let _ ← generateValue settings replacement name origin document
  | .values name? filter? replacement paths => do
    let _ ← generateValues settings name? filter? replacement paths

/-- A call at a time. -/
structure TimedCall where
  now : Int
  stamp : String
  call : Call

/-- Calls one after the other, each at its own time. -/
def runCalls (settings : Settings) (session : Session) : List TimedCall → Session
  | [] => session
  | timed :: later =>
    let before := { session with now := timed.now, stamp := timed.stamp }
    runCalls settings (before.perform (timed.call.action settings)).2 later

theorem within_action (hsuffixes : HasPlainSuffixes settings) (call : Call) :
    Within (Footprint settings) (call.action settings) := by
  cases call with
  | model schema name =>
    exact (within_generateModel hsuffixes schema name).bind fun _ => .pure _
  | models schema => exact (within_generateModels hsuffixes schema).bind fun _ => .pure _
  | value replacement name origin document =>
    exact (within_generateValue hsuffixes replacement name origin document).bind fun _ => .pure _
  | values name? filter? replacement paths =>
    exact (within_generateValues hsuffixes name? filter? replacement paths).bind fun _ => .pure _

/-- Any sequence of calls leaves a footprint. -/
theorem footprint_runCalls (hsuffixes : HasPlainSuffixes settings) (session : Session)
    (calls : List TimedCall) :
    Footprint settings session.files (runCalls settings session calls).files := by
  induction calls generalizing session with
  | nil => exact refl_of (Footprint settings) session.files
  | cons timed later ih =>
    obtain ⟨_, after, hyields, hafter⟩ :=
      within_action hsuffixes timed.call timed.now timed.stamp session.files
    have hstep : (Session.perform { session with now := timed.now, stamp := timed.stamp }
        (timed.call.action settings)).2.files = after := hyields.perform_snd
    refine trans_of (Footprint settings) hafter ?_
    rw [← hstep]
    exact ih _

/-- However often a generator is called, and with whatever names and payloads, the files that are
there afterwards and were not there before with the same content are directly in the output
directory and named after types, the directories that were not there before are the output directory
and some of those above it, and nothing is gone. -/
theorem runCalls_touches_only_output (settings : Settings)
    (hmodel : '/' ∉ settings.modelSuffix.toList) (hvalue : '/' ∉ settings.valueSuffix.toList)
    (session : Session) (calls : List TimedCall) (location : Location) :
    let before := session.files
    let after := (runCalls settings session calls).files
    (∀ content, after.occupancy location = .file content →
      before.occupancy location = .file content ∨
      before.occupancy location ≠ .directory ∧
        ∃ source suffix directory,
          (suffix = settings.modelSuffix ∨ suffix = settings.valueSuffix) ∧
          Files.IsPlain (settings.artifactName (Naming.typeName source suffix)).toList ∧
          after.locateFolder settings.outputPath = .ok directory ∧
          location =
            directory ++ [(settings.artifactName (Naming.typeName source suffix)).toList]) ∧
    (after.occupancy location = .directory →
      before.occupancy location = .directory ∨
      before.occupancy location = .vacant ∧
        ∃ above, Path.Ancestor settings.outputPath above ∧ after.locate above = .ok location) ∧
    (after.occupancy location = .vacant → before.occupancy location = .vacant) := by
  intro before after
  have hfootprint : Footprint settings before after :=
    footprint_runCalls ⟨hmodel, hvalue⟩ session calls
  exact ⟨fun _ => hfootprint.of_file, hfootprint.of_directory, hfootprint.of_vacant⟩

/-- A schema whose tables have no columns. -/
def bareSchema : SchemaSource where
  columns _ := .ok []
  declaredType _ _ := .ok ""
  nullable _ _ := .ok false

/-- Calls with names that look like paths. -/
def pathLikeCalls : List TimedCall :=
  [⟨1, "", .model bareSchema "../../etc/x"⟩, ⟨2, "", .models bareSchema⟩,
    ⟨3, "", .value .always "/etc/x" "" (.object [])⟩,
    ⟨4, "", .values (some "..") none .always ["/etc/x", "a\\..\\b", ""]⟩]

/-- A file that such names seem to lead to stays as it is. -/
theorem runCalls_pathLikeCalls :
    (runCalls {} ⟨⟨[(["etc".toList], .directory 0), (["etc".toList, "x".toList], .file [1] 0)], []⟩,
      0, "", []⟩ pathLikeCalls).files.occupancy ["etc".toList, "x".toList] = .file [1] := by
  have hfootprint := runCalls_touches_only_output {} (by decide) (by decide)
    ⟨⟨[(["etc".toList], .directory 0), (["etc".toList, "x".toList], .file [1] 0)], []⟩, 0, "", []⟩
    pathLikeCalls ["etc".toList, "x".toList]
  dsimp only at hfootprint
  have hbefore : Files.occupancy
      ⟨[(["etc".toList], .directory 0), (["etc".toList, "x".toList], .file [1] 0)], []⟩
      ["etc".toList, "x".toList] = .file [1] := by decide
  rw [hbefore] at hfootprint
  obtain ⟨hfile, hdirectory, hvacant⟩ := hfootprint
  generalize (runCalls _ _ _).files = after at hfile hdirectory hvacant ⊢
  cases hoccupancy : after.occupancy ["etc".toList, "x".toList] with
  | vacant => cases hvacant hoccupancy
  | directory =>
    rcases hdirectory hoccupancy with heq | ⟨heq, -⟩ <;> cases heq
  | file content =>
    rcases hfile content hoccupancy with heq | ⟨-, source, suffix, directory, -, -, -, heq⟩
    · exact heq.symm
    · -- the file of a type ends in an extension
      have hlast := congrArg List.getLast? heq
      rw [List.getLast?_concat, List.getLast?_cons_cons, List.getLast?_singleton] at hlast
      have hextension := Settings.getLast?_artifactName {} (Naming.typeName source suffix)
      rw [← Option.some.inj hlast] at hextension
      exact absurd hextension (by decide)

end Generation
end ResponseTypes
