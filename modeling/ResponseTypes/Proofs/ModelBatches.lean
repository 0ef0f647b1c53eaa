import ResponseTypes.Proofs.OutputFootprint

/-!
# Batches of models

The models of a batch are declared one after the other on one file system.  What becomes of one does
not depend on what became of those before it: artifacts are never manifests, the output directory is
made once, and an attempt to make it that failed fails again.  The one trace that a failed attempt
can leave is in the reason of the next failure, and only where the output directory is named by a
path that leads upwards again.

## Main definitions

- `Generation.Generates`: what becomes of one model, and the files after it.
- `Generation.Batch`: one model after the other.
- `Generation.Reached`: the files that the models of a batch can leave.
- `Generation.SameResult`: a result in a batch and the result alone.

## Main statements

- `Generation.Generates.alone`: a model of a batch ends as it would alone.
- `Generation.Batch.content?_eq`: only the files that a batch reports change.
- `Generation.generateModels_isolated`: both for the models that are found in a directory.
-/

namespace ResponseTypes

open Session

namespace Generation

variable {settings : Settings} {schema : SchemaSource} {t : Int} {date : String}
variable {initial files between after : Files} {name : String}
variable {result : Except Failure Outcome}

/-! ## One model -/

/-- The declaration of a model by the manifest that is there. -/
def declarationIn (settings : Settings) (schema : SchemaSource) (name : String) (files : Files) :
    Except Failure Declaration :=
  declarationFrom settings schema name
    (files.read (Model.manifestPath settings.modelsPath name)).toOption

/-- What becomes of one model, and the files after it. -/
inductive Generates (settings : Settings) (schema : SchemaSource) (t : Int) (date : String)
    (files : Files) (name : String) : Except Failure Outcome → Files → Prop where
  /-- there is nothing to declare -/
  | undeclared {failure : Failure} : declarationIn settings schema name files = .error failure →
      Generates settings schema t date files name (.error failure) files
  /-- the output directory cannot be made -/
  | homeless {declaration : Declaration} {fault : FileFault} {after : Files} :
      declarationIn settings schema name files = .ok declaration →
      Files.Creates t files settings.outputPath (.error fault) after →
      Generates settings schema t date files name (.error (.file settings.outputPath fault)) after
  /-- the artifact cannot be written -/
  | refused {declaration : Declaration} {fault : FileFault} {between : Files} :
      declarationIn settings schema name files = .ok declaration →
      Files.Creates t files settings.outputPath (.ok ()) between →
      between.write (settings.artifactPath declaration.name)
        (content settings declaration date) t = .error fault →
      Generates settings schema t date files name
        (.error (.file (settings.artifactPath declaration.name) fault)) between
  | written {declaration : Declaration} {between after : Files} :
      declarationIn settings schema name files = .ok declaration →
      Files.Creates t files settings.outputPath (.ok ()) between →
      between.write (settings.artifactPath declaration.name)
        (content settings declaration date) t = .ok after →
      Generates settings schema t date files name
        (.ok (.written (settings.artifactPath declaration.name))) after

/-- The program for one model does what is said of it, and leaves no choice. -/
theorem generateModel_yields (settings : Settings) (schema : SchemaSource) (t : Int)
    (date : String) (files : Files) (name : String) :
    ∃ result after, Generates settings schema t date files name result after ∧
      Yields (generateModel settings schema name) t date files result after := by
  have hdeclaration := modelDeclaration_yields settings schema name files t date
  change Yields _ _ _ _ (declarationIn settings schema name files) _ at hdeclaration
  cases hanswer : declarationIn settings schema name files with
  | error failure =>
    rw [hanswer] at hdeclaration
    exact ⟨_, _, .undeclared hanswer,
      (Yields.report _ _).bind (hdeclaration.bind (.pure _ _))⟩
  | ok declaration =>
    rw [hanswer] at hdeclaration
    obtain ⟨made, between, hcreates, hensure⟩ := ensureOutput_yields settings t date files
    cases made with
    | error fault =>
      exact ⟨_, _, .homeless hanswer hcreates,
        (Yields.report _ _).bind (hdeclaration.bind (hensure.bind (.pure _ _)))⟩
    | ok _ =>
      cases hwrite : between.write (settings.artifactPath declaration.name)
          (content settings declaration date) t with
      | error fault =>
        exact ⟨_, _, .refused hanswer hcreates hwrite, (Yields.report _ _).bind
          (hdeclaration.bind (hensure.bind ((Yields.pure _ _).bind (writeTo_error hwrite))))⟩
      | ok after =>
        exact ⟨_, _, .written hanswer hcreates hwrite, (Yields.report _ _).bind
          (hdeclaration.bind (hensure.bind ((Yields.pure _ _).bind (writeTo_ok hwrite))))⟩

theorem Generates.unique {result' : Except Failure Outcome} {after' : Files}
    (h : Generates settings schema t date files name result after)
    (h' : Generates settings schema t date files name result' after') :
    result = result' ∧ after = after' := by
  cases h with
  | undeclared hdeclaration => cases h' <;> simp_all
  | homeless hdeclaration hcreates =>
    cases h' with
    | undeclared hdeclaration' => simp_all
    | homeless hdeclaration' hcreates' =>
      obtain ⟨hfault, rfl⟩ := hcreates.unique hcreates'
      simp_all
    | refused _ hcreates' _ => cases (hcreates.unique hcreates').1
    | written _ hcreates' _ => cases (hcreates.unique hcreates').1
  | refused hdeclaration hcreates hwrite =>
    cases h' with
    | undeclared hdeclaration' => simp_all
    | homeless _ hcreates' => cases (hcreates.unique hcreates').1
    | refused _ hcreates' _ | written _ hcreates' _ =>
      obtain rfl := (hcreates.unique hcreates').2
      simp_all
  | written hdeclaration hcreates hwrite =>
    cases h' with
    | undeclared hdeclaration' => simp_all
    | homeless _ hcreates' => cases (hcreates.unique hcreates').1
    | refused _ hcreates' _ | written _ hcreates' _ =>
      obtain rfl := (hcreates.unique hcreates').2
      simp_all

/-- The file of a declared model is named by one part of a path. -/
theorem isPlain_of_declarationIn (hsuffix : Path.separator ∉ settings.modelSuffix.toList)
    {declaration : Declaration}
    (h : declarationIn settings schema name files = .ok declaration) :
    Files.IsPlain (settings.artifactName declaration.name).toList := by
  rw [name_of_declarationFrom h]
  exact settings.isPlain_artifactName (Naming.separator_not_mem_typeName _ hsuffix)

/-- One model leaves a footprint. -/
theorem Generates.footprint (hsuffix : Path.separator ∉ settings.modelSuffix.toList)
    (h : Generates settings schema t date files name result after) :
    Footprint settings files after := by
  cases h with
  | undeclared => exact .refl files
  | homeless _ hcreates => exact hcreates.growth _
  | refused _ hcreates _ => exact hcreates.growth _
  | written hdeclaration hcreates hwrite =>
    rw [name_of_declarationFrom hdeclaration] at hwrite
    exact trans_of (Footprint settings) (hcreates.growth _)
      (write_footprint ⟨.inl rfl, hsuffix⟩ hwrite)

/-- One model changes the content of the file that it reports, and of no other. -/
theorem Generates.content?_eq (h : Generates settings schema t date files name result after)
    (location : Location)
    (hother : ∀ path, result = .ok (.written path) → after.locate path ≠ .ok location) :
    after.content? location = files.content? location := by
  have hnothing : ¬ False := id
  cases h with
  | undeclared => rfl
  | homeless _ hcreates => exact (hcreates.growth fun _ => False).content?_eq hnothing
  | refused _ hcreates _ => exact (hcreates.growth fun _ => False).content?_eq hnothing
  | written _ hcreates hwrite =>
    have hgrown : Files.Growth (fun _ => False) _ _ after := Files.write_growth hwrite
    rw [hgrown.content?_eq (hother _ rfl), (hcreates.growth fun _ => False).content?_eq hnothing]

/-! ## What a model can see of those before it -/

/-- The name of a manifest is not that of an artifact. -/
theorem manifestName_ne_artifactName (settings : Settings) (name typeName : String) :
    (name ++ Model.extension).toList ≠ (settings.artifactName typeName).toList := by
  intro heq
  have hlast := settings.getLast?_artifactName typeName
  rw [← heq, String.toList_append, List.getLast?_append] at hlast
  exact absurd (Option.some.inj hlast) (by decide)

/-- What is written and made beside a manifest does not change what it declares. -/
theorem declarationIn_of_footprint (schema : SchemaSource)
    (hmodels : initial.isDirectory settings.modelsPath = true)
    (hname : Path.separator ∉ name.toList) (h : Footprint settings initial files) :
    declarationIn settings schema name files = declarationIn settings schema name initial := by
  obtain ⟨directory, hlocate, hdirectory⟩ := Files.isDirectory_iff.1 hmodels
  have hplain := Model.isPlain_manifestName hname
  have hsame : files.locate (Model.manifestPath settings.modelsPath name) =
      initial.locate (Model.manifestPath settings.modelsPath name) := by
    refine Files.locate_join_congr hplain.toIsName (Files.locateFolder_of_locate hlocate)
      (Files.locateFolder_of_locate (Files.locate_grown h hlocate)) ?_
    rw [h.directory hdirectory, hdirectory]
  rw [declarationIn, declarationIn, Files.toOption_read, Files.toOption_read, hsame]
  congr 1
  cases hmanifest : initial.locate (Model.manifestPath settings.modelsPath name) with
  | error fault => rfl
  | ok location =>
    obtain ⟨above, -, -, rfl⟩ := Files.locate_join hplain hmanifest
    refine h.content?_eq ?_
    rintro ⟨source, suffix, output, -, -, -, heq⟩
    obtain ⟨-, hlast⟩ := List.append_inj' heq (by simp only [List.length_singleton])
    exact absurd (List.singleton_inj.1 hlast) (manifestName_ne_artifactName settings name _)

/-! ## The files that a batch reaches -/

/-- The files that the models of a batch can leave: as they were, as a failed attempt to make the
output directory left them, or with the output directory and some artifacts. -/
inductive Reached (settings : Settings) (t : Int) (initial : Files) : Files → Prop where
  | untouched : Reached settings t initial initial
  | failed {fault : FileFault} {after : Files} :
      Files.Creates t initial settings.outputPath (.error fault) after →
      Reached settings t initial after
  | made {between after : Files} :
      Files.Creates t initial settings.outputPath (.ok ()) between →
      Files.Growth (fun _ => False) (IsArtifact settings after) between after →
      Reached settings t initial after

theorem Reached.footprint (h : Reached settings t initial files) :
    Footprint settings initial files := by
  cases h with
  | untouched => exact .refl initial
  | failed hcreates => exact hcreates.growth _
  | made hcreates hgrown =>
    exact trans_of (Footprint settings) (hcreates.growth _)
      (hgrown.mono (fun _ => False.elim) fun _ => id)

/-- A fault in a batch and the fault alone.  They differ only where a path leads upwards: the first
attempt may leave directories behind that lead the next one into the file in the way. -/
def SameFault (settings : Settings) (fault alone : FileFault) : Prop :=
  fault = alone ∨ ['.', '.'] ∈ Path.parts settings.outputPath.toList ∧
    alone = .occupied ∧ fault = .notDirectory

/-- A result in a batch and the result alone. -/
def SameResult (settings : Settings) (result alone : Except Failure Outcome) : Prop :=
  result = alone ∨ ['.', '.'] ∈ Path.parts settings.outputPath.toList ∧
    alone = .error (.file settings.outputPath .occupied) ∧
    result = .error (.file settings.outputPath .notDirectory)

/-- Once the output directory has been made it is only found again. -/
theorem Reached.creates_ok (h : Reached settings t initial files)
    (hcreates : Files.Creates t files settings.outputPath (.ok ()) after) :
    ∃ alone, Files.Creates t initial settings.outputPath (.ok ()) alone ∧
      Files.Growth (fun _ => False) (IsArtifact settings after) alone after := by
  cases h with
  | untouched => exact ⟨after, hcreates, .refl after⟩
  | failed hfailed =>
    obtain ⟨-, fault, -, hretry⟩ := hfailed.retry
    cases (hretry.unique hcreates).1
  | @made between _ hmade hgrown =>
    have hfound : Files.Creates t files settings.outputPath (.ok ()) files :=
      Files.creates_of_isDirectory fun hne =>
        Files.isDirectory_grown hgrown (hmade.isDirectory hne)
    obtain rfl := (hfound.unique hcreates).2
    exact ⟨between, hmade, hgrown⟩

/-- Once the output directory could not be made it cannot be made again. -/
theorem Reached.creates_error (htree : initial.IsTree) (h : Reached settings t initial files)
    {fault : FileFault}
    (hcreates : Files.Creates t files settings.outputPath (.error fault) after) :
    ∃ alone, Files.Creates t initial settings.outputPath (.error alone) after ∧
      SameFault settings fault alone := by
  cases h with
  | untouched => exact ⟨fault, hcreates, .inl rfl⟩
  | @failed alone _ hfailed =>
    obtain ⟨-, again, hagain, hretry⟩ := hfailed.retry
    obtain ⟨heq, rfl⟩ := hretry.unique hcreates
    obtain rfl := Except.error.inj heq
    refine ⟨alone, hfailed, ?_⟩
    by_cases hupwards : ['.', '.'] ∈ Path.parts settings.outputPath.toList
    · rcases hagain with rfl | ⟨rfl, rfl⟩
      · exact .inl rfl
      · exact .inr ⟨hupwards, rfl, rfl⟩
    · have hexact := hfailed.retry_of_isTree htree hupwards
      exact .inl (Except.error.inj (hretry.unique hexact).1)
  | made hmade hgrown =>
    have hfound : Files.Creates t files settings.outputPath (.ok ()) files :=
      Files.creates_of_isDirectory fun hne =>
        Files.isDirectory_grown hgrown (hmade.isDirectory hne)
    cases (hfound.unique hcreates).1

/-- With only artifacts added, a folder is as free or as taken as it was. -/
theorem occupancy_of_locateFolder
    (h : Files.Growth (fun _ => False) (IsArtifact settings after) between after)
    {directory : Location} (hfolder : between.locateFolder settings.outputPath = .ok directory) :
    after.occupancy directory = between.occupancy directory := by
  have hafter := Files.locateFolder_grown h hfolder
  refine h.occupancy_eq id ?_
  -- an artifact is in the output directory, so it is not the output directory
  rintro ⟨source, suffix, output, -, -, houtput, heq⟩
  rw [hafter] at houtput
  obtain rfl := Except.ok.inj houtput
  exact absurd heq (by simp)

/-- Artifacts that were written before do not decide whether one can be written. -/
theorem write_error_iff
    (h : Files.Growth (fun _ => False) (IsArtifact settings after) between after)
    (hmade : settings.outputPath ≠ "" → between.isDirectory settings.outputPath = true)
    {typeName : String} (hplain : Files.IsPlain (settings.artifactName typeName).toList)
    {written : Bytes} {fault : FileFault} :
    after.write (settings.artifactPath typeName) written t = .error fault ↔
      between.write (settings.artifactPath typeName) written t = .error fault := by
  obtain ⟨directory, hfolder⟩ :
      ∃ directory, between.locateFolder settings.outputPath = .ok directory := by
    by_cases hempty : settings.outputPath = ""
    · exact ⟨between.home, by rw [Files.locateFolder, if_pos hempty]⟩
    · obtain ⟨directory, hlocate, -⟩ := Files.isDirectory_iff.1 (hmade hempty)
      exact ⟨directory, Files.locateFolder_of_locate hlocate⟩
  have hlocate : after.locate (settings.artifactPath typeName) =
      between.locate (settings.artifactPath typeName) :=
    Files.locate_join_congr hplain.toIsName hfolder (Files.locateFolder_grown h hfolder)
      (occupancy_of_locateFolder h hfolder)
  rw [Files.write_eq_error, Files.write_eq_error, hlocate]
  simp only [h.directory_iff]

/-- A model of a batch ends as it would alone, and leaves files that the batch can leave. -/
theorem Generates.alone (hsuffix : Path.separator ∉ settings.modelSuffix.toList)
    (htree : initial.IsTree) (hmodels : initial.isDirectory settings.modelsPath = true)
    (hname : Path.separator ∉ name.toList) (hreached : Reached settings t initial files)
    (h : Generates settings schema t date files name result after) :
    Reached settings t initial after ∧
      ∃ alone afterAlone, Generates settings schema t date initial name alone afterAlone ∧
        SameResult settings result alone := by
  have hsame := declarationIn_of_footprint schema hmodels hname hreached.footprint
  cases h with
  | undeclared hdeclaration =>
    rw [hsame] at hdeclaration
    exact ⟨hreached, _, _, .undeclared hdeclaration, .inl rfl⟩
  | homeless hdeclaration hcreates =>
    rw [hsame] at hdeclaration
    obtain ⟨fault, halone, hfault⟩ := hreached.creates_error htree hcreates
    refine ⟨.failed halone, _, _, .homeless hdeclaration halone, ?_⟩
    rcases hfault with rfl | ⟨hupwards, rfl, rfl⟩
    · exact .inl rfl
    · exact .inr ⟨hupwards, rfl, rfl⟩
  | refused hdeclaration hcreates hwrite =>
    have hplain := isPlain_of_declarationIn hsuffix hdeclaration
    rw [hsame] at hdeclaration
    obtain ⟨made, halone, hgrown⟩ := hreached.creates_ok hcreates
    rw [write_error_iff hgrown halone.isDirectory hplain] at hwrite
    exact ⟨.made halone hgrown, _, _, .refused hdeclaration halone hwrite, .inl rfl⟩
  | @written declaration between _ hdeclaration hcreates hwrite =>
    have hplain := isPlain_of_declarationIn hsuffix hdeclaration
    have hnamed := name_of_declarationFrom hdeclaration
    rw [hsame] at hdeclaration
    obtain ⟨made, halone, hgrown⟩ := hreached.creates_ok hcreates
    have hwritten : Files.Growth (fun _ => False) (IsArtifact settings after) between after := by
      rw [hnamed] at hwrite
      exact write_footprint ⟨.inl rfl, hsuffix⟩ hwrite
    have hreachedAfter : Reached settings t initial after :=
      .made halone ((hgrown.mono (fun _ => id) fun _ hartifact =>
        hartifact.grown hwritten).trans hwritten)
    cases hwriteAlone : made.write (settings.artifactPath declaration.name)
        (content settings declaration date) t with
    | error fault =>
      rw [← write_error_iff hgrown halone.isDirectory hplain, hwrite] at hwriteAlone
      cases hwriteAlone
    | ok afterAlone =>
      exact ⟨hreachedAfter, _, afterAlone, .written hdeclaration halone hwriteAlone, .inl rfl⟩

/-! ## One model after the other -/

/-- The models of a batch, one after the other. -/
inductive Batch (settings : Settings) (schema : SchemaSource) (t : Int) (date : String) :
    Files → List String → List UnitReport → Files → Prop where
  | nil (files : Files) : Batch settings schema t date files [] [] files
  | cons {files between after : Files} {name : String} {names : List String}
      {result : Except Failure Outcome} {units : List UnitReport} :
      Generates settings schema t date files name result between →
      Batch settings schema t date between names units after →
      Batch settings schema t date files (name :: names) (⟨name, result⟩ :: units) after

theorem mapM_generateModel_yields (settings : Settings) (schema : SchemaSource) (t : Int)
    (date : String) (files : Files) (names : List String) :
    ∃ units after, Batch settings schema t date files names units after ∧
      Yields (names.mapM fun name => return ⟨name, ← generateModel settings schema name⟩) t date
        files units after := by
  induction names generalizing files with
  | nil => exact ⟨[], files, .nil files, by rw [List.mapM_nil]; exact .pure _ _⟩
  | cons name names ih =>
    obtain ⟨result, between, hgenerates, hyields⟩ :=
      generateModel_yields settings schema t date files name
    obtain ⟨units, after, hbatch, hrest⟩ := ih between
    refine ⟨_, after, .cons hgenerates hbatch, ?_⟩
    have hunit : Yields (do return (⟨name, ← generateModel settings schema name⟩ : UnitReport)) t
        date files ⟨name, result⟩ between := hyields.bind (.pure _ _)
    rw [List.mapM_cons]
    exact hunit.bind (hrest.bind (.pure _ _))

namespace Batch

variable {names : List String} {units : List UnitReport}

theorem unique {units' : List UnitReport} {after' : Files}
    (h : Batch settings schema t date files names units after)
    (h' : Batch settings schema t date files names units' after') :
    units = units' ∧ after = after' := by
  induction h generalizing units' after' with
  | nil => cases h'; exact ⟨rfl, rfl⟩
  | cons hgenerates _ ih =>
    cases h' with
    | cons hgenerates' hbatch' =>
      obtain ⟨rfl, rfl⟩ := hgenerates.unique hgenerates'
      obtain ⟨rfl, rfl⟩ := ih hbatch'
      exact ⟨rfl, rfl⟩

theorem names_eq (h : Batch settings schema t date files names units after) :
    units.map UnitReport.name = names := by
  induction h with
  | nil => rfl
  | cons _ _ ih => rw [List.map_cons, ih]

theorem footprint (hsuffix : Path.separator ∉ settings.modelSuffix.toList)
    (h : Batch settings schema t date files names units after) :
    Footprint settings files after := by
  induction h with
  | nil files => exact .refl files
  | cons hgenerates _ ih => exact trans_of (Footprint settings) (hgenerates.footprint hsuffix) ih

/-- A batch changes the content of the files that it reports, and of no other. -/
theorem content?_eq (hsuffix : Path.separator ∉ settings.modelSuffix.toList)
    (h : Batch settings schema t date files names units after) (location : Location)
    (hother : ∀ unit ∈ units, ∀ path, unit.result = .ok (.written path) →
      after.locate path ≠ .ok location) :
    after.content? location = files.content? location := by
  induction h with
  | nil => rfl
  | cons hgenerates hbatch ih =>
    obtain ⟨hfirst, hrest⟩ := List.forall_mem_cons.1 hother
    rw [ih hrest, hgenerates.content?_eq location fun path hwritten hlocate =>
      hfirst path hwritten (Files.locate_grown (hbatch.footprint hsuffix) hlocate)]

/-- Every model of a batch ends as it would alone. -/
theorem alone (hsuffix : Path.separator ∉ settings.modelSuffix.toList)
    (htree : initial.IsTree) (hmodels : initial.isDirectory settings.modelsPath = true)
    (hnames : ∀ name ∈ names, Path.separator ∉ name.toList)
    (hreached : Reached settings t initial files)
    (h : Batch settings schema t date files names units after) :
    ∀ unit ∈ units, ∃ alone afterAlone,
      Generates settings schema t date initial unit.name alone afterAlone ∧
        SameResult settings unit.result alone := by
  induction h with
  | nil => exact nofun
  | cons hgenerates _ ih =>
    obtain ⟨hname, hothers⟩ := List.forall_mem_cons.1 hnames
    obtain ⟨hnext, halone⟩ := hgenerates.alone hsuffix htree hmodels hname hreached
    exact List.forall_mem_cons.2 ⟨halone, ih hothers hnext⟩

/-- A batch can be cut at any of its units. -/
theorem split {earlier later : List UnitReport} {unit : UnitReport}
    (h : Batch settings schema t date initial names (earlier ++ unit :: later) after) :
    ∃ files between names' others,
      Batch settings schema t date initial names' earlier files ∧
      Generates settings schema t date files unit.name unit.result between ∧
      Batch settings schema t date between others later after := by
  induction earlier generalizing initial names with
  | nil =>
    cases h with
    | cons hgenerates hbatch => exact ⟨_, _, _, _, .nil _, hgenerates, hbatch⟩
  | cons first earlier ih =>
    cases h with
    | cons hgenerates hbatch =>
      obtain ⟨files, between, names', others, hearlier, hunit, hlater⟩ := ih hbatch
      exact ⟨files, between, _, others, .cons hgenerates hearlier, hunit, hlater⟩

end Batch

/-! ## What a written file holds -/

/-- What a written file holds, and where its path comes from. -/
theorem Generates.read_written {path : String}
    (h : Generates settings schema t date files name (.ok (.written path)) after) :
    ∃ declaration, declarationIn settings schema name files = .ok declaration ∧
      path = settings.artifactPath declaration.name ∧
      after.read path = .ok (content settings declaration date) := by
  cases h with
  | @written declaration between _ hdeclaration _ hwrite =>
    refine ⟨declaration, hdeclaration, rfl, Files.read_eq_ok.2 ?_⟩
    have hgrown : Files.Growth (fun _ => False) _ between after := Files.write_growth hwrite
    cases hlocate : between.locate (settings.artifactPath declaration.name) with
    | error fault => rw [Files.write_of_lost hlocate] at hwrite; cases hwrite
    | ok location =>
      by_cases hdirectory : between.occupancy location = .directory
      · rw [Files.write_of_directory hlocate hdirectory] at hwrite; cases hwrite
      · obtain ⟨_, hafter, -, hoccupancy⟩ := Files.write_of_ne_directory
          (content settings declaration date) t hlocate hdirectory
        obtain rfl := Except.ok.inj (hwrite.symm.trans hafter)
        exact ⟨location, Files.locate_grown hgrown hlocate, by rw [hoccupancy, if_pos rfl]⟩

/-- Two artifacts at one location have one path. -/
theorem artifactPath_eq_of_locate {typeName typeName' : String} {location : Location}
    (hplain : Files.IsPlain (settings.artifactName typeName).toList)
    (hplain' : Files.IsPlain (settings.artifactName typeName').toList)
    (hlocate : files.locate (settings.artifactPath typeName) = .ok location)
    (hlocate' : files.locate (settings.artifactPath typeName') = .ok location) :
    settings.artifactPath typeName = settings.artifactPath typeName' := by
  obtain ⟨directory, -, -, rfl⟩ := Files.locate_join hplain hlocate
  obtain ⟨directory', -, -, heq⟩ := Files.locate_join hplain' hlocate'
  obtain ⟨-, hlast⟩ := List.append_inj' heq (by simp only [List.length_singleton])
  rw [Settings.artifactPath_eq, Settings.artifactPath_eq,
    String.toList_inj.1 (List.singleton_inj.1 hlast)]

namespace Batch

variable {names : List String} {units : List UnitReport}

theorem written_of_mem (hsuffix : Path.separator ∉ settings.modelSuffix.toList)
    (h : Batch settings schema t date files names units after) {unit : UnitReport}
    (hunit : unit ∈ units) {path : String} (hwritten : unit.result = .ok (.written path)) :
    ∃ typeName, path = settings.artifactPath typeName ∧
      Files.IsPlain (settings.artifactName typeName).toList := by
  induction h with
  | nil => cases hunit
  | cons hgenerates _ ih =>
    rcases List.mem_cons.1 hunit with rfl | hunit
    · subst hwritten
      obtain ⟨declaration, hdeclaration, rfl, -⟩ := hgenerates.read_written
      exact ⟨declaration.name, rfl, isPlain_of_declarationIn hsuffix hdeclaration⟩
    · exact ih hunit

/-- The last model that wrote a file decides what the file holds. -/
theorem read_of_last (hsuffix : Path.separator ∉ settings.modelSuffix.toList)
    (hmodels : initial.isDirectory settings.modelsPath = true)
    {earlier later : List UnitReport} {unit : UnitReport}
    (hname : Path.separator ∉ unit.name.toList)
    (h : Batch settings schema t date initial names (earlier ++ unit :: later) after)
    {path : String} (hwritten : unit.result = .ok (.written path))
    (hlast : ∀ other ∈ later, other.result ≠ .ok (.written path)) :
    ∃ declaration, declarationIn settings schema unit.name initial = .ok declaration ∧
      path = settings.artifactPath declaration.name ∧
      after.read path = .ok (content settings declaration date) := by
  obtain ⟨files, between, _, _, hearlier, hunit, hlater⟩ := h.split
  rw [hwritten] at hunit
  obtain ⟨declaration, hdeclaration, rfl, hread⟩ := hunit.read_written
  have hplain := isPlain_of_declarationIn hsuffix hdeclaration
  rw [declarationIn_of_footprint schema hmodels hname (hearlier.footprint hsuffix)] at hdeclaration
  refine ⟨declaration, hdeclaration, rfl, ?_⟩
  obtain ⟨location, hlocate, hoccupancy⟩ := Files.read_eq_ok.1 hread
  have hlocateAfter := Files.locate_grown (hlater.footprint hsuffix) hlocate
  have hkept : after.content? location = between.content? location := by
    refine hlater.content?_eq hsuffix location fun other hother path' hwritten' hlocate' => ?_
    obtain ⟨typeName, rfl, hplain'⟩ := hlater.written_of_mem hsuffix hother hwritten'
    rw [artifactPath_eq_of_locate hplain' hplain hlocate' hlocateAfter] at hwritten'
    exact hlast other hother hwritten'
  have htoOption := Files.toOption_read after (settings.artifactPath declaration.name)
  rw [hlocateAfter, Except.toOption, Option.bind_some, hkept, Files.content?, hoccupancy]
    at htoOption
  cases hafter : after.read (settings.artifactPath declaration.name) with
  | error fault => rw [hafter] at htoOption; cases htoOption
  | ok found =>
    rw [hafter] at htoOption
    rw [Option.some.inj htoOption]

end Batch

/-! ## Two models and a file in the way -/

/-- Two models whose manifests are empty, and a file. -/
def twoModels : Session where
  files := {
    entries :=
      [(["models".toList], .directory 0), (["models".toList, "A.json".toList], .file [] 0),
        (["models".toList, "B.json".toList], .file [] 0), (["taken".toList], .file [] 0)]
    home := [] }
  now := 0
  stamp := ""

/-- A schema whose tables have one column. -/
def idSchema : SchemaSource where
  columns _ := .ok ["id"]
  declaredType _ _ := .ok "bigint"
  nullable _ _ := .ok false

theorem isTree_twoModels : twoModels.files.IsTree :=
  Files.isTree_of_entries (by decide)

/-- The parts of the pattern of the manifests in `models`. -/
def manifestParts : List (List Glob.Token) :=
  [[.char 'm', .char 'o', .char 'd', .char 'e', .char 'l', .char 's'],
    [.anySequence, .char '.', .char 'j', .char 's', .char 'o', .char 'n']]

theorem parse_manifestPattern :
    Glob.Pattern.parse (Path.join "models" ("*" ++ Model.extension)) =
      .ok ⟨false, manifestParts, false⟩ := by
  decide

theorem manifests_twoModels :
    ((["A.json", "B.json"].mergeSort fun a b => decide (a ≤ b)).filter fun name => Glob.matches
      [.anySequence, .char '.', .char 'j', .char 's', .char 'o', .char 'n'] name.toList).map
        (Glob.inside "models") = ["models/A.json", "models/B.json"] := by
  rw [List.mergeSort_of_pairwise (by decide)]
  decide +kernel

/-- The manifests of both models are found. -/
theorem expand_twoModels : Yields (Glob.expand (Path.join "models" ("*" ++ Model.extension))) 0 ""
    twoModels.files (.ok ["models/A.json", "models/B.json"]) twoModels.files := by
  have hlist : twoModels.files.list "models" = .ok ["A.json", "B.json"] := by decide
  rw [Glob.expand, parse_manifestPattern]
  refine Yields.bind ?_ (.pure _ _)
  change Yields (Glob.descend false (Glob.below false 4095) manifestParts ".") _ _ _ _ _
  refine Glob.descend_literal_yields rfl (by decide) (by decide) ?_
  rw [← manifests_twoModels]
  exact Glob.descend_names_yields rfl (by decide) rfl (by decide) hlist

/-- Both models are found. -/
theorem discover_twoModels :
    (twoModels.perform (Model.discover "models")).1 = .ok ["A", "B"] := by
  have hstems : (["models/A.json", "models/B.json"].filter twoModels.files.isFile).filterMap
      Path.fileStem? = ["A", "B"] := by
    decide
  have hdiscover := (Model.discover_of_expand (by decide) expand_twoModels).perform_fst
  rwa [hstems, List.mergeSort_of_pairwise (by decide)] at hdiscover

/-- The manifests are empty, so both models can be declared. -/
theorem declarationIn_twoModels (settings : Settings) (hpath : settings.modelsPath = "models")
    {files : Files} (hfiles : ∀ name ∈ ["A", "B"],
      (files.read (Model.manifestPath "models" name)).toOption = some []) (name : String)
    (hname : name ∈ ["A", "B"]) :
    ∃ declaration, declarationIn settings idSchema name files = .ok declaration := by
  rw [declarationIn, hpath, hfiles name hname]
  exact ⟨_, rfl⟩

/-! ## Batches as the program runs them -/

theorem perform_generateModel {session : Session} (h : Generates settings schema session.now
    session.stamp session.files name result after) :
    (session.perform (generateModel settings schema name)).1 = result := by
  obtain ⟨result', _, hgenerates, hyields⟩ := generateModel_yields settings schema session.now
    session.stamp session.files name
  rw [hyields.perform_fst, (hgenerates.unique h).1]

theorem generateModels_yields (settings : Settings) (schema : SchemaSource)
    {session : Session} {names : List String}
    (hfound : (session.perform (Model.discover settings.modelsPath)).1 = .ok names) :
    ∃ units after,
      Batch settings schema session.now session.stamp session.files names units after ∧
      Yields (generateModels settings schema) session.now session.stamp session.files ⟨units⟩
        after := by
  obtain ⟨answer, hdiscover, -⟩ := Model.discover_yields settings.modelsPath session.files
    session.now session.stamp
  obtain rfl := hdiscover.perform_fst.symm.trans hfound
  obtain ⟨units, after, hbatch, hunits⟩ := mapM_generateModel_yields settings schema session.now
    session.stamp session.files names
  exact ⟨units, after, hbatch, hdiscover.bind (hunits.bind (.pure _ _))⟩

/-- A batch as the program runs it.  It has one unit for each name that is found, in the order of
the names, and every unit ends as it would alone, except that a fault of the output directory may
change its reason where the directory's path leads upwards.  Afterwards every artifact holds the
text of the last unit that wrote it, and all other files hold what they held. -/
theorem generateModels_isolated (settings : Settings) (schema : SchemaSource) (session : Session)
    (hsuffix : '/' ∉ settings.modelSuffix.toList) (htree : session.files.IsTree)
    {names : List String}
    (hfound : (session.perform (Model.discover settings.modelsPath)).1 = .ok names) :
    let units := (session.perform (generateModels settings schema)).1.units
    let after := (session.perform (generateModels settings schema)).2.files
    names.Pairwise (· ≤ ·) ∧ units.map UnitReport.name = names ∧
    (∀ unit ∈ units, SameResult settings unit.result
      (session.perform (generateModel settings schema unit.name)).1) ∧
    (∀ earlier unit later path, units = earlier ++ unit :: later →
      unit.result = .ok (.written path) →
      (∀ other ∈ later, other.result ≠ .ok (.written path)) →
      ∃ declaration,
        (session.perform (modelDeclaration settings schema unit.name)).1 = .ok declaration ∧
        path = settings.artifactPath declaration.name ∧
        after.read path = .ok (declaration.render settings.dialect settings.excludedColumns
          session.stamp).toUTF8.toList) ∧
    (∀ location, (∀ unit ∈ units, ∀ path, unit.result = .ok (.written path) →
      after.locate path ≠ .ok location) →
      after.content? location = session.files.content? location) := by
  obtain ⟨answer, hdiscover, hanswer⟩ := Model.discover_yields settings.modelsPath session.files
    session.now session.stamp
  obtain ⟨hmodels, hsorted, hseparators⟩ :=
    hanswer names (hdiscover.perform_fst.symm.trans hfound)
  obtain ⟨units, after, hbatch, hrun⟩ := generateModels_yields settings schema hfound
  rw [hrun.perform_fst, hrun.perform_snd]
  refine ⟨hsorted, hbatch.names_eq, fun unit hunit => ?_, ?_, hbatch.content?_eq hsuffix⟩
  · obtain ⟨alone, _, halone, hsame⟩ :=
      hbatch.alone hsuffix htree hmodels hseparators .untouched unit hunit
    rwa [perform_generateModel halone]
  · rintro earlier unit later path rfl hwritten hlast
    have hname : unit.name ∈ names := by
      rw [← hbatch.names_eq]
      simp
    obtain ⟨declaration, hdeclaration, hpath, hread⟩ :=
      hbatch.read_of_last hsuffix hmodels (hseparators _ hname) hwritten hlast
    refine ⟨declaration, ?_, hpath, hread⟩
    rw [(modelDeclaration_yields settings schema unit.name session.files _ _).perform_fst]
    exact hdeclaration

/-- With an output directory whose path does not lead upwards, both models end as they would
alone. -/
theorem generateModels_isolated_twoModels :
    (twoModels.perform (generateModels {} idSchema)).1.units.map UnitReport.name = ["A", "B"] ∧
      ∀ unit ∈ (twoModels.perform (generateModels {} idSchema)).1.units,
        unit.result = (twoModels.perform (generateModel {} idSchema unit.name)).1 := by
  obtain ⟨-, hnames, hresults, -⟩ := generateModels_isolated {} idSchema twoModels (by decide)
    isTree_twoModels discover_twoModels
  refine ⟨hnames, fun unit hunit => (hresults unit hunit).resolve_right ?_⟩
  rintro ⟨hupwards, -⟩
  exact absurd hupwards (by decide)

/-- Settings whose output directory is named by way of a directory that is not there. -/
def climbing : Settings where
  outputPath := "new/../taken/types"

/-- The files after the first attempt to make the output directory. -/
def climbed : Files :=
  twoModels.files.create ["new".toList] (.directory 0) 0

theorem creates_climbing :
    Files.Creates 0 twoModels.files climbing.outputPath (.error .occupied) climbed := by
  have hnew : Files.Creates 0 twoModels.files "new" (.ok ()) climbed :=
    .direct (by decide) (.made (by decide) (by decide)) (by simp)
  have hroot : climbed.follow "new/.." (Path.parts "new/..".toList) = .ok [] := by decide
  have hback : Files.Creates 0 twoModels.files "new/.." (.ok ()) climbed :=
    .onward (by decide) (.lost (by decide)) (by decide) hnew (.found hroot rfl)
  have hfile : climbed.follow "new/../taken" (Path.parts "new/../taken".toList) =
      .ok ["taken".toList] := by decide
  have hoccupancy : climbed.occupancy ["taken".toList] = .file [] := by decide
  have htaken : Files.Creates 0 twoModels.files "new/../taken" (.error .occupied) climbed :=
    .onward (by decide) (.lost (by decide)) (by decide) hback
      (.blocked hfile hoccupancy)
  exact .stopped (by decide) (.lost (by decide)) (by decide) htaken

theorem creates_climbed :
    Files.Creates 0 climbed climbing.outputPath (.error .notDirectory) climbed :=
  .direct (by decide) (.lost (by decide)) (by simp)

/-- The results in a batch are not always those alone: the first of two models makes a directory
before it meets the file in the way, and the second one meets the file at once. -/
theorem not_forall_unit_alone : ¬ ∀ (settings : Settings) (schema : SchemaSource)
    (session : Session) (names : List String), '/' ∉ settings.modelSuffix.toList →
    session.files.IsTree →
    (session.perform (Model.discover settings.modelsPath)).1 = .ok names →
    ∀ unit ∈ (session.perform (generateModels settings schema)).1.units,
      unit.result = (session.perform (generateModel settings schema unit.name)).1 := by
  intro hsame
  have hbefore : ∀ name ∈ ["A", "B"],
      (twoModels.files.read (Model.manifestPath "models" name)).toOption = some [] := by decide
  have hafter : ∀ name ∈ ["A", "B"],
      (climbed.read (Model.manifestPath "models" name)).toOption = some [] := by decide
  obtain ⟨_, hA⟩ := declarationIn_twoModels climbing rfl hbefore "A" (by simp)
  obtain ⟨_, hB⟩ := declarationIn_twoModels climbing rfl hafter "B" (by simp)
  obtain ⟨_, hB'⟩ := declarationIn_twoModels climbing rfl hbefore "B" (by simp)
  have hbatch : Batch climbing idSchema 0 "" twoModels.files ["A", "B"] _ climbed :=
    .cons (.homeless hA creates_climbing) (.cons (.homeless hB creates_climbed) (.nil climbed))
  have halone : (twoModels.perform (generateModel climbing idSchema "B")).1 =
      .error (.file climbing.outputPath .occupied) :=
    perform_generateModel (.homeless hB' creates_climbing)
  obtain ⟨units, after, hunits, hrun⟩ :=
    generateModels_yields climbing idSchema discover_twoModels
  obtain rfl := (hunits.unique hbatch).1
  have hunit := hsame climbing idSchema twoModels ["A", "B"] (by decide) isTree_twoModels
    discover_twoModels
  rw [hrun.perform_fst] at hunit
  have hresult := hunit ⟨"B", .error (.file climbing.outputPath .notDirectory)⟩ (by simp)
  rw [halone] at hresult
  simp at hresult

end Generation
end ResponseTypes
