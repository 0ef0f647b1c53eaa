import ResponseTypes.Proofs.ModelBatches
import ResponseTypes.Proofs.PayloadRuns

/-!
# How a unit ends, and what it leaves behind

A unit that is turned off or has nothing to declare ends before the output directory is looked at.
Any other unit puts its declaration out: it sees to it that the output directory is there, then
leaves a fresh artifact alone, or else writes it.

That a fresh artifact is left alone with nothing changed at all is less obvious than the rest, since
the output directory is made before the artifact is looked at.  It holds because in a tree nothing
can be in a directory that has just been made.  Only a path that leads upwards again could lead from
there to something older, so the output directory is to be named without `..`.

## Main definitions

- `Generation.IsSpared`: an artifact that is left as it is.
- `Generation.PutsOut`: how a declaration is put out; `Generation.Concludes`: how a unit ends.

## Main statements

- `Generation.eq_of_find`: an artifact is only there if the output directory was there before.
- `Generation.write_putsOut`: writing a declaration puts it out.
- `Generation.generateValue_outcome`: how the unit of a document ends, when it is fresh, and the
  same for a model.
-/

namespace ResponseTypes

open Session

/-! ## Paths above a path -/

/-- The parts of a path above are some of those of the path. -/
theorem Path.Ancestor.parts_sublist {path above : String} (h : Ancestor path above) :
    (parts above.toList).Sublist (parts path.toList) := by
  induction h with
  | self => exact List.Sublist.refl _
  | parent _ hparent ih =>
    rw [parts_parent hparent]
    exact ((List.dropLast_sublist _).trans (components_sublist _)).trans ih

theorem Path.Ancestor.isAbsolute_eq {path above : String} (h : Ancestor path above) :
    isAbsolute above.toList = isAbsolute path.toList := by
  induction h with
  | self => rfl
  | parent _ hparent ih => rw [isAbsolute_parent hparent, ih]

namespace Files

variable {t : Int} {files after : Files} {path : String} {location : Location}

/-- Without a part that leads upwards, every part leads one further down, unless it says to stay. -/
theorem length_of_walk {start goal : Location} {parts : List (List Char)}
    (hparts : ['.', '.'] ∉ parts) (h : files.walk start parts = .ok goal) :
    goal.length = start.length + (parts.filter (· ≠ ['.'])).length := by
  induction parts generalizing start with
  | nil => exact (Except.ok.inj h) ▸ rfl
  | cons part others ih =>
    obtain ⟨hpart, hothers⟩ := not_or.1 (mt List.mem_cons.2 hparts)
    obtain ⟨next, hstep, hrest⟩ := walk_cons_eq_ok.1 h
    obtain ⟨-, hmove⟩ := step_eq_ok.1 hstep
    rw [ih hothers hrest]
    rw [move, if_neg (Ne.symm hpart)] at hmove
    split_ifs at hmove with hstay
    · obtain rfl := Except.ok.inj hmove
      simp [hstay]
    · obtain rfl := Except.ok.inj hmove
      simp [hstay]
      omega

/-- Where a path above leads is no further down than where the path leads. -/
theorem IsAbove.length_le {folder : String} {directory : Location}
    (hparts : ['.', '.'] ∉ Path.parts folder.toList) (habove : files.IsAbove folder location)
    (hfolder : files.locateFolder folder = .ok directory) :
    location.length ≤ directory.length := by
  obtain ⟨above, hancestor, hlocate⟩ := habove
  have hsublist := hancestor.parts_sublist
  have hfollow := follow_of_locate hlocate
  rw [follow_of_pathFault_none files (pathFault?_of_follow hlocate)] at hfollow
  have horigin : files.origin above = files.origin folder := by
    rw [origin, origin, hancestor.isAbsolute_eq]
  rw [length_of_walk (fun hmem => hparts (hsublist.subset hmem)) hfollow,
    length_of_walk hparts (walk_of_locateFolder hfolder), horigin]
  exact Nat.add_le_add_left (hsublist.filter _).length_le _

theorem find_eq_ok {entry : Entry} : files.find path = .ok entry ↔
    ∃ location, files.locate path = .ok location ∧ files.at? location = some entry := by
  rw [find_eq]
  cases files.locate path with
  | error fault => simp [Except.bind]
  | ok location => cases hentry : files.at? location <;> simp [Except.bind, hentry]

/-- What has been written to a path is read from it. -/
theorem read_of_write {content : Bytes} (h : files.write path content t = .ok after) :
    after.read path = .ok content := by
  obtain ⟨location, hlocate, -, hentry, -⟩ := at?_of_write h
  have hgrown : Growth (fun _ => False) _ _ after := write_growth h
  refine read_eq_ok.2 ⟨location, locate_grown hgrown hlocate, ?_⟩
  rw [occupancy, hentry]
  rfl

end Files

namespace Generation

variable {settings : Settings} {replacement : Replacement} {session : Session}
variable {declaration : Declaration} {files between : Files} {t : Int}

/-! ## Artifacts that are there -/

/-- Where there is an artifact, it is in an output directory that is there. -/
theorem housed_of_find {typeName : String} {entry : Entry}
    (hplain : Files.IsPlain (settings.artifactName typeName).toList)
    (h : files.find (settings.artifactPath typeName) = .ok entry) : Housed settings files := by
  obtain ⟨location, hlocate, -⟩ := Files.find_eq_ok.1 h
  obtain ⟨directory, hfolder, hdirectory, -⟩ := Files.locate_join hplain hlocate
  intro hne
  rw [Files.locateFolder, if_neg hne] at hfolder
  exact Files.isDirectory_iff.2 ⟨directory, hfolder, hdirectory⟩

/-- Once the output directory has been made, there is an artifact only if nothing had to be made. -/
theorem eq_of_find (htree : files.IsTree)
    (hparts : ['.', '.'] ∉ Path.parts settings.outputPath.toList)
    (hcreates : Files.Creates t files settings.outputPath (.ok ()) between)
    {typeName : String} (hplain : Files.IsPlain (settings.artifactName typeName).toList)
    {entry : Entry} (h : between.find (settings.artifactPath typeName) = .ok entry) :
    between = files := by
  have hgrown := hcreates.growth fun _ => False
  obtain ⟨location, hlocate, hentry⟩ := Files.find_eq_ok.1 h
  obtain ⟨directory, hfolder, hdirectory, hlocation⟩ := Files.locate_join hplain hlocate
  have hoccupied : between.occupancy location ≠ .vacant := by
    rw [ne_eq, ← Files.at?_eq_none_iff, hentry]
    simp
  -- what has been made is above the artifact, so the artifact was there before
  have hbefore : files.occupancy location ≠ .vacant := by
    intro hvacant
    have hmade : between.IsAbove settings.outputPath location := by
      by_contra hnot
      exact hoccupied ((hgrown.occupancy_eq hnot id).trans hvacant)
    have hlength := hmade.length_le hparts hfolder
    rw [hlocation, List.length_append, List.length_singleton] at hlength
    omega
  have hpartsArtifact : ['.', '.'] ∉ Path.parts (settings.artifactPath typeName).toList := by
    rw [settings.artifactPath_eq, Files.toList_join, Path.parts_joinChars _ hplain.toIsName,
      List.mem_append, List.mem_singleton]
    rintro (hmem | heq)
    · exact hparts hmem
    · exact hplain.ne_points heq.symm
  have hthere := htree.locate_of_grown hgrown hpartsArtifact hbefore hlocate
  obtain ⟨old, hold⟩ := Option.ne_none_iff_exists'.1 (mt Files.at?_eq_none_iff.1 hbefore)
  have hhoused := housed_of_find hplain (Files.find_eq_ok.2 ⟨location, hthere, hold⟩)
  exact (hcreates.unique (hhoused.creates t)).2

/-- An artifact that is left as it is: only stale ones are to be replaced, and what is at its path,
file or directory, has an age below the window.  What was modified in the future has age zero. -/
def IsSpared (settings : Settings) (replacement : Replacement) (session : Session)
    (declaration : Declaration) : Prop :=
  replacement = .whenStale ∧ ∃ entry,
    session.files.find (settings.artifactPath declaration.name) = .ok entry ∧
      max 0 (session.now - entry.modified) < window settings

/-- An artifact is kept if it is to be spared by the files at hand. -/
theorem isKeptIn_iff {path : String} : isKeptIn settings replacement t files path = true ↔
    replacement = .whenStale ∧ ∃ entry, files.find path = .ok entry ∧
      max 0 (t - entry.modified) < window settings := by
  cases replacement with
  | always => simp [isKeptIn]
  | whenStale =>
    rw [isKeptIn, Files.modified?]
    cases files.find path with
    | error fault => simp [Except.toOption]
    | ok entry =>
      have hyoung : Freshness.isYounger entry.modified (window settings) t = true ↔
          max 0 (t - entry.modified) < window settings := by
        rw [Freshness.isYounger, decide_eq_true_eq, Freshness.age]
      simpa [Except.toOption] using hyoung

/-- Without a window nothing is spared. -/
theorem not_isSpared (h : settings.freshnessSeconds = 0) :
    ¬ IsSpared settings replacement session declaration := by
  rintro ⟨-, entry, -, hage⟩
  rw [window, h] at hage
  omega

/-- With any window at all, what was modified in the future is spared. -/
theorem isSpared_of_future {entry : Entry} (hwindow : 0 < settings.freshnessSeconds)
    (hfind : session.files.find (settings.artifactPath declaration.name) = .ok entry)
    (hfuture : session.now ≤ entry.modified) :
    IsSpared settings .whenStale session declaration := by
  refine ⟨rfl, entry, hfind, ?_⟩
  rw [window, Freshness.second]
  omega

/-! ## Putting a declaration out -/

/-- How a declaration is put out, and the files after it.  A spared artifact leaves all files as
they are.  If the output directory cannot be made, or the artifact cannot be written into it, no
file has another content.  A written artifact holds the text of the declaration, and no other file
has another content. -/
inductive PutsOut (settings : Settings) (replacement : Replacement) (session : Session)
    (declaration : Declaration) : Except Failure Outcome → Files → Prop where
  | fresh : IsSpared settings replacement session declaration →
      PutsOut settings replacement session declaration
        (.ok (.fresh (settings.artifactPath declaration.name))) session.files
  | homeless {fault : FileFault} {after : Files} :
      ¬ IsSpared settings replacement session declaration →
      Files.Creates session.now session.files settings.outputPath (.error fault) after →
      (∀ location, after.content? location = session.files.content? location) →
      PutsOut settings replacement session declaration
        (.error (.file settings.outputPath fault)) after
  | refused {fault : FileFault} {made : Files} :
      ¬ IsSpared settings replacement session declaration →
      Files.Creates session.now session.files settings.outputPath (.ok ()) made →
      made.write (settings.artifactPath declaration.name)
        (content settings declaration session.stamp) session.now = .error fault →
      (∀ location, made.content? location = session.files.content? location) →
      PutsOut settings replacement session declaration
        (.error (.file (settings.artifactPath declaration.name) fault)) made
  | written {made after : Files} : ¬ IsSpared settings replacement session declaration →
      Files.Creates session.now session.files settings.outputPath (.ok ()) made →
      made.write (settings.artifactPath declaration.name)
        (content settings declaration session.stamp) session.now = .ok after →
      after.read (settings.artifactPath declaration.name) =
        .ok (content settings declaration session.stamp) →
      (∀ location, after.locate (settings.artifactPath declaration.name) ≠ .ok location →
        after.content? location = session.files.content? location) →
      PutsOut settings replacement session declaration
        (.ok (.written (settings.artifactPath declaration.name))) after

/-- Writing a declaration puts it out. -/
theorem write_putsOut (htree : session.files.IsTree)
    (hparts : ['.', '.'] ∉ Path.parts settings.outputPath.toList)
    (hplain : Files.IsPlain (settings.artifactName declaration.name).toList)
    {result : Except Failure Outcome} {after : Files}
    (h : Writes settings replacement session.now session.stamp session.files declaration result
      after) :
    PutsOut settings replacement session declaration result after := by
  have hnothing : ¬ False := id
  cases h with
  | homeless hcreates =>
    refine .homeless ?_ hcreates fun _ => (hcreates.growth fun _ => False).content?_eq hnothing
    rintro ⟨-, entry, hfind, -⟩
    cases (hcreates.unique ((housed_of_find hplain hfind).creates session.now)).1
  | @housed between hcreates =>
    by_cases hspared : IsSpared settings replacement session declaration
    · obtain ⟨-, entry, hfind, -⟩ := id hspared
      obtain rfl := (hcreates.unique ((housed_of_find hplain hfind).creates session.now)).2
      rw [place_of_kept (isKeptIn_iff.2 hspared)]
      exact .fresh hspared
    · have hkept : isKeptIn settings replacement session.now between
          (settings.artifactPath declaration.name) = false := by
        rw [Bool.eq_false_iff, ne_eq, isKeptIn_iff]
        rintro ⟨hstale, entry, hfind, hage⟩
        obtain rfl := eq_of_find htree hparts hcreates hplain hfind
        exact hspared ⟨hstale, entry, hfind, hage⟩
      have hbefore : ∀ location, between.content? location = session.files.content? location :=
        fun _ => (hcreates.growth fun _ => False).content?_eq hnothing
      cases hwrite : between.write (settings.artifactPath declaration.name)
          (content settings declaration session.stamp) session.now with
      | error fault =>
        rw [place_of_error hkept hwrite]
        exact .refused hspared hcreates hwrite hbefore
      | ok after =>
        rw [place_of_ok hkept hwrite]
        refine .written hspared hcreates hwrite (Files.read_of_write hwrite)
          fun location hother => ?_
        have hgrown : Files.Growth (fun _ => False) _ _ after := Files.write_growth hwrite
        rw [hgrown.content?_eq hother, hbefore]

/-! ## Documents -/

theorem valueDeclaration_eq_error {name origin : String} {document : Json} {failure : Failure}
    (h : valueDeclaration settings name origin document = .error failure) :
    ∃ defect, Payload.record document = .error defect ∧
      failure = .unsupported origin defect.message := by
  rw [valueDeclaration] at h
  cases hrecord : Payload.record document with
  | error defect =>
    rw [hrecord] at h
    exact ⟨defect, rfl, (Except.error.inj h).symm⟩
  | ok record =>
    rw [hrecord] at h
    cases h

/-- How the unit of a document ends, and the files after it. -/
inductive Concludes (settings : Settings) (replacement : Replacement) (session : Session)
    (name origin : String) (document : Json) : Except Failure Outcome → Files → Prop where
  | disabled : settings.autoGenerate = false →
      Concludes settings replacement session name origin document (.ok .disabled) session.files
  /-- the document has no record, whatever there is on disk -/
  | unsupported {defect : Payload.Defect} : settings.autoGenerate = true →
      Payload.record document = .error defect →
      Concludes settings replacement session name origin document
        (.error (.unsupported origin defect.message)) session.files
  | declared {declaration : Declaration} {result : Except Failure Outcome} {after : Files} :
      settings.autoGenerate = true →
      valueDeclaration settings name origin document = .ok declaration →
      PutsOut settings replacement session declaration result after →
      Concludes settings replacement session name origin document result after

namespace Concludes

variable {name origin : String} {document : Json} {result : Except Failure Outcome} {after : Files}

/-- A unit whose artifact is spared is fresh. -/
theorem eq_fresh (h : Concludes settings replacement session name origin document result after)
    (hauto : settings.autoGenerate = true)
    (hdeclaration : valueDeclaration settings name origin document = .ok declaration)
    (hspared : IsSpared settings replacement session declaration) :
    result = .ok (.fresh (settings.artifactPath declaration.name)) := by
  cases h with
  | disabled hoff =>
    rw [hauto] at hoff
    cases hoff
  | unsupported _ hrecord =>
    rw [valueDeclaration, hrecord] at hdeclaration
    cases hdeclaration
  | declared _ hdeclaration' hputsOut =>
    obtain rfl := Except.ok.inj (hdeclaration.symm.trans hdeclaration')
    cases hputsOut with
    | fresh => rfl
    | homeless hreplaced => exact absurd hspared hreplaced
    | refused hreplaced => exact absurd hspared hreplaced
    | written hreplaced => exact absurd hspared hreplaced

/-- A unit is fresh only if its artifact is spared. -/
theorem isSpared (h : Concludes settings replacement session name origin document result after)
    {path : String} (hfresh : result = .ok (.fresh path)) :
    settings.autoGenerate = true ∧ ∃ declaration,
      valueDeclaration settings name origin document = .ok declaration ∧
        IsSpared settings replacement session declaration := by
  subst hfresh
  cases h with
  | declared hauto hdeclaration hputsOut =>
    cases hputsOut with
    | fresh hspared => exact ⟨hauto, _, hdeclaration, hspared⟩

/-- A unit that is fresh leaves all files as they are. -/
theorem files_eq (h : Concludes settings replacement session name origin document result after)
    {path : String} (hfresh : result = .ok (.fresh path)) : after = session.files := by
  cases h with
  | disabled => rfl
  | unsupported => rfl
  | declared _ _ hputsOut =>
    cases hputsOut with
    | fresh => rfl
    | homeless => cases hfresh
    | refused => cases hfresh
    | written => cases hfresh

end Concludes

/-- The unit of a document concludes. -/
theorem generateValue_concludes (htree : session.files.IsTree)
    (hparts : ['.', '.'] ∉ Path.parts settings.outputPath.toList)
    (hsuffix : Path.separator ∉ settings.valueSuffix.toList) (replacement : Replacement)
    (name origin : String) (document : Json) :
    let run := session.perform (generateValue settings replacement name origin document)
    Concludes settings replacement session name origin document run.1 run.2.files := by
  intro run
  cases hauto : settings.autoGenerate with
  | false =>
    have hyields : Yields (generateValue settings replacement name origin document) session.now
        session.stamp session.files (.ok .disabled) session.files := by
      rw [generateValue, hauto]
      exact .pure _ _
    rw [hyields.perform_fst, hyields.perform_snd]
    exact .disabled hauto
  | true =>
    obtain ⟨result, after, hsettles, hyields⟩ := generateValue_yields hauto replacement
      session.now session.stamp session.files name origin document
    rw [hyields.perform_fst, hyields.perform_snd]
    generalize htask : documentTask settings origin name document = task at hsettles
    cases hsettles with
    | undeclared =>
      obtain ⟨defect, hrecord, rfl⟩ :=
        valueDeclaration_eq_error (Task.mk.inj htask).2
      exact .unsupported hauto hrecord
    | declared hwrites =>
      have hdeclaration := (Task.mk.inj htask).2
      refine .declared hauto hdeclaration (write_putsOut htree hparts ?_ hwrites)
      rw [name_of_valueDeclaration hdeclaration]
      exact settings.isPlain_artifactName (Naming.separator_not_mem_typeName name hsuffix)

/-! ## Models -/

theorem Writes.of_place {date : String} {result : Except Failure Outcome} {after : Files}
    (hcreates : Files.Creates t files settings.outputPath (.ok ()) between)
    (hplace : place settings replacement t date between declaration = (result, after)) :
    Writes settings replacement t date files declaration result after := by
  have hwrites : Writes settings replacement t date files declaration _ _ := .housed hcreates
  rwa [hplace] at hwrites

/-- A model that has something to declare writes it whatever there is. -/
theorem Generates.writes {schema : SchemaSource} {date name : String}
    {result : Except Failure Outcome} {after : Files}
    (h : Generates settings schema t date files name result after) :
    (∃ failure, declarationIn settings schema name files = .error failure ∧
      result = .error failure ∧ after = files) ∨
    ∃ declaration, declarationIn settings schema name files = .ok declaration ∧
      Writes settings .always t date files declaration result after := by
  cases h with
  | undeclared hdeclaration => exact .inl ⟨_, hdeclaration, rfl, rfl⟩
  | homeless hdeclaration hcreates => exact .inr ⟨_, hdeclaration, .homeless hcreates⟩
  | refused hdeclaration hcreates hwrite =>
    exact .inr ⟨_, hdeclaration, .of_place hcreates (place_of_error rfl hwrite)⟩
  | written hdeclaration hcreates hwrite =>
    exact .inr ⟨_, hdeclaration, .of_place hcreates (place_of_ok rfl hwrite)⟩

/-! ## Units -/

/-- How a unit ends and what it leaves behind.  The unit of a document ends in one of five ways:
turned off, without a record, with a fault of the file system, fresh, or written; in the first two
and in the fourth all files are as they were, times included, and in the third no file has another
content.  It is fresh exactly if generation is on, there is something to declare, and the artifact
is spared: never without a window, and always if the artifact was modified in the future.  A model
that has nothing to declare leaves the files alone as well, and any other one is put out without
regard to what there is. -/
theorem generateValue_outcome {settings : Settings} {session : Session}
    (hparts : ['.', '.'] ∉ Path.parts settings.outputPath.toList)
    (hmodel : '/' ∉ settings.modelSuffix.toList) (hvalue : '/' ∉ settings.valueSuffix.toList)
    (htree : session.files.IsTree) (replacement : Replacement) (name origin : String)
    (document : Json) :
    let run := session.perform (generateValue settings replacement name origin document)
    Concludes settings replacement session name origin document run.1 run.2.files ∧
    ((∃ path, run.1 = .ok (.fresh path)) ↔ settings.autoGenerate = true ∧ ∃ declaration,
      valueDeclaration settings name origin document = .ok declaration ∧
        IsSpared settings replacement session declaration) ∧
    (settings.freshnessSeconds = 0 → ∀ path, run.1 ≠ .ok (.fresh path)) ∧
    (0 < settings.freshnessSeconds → replacement = .whenStale → settings.autoGenerate = true →
      ∀ declaration entry, valueDeclaration settings name origin document = .ok declaration →
        session.files.find (settings.artifactPath declaration.name) = .ok entry →
        session.now ≤ entry.modified →
        run.1 = .ok (.fresh (settings.artifactPath declaration.name))) ∧
    ∀ schema model,
      let run := session.perform (generateModel settings schema model)
      (∃ failure, declarationIn settings schema model session.files = .error failure ∧
        run.1 = .error failure ∧ run.2.files = session.files) ∨
      ∃ declaration, declarationIn settings schema model session.files = .ok declaration ∧
        PutsOut settings .always session declaration run.1 run.2.files := by
  intro run
  have hconcludes := generateValue_concludes htree hparts hvalue replacement name origin document
  refine ⟨hconcludes, ⟨?_, ?_⟩, fun hwindow path hfresh => ?_, ?_, fun schema model => ?_⟩
  · rintro ⟨path, hfresh⟩
    exact hconcludes.isSpared hfresh
  · rintro ⟨hauto, declaration, hdeclaration, hspared⟩
    exact ⟨_, hconcludes.eq_fresh hauto hdeclaration hspared⟩
  · obtain ⟨-, declaration, -, hspared⟩ := hconcludes.isSpared hfresh
    exact not_isSpared hwindow hspared
  · rintro hwindow rfl hauto declaration entry hdeclaration hfind hfuture
    exact hconcludes.eq_fresh hauto hdeclaration (isSpared_of_future hwindow hfind hfuture)
  · obtain ⟨result, after, hgenerates, hyields⟩ :=
      generateModel_yields settings schema session.now session.stamp session.files model
    dsimp only
    rw [hyields.perform_fst, hyields.perform_snd]
    refine hgenerates.writes.imp id ?_
    rintro ⟨declaration, hdeclaration, hwrites⟩
    have hplain := isPlain_of_declarationIn hmodel hdeclaration
    exact ⟨declaration, hdeclaration, write_putsOut htree hparts hplain hwrites⟩

/-- An output directory in which a directory from the future is in the artifact's place. -/
def futureDirectory : Session where
  files := {
    entries :=
      [(["types".toList], .directory 0), (["types".toList, "UserType.ts".toList], .directory 9)]
    home := [] }
  now := 5
  stamp := "1970-01-01 00:00:00"

theorem isTree_futureDirectory : futureDirectory.files.IsTree :=
  Files.isTree_of_entries (by decide)

/-- Even a directory is fresh in the place of an artifact, and nothing is changed. -/
theorem generateValue_outcome_futureDirectory :
    let run := futureDirectory.perform
      (generateValue {} .whenStale "user" "user.json" (.object []))
    run.1 = .ok (.fresh "types/UserType.ts") ∧ run.2.files = futureDirectory.files := by
  intro run
  obtain ⟨hconcludes, -, -, hfuture, -⟩ := @generateValue_outcome {} futureDirectory (by decide)
    (by decide) (by decide) isTree_futureDirectory .whenStale "user" "user.json" (.object [])
  have hfresh : run.1 = .ok (.fresh "types/UserType.ts") :=
    hfuture (by decide) rfl rfl ⟨"UserType", [], some "user.json"⟩ (.directory 9) (by decide)
      (by decide) (by decide)
  exact ⟨hfresh, hconcludes.files_eq hfresh⟩

end Generation
end ResponseTypes
