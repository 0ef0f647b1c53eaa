import ResponseTypes.Proofs.NumberedNames
import ResponseTypes.Proofs.UntouchedOutput

/-!
# The units of one payload

A payload with several documents has a unit for each of them.  Their types have different names, so
their artifacts are different files of the output directory, and what a unit writes is nothing that
another one looks at.

The units share the output directory.  The first unit with something to declare makes it, while no
file has been written yet; either it cannot be made, and then no unit gets to its artifact, or it is
there for all of them.  From then on a unit changes its own artifact and the time of the output
directory, and nothing else.  So an artifact that is found fresh was there, with the same time,
before any unit wrote a file.

The clock goes on during the run, and nothing is asked of it.

## Main definitions

- `Chronicle.Opens`: an attempt to make the output directory, at some time.
- `Chronicle.Furnished`: the files before any unit has written one.
- `Chronicle.Puts`, `Chronicle.Passes`: what becomes of a unit, and of units one after the other.

## Main statements

- `Chronicle.Passes.furnished`: the output directory is made before everything else.
- `Chronicle.Passes.at?_eq`: units leave the artifacts of others as they are.
- `Chronicle.generatePayload_numbered`: the units of a payload with several documents.
-/

namespace ResponseTypes
namespace Chronicle

open Generation

variable {settings : Settings} {replacement : Replacement} {dates : Nat → String}
variable {files made after : Files} {before between : Chronicle}

/-! ## The output directory -/

/-- An attempt to make the output directory, at some time. -/
def Opens (settings : Settings) (files : Files) (result : Except Failure Unit) (after : Files) :
    Prop :=
  ∃ before later : Chronicle, before.files = files ∧ later.files = after ∧
    Gives (ensureOutput settings) before result later

/-- The files before any unit has written one: as they were, or with the output directory made. -/
def Furnished (settings : Settings) (files made : Files) : Prop :=
  made = files ∨ Opens settings files (.ok ()) made

theorem opens_of_housed (h : Housed settings files) : Opens settings files (.ok ()) files := by
  obtain ⟨later, hgives, hfiles⟩ : ∃ later, Gives (ensureOutput settings)
      { files, clock := fun _ => 0, dates := fun _ => "" } (.ok ()) later ∧ later.files = files :=
    gives_of_housed h
  exact ⟨_, later, rfl, hfiles, hgives⟩

namespace Opens

variable {result : Except Failure Unit}

theorem housed (h : Opens settings files (.ok ()) made) : Housed settings made := by
  obtain ⟨before, later, -, rfl, hgives⟩ := h
  exact housed_of_ok hgives

theorem hopeless {failure : Failure} (h : Opens settings files (.error failure) made) :
    Hopeless settings made := by
  obtain ⟨before, later, -, rfl, hgives⟩ := h
  exact hopeless_of_error hgives

/-- Where the output directory is, it need not be made. -/
theorem of_housed (hhoused : Housed settings files) (h : Opens settings files result made) :
    result = .ok () ∧ made = files := by
  obtain ⟨before, later, rfl, rfl, hgives⟩ := h
  obtain ⟨last, hstill, hfiles⟩ := gives_of_housed hhoused
  obtain ⟨rfl, rfl⟩ := hgives.unique hstill
  exact ⟨rfl, hfiles⟩

/-- Where the output directory could not be made, it cannot be made later. -/
theorem of_hopeless (hhopeless : Hopeless settings files) (h : Opens settings files result made) :
    (∃ failure, result = .error failure) ∧ made = files := by
  obtain ⟨before, later, rfl, rfl, hgives⟩ := h
  obtain ⟨failure, last, hstill, hfiles⟩ := hhopeless.gives
  obtain ⟨rfl, rfl⟩ := hgives.unique hstill
  exact ⟨⟨failure, rfl⟩, hfiles⟩

end Opens

/-- Making directories moves the times of directories alone. -/
theorem Furnished.file_iff (htree : files.IsTree) (h : Furnished settings files made)
    (location : Location) (content : Bytes) (time : Int) :
    made.at? location = some (.file content time) ↔
      files.at? location = some (.file content time) := by
  rcases h with rfl | ⟨before, later, rfl, rfl, hgives⟩
  · exact Iff.rfl
  refine (Keeps.of_gives (I := fun chronicle => chronicle.files.IsTree ∧
    (chronicle.files.at? location = some (.file content time) ↔
      before.files.at? location = some (.file content time)))
    (Keeps.ensureOutput (fun _ => id) ?_ settings) hgives ⟨htree, Iff.rfl⟩).2
  rintro chronicle path files ⟨htree, hfile⟩ hmake
  refine ⟨htree.makeDirectory hmake, Iff.trans ?_ hfile⟩
  obtain ⟨target, hfollow, hvacant, rfl⟩ := Files.makeDirectory_eq_ok hmake
  have hroot := Files.ne_root_of_vacant hvacant
  by_cases htarget : location = target
  · subst htarget
    rw [Files.create, Files.at?_put_self _ _ hroot, Files.at?_eq_none_iff.2 hvacant]
    simp
  · rw [Files.create, Files.at?_put_of_ne _ _ htarget]
    rcases Files.at?_touch chronicle.files target.dropLast chronicle.now location with
      hsame | ⟨rfl, htouched⟩
    · rw [hsame]
    · -- what is around a new directory is a directory itself, before and after
      have hfree : chronicle.files.occupancy target ≠ .directory := by rw [hvacant]; simp
      rw [← List.append_nil (Path.parts path.toList)] at hfollow
      have hfolder := htree.folder_of_follow hfollow hfree
      rw [htouched]
      rw [Files.occupancy] at hfolder
      cases hentry : chronicle.files.at? target.dropLast with
      | none => simp
      | some entry =>
        rw [hentry] at hfolder
        cases entry with
        | directory => simp [Entry.modifiedAt]
        | file => cases hfolder

/-! ## What becomes of a unit -/

/-- The artifact of a unit. -/
def artifactOf (settings : Settings) (name : String) : String :=
  settings.artifactPath (Naming.typeName name settings.valueSuffix)

/-- The artifact that a result is about, if it has come to that. -/
def artifact? : Except Failure Outcome → Option String
  | .ok (.written path) => some path
  | .ok (.fresh path) => some path
  | _ => none

/-- What becomes of a unit, and the files after it. -/
inductive Puts (settings : Settings) (dates : Nat → String) (files : Files) : Step → Files → Prop
  /-- there is nothing to declare -/
  | idle {task : Task} {result : Except Failure Outcome} : artifact? result = none →
      Puts settings dates files ⟨task, result⟩ files
  /-- the output directory cannot be made -/
  | homeless {task : Task} {failure : Failure} {after : Files} :
      Opens settings files (.error failure) after →
      Puts settings dates files ⟨task, .error failure⟩ after
  /-- the artifact cannot be written -/
  | refused {task : Task} {failure : Failure} {after : Files} :
      Opens settings files (.ok ()) after →
      Puts settings dates files ⟨task, .error failure⟩ after
  | fresh {name : String} {declaration : Declaration} {after : Files} {time : Int} :
      Opens settings files (.ok ()) after →
      after.modified? (settings.artifactPath declaration.name) = some time →
      Puts settings dates files
        ⟨⟨name, .ok declaration⟩, .ok (.fresh (settings.artifactPath declaration.name))⟩ after
  | written {name : String} {declaration : Declaration} {made after : Files} {moment : Nat}
      {time : Int} : Opens settings files (.ok ()) made →
      made.write (settings.artifactPath declaration.name)
        (content settings declaration (dates moment)) time = .ok after →
      Puts settings dates files
        ⟨⟨name, .ok declaration⟩, .ok (.written (settings.artifactPath declaration.name))⟩ after

/-- Units one after the other. -/
inductive Passes (settings : Settings) (dates : Nat → String) : Files → List Step → Files → Prop
  | nil (files : Files) : Passes settings dates files [] files
  | cons {files between after : Files} {step : Step} {steps : List Step} :
      Puts settings dates files step between → Passes settings dates between steps after →
      Passes settings dates files (step :: steps) after

/-- The question whether an artifact is kept takes time, and it is only kept if it is there. -/
theorem isKept_asks (settings : Settings) (replacement : Replacement) (before : Chronicle)
    (path : String) : ∃ kept after, Elapses before after ∧
      Gives (isKept settings replacement path) before kept after ∧
      (kept = true → ∃ time, before.files.modified? path = some time) := by
  cases replacement with
  | always => exact ⟨false, before, .refl before, .pure _ _, fun h => nomatch h⟩
  | whenStale =>
    obtain ⟨-, after, helapses, -, -, ⟨time, hgives, htime, -⟩ | ⟨hgives, -⟩⟩ :=
      isKept_gives settings before path
    · exact ⟨true, after, helapses, hgives, fun _ => ⟨time, htime⟩⟩
    · exact ⟨false, after, helapses, hgives, fun h => nomatch h⟩

/-- Writing a declaration is what the program does for a unit that has one. -/
theorem write_puts (settings : Settings) (replacement : Replacement) (name : String)
    (declaration : Declaration) (before : Chronicle) :
    ∃ result after, Gives (write settings replacement declaration) before result after ∧
      after.dates = before.dates ∧
      Puts settings before.dates before.files ⟨⟨name, .ok declaration⟩, result⟩ after.files := by
  obtain ⟨result, between, hensure⟩ : ∃ result between,
      Gives (ensureOutput settings) before result between := ⟨_, _, rfl⟩
  have hdates := (ensureOutput_passes hensure).2.1
  have hopens : Opens settings before.files result between.files := ⟨_, _, rfl, rfl, hensure⟩
  cases result with
  | error failure => exact ⟨_, between, hensure.bind (.pure _ _), hdates, .homeless hopens⟩
  | ok _ =>
    obtain ⟨kept, asked, helapses, hkept, hthere⟩ :=
      isKept_asks settings replacement between (settings.artifactPath declaration.name)
    rw [← hdates]
    rw [← helapses.files] at hopens
    cases kept with
    | true =>
      obtain ⟨time, htime⟩ := hthere rfl
      rw [← helapses.files] at htime
      exact ⟨_, asked.next, hensure.bind (hkept.bind ((Gives.report _ _).bind (.pure _ _))),
        helapses.dates, .fresh hopens htime⟩
    | false =>
      have hstamp : Gives Host.stamp asked (between.dates asked.moment) asked.next := by
        rw [← helapses.dates]
        exact .stamp asked
      cases hwrite : asked.next.files.write (settings.artifactPath declaration.name)
          (content settings declaration (between.dates asked.moment)) asked.next.now with
      | error fault =>
        exact ⟨_, asked.next.next, hensure.bind (hkept.bind
          (hstamp.bind ((Gives.write_error hwrite).bind (.pure _ _)))), helapses.dates,
          .refused hopens⟩
      | ok files =>
        exact ⟨_, _, hensure.bind (hkept.bind (hstamp.bind ((Gives.write_ok hwrite).bind
          ((Gives.report _ _).bind (.pure _ _))))), helapses.dates, .written hopens hwrite⟩

/-- Working on a document is what the program does for its unit. -/
theorem generateValue_puts (settings : Settings) (replacement : Replacement)
    (name path : String) (document : Json) (before : Chronicle) :
    ∃ result after, Gives (generateValue settings replacement name path document) before result
        after ∧ after.dates = before.dates ∧
      Puts settings before.dates before.files ⟨documentTask settings path name document, result⟩
        after.files := by
  rw [generateValue, documentTask]
  cases settings.autoGenerate with
  | false => exact ⟨_, before, .pure _ _, rfl, .idle rfl⟩
  | true =>
    cases valueDeclaration settings name path document with
    | error failure => exact ⟨_, before, .pure _ _, rfl, .idle rfl⟩
    | ok declaration => exact write_puts settings replacement name declaration before

/-- Working on documents one after the other. -/
theorem mapM_passes {α : Type} {task : α → Task} {action : α → StateM Chronicle UnitReport}
    (h : ∀ item before, ∃ result after,
      Gives (action item) before ⟨(task item).name, result⟩ after ∧ after.dates = before.dates ∧
      Puts settings before.dates before.files ⟨task item, result⟩ after.files)
    (items : List α) (before : Chronicle) :
    ∃ steps after, Gives (items.mapM action) before (steps.map Step.report) after ∧
      steps.map Step.toTask = items.map task ∧
      Passes settings before.dates before.files steps after.files := by
  induction items generalizing before with
  | nil => exact ⟨[], before, by rw [List.mapM_nil]; exact .pure _ _, rfl, .nil _⟩
  | cons item items ih =>
    obtain ⟨result, between, hgives, hdates, hputs⟩ := h item before
    obtain ⟨steps, after, hrest, htasks, hpasses⟩ := ih between
    rw [hdates] at hpasses
    refine ⟨⟨task item, result⟩ :: steps, after, ?_, ?_, .cons hputs hpasses⟩
    · rw [List.mapM_cons]
      exact hgives.bind (hrest.bind (.pure _ _))
    · rw [List.map_cons, htasks]
      rfl

/-- A payload with several documents has a unit for each of them. -/
theorem generatePayload_passes (settings : Settings) (filter? : Option String)
    (replacement : Replacement) (path : String) (before loaded : Chronicle) {documents : List Json}
    (hload : Gives (Payload.load path filter?) before (.ok (.ok documents)) loaded)
    (hseveral : 2 ≤ documents.length) :
    ∃ steps after, Gives (generatePayload settings filter? replacement path) before
        (.ok ⟨steps.map Step.report⟩) after ∧
      steps.map Step.toTask = numberedTasks settings path documents ∧
      Passes settings before.dates before.files steps after.files := by
  obtain ⟨_, last, helapses, -, -, hlast⟩ := load_gives path filter? before
  obtain ⟨-, rfl⟩ := hlast.unique hload
  obtain ⟨steps, after, hgives, htasks, hpasses⟩ := mapM_passes
    (fun (item : Json × Nat) before =>
      (generateValue_puts settings replacement (unitName path ++ "." ++ toString (item.2 + 1)) path
        item.1 before).imp fun _ => Exists.imp fun _ h => ⟨h.1.bind (.pure _ _), h.2⟩)
    documents.zipIdx last.next
  have hnumbered : Gives (generateNumbered settings replacement (unitName path) path documents)
      last.next ⟨steps.map Step.report⟩ after := hgives.bind (.pure _ _)
  refine ⟨steps, after, ?_, htasks, ?_⟩
  · match documents, hseveral with
    | _ :: _ :: _, _ =>
      exact hload.bind ((Gives.report _ _).bind (hnumbered.bind (.pure _ _)))
  · rw [← helapses.files, ← helapses.dates]
    exact hpasses

/-! ## Units one after the other -/

section

variable {step : Step} {steps : List Step} {path : String} {location : Location}

theorem Puts.of_hopeless (hhopeless : Hopeless settings files)
    (h : Puts settings dates files step after) : artifact? step.result = none ∧ after = files := by
  cases h with
  | idle hnone => exact ⟨hnone, rfl⟩
  | homeless hopens => exact ⟨rfl, (hopens.of_hopeless hhopeless).2⟩
  | refused hopens => exact nomatch (hopens.of_hopeless hhopeless).1
  | fresh hopens => exact nomatch (hopens.of_hopeless hhopeless).1
  | written hopens => exact nomatch (hopens.of_hopeless hhopeless).1

theorem Passes.of_hopeless (hhopeless : Hopeless settings files)
    (h : Passes settings dates files steps after) :
    ∀ step ∈ steps, artifact? step.result = none := by
  induction h with
  | nil => exact fun _ hstep => absurd hstep List.not_mem_nil
  | cons hputs _ ih =>
    obtain ⟨hnone, rfl⟩ := hputs.of_hopeless hhopeless
    exact List.forall_mem_cons.2 ⟨hnone, ih hhopeless⟩

/-- No unit gets to its artifact, or the output directory is made before everything else. -/
theorem Passes.furnished (h : Passes settings dates files steps after) :
    (∀ step ∈ steps, artifact? step.result = none) ∨
      ∃ made, Furnished settings files made ∧ Housed settings made ∧
        Passes settings dates made steps after := by
  induction h with
  | nil => exact .inl fun _ hstep => absurd hstep List.not_mem_nil
  | cons hputs hpasses ih =>
    cases hputs with
    | idle hnone =>
      rcases ih with hothers | ⟨made, hfurnished, hhoused, hothers⟩
      · exact .inl (List.forall_mem_cons.2 ⟨hnone, hothers⟩)
      · exact .inr ⟨made, hfurnished, hhoused, .cons (.idle hnone) hothers⟩
    | homeless hopens =>
      exact .inl (List.forall_mem_cons.2 ⟨rfl, hpasses.of_hopeless hopens.hopeless⟩)
    | refused hopens =>
      exact .inr ⟨_, .inr hopens, hopens.housed,
        .cons (.refused (opens_of_housed hopens.housed)) hpasses⟩
    | fresh hopens htime =>
      exact .inr ⟨_, .inr hopens, hopens.housed,
        .cons (.fresh (opens_of_housed hopens.housed) htime) hpasses⟩
    | written hopens hwrite =>
      exact .inr ⟨_, .inr hopens, hopens.housed,
        .cons (.written (opens_of_housed hopens.housed) hwrite) hpasses⟩

/-- In an output directory that is there, a unit changes nothing but the file that it writes and the
time of the directory. -/
theorem Puts.of_housed (hhoused : Housed settings files)
    (h : Puts settings dates files step after) :
    Files.Growth (fun _ => False) (Wrote [step] after) files after ∧
      Files.Spares (Wrote [step] after) files after := by
  cases h with
  | idle => exact ⟨.refl _, .refl _⟩
  | homeless hopens => exact nomatch (hopens.of_housed hhoused).1
  | refused hopens =>
    obtain ⟨-, rfl⟩ := hopens.of_housed hhoused
    exact ⟨.refl _, .refl _⟩
  | fresh hopens =>
    obtain ⟨-, rfl⟩ := hopens.of_housed hhoused
    exact ⟨.refl _, .refl _⟩
  | written hopens hwrite =>
    obtain ⟨-, rfl⟩ := hopens.of_housed hhoused
    have hgrown : Files.Growth (fun _ => False) _ _ _ := Files.write_growth hwrite
    refine ⟨hgrown.mono (fun _ => id) fun _ hlocate => ?_,
      (Files.spares_of_write hwrite).mono fun _ hlocate => ?_⟩
    · exact ⟨_, List.mem_singleton_self _, _, rfl, hlocate⟩
    · exact ⟨_, List.mem_singleton_self _, _, rfl, Files.locate_grown hgrown hlocate⟩

theorem Passes.of_housed (hhoused : Housed settings files)
    (h : Passes settings dates files steps after) :
    Files.Growth (fun _ => False) (Wrote steps after) files after ∧
      Files.Spares (Wrote steps after) files after := by
  induction h with
  | nil => exact ⟨.refl _, .refl _⟩
  | cons hputs _ ih =>
    obtain ⟨hgrown, hspared⟩ := hputs.of_housed hhoused
    obtain ⟨hrest, hothers⟩ := ih (hhoused.grown hgrown)
    exact ⟨.trans (hgrown.mono (fun _ => id) fun _ hwrote => hwrote.of_head hrest)
        (hrest.mono (fun _ => id) fun _ hwrote => hwrote.of_tail),
      .trans (hspared.mono fun _ hwrote => hwrote.of_head hrest)
        (hothers.mono fun _ hwrote => hwrote.of_tail)⟩

/-- Units one after the other can be cut at any of them. -/
theorem Passes.split_at (hhoused : Housed settings files) {earlier later : List Step}
    (h : Passes settings dates files (earlier ++ step :: later) after) :
    ∃ before next, Passes settings dates files earlier before ∧ Housed settings before ∧
      Puts settings dates before step next ∧ Housed settings next ∧
      Passes settings dates next later after := by
  induction earlier generalizing files with
  | nil =>
    cases h with
    | cons hputs hlater =>
      exact ⟨files, _, .nil files, hhoused, hputs, hhoused.grown (hputs.of_housed hhoused).1,
        hlater⟩
  | cons first earlier ih =>
    cases h with
    | cons hputs hpasses =>
      obtain ⟨before, next, hearlier, hrest⟩ :=
        ih (hhoused.grown (hputs.of_housed hhoused).1) hpasses
      exact ⟨before, next, .cons hputs hearlier, hrest⟩

/-! ## Artifacts of one's own -/

/-- Units that declare types of their own names. -/
def Named (settings : Settings) (steps : List Step) : Prop :=
  ∀ step ∈ steps, ∀ declaration, step.declaration = .ok declaration →
    declaration.name = Naming.typeName step.name settings.valueSuffix

/-- What comes of a unit is about its own artifact. -/
theorem Puts.path_eq (hnamed : Named settings [step]) (h : Puts settings dates files step after)
    (hpath : artifact? step.result = some path) : path = artifactOf settings step.name := by
  have hown : ∀ {declaration : Declaration}, step.declaration = .ok declaration →
      settings.artifactPath declaration.name = artifactOf settings step.name := fun hdeclared =>
    congrArg settings.artifactPath (hnamed step (List.mem_singleton_self _) _ hdeclared)
  cases h with
  | idle hnone => exact nomatch hnone.symm.trans hpath
  | homeless => cases hpath
  | refused => cases hpath
  | fresh => exact (Option.some.inj hpath).symm.trans (hown rfl)
  | written => exact (Option.some.inj hpath).symm.trans (hown rfl)

theorem Passes.path_eq (hnamed : Named settings steps) (h : Passes settings dates files steps after)
    (hstep : step ∈ steps) (hpath : artifact? step.result = some path) :
    path = artifactOf settings step.name := by
  induction h with
  | nil => exact absurd hstep List.not_mem_nil
  | cons hputs _ ih =>
    rcases List.mem_cons.1 hstep with rfl | hstep
    · refine hputs.path_eq (fun _ hmem => hnamed _ ?_) hpath
      exact List.mem_cons.2 (.inl (List.mem_singleton.1 hmem))
    · exact ih (fun _ hmem => hnamed _ (List.mem_cons_of_mem _ hmem)) hstep

/-- Units with other artifacts leave an artifact as it is, its time included. -/
theorem Passes.at?_eq (hsuffix : Path.separator ∉ settings.valueSuffix.toList)
    (hhoused : Housed settings made) (h : Passes settings dates made steps after)
    (hnamed : Named settings steps) {name : String}
    (hother : ∀ step ∈ steps, artifactOf settings step.name ≠ artifactOf settings name)
    (hlocate : after.locate (artifactOf settings name) = .ok location) :
    after.at? location = made.at? location := by
  have hplain : ∀ name : String,
      Files.IsPlain (settings.artifactName (Naming.typeName name settings.valueSuffix)).toList :=
    fun name => settings.isPlain_artifactName (Naming.separator_not_mem_typeName name hsuffix)
  have hwrote : ∀ {other : Location}, Wrote steps after other →
      ∃ step ∈ steps, after.locate (artifactOf settings step.name) = .ok other := by
    rintro other ⟨step, hstep, path, hwritten, hthere⟩
    refine ⟨step, hstep, ?_⟩
    rwa [← h.path_eq hnamed hstep (congrArg artifact? hwritten)]
  refine (h.of_housed hhoused).2 location (fun hwritten => ?_) fun last hinside => ?_
  · obtain ⟨step, hstep, hthere⟩ := hwrote hwritten
    exact hother step hstep (artifactPath_eq_of_locate (hplain _) (hplain _) hthere hlocate)
  · -- artifacts are beside each other, so that none is in a directory that is one itself
    obtain ⟨step, -, hthere⟩ := hwrote hinside
    exact not_isArtifact_append (isArtifact_of_locate ⟨.inr rfl, hsuffix⟩ hlocate) last
      (isArtifact_of_locate ⟨.inr rfl, hsuffix⟩ hthere)

/-- Units that declare types of their own names, each with an artifact of its own. -/
structure Separate (settings : Settings) (steps : List Step) : Prop where
  named : Named settings steps
  artifacts : (steps.map fun step => artifactOf settings step.name).Nodup

/-- No other unit has the same artifact. -/
theorem Separate.ne {earlier later : List Step}
    (h : Separate settings (earlier ++ step :: later)) :
    ∀ other ∈ earlier ++ later, artifactOf settings other.name ≠ artifactOf settings step.name := by
  have hnodup := h.artifacts
  rw [List.map_append, List.map_cons, List.nodup_middle, ← List.map_append, List.nodup_cons]
    at hnodup
  intro other hother heq
  exact hnodup.1 (List.mem_map.2 ⟨other, hother, heq⟩)

/-- In the end, an artifact is as its unit has left it. -/
theorem Passes.at?_eq_of_later (hsuffix : Path.separator ∉ settings.valueSuffix.toList)
    (hhoused : Housed settings made) {earlier later : List Step}
    (h : Passes settings dates made later after)
    (hseparate : Separate settings (earlier ++ step :: later))
    (hlocate : made.locate (artifactOf settings step.name) = .ok location) :
    after.locate (artifactOf settings step.name) = .ok location ∧
      after.at? location = made.at? location := by
  have hthere := Files.locate_grown (h.of_housed hhoused).1 hlocate
  refine ⟨hthere, h.at?_eq hsuffix hhoused (fun _ hmem => hseparate.named _ ?_) (fun _ hmem => ?_)
    hthere⟩
  · exact List.mem_append_right _ (List.mem_cons_of_mem _ hmem)
  · exact hseparate.ne _ (List.mem_append_right _ hmem)

/-- An artifact that a unit finds fresh was there before any unit has written, with the same time,
and it is there in the end. -/
theorem Passes.fresh (hsuffix : Path.separator ∉ settings.valueSuffix.toList)
    (hhoused : Housed settings made) (h : Passes settings dates made steps after)
    (hseparate : Separate settings steps) (hstep : step ∈ steps)
    (hfresh : step.result = .ok (.fresh path)) : ∃ location entry,
      after.locate path = .ok location ∧ made.at? location = some entry ∧
        after.at? location = some entry := by
  have hpath := h.path_eq hseparate.named hstep (congrArg artifact? hfresh)
  obtain ⟨earlier, later, rfl⟩ := List.append_of_mem hstep
  obtain ⟨before, next, hearlier, hbefore, hputs, hnext, hlater⟩ := h.split_at hhoused
  obtain ⟨rfl, time, htime⟩ : next = before ∧ ∃ time, before.modified? path = some time := by
    cases hputs with
    | idle hnone => exact nomatch hnone.symm.trans (congrArg artifact? hfresh)
    | fresh hopens htime =>
      obtain ⟨-, rfl⟩ := hopens.of_housed hbefore
      obtain rfl := Outcome.fresh.inj (Except.ok.inj hfresh)
      exact ⟨rfl, _, htime⟩
    | _ => cases hfresh
  obtain ⟨location, entry, hlocate, hentry, -⟩ := Files.modified?_eq_some htime
  rw [hpath] at hlocate ⊢
  obtain ⟨hthere, hlast⟩ := hlater.at?_eq_of_later hsuffix hnext hseparate hlocate
  have hfirst := hearlier.at?_eq hsuffix hhoused
    (fun _ hmem => hseparate.named _ (List.mem_append_left _ hmem))
    (fun _ hmem => hseparate.ne _ (List.mem_append_left _ hmem)) hlocate
  exact ⟨location, entry, hthere, hfirst ▸ hentry, hlast.trans hentry⟩

/-- An artifact that a unit writes holds the declaration of this unit in the end. -/
theorem Passes.written (hsuffix : Path.separator ∉ settings.valueSuffix.toList)
    (hhoused : Housed settings made) (h : Passes settings dates made steps after)
    (hseparate : Separate settings steps) (hstep : step ∈ steps)
    (hwritten : step.result = .ok (.written path)) : ∃ declaration moment,
      step.declaration = .ok declaration ∧
        after.read path = .ok (content settings declaration (dates moment)) := by
  have hpath := h.path_eq hseparate.named hstep (congrArg artifact? hwritten)
  obtain ⟨earlier, later, rfl⟩ := List.append_of_mem hstep
  obtain ⟨before, next, hearlier, hbefore, hputs, hnext, hlater⟩ := h.split_at hhoused
  obtain ⟨declaration, moment, time, hdeclared, hwrite⟩ : ∃ declaration moment time,
      step.declaration = .ok declaration ∧
        before.write path (content settings declaration (dates moment)) time = .ok next := by
    cases hputs with
    | idle hnone => exact nomatch hnone.symm.trans (congrArg artifact? hwritten)
    | written hopens hwrite =>
      obtain ⟨-, rfl⟩ := hopens.of_housed hbefore
      obtain rfl := Outcome.written.inj (Except.ok.inj hwritten)
      exact ⟨_, _, _, rfl, hwrite⟩
    | _ => cases hwritten
  obtain ⟨location, hlocate, -, hentry, -⟩ := Files.at?_of_write hwrite
  have hthere := Files.locate_grown (hputs.of_housed hbefore).1 hlocate
  rw [hpath] at hthere ⊢
  obtain ⟨hlocate, hlast⟩ := hlater.at?_eq_of_later hsuffix hnext hseparate hthere
  refine ⟨declaration, moment, hdeclared, Files.read_eq_ok.2 ⟨location, hlocate, ?_⟩⟩
  rw [Files.occupancy, hlast, hentry]
  rfl

end

/-! ## The units of a payload -/

/-- The name of a unit that is one of several. -/
def numberedName (path : String) (i : Nat) : String :=
  unitName path ++ "." ++ toString (i + 1)

theorem names_numberedTasks (settings : Settings) (path : String) (documents : List Json) :
    (numberedTasks settings path documents).map Task.name =
      (List.range documents.length).map (numberedName path) := by
  rw [numberedTasks, List.map_map, List.range_eq_range', ← List.zipIdx_map_snd 0 documents,
    List.map_map]
  rfl

/-- Types with the same artifact have the same name. -/
theorem typeName_eq_of_artifactOf (hsuffix : Path.separator ∉ settings.valueSuffix.toList)
    {name name' : String} (h : artifactOf settings name = artifactOf settings name') :
    Naming.typeName name settings.valueSuffix = Naming.typeName name' settings.valueSuffix := by
  have hname : ∀ name : String, Path.IsName
      (settings.artifactName (Naming.typeName name settings.valueSuffix)).toList := fun name =>
    (settings.isPlain_artifactName (Naming.separator_not_mem_typeName name hsuffix)).toIsName
  have hparts := congrArg (fun path : String => Path.parts path.toList) h
  simp only [artifactOf, Settings.artifactPath_eq, Path.join, String.toList_ofList] at hparts
  rw [Path.parts_joinChars _ (hname name), Path.parts_joinChars _ (hname name'),
    List.append_cancel_left_eq, List.singleton_inj, Settings.toList_artifactName,
    Settings.toList_artifactName, List.append_cancel_right_eq] at hparts
  exact String.toList_inj.1 hparts

/-- The units of a payload have artifacts of their own. -/
theorem nodup_artifacts (hsuffix : Path.separator ∉ settings.valueSuffix.toList) (path : String)
    (count : Nat) :
    (((List.range count).map (numberedName path)).map (artifactOf settings)).Nodup := by
  rw [List.map_map]
  refine List.Nodup.map (fun i j heq => ?_) List.nodup_range
  exact Nat.succ.inj (Naming.typeName_numbered_injective (unitName path) settings.valueSuffix
    (typeName_eq_of_artifactOf hsuffix heq))

/-- The task of a unit that is one of several is that of its document. -/
theorem exists_document {path : String} {documents : List Json} {steps : List Step} {step : Step}
    (htasks : steps.map Step.toTask = numberedTasks settings path documents)
    (hstep : step ∈ steps) : ∃ i document, documents[i]? = some document ∧
      step.name = numberedName path i ∧
      step.declaration = valueDeclaration settings step.name path document := by
  have htask : step.toTask ∈ numberedTasks settings path documents := by
    rw [← htasks]
    exact List.mem_map_of_mem hstep
  obtain ⟨⟨document, i⟩, hitem, heq⟩ := List.mem_map.1 htask
  refine ⟨i, document, List.mk_mem_zipIdx_iff_getElem?.1 hitem, ?_, ?_⟩
  · rw [← heq]
    rfl
  · rw [← heq]
    rfl

theorem separate_of_numberedTasks (hsuffix : Path.separator ∉ settings.valueSuffix.toList)
    {path : String} {documents : List Json} {steps : List Step}
    (htasks : steps.map Step.toTask = numberedTasks settings path documents) :
    Separate settings steps := by
  have hnames : steps.map (·.name) = (List.range documents.length).map (numberedName path) := by
    rw [← names_numberedTasks settings, ← htasks, List.map_map]
    rfl
  refine ⟨fun step hstep declaration hdeclared => ?_, ?_⟩
  · obtain ⟨_, _, -, -, htask⟩ := exists_document htasks hstep
    exact name_of_valueDeclaration (htask.symm.trans hdeclared)
  · have hartifacts := nodup_artifacts hsuffix path documents.length
    rw [← hnames, List.map_map] at hartifacts
    exact hartifacts

/-- Types that are named after one payload and different numerals have different names.  So a
payload with several documents has a unit for each of them, in order, and each unit has an artifact
of its own.  An artifact that is found fresh was there, with the same time, before any unit wrote a
file, and stays so; and an artifact that is written holds the declaration of its own document in the
end. -/
theorem generatePayload_numbered :
    (∀ (stem suffix : String) (n m : Nat), n ≠ m →
      Naming.typeName (stem ++ "." ++ toString n) suffix ≠
        Naming.typeName (stem ++ "." ++ toString m) suffix) ∧
    ∀ (settings : Settings) (filter? : Option String) (replacement : Replacement) (path : String)
      (before loaded : Chronicle) (documents : List Json),
      '/' ∉ settings.valueSuffix.toList →
      Gives (Payload.load path filter?) before (.ok (.ok documents)) loaded →
      2 ≤ documents.length → ∃ report after,
        Gives (generatePayload settings filter? replacement path) before (.ok report) after ∧
        report.units.map (·.name) =
          (List.range documents.length).map (fun i => unitName path ++ "." ++ toString (i + 1)) ∧
        (report.units.map fun unit => artifactOf settings unit.name).Nodup ∧
        ∃ made, Furnished settings before.files made ∧
          (before.files.IsTree → ∀ location content time,
            made.at? location = some (.file content time) ↔
              before.files.at? location = some (.file content time)) ∧
          ∀ unit ∈ report.units, ∀ artifact,
            (unit.result = .ok (.fresh artifact) → artifact = artifactOf settings unit.name ∧
              ∃ location entry, after.files.locate artifact = .ok location ∧
                made.at? location = some entry ∧ after.files.at? location = some entry) ∧
            (unit.result = .ok (.written artifact) → artifact = artifactOf settings unit.name ∧
              ∃ i document declaration moment, documents[i]? = some document ∧
                unit.name = unitName path ++ "." ++ toString (i + 1) ∧
                valueDeclaration settings unit.name path document = .ok declaration ∧
                after.files.read artifact = .ok (declaration.render settings.dialect
                  settings.excludedColumns (before.dates moment)).toUTF8.toList) := by
  refine ⟨fun stem suffix n m hne heq =>
    hne (Naming.typeName_numbered_injective stem suffix heq), ?_⟩
  intro settings filter? replacement path before loaded documents hsuffix hload hseveral
  obtain ⟨steps, after, hgives, htasks, hpasses⟩ :=
    generatePayload_passes settings filter? replacement path before loaded hload hseveral
  have hseparate := separate_of_numberedTasks hsuffix htasks
  refine ⟨_, after, hgives, ?_, ?_, ?_⟩
  · have hnames := names_numberedTasks settings path documents
    rw [← htasks, List.map_map] at hnames
    rw [List.map_map]
    exact hnames
  · rw [List.map_map]
    exact hseparate.artifacts
  rcases hpasses.furnished with hnone | ⟨made, hfurnished, hhoused, hrun⟩
  · refine ⟨before.files, .inl rfl, fun _ _ _ _ => Iff.rfl, fun unit hunit artifact => ?_⟩
    obtain ⟨step, hstep, rfl⟩ := List.mem_map.1 hunit
    have hresult := hnone step hstep
    refine ⟨fun hfresh => ?_, fun hwritten => ?_⟩
    · cases hresult.symm.trans (congrArg artifact? hfresh)
    · cases hresult.symm.trans (congrArg artifact? hwritten)
  · refine ⟨made, hfurnished, fun htree => hfurnished.file_iff htree, fun unit hunit artifact => ?_⟩
    obtain ⟨step, hstep, rfl⟩ := List.mem_map.1 hunit
    refine ⟨fun hfresh => ⟨?_, hrun.fresh hsuffix hhoused hseparate hstep hfresh⟩,
      fun hwritten => ⟨?_, ?_⟩⟩
    · exact hrun.path_eq hseparate.named hstep (congrArg artifact? hfresh)
    · exact hrun.path_eq hseparate.named hstep (congrArg artifact? hwritten)
    · obtain ⟨i, document, hdocument, hname, htask⟩ := exists_document htasks hstep
      obtain ⟨declaration, moment, hdeclared, hread⟩ :=
        hrun.written hsuffix hhoused hseparate hstep hwritten
      exact ⟨i, document, declaration, moment, hdocument, hname, htask ▸ hdeclared, hread⟩

/-- A payload with two documents.  The artifact of the second one is there and young. -/
def twoDocuments : Chronicle where
  files := {
    entries :=
      [(["x.json".toList], .file "[\x7b\"a\":1\x7d,\x7b\"b\":2\x7d]".toUTF8.toList 0),
        (["types".toList], .directory 0), (["types".toList, "X2Type.ts".toList], .file [] 0)]
    home := [] }
  clock moment := moment
  dates _ := ""

/-- The number of documents, if there are any. -/
def countOf : Upshot (List Json) → Nat
  | .ok (.ok documents) => documents.length
  | _ => 0

theorem exists_of_countOf {documents : Upshot (List Json)} (h : 0 < countOf documents) :
    ∃ found, documents = .ok (.ok found) ∧ found.length = countOf documents := by
  rcases documents with reason | (failure | found)
  · cases h
  · cases h
  · exact ⟨found, rfl, rfl⟩

theorem generatePayload_numbered_twoDocuments : ∃ report after,
    Gives (generatePayload {} (some ".[]") .whenStale "x.json") twoDocuments (.ok report) after ∧
      report.units.map (·.name) = ["x.1", "x.2"] ∧
      report.units.map (·.result) =
        [.ok (.written "types/X1Type.ts"), .ok (.fresh "types/X2Type.ts")] ∧
      (report.units.map fun unit => artifactOf {} unit.name).Nodup := by
  have hcount : countOf (Payload.load (m := StateM Chronicle) "x.json" (some ".[]")
      twoDocuments).1 = 2 := by decide +kernel
  obtain ⟨documents, hdocuments, hlength⟩ := exists_of_countOf (by rw [hcount]; decide)
  rw [hcount] at hlength
  have hload : Gives (Payload.load "x.json" (some ".[]")) twoDocuments (.ok (.ok documents)) _ :=
    Prod.ext hdocuments rfl
  obtain ⟨report, after, hgives, hnames, hartifacts, -⟩ :=
    generatePayload_numbered.2 {} (some ".[]") .whenStale "x.json" twoDocuments _ documents
      (by decide) hload (Nat.le_of_eq hlength.symm)
  have hunits : (generatePayload (m := StateM Chronicle) {} (some ".[]") .whenStale "x.json"
      twoDocuments).1 = .ok ⟨[⟨"x.1", .ok (.written "types/X1Type.ts")⟩,
        ⟨"x.2", .ok (.fresh "types/X2Type.ts")⟩]⟩ := by decide +kernel
  obtain rfl := Except.ok.inj (hunits.symm.trans (congrArg Prod.fst hgives))
  exact ⟨_, after, hgives, rfl, rfl, hartifacts⟩

end Chronicle
end ResponseTypes
