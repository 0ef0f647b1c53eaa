import Mathlib.Data.List.Nodup
import Mathlib.Data.List.Perm.Subperm
import ResponseTypes.Proofs.ModelBatches
import ResponseTypes.Proofs.PayloadRuns

/-!
# Batches of payloads

Payloads whose artifacts are apart, from each other and from the payloads, have nothing to do with
each other: a step reads its payload, which no other step writes, and looks at its artifact, which
no other step writes either.  What the steps share is the output directory, and that is made once,
by whichever of them comes first.  So every block of a batch is the one that its payload gives
alone, in any order and whatever else is in the batch, and the files are the same in the end.  This
is so as long as the filter breaks down for none of the payloads: a payload for which it does ends
the run, and those behind it have no turn.

Whether a payload is an artifact cannot be told from how the two paths are written.  It is told from
where they lead once the output directory is there; no directory is made after that, so they lead
there for the rest of the run, and before that nothing is written.

## Main definitions

- `Generation.Apart`: payloads whose artifacts are apart.
- `Generation.Target`: where artifacts have to be.
- `Generation.Distinct`: tasks with artifacts of their own.
- `Generation.Ends`: what can become of a task, by the files at first.
- `Generation.Alike`: two results of one task.

## Main statements

- `Files.toOption_read_of_growth`: a growth elsewhere does not change what is read.
- `Generation.PayloadCourse.tasks_eq`: payloads give to declare what they gave at first.
- `Generation.Course.ends`: a step ends as it would if it were the first one.
- `Generation.Course.occupancy_eq_of_perm`: the order of steps makes no difference to the files.
- `Generation.generateValues_isolated`: both for runs over payloads.
-/

namespace ResponseTypes

open Session

/-! ## Looking at files -/

namespace Files

variable {before after : Files} {path : String}

/-- A path that does not lead upwards reads what it read before a growth, if what is at its end
still holds what it held. -/
theorem toOption_read_of_growth (htree : before.IsTree) {made written : Location → Prop}
    (h : Growth made written before after) (hparts : ['.', '.'] ∉ Path.parts path.toList)
    (hkept : ∀ location, after.locate path = .ok location →
      after.content? location = before.content? location) :
    (after.read path).toOption = (before.read path).toOption := by
  rw [toOption_read, toOption_read]
  cases hbefore : before.locate path with
  | ok location =>
    have hafter := locate_grown h hbefore
    rw [hafter]
    exact hkept location hafter
  | error fault =>
    cases hafter : after.locate path with
    | error _ => rfl
    | ok location =>
      -- the path goes by way of a directory that was made, and there is no file below it
      change after.content? location = none
      rw [hkept location hafter, content?]
      cases hoccupancy : before.occupancy location with
      | vacant => rfl
      | directory => rfl
      | file content =>
        have hlocate := htree.locate_of_grown h hparts (by rw [hoccupancy]; simp) hafter
        rw [hbefore] at hlocate
        cases hlocate

/-- When something was modified depends on where its path leads and on what is there. -/
theorem modified?_congr (hlocate : ∀ location, after.locate path = .ok location ↔
      before.locate path = .ok location)
    (hentry : ∀ location, before.locate path = .ok location →
      after.at? location = before.at? location) :
    after.modified? path = before.modified? path := by
  rw [modified?, modified?, find_eq, find_eq]
  cases hbefore : before.locate path with
  | ok location =>
    rw [(hlocate location).2 hbefore]
    simp only [Except.bind, hentry location hbefore]
  | error fault =>
    cases hafter : after.locate path with
    | error _ => rfl
    | ok location =>
      rw [(hlocate location).1 hafter] at hbefore
      cases hbefore

end Files

namespace Generation

variable {settings : Settings} {replacement : Replacement} {t : Int} {date : String}
variable {initial files made between after : Files}

/-! ## Artifacts that are apart -/

/-- The tasks of a payload, none where the filter breaks down. -/
def tasksBy (settings : Settings) (filter? : Option String) (now : Int) (files : Files)
    (path : String) : List Task :=
  (tasksIn settings filter? now files path).toOption.getD []

theorem tasksIn_eq_ok {filter? : Option String} {path : String}
    (h : ∃ tasks, tasksIn settings filter? t files path = .ok tasks) :
    tasksIn settings filter? t files path = .ok (tasksBy settings filter? t files path) := by
  obtain ⟨tasks, htasks⟩ := h
  rw [tasksBy, htasks]
  rfl

/-- Without a filter nothing breaks down. -/
theorem tasksIn_unfiltered (settings : Settings) (t : Int) (files : Files) (path : String) :
    ∃ tasks, tasksIn settings none t files path = .ok tasks := by
  have hdocuments : ∀ content?, ∃ documents,
      Payload.ofContent path none t content? = .ok documents := by
    rintro (_ | content)
    · exact ⟨_, rfl⟩
    · rw [Payload.ofContent]
      cases Payload.documentOf path content <;> exact ⟨_, rfl⟩
  obtain ⟨documents, h⟩ := hdocuments (files.read path).toOption
  exact ⟨tasksOf settings path documents, by rw [tasksIn, h]; rfl⟩

theorem mem_tasksBy {filter? : Option String} {path : String} {task : Task} :
    task ∈ tasksBy settings filter? t files path ↔
      ∃ tasks, tasksIn settings filter? t files path = .ok tasks ∧ task ∈ tasks := by
  rw [tasksBy]
  cases tasksIn settings filter? t files path with
  | error reason => simp [Except.toOption]
  | ok tasks => simp [Except.toOption]

/-- What a payload gives to declare is named after its unit. -/
theorem name_of_mem_tasksBy {filter? : Option String} {path : String} {task : Task}
    (htask : task ∈ tasksBy settings filter? t files path) {declaration : Declaration}
    (h : task.declaration = .ok declaration) :
    declaration.name = Naming.typeName task.name settings.valueSuffix := by
  obtain ⟨tasks, htasks, htask⟩ := mem_tasksBy.1 htask
  rw [tasksIn] at htasks
  cases hdocuments : Payload.ofContent path filter? t (files.read path).toOption with
  | error reason =>
    rw [hdocuments] at htasks
    cases htasks
  | ok documents =>
    rw [hdocuments] at htasks
    obtain rfl := Except.ok.inj htasks
    exact name_of_mem_tasksOf htask h

/-- The paths of the artifacts of a payload. -/
def artifactsIn (settings : Settings) (filter? : Option String) (now : Int) (files : Files)
    (path : String) : List String :=
  (tasksBy settings filter? now files path).filterMap (Task.path? settings)

/-- Payloads for which the filter does not break down, whose paths do not lead upwards, and whose
artifacts are apart from each other and from the payloads: once the output directory is there, no
payload is where an artifact has to be, unless this is a directory. -/
structure Apart (settings : Settings) (filter? : Option String) (session : Session)
    (paths : List String) : Prop where
  unbroken : ∀ path ∈ paths,
    ∃ tasks, tasksIn settings filter? session.now session.files path = .ok tasks
  downward : ∀ path ∈ paths, ['.', '.'] ∉ Path.parts path.toList
  artifacts : (paths.flatMap (artifactsIn settings filter? session.now session.files)).Nodup
  payloads : (session.perform (ensureOutput settings)).1 = .ok () → ∀ path ∈ paths,
    ∀ artifact ∈ paths.flatMap (artifactsIn settings filter? session.now session.files),
      ∀ location, (session.perform (ensureOutput settings)).2.files.locate path = .ok location →
      (session.perform (ensureOutput settings)).2.files.locate artifact = .ok location →
      (session.perform (ensureOutput settings)).2.files.occupancy location = .directory

namespace Apart

variable {filter? : Option String} {session : Session} {paths chosen : List String}

/-- Some of the payloads, in any order, are apart as well. -/
theorem of_subperm (h : Apart settings filter? session paths) (hchosen : chosen.Subperm paths) :
    Apart settings filter? session chosen := by
  have hsubset := hchosen.subset
  obtain ⟨sorted, hperm, hsublist⟩ := hchosen
  refine ⟨fun path hpath => h.unbroken path (hsubset hpath),
    fun path hpath => h.downward path (hsubset hpath), ?_, ?_⟩
  · exact (hperm.flatMap_right _).nodup_iff.1
      (h.artifacts.sublist (hsublist.flatMap _))
  · intro hmade path hpath artifact hartifact
    obtain ⟨other, hother, hartifact⟩ := List.mem_flatMap.1 hartifact
    exact h.payloads hmade path (hsubset hpath) artifact
      (List.mem_flatMap.2 ⟨other, hsubset hother, hartifact⟩)

theorem directory_of_locate (h : Apart settings filter? session paths)
    (hcreates : Files.Creates session.now session.files settings.outputPath (.ok ()) made)
    {path : String} (hpath : path ∈ paths) {artifact : String}
    (hartifact : artifact ∈
      paths.flatMap (artifactsIn settings filter? session.now session.files))
    {location : Location} (hlocate : made.locate path = .ok location)
    (hthere : made.locate artifact = .ok location) :
    made.occupancy location = .directory := by
  obtain ⟨result, after, hcreates', hyields⟩ :=
    ensureOutput_yields settings session.now session.stamp session.files
  obtain ⟨rfl, rfl⟩ := hcreates'.unique hcreates
  have hpayloads := h.payloads hyields.perform_fst path hpath artifact hartifact location
  rw [hyields.perform_snd] at hpayloads
  exact hpayloads hlocate hthere

end Apart

/-! ## What there is to declare along a run -/

/-- What a step reports as written is its artifact. -/
theorem Course.path?_of_written {steps : List Step}
    (h : Course settings replacement t date files steps after) {step : Step} (hstep : step ∈ steps)
    {path : String} (hwritten : step.result = .ok (.written path)) :
    step.path? settings = some path := by
  obtain ⟨before, next, hsettles⟩ := h.settles_of_mem hstep
  exact Task.path?_eq_some.2 (hsettles.declaration_of_written hwritten)

/-- Something is only written once the output directory is there. -/
theorem Course.creates_of_written {steps : List Step}
    (h : Course settings replacement t date files steps after) {step : Step} (hstep : step ∈ steps)
    {path : String} (hwritten : step.result = .ok (.written path)) :
    ∃ made, Files.Creates t files settings.outputPath (.ok ()) made ∧
      Course settings replacement t date made steps after := by
  obtain ⟨declaration, hdeclared, -⟩ := Task.path?_eq_some.1 (h.path?_of_written hstep hwritten)
  rcases h.trichotomy with ⟨hnone, -⟩ | ⟨fault, -, hfails⟩ | hmade
  · exact absurd hdeclared (hnone step hstep declaration)
  · obtain ⟨again, hresult, -⟩ := hfails step hstep declaration hdeclared
    rw [hwritten] at hresult
    cases hresult
  · exact hmade

/-- Whatever has been reached, a path only leads where it leads in the output directory. -/
theorem Reached.locate_of_creates (h : Reached settings t initial files)
    (hcreates : Files.Creates t initial settings.outputPath (.ok ()) made) {path : String}
    {location : Location} (hlocate : files.locate path = .ok location) :
    made.locate path = .ok location := by
  cases h with
  | untouched => exact Files.locate_grown (hcreates.growth fun _ => False) hlocate
  | failed hfailed => cases (hfailed.unique hcreates).1
  | made hmade hgrown =>
    obtain rfl := (hmade.unique hcreates).2
    exact (Files.locate_iff_of_growth hgrown).1 hlocate

/-- Whatever has been reached, there is no file where there is a directory in the end. -/
theorem Reached.content?_eq_none (h : Reached settings t initial files)
    (hcreates : Files.Creates t initial settings.outputPath (.ok ()) made) {location : Location}
    (hdirectory : made.occupancy location = .directory) : files.content? location = none := by
  rw [Files.content?]
  cases h with
  | untouched =>
    rcases (hcreates.growth fun _ => False).of_directory hdirectory with hthere | ⟨hvacant, -⟩
    · rw [hthere]
      rfl
    · rw [hvacant]
      rfl
  | failed hfailed => cases (hfailed.unique hcreates).1
  | made hmade hgrown =>
    obtain rfl := (hmade.unique hcreates).2
    rw [hgrown.directory hdirectory]
    rfl

/-- A step that declares a type of its own name goes on from what has been reached. -/
theorem Settles.reached (hsuffix : Path.separator ∉ settings.valueSuffix.toList)
    (htree : initial.IsTree) {step : Step}
    (hnamed : ∀ declaration, step.declaration = .ok declaration →
      declaration.name = Naming.typeName step.name settings.valueSuffix)
    (hreached : Reached settings t initial files)
    (h : Settles settings replacement t date files step after) :
    Reached settings t initial after := by
  cases h with
  | undeclared => exact hreached
  | @declared name declaration result _ hwrites =>
    cases hwrites with
    | homeless hcreates =>
      obtain ⟨alone, halone, -⟩ := hreached.creates_error htree hcreates
      exact .failed halone
    | @housed between hcreates =>
      obtain ⟨alone, halone, hgrown⟩ := hreached.creates_ok hcreates
      have hplace : Files.Growth (fun _ => False) (IsArtifact settings
          (place settings replacement t date between declaration).2) between
          (place settings replacement t date between declaration).2 := by
        refine (place_growth settings replacement t date between declaration).mono (fun _ => id) ?_
        rintro location ⟨path, hwritten, hlocate⟩
        obtain ⟨rfl, -⟩ := write_of_place_written hwritten
        rw [hnamed declaration rfl] at hlocate
        exact isArtifact_of_locate ⟨.inr rfl, hsuffix⟩ hlocate
      exact .made halone
        ((hgrown.mono (fun _ => id) fun _ hartifact => hartifact.grown hplace).trans hplace)

theorem Course.reached (hsuffix : Path.separator ∉ settings.valueSuffix.toList)
    (htree : initial.IsTree) {steps : List Step}
    (hnamed : ∀ task ∈ steps.map Step.toTask, ∀ declaration, task.declaration = .ok declaration →
      declaration.name = Naming.typeName task.name settings.valueSuffix)
    (hreached : Reached settings t initial files)
    (h : Course settings replacement t date files steps after) :
    Reached settings t initial after := by
  induction h with
  | nil => exact hreached
  | cons hsettles _ ih =>
    obtain ⟨hfirst, hothers⟩ := List.forall_mem_cons.1 hnamed
    exact ih hothers (hsettles.reached hsuffix htree hfirst hreached)

/-- Where artifacts have to be, once the output directory is there. -/
def Target (settings : Settings) (t : Int) (initial : Files) (artifacts : List String)
    (location : Location) : Prop :=
  ∃ made, Files.Creates t initial settings.outputPath (.ok ()) made ∧
    ∃ artifact ∈ artifacts, made.locate artifact = .ok location

/-- What a course writes is where its artifacts have to be. -/
theorem Course.target_of_wrote {steps : List Step} (hreached : Reached settings t initial files)
    (h : Course settings replacement t date files steps after) {location : Location}
    (hwrote : Wrote steps after location) :
    Target settings t initial ((steps.map Step.toTask).filterMap (Task.path? settings))
      location := by
  obtain ⟨step, hstep, artifact, hwritten, hlocate⟩ := hwrote
  have hpath := h.path?_of_written hstep hwritten
  obtain ⟨made, hcreates, hcourse⟩ := h.creates_of_written hstep hwritten
  obtain ⟨alone, halone, hgrown⟩ := hreached.creates_ok hcreates
  rw [Files.locate_iff_of_growth (hcourse.growth_of_housed (housed_of_creates hcreates)),
    Files.locate_iff_of_growth hgrown] at hlocate
  refine ⟨alone, halone, artifact, ?_, hlocate⟩
  exact List.mem_filterMap.2 ⟨step.toTask, List.mem_map_of_mem hstep, hpath⟩

/-- As long as only artifacts are written, a payload that is apart from them gives to declare what
it gave at first. -/
theorem tasksIn_of_growth {filter? : Option String} {path : String} {artifacts : List String}
    (htree : initial.IsTree) (hreached : Reached settings t initial files)
    (hgrown : Files.Growth (fun _ => True) (Target settings t initial artifacts) initial files)
    (hpath : ['.', '.'] ∉ Path.parts path.toList)
    (hapart : ∀ made, Files.Creates t initial settings.outputPath (.ok ()) made →
      ∀ artifact ∈ artifacts, ∀ location, made.locate path = .ok location →
      made.locate artifact = .ok location → made.occupancy location = .directory) :
    tasksIn settings filter? t files path = tasksIn settings filter? t initial path := by
  have hread : (files.read path).toOption = (initial.read path).toOption := by
    refine Files.toOption_read_of_growth htree hgrown hpath fun location hlocate => ?_
    by_cases htarget : Target settings t initial artifacts location
    · obtain ⟨made, hcreates, artifact, hartifact, hthere⟩ := htarget
      have hdirectory := hapart made hcreates artifact hartifact location
        (hreached.locate_of_creates hcreates hlocate) hthere
      rw [hreached.content?_eq_none hcreates hdirectory,
        Reached.untouched.content?_eq_none hcreates hdirectory]
    · exact hgrown.content?_eq htarget
  rw [tasksIn, tasksIn, hread]

/-- As long as only artifacts are written, payloads that are apart from them give to declare what
they gave at first. -/
theorem PayloadCourse.tasks_eq {filter? : Option String}
    (hsuffix : Path.separator ∉ settings.valueSuffix.toList) (htree : initial.IsTree)
    {artifacts paths : List String} {steps : List Step} {ending : Except Breakdown Unit}
    (hunbroken : ∀ path ∈ paths, ∃ tasks, tasksIn settings filter? t initial path = .ok tasks)
    (hdownward : ∀ path ∈ paths, ['.', '.'] ∉ Path.parts path.toList)
    (hartifacts : paths.flatMap (artifactsIn settings filter? t initial) ⊆ artifacts)
    (hpayloads : ∀ path ∈ paths, ∀ made,
      Files.Creates t initial settings.outputPath (.ok ()) made → ∀ artifact ∈ artifacts,
      ∀ location, made.locate path = .ok location → made.locate artifact = .ok location →
      made.occupancy location = .directory)
    (hreached : Reached settings t initial files)
    (hgrown : Files.Growth (fun _ => True) (Target settings t initial artifacts) initial files)
    (h : PayloadCourse settings filter? replacement t date files paths steps ending after) :
    ending = .ok () ∧
      steps.map Step.toTask = paths.flatMap (tasksBy settings filter? t initial) := by
  -- what carries the induction is that nothing but artifacts has been written so far
  induction h with
  | nil => exact ⟨rfl, rfl⟩
  | @broken files path _ reason hbroken =>
    obtain ⟨tasks, htasks⟩ := hunbroken path List.mem_cons_self
    rw [tasksIn_of_growth htree hreached hgrown (hdownward path List.mem_cons_self)
      (hpayloads path List.mem_cons_self), htasks] at hbroken
    cases hbroken
  | @cons files between after path paths steps others _ htasks hcourse hothers ih =>
    obtain ⟨hgives, hunbroken⟩ := List.forall_mem_cons.1 hunbroken
    obtain ⟨hpath, hdownward⟩ := List.forall_mem_cons.1 hdownward
    obtain ⟨hapart, hpayloads⟩ := List.forall_mem_cons.1 hpayloads
    rw [List.flatMap_cons, List.append_subset] at hartifacts
    rw [tasksIn_of_growth htree hreached hgrown hpath hapart, tasksIn_eq_ok hgives] at htasks
    replace htasks := (Except.ok.inj htasks).symm
    have hnext : Reached settings t initial between := by
      refine hcourse.reached hsuffix htree ?_ hreached
      rw [htasks]
      exact fun task htask declaration => name_of_mem_tasksBy htask
    have hstep : Files.Growth (fun _ => True) (Target settings t initial artifacts) files
        between := by
      refine hcourse.growth.mono (fun _ _ => trivial) fun location hwrote => ?_
      obtain ⟨made, hcreates, artifact, hartifact, hthere⟩ :=
        hcourse.target_of_wrote hreached hwrote
      rw [htasks] at hartifact
      exact ⟨made, hcreates, artifact, hartifacts.1 hartifact, hthere⟩
    obtain ⟨hending, hrest⟩ :=
      ih hunbroken hdownward hartifacts.2 hpayloads hnext (hgrown.trans hstep)
    exact ⟨hending, by rw [List.map_append, List.flatMap_cons, htasks, hrest]⟩

/-! ## Tasks with artifacts of their own -/

/-- Tasks that declare types of their own names, each with an artifact of its own. -/
structure Distinct (settings : Settings) (tasks : List Task) : Prop where
  named : ∀ task ∈ tasks, ∀ declaration, task.declaration = .ok declaration →
    declaration.name = Naming.typeName task.name settings.valueSuffix
  paths : (tasks.filterMap (Task.path? settings)).Nodup

/-- The tasks of payloads that are apart. -/
theorem Apart.distinct {filter? : Option String} {session : Session} {paths : List String}
    (h : Apart settings filter? session paths) :
    Distinct settings
      (paths.flatMap (tasksBy settings filter? session.now session.files)) := by
  refine ⟨fun task htask declaration hdeclared => ?_, ?_⟩
  · obtain ⟨path, -, htask⟩ := List.mem_flatMap.1 htask
    exact name_of_mem_tasksBy htask hdeclared
  · rw [List.filterMap_flatMap]
    exact h.artifacts

namespace Distinct

variable {tasks earlier later : List Task} {task other : Task} {declaration : Declaration}

theorem perm {tasks' : List Task} (h : Distinct settings tasks) (hperm : tasks.Perm tasks') :
    Distinct settings tasks' :=
  ⟨fun task htask => h.named task (hperm.mem_iff.2 htask),
    (hperm.filterMap (Task.path? settings)).nodup_iff.1 h.paths⟩

/-- The artifact is named by one part of a path. -/
theorem isPlain (hsuffix : Path.separator ∉ settings.valueSuffix.toList)
    (h : Distinct settings tasks) (htask : task ∈ tasks)
    (hdeclared : task.declaration = .ok declaration) :
    Files.IsPlain (settings.artifactName declaration.name).toList := by
  rw [h.named task htask declaration hdeclared]
  exact settings.isPlain_artifactName (Naming.separator_not_mem_typeName _ hsuffix)

theorem left (h : Distinct settings (earlier ++ later)) : Distinct settings earlier :=
  ⟨fun task htask => h.named task (List.mem_append_left _ htask),
    h.paths.sublist ((List.sublist_append_left earlier later).filterMap _)⟩

/-- No other task has the same artifact. -/
theorem path?_ne (h : Distinct settings (earlier ++ task :: later))
    (hother : other ∈ earlier ++ later) {path : String} (hpath : task.path? settings = some path) :
    other.path? settings ≠ some path := by
  have hnodup := h.paths
  rw [List.filterMap_append, List.filterMap_cons_some hpath, List.nodup_middle,
    ← List.filterMap_append, List.nodup_cons] at hnodup
  exact fun heq => hnodup.1 (List.mem_filterMap.2 ⟨other, hother, heq⟩)

end Distinct

/-! ## What a step can see of those before it -/

/-- The only things a step can change in an output directory that is there are its artifact and the
time of the directory. -/
theorem Settles.spares (hhoused : Housed settings files) {step : Step}
    (h : Settles settings replacement t date files step after) :
    Files.Spares (Wrote [step] after) files after := by
  rcases h.of_housed hhoused with ⟨_, -, -, rfl⟩ | ⟨declaration, -, hresult, hafter⟩
  · exact .refl _
  by_cases hwritten : (place settings replacement t date files declaration).1 =
      .ok (.written (settings.artifactPath declaration.name))
  · obtain ⟨-, hwrite⟩ := write_of_place_written hwritten
    rw [← hafter] at hwrite
    have hgrown : Files.Growth (fun _ => False) _ files after := Files.write_growth hwrite
    refine (Files.spares_of_write hwrite).mono fun location hlocate => ?_
    exact ⟨step, List.mem_singleton_self _, _, hresult.trans hwritten,
      Files.locate_grown hgrown hlocate⟩
  · rw [hafter, place_of_not_written hwritten]
    exact .refl _

theorem Course.spares {steps : List Step} (hhoused : Housed settings files)
    (h : Course settings replacement t date files steps after) :
    Files.Spares (Wrote steps after) files after := by
  induction h with
  | nil files => exact .refl files
  | cons hsettles hcourse ih =>
    have hnext := hhoused.grown (hsettles.growth_of_housed hhoused)
    have hrest := hcourse.growth_of_housed hnext
    exact Files.Spares.trans
      ((hsettles.spares hhoused).mono fun _ hwrote => hwrote.of_head hrest)
      ((ih hnext).mono fun _ hwrote => hwrote.of_tail)

section

variable {steps : List Step} {declaration : Declaration}

/-- What steps have written are artifacts. -/
theorem isArtifact_of_wrote (hsuffix : Path.separator ∉ settings.valueSuffix.toList)
    (hdistinct : Distinct settings (steps.map Step.toTask))
    (h : Course settings replacement t date files steps after) {location : Location}
    (hwrote : Wrote steps after location) : IsArtifact settings after location := by
  obtain ⟨step, hstep, path, hwritten, hlocate⟩ := hwrote
  obtain ⟨declaration, hdeclared, rfl⟩ :=
    Task.path?_eq_some.1 (h.path?_of_written hstep hwritten)
  rw [hdistinct.named step.toTask (List.mem_map_of_mem hstep) declaration hdeclared] at hlocate
  exact isArtifact_of_locate ⟨.inr rfl, hsuffix⟩ hlocate

/-- Artifacts are beside each other, so none is inside another. -/
theorem not_isArtifact_append {location : Location} (h : IsArtifact settings files location)
    (name : List Char) : ¬ IsArtifact settings files (location ++ [name]) := by
  obtain ⟨_, _, directory, -, -, hfolder, rfl⟩ := h
  rintro ⟨_, _, directory', -, -, hfolder', heq⟩
  obtain rfl := Except.ok.inj (hfolder.symm.trans hfolder')
  have hlength := congrArg List.length heq
  simp at hlength

/-- Steps with other artifacts leave an artifact as it is, its time included. -/
theorem at?_eq_of_ne (hsuffix : Path.separator ∉ settings.valueSuffix.toList)
    (hhoused : Housed settings made) (h : Course settings replacement t date made steps files)
    (hdistinct : Distinct settings (steps.map Step.toTask)) {name : String}
    (hname : declaration.name = Naming.typeName name settings.valueSuffix)
    (hother : ∀ step ∈ steps,
      step.path? settings ≠ some (settings.artifactPath declaration.name))
    {location : Location}
    (hlocate : made.locate (settings.artifactPath declaration.name) = .ok location) :
    files.at? location = made.at? location := by
  have hfound := Files.locate_grown (h.growth_of_housed hhoused) hlocate
  rw [hname] at hfound
  have hartifact : IsArtifact settings files location :=
    isArtifact_of_locate ⟨.inr rfl, hsuffix⟩ hfound
  -- a file that is made inside something marks it as modified, so that is to be ruled out as well
  have hinside : ∀ last, ¬ Wrote steps files (location ++ [last]) := fun last hwrote =>
    not_isArtifact_append hartifact last (isArtifact_of_wrote hsuffix hdistinct h hwrote)
  refine h.spares hhoused location ?_ hinside
  rintro ⟨step, hstep, path, hwritten, hthere⟩
  have hpath := h.path?_of_written hstep hwritten
  obtain ⟨other, hdeclared, rfl⟩ := Task.path?_eq_some.1 hpath
  have hplain := hdistinct.isPlain hsuffix (List.mem_map_of_mem hstep) hdeclared
  have hplain' := settings.isPlain_artifactName
    (Naming.separator_not_mem_typeName name hsuffix)
  rw [artifactPath_eq_of_locate hplain hplain' hthere hfound, ← hname] at hpath
  exact hother step hstep hpath

/-- What becomes of a declaration depends on whether its artifact is kept, and if not, on whether it
can be written. -/
theorem place_fst_congr
    (hkept : isKeptIn settings replacement t files (settings.artifactPath declaration.name) =
      isKeptIn settings replacement t made (settings.artifactPath declaration.name))
    (hwrite : ∀ fault, files.write (settings.artifactPath declaration.name)
        (content settings declaration date) t = .error fault ↔
      made.write (settings.artifactPath declaration.name)
        (content settings declaration date) t = .error fault) :
    (place settings replacement t date files declaration).1 =
      (place settings replacement t date made declaration).1 := by
  cases hfresh : isKeptIn settings replacement t made (settings.artifactPath declaration.name) with
  | true => rw [place_of_kept hfresh, place_of_kept (hkept.trans hfresh)]
  | false =>
    cases hmade : made.write (settings.artifactPath declaration.name)
        (content settings declaration date) t with
    | error fault =>
      rw [place_of_error hfresh hmade, place_of_error (hkept.trans hfresh) ((hwrite fault).2 hmade)]
    | ok last =>
      cases hfiles : files.write (settings.artifactPath declaration.name)
          (content settings declaration date) t with
      | error fault =>
        rw [(hwrite fault).1 hfiles] at hmade
        cases hmade
      | ok last' => rw [place_of_ok hfresh hmade, place_of_ok (hkept.trans hfresh) hfiles]

/-- Steps with other artifacts make no difference to what becomes of a declaration. -/
theorem place_fst_eq (hsuffix : Path.separator ∉ settings.valueSuffix.toList)
    (hhoused : Housed settings made) (h : Course settings replacement t date made steps files)
    (hdistinct : Distinct settings (steps.map Step.toTask)) {name : String}
    (hname : declaration.name = Naming.typeName name settings.valueSuffix)
    (hother : ∀ step ∈ steps,
      step.path? settings ≠ some (settings.artifactPath declaration.name)) :
    (place settings replacement t date files declaration).1 =
      (place settings replacement t date made declaration).1 := by
  have hgrown : Files.Growth (fun _ => False) (IsArtifact settings files) made files :=
    (h.growth_of_housed hhoused).mono (fun _ => id) fun _ =>
      isArtifact_of_wrote hsuffix hdistinct h
  refine place_fst_congr ?_ fun fault => ?_
  · cases replacement with
    | always => rfl
    | whenStale =>
      rw [isKeptIn, isKeptIn, Files.modified?_congr
        (fun location => Files.locate_iff_of_growth hgrown)
        (fun location => at?_eq_of_ne hsuffix hhoused h hdistinct hname hother)]
  · refine write_error_iff hgrown hhoused ?_
    rw [hname]
    exact settings.isPlain_artifactName (Naming.separator_not_mem_typeName name hsuffix)

end

/-! ## What becomes of a task -/

/-- Two results of one task.  They are equal, or both are faults of the output directory, the path
of which leads upwards: an attempt to make it may leave directories behind that lead the next one
into the file in the way. -/
def Alike (settings : Settings) (result other : Except Failure Outcome) : Prop :=
  result = other ∨ ['.', '.'] ∈ Path.parts settings.outputPath.toList ∧
    ∃ fault ∈ [FileFault.occupied, .notDirectory], ∃ fault' ∈ [FileFault.occupied, .notDirectory],
      result = .error (.file settings.outputPath fault) ∧
        other = .error (.file settings.outputPath fault')

/-- What can become of a task whose artifact no other task has, by the files at first. -/
inductive Ends (settings : Settings) (replacement : Replacement) (t : Int) (date : String)
    (initial : Files) (task : Task) : Except Failure Outcome → Prop where
  | undeclared {failure : Failure} : task.declaration = .error failure →
      Ends settings replacement t date initial task (.error failure)
  | homeless {declaration : Declaration} {fault : FileFault} {files after : Files} :
      task.declaration = .ok declaration → Reached settings t initial files →
      Files.Creates t files settings.outputPath (.error fault) after →
      Ends settings replacement t date initial task (.error (.file settings.outputPath fault))
  | housed {declaration : Declaration} {made : Files} :
      task.declaration = .ok declaration →
      Files.Creates t initial settings.outputPath (.ok ()) made →
      Ends settings replacement t date initial task
        (place settings replacement t date made declaration).1

/-- A fault of the output directory is the one that its first attempt meets, or follows from it. -/
theorem alike_of_sameFault {fault fault' alone : FileFault} (h : SameFault settings fault alone)
    (h' : SameFault settings fault' alone) :
    Alike settings (.error (.file settings.outputPath fault))
      (.error (.file settings.outputPath fault')) := by
  rcases h with rfl | ⟨hupwards, rfl, rfl⟩ <;> rcases h' with rfl | ⟨hupwards', halone, rfl⟩
  · exact .inl rfl
  · exact .inr ⟨hupwards', fault, by simp [halone], _, by simp, rfl, rfl⟩
  · exact .inr ⟨hupwards, _, by simp, _, by simp, rfl, rfl⟩
  · exact .inl rfl

theorem Ends.alike (htree : initial.IsTree) {task : Task} {result other : Except Failure Outcome}
    (h : Ends settings replacement t date initial task result)
    (h' : Ends settings replacement t date initial task other) : Alike settings result other := by
  cases h with
  | undeclared hdeclared => cases h' <;> simp_all [Alike]
  | homeless hdeclared hreached hcreates =>
    obtain ⟨alone, halone, hfault⟩ := hreached.creates_error htree hcreates
    cases h' with
    | undeclared => simp_all
    | homeless hdeclared' hreached' hcreates' =>
      obtain ⟨alone', halone', hfault'⟩ := hreached'.creates_error htree hcreates'
      obtain rfl := Except.error.inj (halone.unique halone').1
      exact alike_of_sameFault hfault hfault'
    | housed hdeclared' hcreates' => cases (halone.unique hcreates').1
  | housed hdeclared hcreates =>
    cases h' with
    | undeclared => simp_all
    | homeless hdeclared' hreached' hcreates' =>
      obtain ⟨alone, halone, -⟩ := hreached'.creates_error htree hcreates'
      cases (halone.unique hcreates).1
    | housed hdeclared' hcreates' =>
      obtain rfl := Except.ok.inj (hdeclared.symm.trans hdeclared')
      obtain rfl := (hcreates.unique hcreates').2
      exact .inl rfl

namespace Course

variable {steps : List Step} {step : Step} {declaration : Declaration} {location : Location}

/-- In an output directory that is there, each step ends as it would if it were the first one. -/
theorem result_eq_place (hsuffix : Path.separator ∉ settings.valueSuffix.toList)
    (hhoused : Housed settings made) (h : Course settings replacement t date made steps after)
    (hdistinct : Distinct settings (steps.map Step.toTask)) (hstep : step ∈ steps)
    (hdeclared : step.declaration = .ok declaration) :
    step.result = (place settings replacement t date made declaration).1 := by
  have hname := hdistinct.named step.toTask (List.mem_map_of_mem hstep) declaration hdeclared
  obtain ⟨earlier, later, rfl⟩ := List.append_of_mem hstep
  obtain ⟨before, next, hearlier, hbefore, hsettles, -, -⟩ := h.split_at hhoused
  rw [List.map_append, List.map_cons] at hdistinct
  have hother : ∀ other ∈ earlier,
      other.path? settings ≠ some (settings.artifactPath declaration.name) := by
    intro other hother
    refine hdistinct.path?_ne ?_ (Task.path?_eq_some.2 ⟨declaration, hdeclared, rfl⟩)
    exact List.mem_append_left _ (List.mem_map_of_mem hother)
  rw [(hsettles.of_declared hbefore hdeclared).1]
  exact place_fst_eq hsuffix hhoused hearlier hdistinct.left hname hother

/-- Each step ends in one of the ways that are open to its task at first. -/
theorem ends (hsuffix : Path.separator ∉ settings.valueSuffix.toList)
    (h : Course settings replacement t date initial steps after)
    (hdistinct : Distinct settings (steps.map Step.toTask)) (hstep : step ∈ steps) :
    Ends settings replacement t date initial step.toTask step.result := by
  cases hdeclared : step.declaration with
  | error failure =>
    rw [h.result_of_undeclared hstep hdeclared]
    exact .undeclared hdeclared
  | ok declaration =>
    rcases h.trichotomy with ⟨hnone, -⟩ | ⟨fault, hcreates, hfails⟩ | ⟨made, hcreates, hcourse⟩
    · exact absurd hdeclared (hnone step hstep declaration)
    · obtain ⟨again, hresult, hagain | hagain⟩ := hfails step hstep declaration hdeclared
      · rw [hresult]
        exact .homeless hdeclared .untouched hagain
      · rw [hresult]
        exact .homeless hdeclared (.failed hcreates) hagain
    · rw [hcourse.result_eq_place hsuffix (housed_of_creates hcreates) hdistinct hstep hdeclared]
      exact .housed hdeclared hcreates

/-! ## What the files hold in the end -/

/-- Without anything to declare nothing happens to the files. -/
theorem eq_of_undeclared (h : Course settings replacement t date files steps after)
    (hnone : ∀ step ∈ steps, ∀ declaration, step.declaration ≠ .ok declaration) :
    after = files := by
  induction h with
  | nil => rfl
  | cons hsettles _ ih =>
    obtain ⟨hfirst, hothers⟩ := List.forall_mem_cons.1 hnone
    rw [ih hothers]
    cases hsettles with
    | undeclared => rfl
    | declared => exact absurd rfl (hfirst _)

theorem eq_of_undeclared_of_perm {others : List Step}
    (hperm : (others.map Step.toTask).Perm (steps.map Step.toTask))
    (hnone : ∀ step ∈ others, ∀ declaration, step.declaration ≠ .ok declaration)
    (h : Course settings replacement t date files steps after) : after = files := by
  refine h.eq_of_undeclared fun step hstep => ?_
  obtain ⟨other, hother, htask⟩ :=
    List.mem_map.1 (hperm.symm.subset (List.mem_map_of_mem hstep))
  rw [← htask]
  exact hnone other hother

/-- A file that a step writes holds its declaration in the end. -/
theorem occupancy_of_written (hsuffix : Path.separator ∉ settings.valueSuffix.toList)
    (hhoused : Housed settings made) (h : Course settings replacement t date made steps after)
    (hdistinct : Distinct settings (steps.map Step.toTask)) (hstep : step ∈ steps) {path : String}
    (hwritten : step.result = .ok (.written path)) (hlocate : after.locate path = .ok location) :
    after.occupancy location = .file (step.content settings date) := by
  obtain ⟨declaration, hdeclared, rfl⟩ := Task.path?_eq_some.1 (h.path?_of_written hstep hwritten)
  have hplain := hdistinct.isPlain hsuffix (List.mem_map_of_mem hstep) hdeclared
  obtain ⟨earlier, later, rfl⟩ := List.append_of_mem hstep
  refine h.occupancy_of_last hhoused hwritten hlocate ?_
  rintro ⟨other, hother, path', hwritten', hlocate'⟩
  have hmem : other ∈ earlier ++ step :: later := by simp [hother]
  have hpath := h.path?_of_written hmem hwritten'
  obtain ⟨declaration', hdeclared', rfl⟩ := Task.path?_eq_some.1 hpath
  have hplain' := hdistinct.isPlain hsuffix (List.mem_map_of_mem hmem) hdeclared'
  rw [artifactPath_eq_of_locate hplain' hplain hlocate' hlocate] at hpath
  rw [List.map_append, List.map_cons] at hdistinct
  refine hdistinct.path?_ne ?_ (Task.path?_eq_some.2 ⟨declaration, hdeclared, rfl⟩) hpath
  exact List.mem_append_right _ (List.mem_map_of_mem hother)

/-- A file that is reported as written is there. -/
theorem locate_of_written (hhoused : Housed settings made)
    (h : Course settings replacement t date made steps after) (hstep : step ∈ steps) {path : String}
    (hwritten : step.result = .ok (.written path)) :
    ∃ location, after.locate path = .ok location := by
  obtain ⟨earlier, later, rfl⟩ := List.append_of_mem hstep
  obtain ⟨before, next, -, hbefore, hsettles, hnext, hlater⟩ := h.split_at hhoused
  have hgrown := hsettles.growth_of_housed hbefore
  obtain ⟨declaration, hdeclared, -⟩ := hsettles.declaration_of_written hwritten
  obtain ⟨hresult, -⟩ := hsettles.of_declared hbefore hdeclared
  obtain ⟨-, hwrite⟩ := write_of_place_written (hresult.symm.trans hwritten)
  obtain ⟨location, hlocate, -⟩ := Files.at?_of_write hwrite
  exact ⟨location, Files.locate_grown (hlater.growth_of_housed hnext)
    (Files.locate_grown hgrown hlocate)⟩

/-- What is read from a written file in the end is the declaration of its step. -/
theorem read_of_written (hsuffix : Path.separator ∉ settings.valueSuffix.toList)
    (h : Course settings replacement t date initial steps after)
    (hdistinct : Distinct settings (steps.map Step.toTask)) (hstep : step ∈ steps) {path : String}
    (hwritten : step.result = .ok (.written path)) :
    ∃ declaration, step.declaration = .ok declaration ∧
      path = settings.artifactPath declaration.name ∧
      after.read path = .ok (content settings declaration date) := by
  obtain ⟨declaration, hdeclared, hpath⟩ :=
    Task.path?_eq_some.1 (h.path?_of_written hstep hwritten)
  refine ⟨declaration, hdeclared, hpath, ?_⟩
  obtain ⟨made, hcreates, hcourse⟩ := h.creates_of_written hstep hwritten
  have hhoused := housed_of_creates hcreates
  obtain ⟨location, hlocate⟩ := hcourse.locate_of_written hhoused hstep hwritten
  have hoccupancy :=
    hcourse.occupancy_of_written hsuffix hhoused hdistinct hstep hwritten hlocate
  rw [Step.content, hdeclared] at hoccupancy
  exact Files.read_eq_ok.2 ⟨location, hlocate, hoccupancy⟩

/-- What a step of one course writes, the step with the same task writes in the other. -/
theorem wrote_of_perm (hsuffix : Path.separator ∉ settings.valueSuffix.toList)
    (hhoused : Housed settings made) {steps' : List Step} {after' : Files}
    (h : Course settings replacement t date made steps after)
    (h' : Course settings replacement t date made steps' after')
    (hdistinct : Distinct settings (steps.map Step.toTask))
    (hperm : (steps.map Step.toTask).Perm (steps'.map Step.toTask))
    (hwrote : Wrote steps after location) :
    Wrote steps' after' location ∧ after.occupancy location = after'.occupancy location := by
  have hdistinct' := hdistinct.perm hperm
  obtain ⟨step, hstep, path, hwritten, hlocate⟩ := hwrote
  obtain ⟨step', hstep', htask⟩ := List.mem_map.1 (hperm.subset (List.mem_map_of_mem hstep))
  obtain ⟨declaration, hdeclared, -⟩ := Task.path?_eq_some.1 (h.path?_of_written hstep hwritten)
  have hdeclared' : step'.declaration = .ok declaration := by rw [htask, hdeclared]
  have hwritten' : step'.result = .ok (.written path) := by
    rw [h'.result_eq_place hsuffix hhoused hdistinct' hstep' hdeclared',
      ← h.result_eq_place hsuffix hhoused hdistinct hstep hdeclared, hwritten]
  have hlocate' : after'.locate path = .ok location := by
    rw [Files.locate_iff_of_growth (h.growth_of_housed hhoused)] at hlocate
    exact Files.locate_grown (h'.growth_of_housed hhoused) hlocate
  refine ⟨⟨step', hstep', path, hwritten', hlocate'⟩, ?_⟩
  rw [h.occupancy_of_written hsuffix hhoused hdistinct hstep hwritten hlocate,
    h'.occupancy_of_written hsuffix hhoused hdistinct' hstep' hwritten' hlocate',
    Step.content, Step.content, htask]

/-- What the files hold in the end does not depend on the order of the steps. -/
theorem occupancy_eq_of_perm (hsuffix : Path.separator ∉ settings.valueSuffix.toList)
    {steps' : List Step} {after' : Files}
    (h : Course settings replacement t date initial steps after)
    (h' : Course settings replacement t date initial steps' after')
    (hdistinct : Distinct settings (steps.map Step.toTask))
    (hperm : (steps.map Step.toTask).Perm (steps'.map Step.toTask)) (location : Location) :
    after.occupancy location = after'.occupancy location := by
  rcases h.trichotomy with ⟨hnone, rfl⟩ | ⟨fault, hcreates, -⟩ | ⟨made, hcreates, hcourse⟩
  · rw [h'.eq_of_undeclared_of_perm hperm hnone]
  · rcases h'.trichotomy with ⟨hnone', rfl⟩ | ⟨fault', hcreates', -⟩ | ⟨made', hcreates', -⟩
    · rw [h.eq_of_undeclared_of_perm hperm.symm hnone']
    · rw [(hcreates.unique hcreates').2]
    · cases (hcreates.unique hcreates').1
  · rcases h'.trichotomy with ⟨hnone', rfl⟩ | ⟨fault', hcreates', -⟩ | ⟨made', hcreates', hcourse'⟩
    · rw [h.eq_of_undeclared_of_perm hperm.symm hnone']
    · cases (hcreates.unique hcreates').1
    · obtain rfl := (hcreates.unique hcreates').2
      have hhoused := housed_of_creates hcreates
      by_cases hwrote : Wrote steps after location
      · exact (hcourse.wrote_of_perm hsuffix hhoused hcourse' hdistinct hperm hwrote).2
      by_cases hwrote' : Wrote steps' after' location
      · exact (hcourse'.wrote_of_perm hsuffix hhoused hcourse (hdistinct.perm hperm) hperm.symm
          hwrote').2.symm
      · rw [hcourse.occupancy_of_not_wrote hhoused hwrote,
          hcourse'.occupancy_of_not_wrote hhoused hwrote']

end Course

/-! ## Runs over payloads -/

section

variable {filter? : Option String} {session : Session} {paths : List String}

/-- A run over payloads that are apart is a course for the tasks that they give at first. -/
theorem generateValues_apart (hauto : settings.autoGenerate = true)
    (hsuffix : Path.separator ∉ settings.valueSuffix.toList) (replacement : Replacement)
    (htree : session.files.IsTree) (hapart : Apart settings filter? session paths) :
    ∃ steps after, steps.map Step.toTask =
        paths.flatMap (tasksBy settings filter? session.now session.files) ∧
      Course settings replacement session.now session.stamp session.files steps after ∧
      Yields (generateValues settings none filter? replacement paths) session.now session.stamp
        session.files (.ok ⟨steps.map Step.report⟩) after := by
  obtain ⟨steps, ending, after, hpayloads, hyields⟩ :=
    generateValues_yields hauto filter? replacement session paths
  have hpaths : ∀ path ∈ paths, ∀ made, Files.Creates session.now session.files
      settings.outputPath (.ok ()) made →
      ∀ artifact ∈ paths.flatMap (artifactsIn settings filter? session.now session.files),
      ∀ location, made.locate path = .ok location → made.locate artifact = .ok location →
      made.occupancy location = .directory :=
    fun path hpath made hcreates artifact hartifact location =>
      hapart.directory_of_locate hcreates hpath hartifact
  obtain ⟨rfl, htasks⟩ := hpayloads.tasks_eq hsuffix htree hapart.unbroken hapart.downward
    (List.Subset.refl _) hpaths .untouched (.refl session.files)
  exact ⟨steps, after, htasks, hpayloads.course, hyields⟩

/-- The units of the runs over each payload alone. -/
theorem exists_steps_alone (hauto : settings.autoGenerate = true)
    (hsuffix : Path.separator ∉ settings.valueSuffix.toList) (replacement : Replacement)
    (htree : session.files.IsTree)
    (hapart : ∀ path ∈ paths, Apart settings filter? session [path]) :
    ∃ (steps : List Step) (reports : List Report),
      steps.map Step.toTask =
        paths.flatMap (tasksBy settings filter? session.now session.files) ∧
      (∀ step ∈ steps, Ends settings replacement session.now session.stamp session.files
        step.toTask step.result) ∧
      List.Forall₂ (fun path report => (session.perform
        (generateValues settings none filter? replacement [path])).1 = .ok report) paths reports ∧
      reports.flatMap Report.units = steps.map Step.report := by
  induction paths with
  | nil => exact ⟨[], [], rfl, by simp, .nil, rfl⟩
  | cons path paths ih =>
    obtain ⟨hpath, hothers⟩ := List.forall_mem_cons.1 hapart
    obtain ⟨steps, after, htasks, hcourse, hyields⟩ :=
      generateValues_apart hauto hsuffix replacement htree hpath
    obtain ⟨others, reports, hrest, hends, hruns, hunits⟩ := ih hothers
    have hdistinct : Distinct settings (steps.map Step.toTask) := htasks ▸ hpath.distinct
    rw [List.flatMap_singleton] at htasks
    refine ⟨steps ++ others, ⟨steps.map Step.report⟩ :: reports, ?_, ?_, ?_, ?_⟩
    · rw [List.map_append, htasks, hrest, List.flatMap_cons]
    · rw [List.forall_mem_append]
      exact ⟨fun step hstep => hcourse.ends hsuffix hdistinct hstep, hends⟩
    · exact .cons hyields.perform_fst hruns
    · rw [List.flatMap_cons, hunits, List.map_append]

/-- Steps of the same tasks end alike. -/
theorem forall₂_alike (htree : initial.IsTree) {steps others : List Step}
    (htasks : steps.map Step.toTask = others.map Step.toTask)
    (h : ∀ step ∈ steps, Ends settings replacement t date initial step.toTask step.result)
    (h' : ∀ other ∈ others, Ends settings replacement t date initial other.toTask other.result) :
    List.Forall₂ (fun unit alone : UnitReport =>
        unit.name = alone.name ∧ Alike settings unit.result alone.result)
      (steps.map Step.report) (others.map Step.report) := by
  induction steps generalizing others with
  | nil =>
    obtain rfl := List.map_eq_nil_iff.1 htasks.symm
    exact .nil
  | cons step steps ih =>
    cases others with
    | nil => cases htasks
    | cons other others =>
      obtain ⟨htask, htasks⟩ := List.cons.inj htasks
      obtain ⟨hstep, hsteps⟩ := List.forall_mem_cons.1 h
      obtain ⟨hother, hothers⟩ := List.forall_mem_cons.1 h'
      rw [htask] at hstep
      exact .cons ⟨congrArg Task.name htask, hstep.alike htree hother⟩ (ih htasks hsteps hothers)

/-- The order of payloads that are apart makes no difference to the files. -/
theorem occupancy_generateValues_of_perm (hauto : settings.autoGenerate = true)
    (hsuffix : Path.separator ∉ settings.valueSuffix.toList) (replacement : Replacement)
    (htree : session.files.IsTree) (hapart : Apart settings filter? session paths)
    {again : List String} (hperm : again.Perm paths) (location : Location) :
    (session.perform (generateValues settings none filter? replacement again)).2.files.occupancy
        location =
      (session.perform (generateValues settings none filter? replacement paths)).2.files.occupancy
        location := by
  obtain ⟨steps, after, htasks, hcourse, hyields⟩ :=
    generateValues_apart hauto hsuffix replacement htree (hapart.of_subperm hperm.subperm)
  obtain ⟨steps', after', htasks', hcourse', hyields'⟩ :=
    generateValues_apart hauto hsuffix replacement htree hapart
  have hsame : (steps.map Step.toTask).Perm (steps'.map Step.toTask) := by
    rw [htasks, htasks']
    exact hperm.flatMap_right _
  have hdistinct : Distinct settings (steps.map Step.toTask) := by
    rw [htasks]
    exact (hapart.of_subperm hperm.subperm).distinct
  rw [hyields.perform_snd, hyields'.perform_snd]
  exact hcourse.occupancy_eq_of_perm hsuffix hcourse' hdistinct hsame location

/-- Runs over payloads at one reading of the clock.  The payloads are apart, the filter breaks down
for none of them, and some of them are taken in any order.  There is a report, and its units are
those of the runs over each payload alone, except that a fault of the output directory may change
its reason where the directory's path leads upwards.  Afterwards every written artifact holds its
own declaration; nothing else has changed but for the output directory and those above it; every
unit has been counted once; and in another order of the same payloads the files hold the same. -/
theorem generateValues_isolated (settings : Settings) (hauto : settings.autoGenerate = true)
    (hsuffix : '/' ∉ settings.valueSuffix.toList) (filter? : Option String)
    (replacement : Replacement) (session : Session) (htree : session.files.IsTree)
    {paths chosen : List String} (hapart : Apart settings filter? session paths)
    (hchosen : chosen.Subperm paths) :
    let run := fun these => session.perform
      (generateValues settings none filter? replacement these)
    let after := (run chosen).2.files
    ∃ (report : Report) (alone : List Report), (run chosen).1 = .ok report ∧
      List.Forall₂ (fun path report => (run [path]).1 = .ok report) chosen alone ∧
      List.Forall₂ (fun unit other => unit.name = other.name ∧
        Alike settings unit.result other.result) report.units (alone.flatMap Report.units) ∧
      (∀ unit ∈ report.units, ∀ artifact, unit.result = .ok (.written artifact) →
        ∃ path ∈ chosen, ∃ tasks declaration,
          tasksIn settings filter? session.now session.files path = .ok tasks ∧
          ⟨unit.name, .ok declaration⟩ ∈ tasks ∧
          artifact = settings.artifactPath declaration.name ∧
          after.read artifact = .ok (declaration.render settings.dialect settings.excludedColumns
            session.stamp).toUTF8.toList) ∧
      (∀ location, (∀ unit ∈ report.units, ∀ artifact, unit.result = .ok (.written artifact) →
          after.locate artifact ≠ .ok location) →
        after.occupancy location = session.files.occupancy location ∨
        session.files.occupancy location = .vacant ∧ after.occupancy location = .directory ∧
          ∃ above, Path.Ancestor settings.outputPath above ∧ after.locate above = .ok location) ∧
      report.written + report.skipped + report.failed = report.units.length ∧
      ∀ again, again.Perm chosen → ∀ location,
        (run again).2.files.occupancy location = after.occupancy location := by
  intro run after
  have hapartChosen := hapart.of_subperm hchosen
  obtain ⟨steps, last, htasks, hcourse, hyields⟩ :=
    generateValues_apart hauto hsuffix replacement htree hapartChosen
  have hdistinct : Distinct settings (steps.map Step.toTask) := htasks ▸ hapartChosen.distinct
  have hsingle : ∀ path ∈ chosen, Apart settings filter? session [path] :=
    fun path hpath => hapartChosen.of_subperm (List.singleton_subperm_iff.2 hpath)
  obtain ⟨others, alone, hothers, hends, hruns, halone⟩ :=
    exists_steps_alone hauto hsuffix replacement htree hsingle
  have hafter : after = last := hyields.perform_snd
  refine ⟨⟨steps.map Step.report⟩, alone, hyields.perform_fst, hruns, ?_, ?_, ?_,
    Report.written_add_skipped_add_failed _, ?_⟩
  · rw [halone]
    exact forall₂_alike htree (htasks.trans hothers.symm)
      (fun step hstep => hcourse.ends hsuffix hdistinct hstep) hends
  · intro unit hunit artifact hwritten
    obtain ⟨step, hstep, rfl⟩ := List.mem_map.1 hunit
    obtain ⟨declaration, hdeclared, hpath, hread⟩ :=
      hcourse.read_of_written hsuffix hdistinct hstep hwritten
    have htask : step.toTask ∈
        chosen.flatMap (tasksBy settings filter? session.now session.files) := by
      rw [← htasks]
      exact List.mem_map_of_mem hstep
    obtain ⟨path, hmem, htask⟩ := List.mem_flatMap.1 htask
    obtain ⟨tasks, hgiven, htask⟩ := mem_tasksBy.1 htask
    refine ⟨path, hmem, tasks, declaration, hgiven, ?_, hpath, ?_⟩
    · rw [← hdeclared]
      exact htask
    · rw [hafter]
      exact hread
  · intro location hother
    rw [hafter] at hother ⊢
    refine hcourse.growth.of_not_written ?_
    rintro ⟨step, hstep, artifact, hwritten, hlocate⟩
    exact hother step.report (List.mem_map_of_mem hstep) artifact hwritten hlocate
  · intro again hperm
    exact occupancy_generateValues_of_perm hauto hsuffix replacement htree hapartChosen hperm

end

/-- Two payloads, and a file that is none. -/
def twoPayloads : Session where
  files := {
    entries :=
      [(["a.json".toList], .file "\x7b\"a\":1\x7d".toUTF8.toList 0),
        (["b.json".toList], .file "\x7b\"b\":1\x7d".toUTF8.toList 0),
        (["taken".toList], .file [] 0)]
    home := [] }
  now := 0
  stamp := ""

theorem isTree_twoPayloads : twoPayloads.files.IsTree :=
  Files.isTree_of_entries (by decide)

/-- Two payloads with one between them that is not there. -/
theorem apart_twoPayloads : Apart {} none twoPayloads ["a.json", "c.json", "b.json"] where
  unbroken := fun path _ => tasksIn_unfiltered {} twoPayloads.now twoPayloads.files path
  downward := by decide
  artifacts := by decide +kernel
  payloads := by
    intro _ path hpath artifact hartifact location hlocate hthere
    have hne : ∀ path ∈ ["a.json", "c.json", "b.json"],
        ∀ artifact ∈ ["a.json", "c.json", "b.json"].flatMap
          (artifactsIn {} none twoPayloads.now twoPayloads.files),
        (twoPayloads.perform (ensureOutput {})).2.files.locate path ≠
          (twoPayloads.perform (ensureOutput {})).2.files.locate artifact := by decide +kernel
    exact absurd (hlocate.trans hthere.symm) (hne path hpath artifact hartifact)

/-- Without the payload that is not there the others end in the same way, and in the other order the
files hold the same. -/
theorem generateValues_isolated_twoPayloads :
    let run := fun these => twoPayloads.perform (generateValues {} none none .whenStale these)
    (run ["a.json", "c.json", "b.json"]).1 = .ok ⟨[⟨"a", .ok (.written "types/AType.ts")⟩,
        ⟨"c", .error (.absent .payload "c.json")⟩, ⟨"b", .ok (.written "types/BType.ts")⟩]⟩ ∧
      (run ["b.json", "a.json"]).1 = .ok ⟨[⟨"b", .ok (.written "types/BType.ts")⟩,
        ⟨"a", .ok (.written "types/AType.ts")⟩]⟩ ∧
      ∀ location, (run ["a.json", "b.json"]).2.files.occupancy location =
        (run ["b.json", "a.json"]).2.files.occupancy location := by
  intro run
  have hchosen : ["b.json", "a.json"].Subperm ["a.json", "c.json", "b.json"] := by decide
  obtain ⟨-, -, -, -, -, -, -, -, hfiles⟩ := generateValues_isolated {} rfl (by decide) none
    .whenStale twoPayloads isTree_twoPayloads apart_twoPayloads hchosen
  exact ⟨by decide +kernel, by decide +kernel, hfiles ["a.json", "b.json"] (by decide)⟩

/-- Two payloads that are texts. -/
def twoTexts : Session where
  files := {
    entries :=
      [(["a.json".toList], .file "\"ab\"".toUTF8.toList 0),
        (["b.json".toList], .file "\"c\"".toUTF8.toList 0)]
    home := [] }
  now := 0
  stamp := ""

theorem isTree_twoTexts : twoTexts.files.IsTree :=
  Files.isTree_of_entries (by decide)

/-- The units of a run are not always those of the runs over each payload alone.  One reason is a
path of the output directory that leads upwards: the first of two payloads makes a directory before
it meets the file in the way, and the second one meets the file at once.  Another is a payload that
is an artifact by another path.  And the order of payloads is not always without a difference: where
the filter breaks down for one of them, those behind it have no turn. -/
theorem not_forall_units_alone :
    (¬ ∀ (settings : Settings) (filter? : Option String) (replacement : Replacement)
      (session : Session) (paths : List String), settings.autoGenerate = true →
      '/' ∉ settings.valueSuffix.toList → session.files.IsTree →
      Apart settings filter? session paths → ∀ (report : Report) (alone : List Report),
      (session.perform (generateValues settings none filter? replacement paths)).1 =
        .ok report →
      paths.map (fun path =>
        (session.perform (generateValues settings none filter? replacement [path])).1) =
        alone.map .ok →
      report.units = alone.flatMap Report.units) ∧
    (¬ ∀ (settings : Settings) (filter? : Option String) (replacement : Replacement)
      (session : Session) (paths : List String), settings.autoGenerate = true →
      '/' ∉ settings.valueSuffix.toList → session.files.IsTree →
      ['.', '.'] ∉ Path.parts settings.outputPath.toList →
      (∀ path ∈ paths, ['.', '.'] ∉ Path.parts path.toList) →
      (paths.flatMap (artifactsIn settings filter? session.now session.files)).Nodup →
      (∀ path ∈ paths,
        path ∉ paths.flatMap (artifactsIn settings filter? session.now session.files)) →
      ∀ (report : Report) (alone : List Report),
      (session.perform (generateValues settings none filter? replacement paths)).1 =
        .ok report →
      paths.map (fun path =>
        (session.perform (generateValues settings none filter? replacement [path])).1) =
        alone.map .ok →
      report.units = alone.flatMap Report.units) ∧
    ¬ ∀ (settings : Settings) (filter? : Option String) (replacement : Replacement)
      (session : Session) (paths again : List String), settings.autoGenerate = true →
      '/' ∉ settings.valueSuffix.toList → session.files.IsTree →
      ['.', '.'] ∉ Path.parts settings.outputPath.toList →
      (∀ path ∈ paths, ['.', '.'] ∉ Path.parts path.toList) →
      (paths.flatMap (artifactsIn settings filter? session.now session.files)).Nodup →
      (∀ path ∈ paths,
        path ∉ paths.flatMap (artifactsIn settings filter? session.now session.files)) →
      again.Perm paths → ∀ location,
      (session.perform (generateValues settings none filter? replacement again)).2.files.occupancy
          location =
        (session.perform (generateValues settings none filter? replacement paths)).2.files.occupancy
          location := by
  refine ⟨?_, ?_, ?_⟩
  · intro h
    have hapart : Apart climbing none twoPayloads ["a.json", "b.json"] :=
      ⟨fun path _ => tasksIn_unfiltered climbing twoPayloads.now twoPayloads.files path,
        by decide, by decide +kernel, fun hmade => absurd hmade (by decide +kernel)⟩
    have hunits := h climbing none .whenStale twoPayloads ["a.json", "b.json"] rfl (by decide)
      isTree_twoPayloads hapart
      ⟨[⟨"a", .error (.file "new/../taken/types" .occupied)⟩,
        ⟨"b", .error (.file "new/../taken/types" .notDirectory)⟩]⟩
      [⟨[⟨"a", .error (.file "new/../taken/types" .occupied)⟩]⟩,
        ⟨[⟨"b", .error (.file "new/../taken/types" .occupied)⟩]⟩]
      (by decide +kernel) (by decide +kernel)
    exact absurd hunits (by decide)
  · intro h
    have hunits := h {} none .whenStale twoPayloads ["a.json", "./types/AType.ts"] rfl (by decide)
      isTree_twoPayloads (by decide) (by decide) (by decide +kernel) (by decide +kernel)
      ⟨[⟨"a", .ok (.written "types/AType.ts")⟩, ⟨"AType", .error (.malformed "./types/AType.ts"
        "at JSON path . → expected value at line 1 column 1")⟩]⟩
      [⟨[⟨"a", .ok (.written "types/AType.ts")⟩]⟩,
        ⟨[⟨"AType", .error (.absent .payload "./types/AType.ts")⟩]⟩]
      (by decide +kernel) (by decide +kernel)
    exact absurd hunits (by decide)
  · intro h
    have hoccupancy := h {} (some "\x7bx: matches(\"((a)|b)+\"; \"g\")\x7d") .whenStale twoTexts
      ["a.json", "b.json"] ["b.json", "a.json"] rfl (by decide) isTree_twoTexts (by decide)
      (by decide) (by decide +kernel) (by decide +kernel) (by decide)
      ["types".toList, "BType.ts".toList]
    exact absurd hoccupancy (by decide +kernel)

end Generation
end ResponseTypes
