import ResponseTypes.Proofs.OutputFootprint

/-!
# Runs over payloads

A run over payloads is a course of steps.  Each step has something to declare, or a reason why it
has nothing, and ends with a result.  What there is to declare is read when the turn of its payload
comes; from there on a step looks at nothing but the output directory and its own artifact.  Where
the filter breaks down for a payload, the course ends before it.

Up to the first step that has something to declare, nothing happens to the files.  This step makes
the output directory.  If it fails, all others fail at the same place; if it does not, the output
directory is there for all others, and what is left of a step is to look at its artifact and to
write it.

## Main definitions

- `Generation.Task`, `Generation.tasksIn`: what a payload gives to declare.
- `Generation.place`: a declaration that is put into an output directory which is there.
- `Generation.Course`: steps one after the other; `Generation.PayloadCourse`: those of payloads.

## Main statements

- `Generation.generateValues_yields`: a run over payloads is a course.
- `Generation.Course.trichotomy`: nothing to declare, no output directory, or one for all steps.
- `Generation.Course.occupancy_of_last`: an artifact holds what was written last.
-/

namespace ResponseTypes

open Session

/-! ## Reading payloads -/

namespace Payload

/-- The documents of a payload at a reading of the clock, by the content of its file, if there is
one. -/
def ofContent (path : String) (filter? : Option String) (now : Int) :
    Option Bytes → Upshot (List Json)
  | none => .ok (.error (.absent .payload path))
  | some content =>
    match documentOf path content with
    | .error failure => .ok (.error failure)
    | .ok document =>
      match filter? with
      | none => .ok (.ok [document])
      | some filter => Filter.run now filter document

/-- Without a filter the time makes no difference. -/
theorem ofContent_unfiltered (path : String) (t t' : Int) (content? : Option Bytes) :
    ofContent path none t content? = ofContent path none t' content? := by
  cases content? <;> rfl

/-- Loading a payload reads its file, and the clock for a filter. -/
theorem load_yields (path : String) (filter? : Option String) (files : Files) (t : Int)
    (date : String) : Yields (load path filter?) t date files
      (ofContent path filter? t (files.read path).toOption) files := by
  refine (Yields.isFile path files).bind ?_
  cases hfile : files.isFile path with
  | false =>
    cases hread : files.read path with
    | error fault => exact .pure _ _
    | ok content =>
      obtain ⟨location, hlocate, hoccupancy⟩ := Files.read_eq_ok.1 hread
      rw [Files.isFile_iff.2 ⟨location, content, hlocate, hoccupancy⟩] at hfile
      cases hfile
  | true =>
    obtain ⟨location, content, hlocate, hoccupancy⟩ := Files.isFile_iff.1 hfile
    refine (Yields.read path files).bind ?_
    rw [Files.read_eq_ok.2 ⟨location, hlocate, hoccupancy⟩]
    dsimp only [Except.toOption, ofContent]
    cases documentOf path content with
    | error failure => exact .pure _ _
    | ok document =>
      cases filter? with
      | none => exact .pure _ _
      | some filter => exact (Yields.now files).bind (.pure _ _)

end Payload

namespace Generation

variable {settings : Settings} {replacement : Replacement} {t : Int} {date : String}
variable {initial files between after : Files}

/-- What there is to declare under a name, or why there is nothing. -/
structure Task where
  name : String
  declaration : Except Failure Declaration
deriving DecidableEq

/-- A task with what became of it. -/
structure Step extends Task where
  result : Except Failure Outcome

deriving instance DecidableEq for UnitReport, Report

/-- A step as it is reported. -/
def Step.report (step : Step) : UnitReport :=
  ⟨step.name, step.result⟩

/-- The task of a document. -/
def documentTask (settings : Settings) (path name : String) (document : Json) : Task :=
  ⟨name, valueDeclaration settings name path document⟩

/-- The tasks of several documents of one payload. -/
def numberedTasks (settings : Settings) (path : String) (documents : List Json) : List Task :=
  documents.zipIdx.map fun (document, i) =>
    documentTask settings path (unitName path ++ "." ++ toString (i + 1)) document

/-- The tasks of a payload by its documents. -/
def tasksOf (settings : Settings) (path : String) : Except Failure (List Json) → List Task
  | .error failure => [⟨unitName path, .error failure⟩]
  | .ok [] => [⟨unitName path, .error (.unsupported path "filter produced no documents")⟩]
  | .ok [document] => [documentTask settings path (unitName path) document]
  | .ok documents => numberedTasks settings path documents

/-- The tasks of a payload by what its file holds and by the clock, if the filter gives any. -/
def tasksIn (settings : Settings) (filter? : Option String) (now : Int) (files : Files)
    (path : String) : Except Breakdown (List Task) :=
  (Payload.ofContent path filter? now (files.read path).toOption).map (tasksOf settings path)

/-- What a task declares is named after the task. -/
theorem name_of_mem_tasksOf {path : String} {documents : Except Failure (List Json)} {task : Task}
    (htask : task ∈ tasksOf settings path documents) {declaration : Declaration}
    (h : task.declaration = .ok declaration) :
    declaration.name = Naming.typeName task.name settings.valueSuffix := by
  rcases documents with failure | (_ | ⟨document, _ | ⟨second, rest⟩⟩)
  · rw [List.mem_singleton.1 htask] at h
    cases h
  · rw [List.mem_singleton.1 htask] at h
    cases h
  · rw [List.mem_singleton.1 htask] at h ⊢
    exact name_of_valueDeclaration h
  · obtain ⟨item, -, rfl⟩ := List.mem_map.1 htask
    exact name_of_valueDeclaration h

/-! ## One declaration -/

/-- Whether a file is left as it is, by what is there. -/
def isKeptIn (settings : Settings) (replacement : Replacement) (t : Int) (files : Files)
    (path : String) : Bool :=
  match replacement with
  | .always => false
  | .whenStale =>
    match files.modified? path with
    | none => false
    | some time => Freshness.isYounger time (window settings) t

theorem isKept_yields (settings : Settings) (replacement : Replacement) (t : Int) (date : String)
    (files : Files) (path : String) : Yields (isKept settings replacement path) t date files
      (isKeptIn settings replacement t files path) files := by
  cases replacement with
  | always => exact .pure _ _
  | whenStale =>
    refine (Yields.modified? path files).bind ?_
    rw [isKeptIn]
    cases files.modified? path with
    | none => exact .pure _ _
    | some time => exact (Yields.now files).bind (.pure _ _)

/-- A declaration that is put into an output directory which is there: what becomes of it, and the
files after it. -/
def place (settings : Settings) (replacement : Replacement) (t : Int) (date : String)
    (files : Files) (declaration : Declaration) : Except Failure Outcome × Files :=
  let path := settings.artifactPath declaration.name
  if isKeptIn settings replacement t files path then (.ok (.fresh path), files)
  else
    match files.write path (content settings declaration date) t with
    | .error fault => (.error (.file path fault), files)
    | .ok after => (.ok (.written path), after)

section

variable {declaration : Declaration}

theorem place_of_kept
    (h : isKeptIn settings replacement t files (settings.artifactPath declaration.name) = true) :
    place settings replacement t date files declaration =
      (.ok (.fresh (settings.artifactPath declaration.name)), files) := by
  rw [place, h]
  rfl

theorem place_of_error {fault : FileFault}
    (h : isKeptIn settings replacement t files (settings.artifactPath declaration.name) = false)
    (hwrite : files.write (settings.artifactPath declaration.name)
      (content settings declaration date) t = .error fault) :
    place settings replacement t date files declaration =
      (.error (.file (settings.artifactPath declaration.name) fault), files) := by
  rw [place, h, hwrite]
  rfl

theorem place_of_ok
    (h : isKeptIn settings replacement t files (settings.artifactPath declaration.name) = false)
    (hwrite : files.write (settings.artifactPath declaration.name)
      (content settings declaration date) t = .ok after) :
    place settings replacement t date files declaration =
      (.ok (.written (settings.artifactPath declaration.name)), after) := by
  rw [place, h, hwrite]
  rfl

/-- A declaration is only reported as written if it is. -/
theorem write_of_place_written {path : String}
    (h : (place settings replacement t date files declaration).1 = .ok (.written path)) :
    path = settings.artifactPath declaration.name ∧
      files.write path (content settings declaration date) t =
        .ok (place settings replacement t date files declaration).2 := by
  cases hkept : isKeptIn settings replacement t files
      (settings.artifactPath declaration.name) with
  | true =>
    rw [place_of_kept hkept] at h
    cases h
  | false =>
    cases hwrite : files.write (settings.artifactPath declaration.name)
        (content settings declaration date) t with
    | error fault =>
      rw [place_of_error hkept hwrite] at h
      cases h
    | ok after =>
      rw [place_of_ok hkept hwrite] at h ⊢
      obtain rfl := Outcome.written.inj (Except.ok.inj h)
      exact ⟨rfl, hwrite⟩

/-- A declaration that is not reported as written leaves the files as they are. -/
theorem place_of_not_written
    (h : (place settings replacement t date files declaration).1 ≠
      .ok (.written (settings.artifactPath declaration.name))) :
    (place settings replacement t date files declaration).2 = files := by
  cases hkept : isKeptIn settings replacement t files
      (settings.artifactPath declaration.name) with
  | true => rw [place_of_kept hkept]
  | false =>
    cases hwrite : files.write (settings.artifactPath declaration.name)
        (content settings declaration date) t with
    | error fault => rw [place_of_error hkept hwrite]
    | ok after =>
      rw [place_of_ok hkept hwrite] at h
      exact absurd rfl h

/-- A declaration changes the artifact that is reported as written, and nothing else. -/
theorem place_growth (settings : Settings) (replacement : Replacement) (t : Int) (date : String)
    (files : Files) (declaration : Declaration) :
    Files.Growth (fun _ => False) (fun location => ∃ path,
      (place settings replacement t date files declaration).1 = .ok (.written path) ∧
      (place settings replacement t date files declaration).2.locate path = .ok location) files
      (place settings replacement t date files declaration).2 := by
  by_cases hwritten : (place settings replacement t date files declaration).1 =
      .ok (.written (settings.artifactPath declaration.name))
  · obtain ⟨-, hwrite⟩ := write_of_place_written hwritten
    exact (Files.write_growth hwrite).mono (fun _ => id) fun _ hlocate => ⟨_, hwritten, hlocate⟩
  · rw [place_of_not_written hwritten]
    exact .refl files

end

/-- What becomes of a declaration, and the files after it. -/
inductive Writes (settings : Settings) (replacement : Replacement) (t : Int) (date : String)
    (files : Files) (declaration : Declaration) : Except Failure Outcome → Files → Prop where
  /-- the output directory cannot be made -/
  | homeless {fault : FileFault} {after : Files} :
      Files.Creates t files settings.outputPath (.error fault) after →
      Writes settings replacement t date files declaration
        (.error (.file settings.outputPath fault)) after
  | housed {between : Files} : Files.Creates t files settings.outputPath (.ok ()) between →
      Writes settings replacement t date files declaration
        (place settings replacement t date between declaration).1
        (place settings replacement t date between declaration).2

theorem write_yields (settings : Settings) (replacement : Replacement) (t : Int) (date : String)
    (files : Files) (declaration : Declaration) :
    ∃ result after, Writes settings replacement t date files declaration result after ∧
      Yields (write settings replacement declaration) t date files result after := by
  obtain ⟨made, between, hcreates, hensure⟩ := ensureOutput_yields settings t date files
  cases made with
  | error fault => exact ⟨_, _, .homeless hcreates, hensure.bind (.pure _ _)⟩
  | ok _ =>
    refine ⟨_, _, .housed hcreates, hensure.bind ((isKept_yields _ _ _ _ _ _).bind ?_)⟩
    rw [place]
    cases isKeptIn settings replacement t between (settings.artifactPath declaration.name) with
    | true => exact (Yields.report _ _).bind (.pure _ _)
    | false =>
      cases hwrite : between.write (settings.artifactPath declaration.name)
          (content settings declaration date) t with
      | error fault => exact writeTo_error hwrite
      | ok after => exact writeTo_ok hwrite

theorem Writes.unique {declaration : Declaration} {result result' : Except Failure Outcome}
    {after' : Files} (h : Writes settings replacement t date files declaration result after)
    (h' : Writes settings replacement t date files declaration result' after') :
    result = result' ∧ after = after' := by
  cases h with
  | homeless hcreates =>
    cases h' with
    | homeless hcreates' =>
      obtain ⟨hfault, rfl⟩ := hcreates.unique hcreates'
      simp_all
    | housed hcreates' => cases (hcreates.unique hcreates').1
  | housed hcreates =>
    cases h' with
    | homeless hcreates' => cases (hcreates.unique hcreates').1
    | housed hcreates' =>
      obtain ⟨-, rfl⟩ := hcreates.unique hcreates'
      exact ⟨rfl, rfl⟩

/-! ## One step after the other -/

/-- What becomes of a task, and the files after it. -/
inductive Settles (settings : Settings) (replacement : Replacement) (t : Int) (date : String)
    (files : Files) : Step → Files → Prop where
  | undeclared {name : String} {failure : Failure} :
      Settles settings replacement t date files ⟨⟨name, .error failure⟩, .error failure⟩ files
  | declared {name : String} {declaration : Declaration} {result : Except Failure Outcome}
      {after : Files} : Writes settings replacement t date files declaration result after →
      Settles settings replacement t date files ⟨⟨name, .ok declaration⟩, result⟩ after

/-- Steps one after the other. -/
inductive Course (settings : Settings) (replacement : Replacement) (t : Int) (date : String) :
    Files → List Step → Files → Prop where
  | nil (files : Files) : Course settings replacement t date files [] files
  | cons {files between after : Files} {step : Step} {steps : List Step} :
      Settles settings replacement t date files step between →
      Course settings replacement t date between steps after →
      Course settings replacement t date files (step :: steps) after

/-- The steps of payloads one after the other, each payload read when its turn comes, and how they
end: after the last payload, or before one for which the filter breaks down. -/
inductive PayloadCourse (settings : Settings) (filter? : Option String)
    (replacement : Replacement) (t : Int) (date : String) :
    Files → List String → List Step → Except Breakdown Unit → Files → Prop where
  | nil (files : Files) :
      PayloadCourse settings filter? replacement t date files [] [] (.ok ()) files
  | broken {files : Files} {path : String} {paths : List String} {reason : Breakdown} :
      tasksIn settings filter? t files path = .error reason →
      PayloadCourse settings filter? replacement t date files (path :: paths) [] (.error reason)
        files
  | cons {files between after : Files} {path : String} {paths : List String}
      {steps others : List Step} {ending : Except Breakdown Unit} :
      tasksIn settings filter? t files path = .ok (steps.map Step.toTask) →
      Course settings replacement t date files steps between →
      PayloadCourse settings filter? replacement t date between paths others ending after →
      PayloadCourse settings filter? replacement t date files (path :: paths) (steps ++ others)
        ending after

namespace Course

variable {steps : List Step}

theorem append {others : List Step} (h : Course settings replacement t date files steps between)
    (hothers : Course settings replacement t date between others after) :
    Course settings replacement t date files (steps ++ others) after := by
  induction h with
  | nil => exact hothers
  | cons hsettles _ ih => exact .cons hsettles (ih hothers)

/-- A course can be cut between any two of its steps. -/
theorem split {others : List Step}
    (h : Course settings replacement t date files (steps ++ others) after) :
    ∃ between, Course settings replacement t date files steps between ∧
      Course settings replacement t date between others after := by
  induction steps generalizing files with
  | nil => exact ⟨files, .nil files, h⟩
  | cons step steps ih =>
    cases h with
    | cons hsettles hcourse =>
      obtain ⟨between, hsteps, hothers⟩ := ih hcourse
      exact ⟨between, .cons hsettles hsteps, hothers⟩

/-- Every step of a course settles its task. -/
theorem settles_of_mem (h : Course settings replacement t date files steps after) {step : Step}
    (hstep : step ∈ steps) :
    ∃ before next, Settles settings replacement t date before step next := by
  obtain ⟨earlier, later, rfl⟩ := List.append_of_mem hstep
  obtain ⟨before, -, hrest⟩ := h.split
  cases hrest with
  | @cons _ next _ _ _ hsettles _ => exact ⟨before, next, hsettles⟩

end Course

theorem PayloadCourse.course {filter? : Option String} {paths : List String} {steps : List Step}
    {ending : Except Breakdown Unit}
    (h : PayloadCourse settings filter? replacement t date files paths steps ending after) :
    Course settings replacement t date files steps after := by
  induction h with
  | nil files => exact .nil files
  | broken => exact .nil _
  | cons _ hcourse _ ih => exact hcourse.append ih

/-! ## What a course leaves behind -/

/-- The locations of the artifacts that steps have written. -/
def Wrote (steps : List Step) (files : Files) (location : Location) : Prop :=
  ∃ step ∈ steps, ∃ path, step.result = .ok (.written path) ∧ files.locate path = .ok location

theorem Wrote.grown {steps : List Step} {made written : Location → Prop}
    (h : Files.Growth made written files after) {location : Location}
    (hwrote : Wrote steps files location) : Wrote steps after location := by
  obtain ⟨step, hstep, path, hwritten, hlocate⟩ := hwrote
  exact ⟨step, hstep, path, hwritten, Files.locate_grown h hlocate⟩

/-- What a step has written is still there at the end of the run that it begins. -/
theorem Wrote.of_head {step : Step} {steps : List Step} {made written : Location → Prop}
    (h : Files.Growth made written between after) {location : Location}
    (hwrote : Wrote [step] between location) : Wrote (step :: steps) after location := by
  obtain ⟨one, hone, hwritten⟩ := hwrote.grown h
  rw [List.mem_singleton] at hone
  exact ⟨one, List.mem_cons.2 (.inl hone), hwritten⟩

theorem Wrote.of_tail {step : Step} {steps : List Step} {location : Location}
    (hwrote : Wrote steps files location) : Wrote (step :: steps) files location := by
  obtain ⟨one, hone, hwritten⟩ := hwrote
  exact ⟨one, List.mem_cons_of_mem step hone, hwritten⟩

/-- A step ends with a written file only if it declares something, and then the file is its
artifact. -/
theorem Settles.declaration_of_written {step : Step} {path : String}
    (h : Settles settings replacement t date files step after)
    (hwritten : step.result = .ok (.written path)) :
    ∃ declaration, step.declaration = .ok declaration ∧
      path = settings.artifactPath declaration.name := by
  cases h with
  | undeclared => cases hwritten
  | @declared _ declaration _ _ hwrites =>
    cases hwrites with
    | homeless => cases hwritten
    | housed => exact ⟨declaration, rfl, (write_of_place_written hwritten).1⟩

/-- A step makes the output directory and those above it, and writes its artifact if it says so. -/
theorem Settles.growth {step : Step} (h : Settles settings replacement t date files step after) :
    Files.Growth (after.IsAbove settings.outputPath) (Wrote [step] after) files after := by
  cases h with
  | undeclared => exact .refl files
  | @declared name declaration _ _ hwrites =>
    cases hwrites with
    | homeless hcreates => exact hcreates.growth _
    | @housed between hcreates =>
      have hplace := place_growth settings replacement t date between declaration
      refine Files.Growth.trans ((hcreates.growth _).mono
        (fun _ habove => habove.grown hplace) fun _ => id)
        (hplace.mono (fun _ => False.elim) fun location hwrote => ?_)
      exact ⟨_, List.mem_singleton_self _, hwrote⟩

/-- A course makes the output directory and those above it, and writes the artifacts that it
reports. -/
theorem Course.growth {steps : List Step}
    (h : Course settings replacement t date files steps after) :
    Files.Growth (after.IsAbove settings.outputPath) (Wrote steps after) files after := by
  induction h with
  | nil files => exact .refl files
  | @cons files between after step steps hsettles hcourse ih =>
    exact Files.Growth.trans
      (hsettles.growth.mono (fun _ habove => habove.grown ih) fun _ hwrote => hwrote.of_head ih)
      (ih.mono (fun _ => id) fun _ hwrote => hwrote.of_tail)

/-- A step that has nothing to declare ends with the reason. -/
theorem Course.result_of_undeclared {steps : List Step}
    (h : Course settings replacement t date files steps after) {step : Step} (hstep : step ∈ steps)
    {failure : Failure} (hnone : step.declaration = .error failure) :
    step.result = .error failure := by
  obtain ⟨before, next, hsettles⟩ := h.settles_of_mem hstep
  cases hsettles with
  | undeclared => exact congrArg _ (Except.error.inj hnone)
  | declared => cases hnone

/-! ## Making the output directory -/

/-- The output directory is there, unless it is the home directory and needs no name. -/
def Housed (settings : Settings) (files : Files) : Prop :=
  settings.outputPath ≠ "" → files.isDirectory settings.outputPath = true

theorem Housed.creates (h : Housed settings files) (t : Int) :
    Files.Creates t files settings.outputPath (.ok ()) files :=
  Files.creates_of_isDirectory h

theorem Housed.grown {made written : Location → Prop}
    (h : Files.Growth made written files after) (hhoused : Housed settings files) :
    Housed settings after :=
  fun hne => Files.isDirectory_grown h (hhoused hne)

theorem housed_of_creates (h : Files.Creates t files settings.outputPath (.ok ()) after) :
    Housed settings after :=
  h.isDirectory

/-- Once the output directory is there a declaration is only put into it. -/
theorem Writes.of_housed (hhoused : Housed settings files) {declaration : Declaration}
    {result : Except Failure Outcome}
    (h : Writes settings replacement t date files declaration result after) :
    result = (place settings replacement t date files declaration).1 ∧
      after = (place settings replacement t date files declaration).2 :=
  h.unique (.housed (hhoused.creates t))

/-- A course has nothing to declare and leaves the files as they are; or it does not get its output
directory, and neither does any of its steps; or the output directory is made before everything
else. -/
theorem Course.trichotomy {steps : List Step}
    (h : Course settings replacement t date files steps after) :
    ((∀ step ∈ steps, ∀ declaration, step.declaration ≠ .ok declaration) ∧ after = files) ∨
    (∃ fault, Files.Creates t files settings.outputPath (.error fault) after ∧
      ∀ step ∈ steps, ∀ declaration, step.declaration = .ok declaration → ∃ again,
        step.result = .error (.file settings.outputPath again) ∧
        (Files.Creates t files settings.outputPath (.error again) after ∨
          Files.Creates t after settings.outputPath (.error again) after)) ∨
    ∃ between, Files.Creates t files settings.outputPath (.ok ()) between ∧
      Course settings replacement t date between steps after := by
  induction h with
  | nil files => exact .inl ⟨by simp, rfl⟩
  | @cons files between after step steps hsettles hcourse ih =>
    cases hsettles with
    | undeclared =>
      rcases ih with ⟨hnone, rfl⟩ | ⟨fault, hcreates, hfails⟩ | ⟨made, hcreates, hmade⟩
      · exact .inl ⟨List.forall_mem_cons.2 ⟨nofun, hnone⟩, rfl⟩
      · exact .inr (.inl ⟨fault, hcreates, List.forall_mem_cons.2 ⟨nofun, hfails⟩⟩)
      · exact .inr (.inr ⟨made, hcreates, .cons .undeclared hmade⟩)
    | declared hwrites =>
      cases hwrites with
      | @homeless fault _ hcreates =>
        obtain ⟨-, again, -, hretry⟩ := hcreates.retry
        right
        left
        rcases ih with ⟨hnone, rfl⟩ | ⟨fault', hcreates', hfails⟩ | ⟨made, hcreates', -⟩
        · refine ⟨fault, hcreates, List.forall_mem_cons.2
            ⟨fun _ _ => ⟨fault, rfl, .inl hcreates⟩, fun step hstep declaration hdeclared => ?_⟩⟩
          exact absurd hdeclared (hnone step hstep declaration)
        · obtain ⟨-, rfl⟩ := hretry.unique hcreates'
          refine ⟨fault, hcreates, List.forall_mem_cons.2
            ⟨fun _ _ => ⟨fault, rfl, .inl hcreates⟩, fun step hstep declaration hdeclared => ?_⟩⟩
          obtain ⟨last, hresult, hlast | hlast⟩ := hfails step hstep declaration hdeclared
          · exact ⟨last, hresult, .inr hlast⟩
          · exact ⟨last, hresult, .inr hlast⟩
        · cases (hretry.unique hcreates').1
      | @housed made hcreates =>
        have hhoused : Housed settings made := housed_of_creates hcreates
        exact .inr (.inr ⟨made, hcreates,
          .cons (.declared (.housed (hhoused.creates t))) hcourse⟩)

/-! ## Courses in an output directory that is there -/

/-- The path of the artifact that a task has to write. -/
def Task.path? (settings : Settings) (task : Task) : Option String :=
  match task.declaration with
  | .ok declaration => some (settings.artifactPath declaration.name)
  | .error _ => none

theorem Task.path?_eq_some {task : Task} {path : String} : task.path? settings = some path ↔
    ∃ declaration, task.declaration = .ok declaration ∧
      path = settings.artifactPath declaration.name := by
  rw [path?]
  cases task.declaration <;> simp [eq_comm]

/-- The bytes that a step writes if it writes at all. -/
def Step.content (settings : Settings) (date : String) (step : Step) : Bytes :=
  match step.declaration with
  | .ok declaration => Generation.content settings declaration date
  | .error _ => []

/-- A written artifact is at its location, with the time of the run. -/
theorem at?_of_place_written {declaration : Declaration} {path : String}
    (h : (place settings replacement t date files declaration).1 = .ok (.written path))
    {location : Location} (hlocate : files.locate path = .ok location) :
    (place settings replacement t date files declaration).2.at? location =
      some (.file (content settings declaration date) t) := by
  obtain ⟨-, hwrite⟩ := write_of_place_written h
  obtain ⟨found, hfound, -, hentry, -⟩ := Files.at?_of_write hwrite
  obtain rfl := Except.ok.inj (hfound.symm.trans hlocate)
  exact hentry

/-- In an output directory that is there a step has nothing to declare, or puts its declaration
there. -/
theorem Settles.of_housed (hhoused : Housed settings files) {step : Step}
    (h : Settles settings replacement t date files step after) :
    (∃ failure, step.declaration = .error failure ∧ step.result = .error failure ∧
      after = files) ∨
    ∃ declaration, step.declaration = .ok declaration ∧
      step.result = (place settings replacement t date files declaration).1 ∧
      after = (place settings replacement t date files declaration).2 := by
  cases h with
  | undeclared => exact .inl ⟨_, rfl, rfl, rfl⟩
  | declared hwrites => exact .inr ⟨_, rfl, hwrites.of_housed hhoused⟩

theorem Settles.of_declared (hhoused : Housed settings files) {step : Step}
    {declaration : Declaration} (hdeclared : step.declaration = .ok declaration)
    (h : Settles settings replacement t date files step after) :
    step.result = (place settings replacement t date files declaration).1 ∧
      after = (place settings replacement t date files declaration).2 := by
  rcases h.of_housed hhoused with ⟨_, hfailed, -, -⟩ | ⟨_, hdeclared', hplace⟩
  · rw [hdeclared] at hfailed
    cases hfailed
  · obtain rfl := Except.ok.inj (hdeclared.symm.trans hdeclared')
    exact hplace

/-- What has been written by one step is what it put into the output directory. -/
theorem Settles.growth_of_housed (hhoused : Housed settings files) {step : Step}
    (h : Settles settings replacement t date files step after) :
    Files.Growth (fun _ => False) (Wrote [step] after) files after := by
  rcases h.of_housed hhoused with ⟨_, -, -, rfl⟩ | ⟨declaration, -, hresult, rfl⟩
  · exact .refl _
  · refine (place_growth settings replacement t date files declaration).mono (fun _ => id) ?_
    rintro location ⟨path, hwritten, hlocate⟩
    exact ⟨step, List.mem_singleton_self _, path, hresult.trans hwritten, hlocate⟩

namespace Course

variable {steps : List Step}

theorem growth_of_housed (hhoused : Housed settings files)
    (h : Course settings replacement t date files steps after) :
    Files.Growth (fun _ => False) (Wrote steps after) files after := by
  induction h with
  | nil files => exact .refl files
  | cons hsettles hcourse ih =>
    have hfirst := hsettles.growth_of_housed hhoused
    have hrest := ih (hhoused.grown hfirst)
    exact Files.Growth.trans (hfirst.mono (fun _ => id) fun _ hwrote => hwrote.of_head hrest)
      (hrest.mono (fun _ => id) fun _ hwrote => hwrote.of_tail)

/-- A course in an output directory that is there can be cut at any of its steps. -/
theorem split_at (hhoused : Housed settings files) {earlier later : List Step} {step : Step}
    (h : Course settings replacement t date files (earlier ++ step :: later) after) :
    ∃ before next, Course settings replacement t date files earlier before ∧
      Housed settings before ∧ Settles settings replacement t date before step next ∧
      Housed settings next ∧ Course settings replacement t date next later after := by
  obtain ⟨before, hearlier, hrest⟩ := h.split
  have hbefore := hhoused.grown (hearlier.growth_of_housed hhoused)
  cases hrest with
  | cons hsettles hlater =>
    have hnext := hbefore.grown (hsettles.growth_of_housed hbefore)
    exact ⟨before, _, hearlier, hbefore, hsettles, hnext, hlater⟩

/-- What no step writes stays as it is. -/
theorem occupancy_of_not_wrote (hhoused : Housed settings files)
    (h : Course settings replacement t date files steps after) {location : Location}
    (hkept : ¬ Wrote steps after location) :
    after.occupancy location = files.occupancy location :=
  (h.growth_of_housed hhoused).occupancy_eq id hkept

/-- An artifact holds what was written last. -/
theorem occupancy_of_last (hhoused : Housed settings files) {earlier later : List Step}
    {step : Step} (h : Course settings replacement t date files (earlier ++ step :: later) after)
    {path : String} (hwritten : step.result = .ok (.written path)) {location : Location}
    (hlocate : after.locate path = .ok location) (hlast : ¬ Wrote later after location) :
    after.occupancy location = .file (step.content settings date) := by
  obtain ⟨before, next, -, hbefore, hsettles, hnext, hlater⟩ := h.split_at hhoused
  have hgrown := hlater.growth_of_housed hnext
  rw [hlater.occupancy_of_not_wrote hnext hlast]
  rw [Files.locate_iff_of_growth hgrown,
    Files.locate_iff_of_growth (hsettles.growth_of_housed hbefore)] at hlocate
  obtain ⟨declaration, hdeclared, -⟩ := hsettles.declaration_of_written hwritten
  obtain ⟨hresult, rfl⟩ := hsettles.of_declared hbefore hdeclared
  have hentry := at?_of_place_written (hresult.symm.trans hwritten) hlocate
  rw [Files.occupancy, hentry, Step.content, hdeclared]
  rfl

end Course

/-! ## Runs as courses -/

/-- Settling the task of a document is what the program does for it. -/
theorem generateValue_yields (hauto : settings.autoGenerate = true) (replacement : Replacement)
    (t : Int) (date : String) (files : Files) (name path : String) (document : Json) :
    ∃ result after, Settles settings replacement t date files
        ⟨documentTask settings path name document, result⟩ after ∧
      Yields (generateValue settings replacement name path document) t date files result after := by
  rw [generateValue, hauto, documentTask]
  cases valueDeclaration settings name path document with
  | error failure => exact ⟨_, _, .undeclared, .pure _ _⟩
  | ok declaration =>
    obtain ⟨result, after, hwrites, hyields⟩ :=
      write_yields settings replacement t date files declaration
    exact ⟨result, after, .declared hwrites, hyields⟩

/-- Settling tasks one after the other. -/
theorem mapM_yields {α : Type} {task : α → Task} {action : α → StateM Session UnitReport}
    (h : ∀ item files, ∃ result after, Settles settings replacement t date files
        ⟨task item, result⟩ after ∧
      Yields (action item) t date files ⟨(task item).name, result⟩ after) (items : List α)
    (files : Files) :
    ∃ steps after, steps.map Step.toTask = items.map task ∧
      Course settings replacement t date files steps after ∧
      Yields (items.mapM action) t date files (steps.map Step.report) after := by
  induction items generalizing files with
  | nil => exact ⟨[], files, rfl, .nil files, by rw [List.mapM_nil]; exact .pure _ _⟩
  | cons item items ih =>
    obtain ⟨result, between, hsettles, hyields⟩ := h item files
    obtain ⟨steps, after, htasks, hcourse, hrest⟩ := ih between
    refine ⟨⟨task item, result⟩ :: steps, after, ?_, .cons hsettles hcourse, ?_⟩
    · rw [List.map_cons, htasks]
      rfl
    · rw [List.mapM_cons]
      exact hyields.bind (hrest.bind (.pure _ _))

/-- The run over several documents of a payload is a course for their tasks. -/
theorem generateNumbered_yields (hauto : settings.autoGenerate = true) (replacement : Replacement)
    (t : Int) (date : String) (files : Files) (path : String) (documents : List Json) :
    ∃ steps after, steps.map Step.toTask = numberedTasks settings path documents ∧
      Course settings replacement t date files steps after ∧
      Yields (generateNumbered settings replacement (unitName path) path documents) t date files
        ⟨steps.map Step.report⟩ after := by
  have hdocument := fun (item : Json × Nat) files =>
    generateValue_yields hauto replacement t date files
      (unitName path ++ "." ++ toString (item.2 + 1)) path item.1
  obtain ⟨steps, after, hsteps, hcourse, hyields⟩ := mapM_yields
    (fun item files => (hdocument item files).imp fun _ => Exists.imp fun _ h =>
      ⟨h.1, h.2.bind (.pure _ _)⟩) documents.zipIdx files
  exact ⟨steps, after, hsteps, hcourse, hyields.bind (.pure _ _)⟩

/-- The run over a payload with documents, or with a failure in their place, is a course for its
tasks. -/
theorem generatePayload_yields (hauto : settings.autoGenerate = true) (filter? : Option String)
    (replacement : Replacement) (t : Int) (date : String) (files : Files) (path : String)
    {tasks : List Task} (htasks : tasksIn settings filter? t files path = .ok tasks) :
    ∃ steps after, steps.map Step.toTask = tasks ∧
      Course settings replacement t date files steps after ∧
      Yields (generatePayload settings filter? replacement path) t date files
        (.ok ⟨steps.map Step.report⟩) after := by
  have hload := Payload.load_yields path filter? files t date
  rw [tasksIn] at htasks
  rcases hdocuments : Payload.ofContent path filter? t (files.read path).toOption with
    reason | (failure | (_ | ⟨document, _ | ⟨second, rest⟩⟩))
  all_goals rw [hdocuments] at hload htasks
  · cases htasks
  all_goals obtain rfl := Except.ok.inj htasks
  · exact ⟨[⟨_, _⟩], files, rfl, .cons .undeclared (.nil files), hload.bind (.pure _ _)⟩
  · exact ⟨[⟨_, _⟩], files, rfl, .cons .undeclared (.nil files), hload.bind (.pure _ _)⟩
  · obtain ⟨result, after, hsettles, hyields⟩ :=
      generateValue_yields hauto replacement t date files (unitName path) path document
    exact ⟨[⟨_, result⟩], after, rfl, .cons hsettles (.nil after),
      hload.bind (hyields.bind (.pure _ _))⟩
  · obtain ⟨steps, after, hsteps, hcourse, hyields⟩ := generateNumbered_yields hauto replacement t
      date files path (document :: second :: rest)
    exact ⟨steps, after, hsteps, hcourse,
      hload.bind ((Yields.report _ _).bind (hyields.bind (.pure _ _)))⟩

/-- Where the filter breaks down for a payload there is nothing left of the run over it. -/
theorem generatePayload_broken {filter? : Option String} {reason : Breakdown} {path : String}
    (replacement : Replacement) (date : String)
    (h : tasksIn settings filter? t files path = .error reason) :
    Yields (generatePayload settings filter? replacement path) t date files (.error reason)
      files := by
  have hload := Payload.load_yields path filter? files t date
  rw [tasksIn] at h
  cases hdocuments : Payload.ofContent path filter? t (files.read path).toOption with
  | ok found => rw [hdocuments] at h; cases h
  | error other =>
    rw [hdocuments] at hload h
    obtain rfl := Except.error.inj h
    exact hload.bind (.pure _ _)

theorem generatePayloads_yields (hauto : settings.autoGenerate = true) (filter? : Option String)
    (replacement : Replacement) (t : Int) (date : String) (files : Files) (paths : List String) :
    ∃ steps ending after,
      PayloadCourse settings filter? replacement t date files paths steps ending after ∧
      Yields (generatePayloads settings filter? replacement paths) t date files
        (ending.map fun _ => ⟨steps.map Step.report⟩) after := by
  induction paths generalizing files with
  | nil => exact ⟨[], .ok (), files, .nil files, .pure _ _⟩
  | cons path paths ih =>
    cases htasks : tasksIn settings filter? t files path with
    | error reason =>
      exact ⟨[], .error reason, files, .broken htasks,
        (generatePayload_broken replacement date htasks).bind (.pure _ _)⟩
    | ok tasks =>
      obtain ⟨steps, between, rfl, hcourse, hfirst⟩ :=
        generatePayload_yields hauto filter? replacement t date files path htasks
      obtain ⟨others, ending, after, hothers, hrest⟩ := ih between
      refine ⟨steps ++ others, ending, after, .cons htasks hcourse hothers, ?_⟩
      rw [List.map_append]
      cases ending <;> exact hfirst.bind (hrest.bind (.pure _ _))

/-- A run over payloads without a name is a course, and there is a report unless the filter breaks
down. -/
theorem generateValues_yields (hauto : settings.autoGenerate = true) (filter? : Option String)
    (replacement : Replacement) (session : Session) (paths : List String) :
    ∃ steps ending after, PayloadCourse settings filter? replacement session.now session.stamp
        session.files paths steps ending after ∧
      Yields (generateValues settings none filter? replacement paths) session.now session.stamp
        session.files (ending.map fun _ => ⟨steps.map Step.report⟩) after := by
  rw [generateValues, hauto]
  exact generatePayloads_yields hauto filter? replacement session.now session.stamp session.files
    paths

end Generation
end ResponseTypes
