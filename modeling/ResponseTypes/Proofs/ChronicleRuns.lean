import ResponseTypes.Proofs.Chronicles

/-!
# Calls while the clock goes on

A call of the generator for values is told as turns, one after the other, each for one task.  What
there is to declare is read from the files, and by the clock where there is a filter, when the turn
of a payload comes; what becomes of a declaration is one of four things, and the moments at which
the clock is read for it are kept with it.

## Main definitions

- `Chronicle.Moments`: the moments at which the clock is read for a declaration.
- `Chronicle.Attempt`: what becomes of a declaration; `Chronicle.Deposit`: the same where the output
  directory is there.
- `Chronicle.Turn`, `Chronicle.Takes`: tasks that are settled one after the other.
- `Chronicle.Follows`: tasks of several sources, each looked up when its turn comes.
- `Chronicle.ValueCall`: a call of the generator for values.
- `Chronicle.Invariant`: what is kept by everything that a call does.

## Main statements

- `Chronicle.write_gives`: the program for one declaration is an attempt.
- `Chronicle.ValueCall.perform_gives`: a call settles the tasks of its sources.
- `Chronicle.Invariant.call`: what is kept by each attempt is kept by a call.
-/

namespace ResponseTypes
namespace Chronicle

open Generation

variable {settings : Settings} {before between after : Chronicle} {files : Files} {path : String}
variable {result : Except Failure Outcome} {declaration : Declaration}

/-! ## Moments -/

/-- The moments at which the clock is read for a declaration. -/
structure Moments where
  /-- for the age of the artifact -/
  asked : Nat
  /-- for the date in the declaration -/
  dated : Nat
  /-- for the time of the artifact -/
  stamped : Nat

/-- Moments of an interval, in their order. -/
structure Moments.Within (moments : Moments) (first last : Nat) : Prop where
  asked : first ≤ moments.asked
  dated : moments.asked ≤ moments.dated
  stamped : moments.dated ≤ moments.stamped
  last : moments.stamped ≤ last

theorem Moments.Within.mono {moments : Moments} {first last first' last' : Nat}
    (h : moments.Within first last) (hfirst : first' ≤ first) (hlast : last ≤ last') :
    moments.Within first' last' :=
  ⟨Nat.le_trans hfirst h.asked, h.dated, h.stamped, Nat.le_trans h.last hlast⟩

/-- One moment is an interval. -/
theorem Moments.within_self (moment : Nat) :
    (Moments.mk moment moment moment).Within moment moment :=
  ⟨Nat.le_refl _, Nat.le_refl _, Nat.le_refl _, Nat.le_refl _⟩

/-- What the clock shows at moments between two chronicles. -/
def Reads (before after : Chronicle) (readings : Nat → Int) : Prop :=
  ∀ i, ∃ moment, before.moment ≤ moment ∧ moment ≤ after.moment ∧
    readings i = before.clock moment

/-- One moment is enough for any number of readings. -/
theorem Reads.of_moment {moment : Nat} (hfirst : before.moment ≤ moment)
    (hlast : moment ≤ after.moment) : Reads before after fun _ => before.clock moment :=
  fun _ => ⟨moment, hfirst, hlast, rfl⟩

/-- One reading, and those of what goes on after it. -/
theorem Reads.cons {moment : Nat} {loaded : Chronicle} {readings : Nat → Int}
    (helapses : Elapses before loaded) (hrest : Elapses loaded after)
    (hfirst : before.moment ≤ moment) (hlast : moment ≤ loaded.moment)
    (h : Reads loaded after readings) :
    Reads before after fun i => i.casesOn (before.clock moment) readings
  | 0 => ⟨moment, hfirst, Nat.le_trans hlast hrest.moment, rfl⟩
  | i + 1 => by
    obtain ⟨moment', hfirst', hlast', hreading⟩ := h i
    exact ⟨moment', Nat.le_trans helapses.moment hfirst', hlast',
      hreading.trans (congrFun helapses.clock moment')⟩

/-- Nothing but time passes while the output directory is found there or made, apart from the
files. -/
theorem ensureOutput_passes {made : Except Failure Unit}
    (h : Gives (ensureOutput settings) before made after) :
    after.clock = before.clock ∧ after.dates = before.dates ∧ before.moment ≤ after.moment ∧
      after.journal = before.journal :=
  Keeps.of_gives (Keeps.ensureOutput (I := fun chronicle =>
      chronicle.clock = before.clock ∧ chronicle.dates = before.dates ∧
        before.moment ≤ chronicle.moment ∧ chronicle.journal = before.journal)
    (fun _ hpasses => ⟨hpasses.1, hpasses.2.1, Nat.le_succ_of_le hpasses.2.2.1, hpasses.2.2.2⟩)
    (fun _ _ _ hpasses _ =>
      ⟨hpasses.1, hpasses.2.1, Nat.le_succ_of_le hpasses.2.2.1, hpasses.2.2.2⟩) settings) h
    ⟨rfl, rfl, Nat.le_refl _, rfl⟩

/-! ## One declaration -/

/-- At a given moment the artifact, if it is there, is too old. -/
def Stale (settings : Settings) (chronicle : Chronicle) (path : String) (moment : Nat) : Prop :=
  ∀ time, chronicle.files.modified? path = some time →
    Freshness.isYounger time (window settings) (chronicle.clock moment) = false

/-- What becomes of a declaration for which the output directory is there, and the chronicle after
it. -/
inductive Deposit (settings : Settings) (declaration : Declaration) (moments : Moments)
    (before : Chronicle) : Except Failure Outcome → Chronicle → Prop
  /-- the artifact is found fresh -/
  | fresh {after : Chronicle} {time : Int} :
      before.files.modified? (settings.artifactPath declaration.name) = some time →
      Freshness.isYounger time (window settings) (before.clock moments.asked) = true →
      Elapses before after →
      Deposit settings declaration moments before
        (.ok (.fresh (settings.artifactPath declaration.name))) after
  /-- the artifact cannot be written -/
  | refused {after : Chronicle} {fault : FileFault} :
      Stale settings before (settings.artifactPath declaration.name) moments.asked →
      before.files.write (settings.artifactPath declaration.name)
        (content settings declaration (before.dates moments.dated))
        (before.clock moments.stamped) = .error fault →
      Elapses before after →
      Deposit settings declaration moments before
        (.error (.file (settings.artifactPath declaration.name) fault)) after
  | written {later after : Chronicle} {files : Files} :
      Stale settings before (settings.artifactPath declaration.name) moments.asked →
      Elapses before later → later.moment = moments.stamped →
      before.files.write (settings.artifactPath declaration.name)
        (content settings declaration (before.dates moments.dated)) later.now = .ok files →
      Elapses { later.next with
        files := files
        journal := later.journal ++ [(settings.artifactPath declaration.name, later.now)] } after →
      Deposit settings declaration moments before
        (.ok (.written (settings.artifactPath declaration.name))) after

/-- What becomes of a declaration, and the chronicle after it. -/
inductive Attempt (settings : Settings) (declaration : Declaration) (moments : Moments)
    (before : Chronicle) : Except Failure Outcome → Chronicle → Prop
  /-- the output directory cannot be made -/
  | homeless {failure : Failure} {after : Chronicle} :
      Gives (ensureOutput settings) before (.error failure) after →
      moments.Within before.moment after.moment →
      Attempt settings declaration moments before (.error failure) after
  | housed {between after : Chronicle} {result : Except Failure Outcome} :
      Gives (ensureOutput settings) before (.ok ()) between →
      moments.Within between.moment after.moment →
      Deposit settings declaration moments between result after →
      Attempt settings declaration moments before result after

theorem Attempt.within {moments : Moments}
    (h : Attempt settings declaration moments before result after) :
    moments.Within before.moment after.moment := by
  cases h with
  | homeless _ hmoments => exact hmoments
  | housed hensure hmoments =>
    exact hmoments.mono (ensureOutput_passes hensure).2.2.1 (Nat.le_refl _)

/-- The question whether a file is fresh. -/
theorem isKept_gives (settings : Settings) (before : Chronicle) (path : String) :
    ∃ moment after, Elapses before after ∧ before.moment ≤ moment ∧ moment < after.moment ∧
      ((∃ time, Gives (isKept settings .whenStale path) before true after ∧
        before.files.modified? path = some time ∧
        Freshness.isYounger time (window settings) (before.clock moment) = true) ∨
      Gives (isKept settings .whenStale path) before false after ∧
        Stale settings before path moment) := by
  have hasked : Gives (Host.modified? path) before _ _ := .modified? path before
  cases hmodified : before.files.modified? path with
  | none =>
    rw [hmodified] at hasked
    refine ⟨before.moment, before.next, .next before, Nat.le_refl _, Nat.lt_succ_self _,
      .inr ⟨hasked.bind (.pure _ _), fun time htime => ?_⟩⟩
    rw [hmodified] at htime
    cases htime
  | some time =>
    rw [hmodified] at hasked
    have hgives : Gives (isKept settings .whenStale path) before
        (Freshness.isYounger time (window settings) (before.clock (before.moment + 1)))
        before.next.next :=
      hasked.bind ((Gives.now before.next).bind (.pure _ _))
    refine ⟨before.moment + 1, before.next.next, (Elapses.next before).trans (.next _),
      Nat.le_succ _, Nat.lt_succ_self _, ?_⟩
    cases hyounger : Freshness.isYounger time (window settings) (before.clock (before.moment + 1))
      with
    | true =>
      rw [hyounger] at hgives
      exact .inl ⟨time, hgives, rfl, hyounger⟩
    | false =>
      rw [hyounger] at hgives
      refine .inr ⟨hgives, fun time' htime => ?_⟩
      obtain rfl := Option.some.inj (hmodified.symm.trans htime)
      exact hyounger

/-- The program for one declaration does what is said of it. -/
theorem write_gives (settings : Settings) (declaration : Declaration) (before : Chronicle) :
    ∃ moments result after, Gives (write settings .whenStale declaration) before result after ∧
      Attempt settings declaration moments before result after := by
  obtain ⟨made, between, hensure⟩ : ∃ made between,
      Gives (ensureOutput settings) before made between := ⟨_, _, rfl⟩
  cases made with
  | error failure =>
    have hmoments := (Moments.within_self before.moment).mono (Nat.le_refl _)
      (ensureOutput_passes hensure).2.2.1
    exact ⟨_, _, _, hensure.bind (.pure _ _), .homeless hensure hmoments⟩
  | ok _ =>
    obtain ⟨moment, asked, helapses, hfirst, hlast, ⟨time, hkept, hmodified, hyounger⟩ |
      ⟨hkept, hstale⟩⟩ :=
        isKept_gives settings between (settings.artifactPath declaration.name)
    · exact ⟨⟨moment, moment, moment⟩, _, _,
        hensure.bind (hkept.bind ((Gives.report _ _).bind (.pure _ _))), .housed hensure
          ((Moments.within_self moment).mono hfirst (Nat.le_succ_of_le (Nat.le_of_lt hlast)))
          (.fresh hmodified hyounger (helapses.trans (.next asked)))⟩
    · have hlater : Elapses between asked.next := helapses.trans (.next asked)
      have hmoments : ∀ last, asked.next.moment ≤ last →
          (Moments.mk moment asked.moment asked.next.moment).Within between.moment last :=
        fun last hle => ⟨hfirst, Nat.le_of_lt hlast, Nat.le_succ _, hle⟩
      cases hwrite : asked.next.files.write (settings.artifactPath declaration.name)
          (content settings declaration (asked.dates asked.moment)) asked.next.now with
      | error fault =>
        refine ⟨_, _, asked.next.next, hensure.bind (hkept.bind ((Gives.stamp asked).bind
          ((Gives.write_error hwrite).bind (.pure _ _)))), .housed hensure
            (hmoments _ (Nat.le_succ _)) (.refused hstale ?_ (hlater.trans (.next _)))⟩
        rw [now, hlater.files, helapses.dates, hlater.clock] at hwrite
        exact hwrite
      | ok files =>
        refine ⟨_, _, _, hensure.bind (hkept.bind ((Gives.stamp asked).bind
          ((Gives.write_ok hwrite).bind ((Gives.report _ _).bind (.pure _ _))))),
          .housed hensure (hmoments _ (Nat.le_add_right _ 2))
            (.written hstale hlater rfl ?_ (.next _))⟩
        rw [hlater.files, helapses.dates] at hwrite
        exact hwrite

/-! ## Runs -/

/-- A step with the moments at which the clock is read for it. -/
structure Turn extends Step, Moments

/-- Tasks that are settled one after the other. -/
inductive Takes (settings : Settings) : Chronicle → List Turn → Chronicle → Prop
  | rest {before after : Chronicle} : Elapses before after → Takes settings before [] after
  /-- there is nothing to declare -/
  | undeclared {before between after : Chronicle} {name : String} {failure : Failure}
      {moments : Moments} {turns : List Turn} : Elapses before between →
      moments.Within between.moment between.moment → Takes settings between turns after →
      Takes settings before (⟨⟨⟨name, .error failure⟩, .error failure⟩, moments⟩ :: turns) after
  | declared {before between later after : Chronicle} {name : String} {declaration : Declaration}
      {result : Except Failure Outcome} {moments : Moments} {turns : List Turn} :
      Elapses before between → Attempt settings declaration moments between result later →
      Takes settings later turns after →
      Takes settings before (⟨⟨⟨name, .ok declaration⟩, result⟩, moments⟩ :: turns) after

/-- Where tasks come from: what there is to settle by the clock and the files when its turn comes,
unless a filter breaks down. -/
abbrev TaskSource := (readings : Nat → Int) → Files → Except Breakdown (List Task)

/-- Tasks of several sources, one source after the other, and how they end: after the last source,
or with one that breaks down. -/
inductive Follows (settings : Settings) :
    Chronicle → List TaskSource → List Turn → Except Breakdown Unit → Chronicle → Prop
  | done {before after : Chronicle} : Elapses before after →
      Follows settings before [] [] (.ok ()) after
  | broken {before after : Chronicle} {source : TaskSource} {sources : List TaskSource}
      {readings : Nat → Int} {reason : Breakdown} : Elapses before after →
      Reads before after readings → source readings before.files = .error reason →
      Follows settings before (source :: sources) [] (.error reason) after
  | turn {before loaded between after : Chronicle} {source : TaskSource}
      {sources : List TaskSource} {readings : Nat → Int} {turns others : List Turn}
      {ending : Except Breakdown Unit} : Elapses before loaded → Reads before loaded readings →
      source readings before.files = .ok (turns.map (·.toTask)) →
      Takes settings loaded turns between → Follows settings between sources others ending after →
      Follows settings before (source :: sources) (turns ++ others) ending after

theorem Takes.wait {turns : List Turn} (helapses : Elapses before between)
    (h : Takes settings between turns after) : Takes settings before turns after := by
  cases h with
  | rest hrest => exact .rest (helapses.trans hrest)
  | undeclared hbetween hmoments hturns =>
    exact .undeclared (helapses.trans hbetween) hmoments hturns
  | declared hbetween hattempt hturns => exact .declared (helapses.trans hbetween) hattempt hturns

theorem Takes.append {turns others : List Turn} (h : Takes settings before turns between)
    (hothers : Takes settings between others after) :
    Takes settings before (turns ++ others) after := by
  induction h with
  | rest hrest => exact hothers.wait hrest
  | undeclared hbetween hmoments _ ih => exact .undeclared hbetween hmoments (ih hothers)
  | declared hbetween hattempt _ ih => exact .declared hbetween hattempt (ih hothers)

/-- One task without a declaration. -/
theorem Takes.undeclared_one {name : String} {failure : Failure} (helapses : Elapses before after) :
    ∃ moments, Takes settings before [⟨⟨⟨name, .error failure⟩, .error failure⟩, moments⟩] after :=
  ⟨_, .undeclared helapses (Moments.within_self _) (.rest (.refl after))⟩

/-- Settling the task of a document is what the program does for it. -/
theorem generateValue_gives (hauto : settings.autoGenerate = true) (before : Chronicle)
    (name path : String) (document : Json) :
    ∃ result moments after, Gives (generateValue settings .whenStale name path document) before
        result after ∧
      Takes settings before [⟨⟨documentTask settings path name document, result⟩, moments⟩]
        after := by
  rw [generateValue, hauto, documentTask]
  cases valueDeclaration settings name path document with
  | error failure =>
    obtain ⟨moments, htakes⟩ := Takes.undeclared_one (.refl before)
    exact ⟨_, moments, before, .pure _ _, htakes⟩
  | ok declaration =>
    obtain ⟨moments, result, after, hgives, hattempt⟩ := write_gives settings declaration before
    exact ⟨result, moments, after, hgives, .declared (.refl before) hattempt (.rest (.refl after))⟩

/-- Settling tasks one after the other. -/
theorem mapM_gives {α : Type} {task : α → Task} {action : α → StateM Chronicle UnitReport}
    (h : ∀ item before, ∃ result moments after,
      Gives (action item) before ⟨(task item).name, result⟩ after ∧
      Takes settings before [⟨⟨task item, result⟩, moments⟩] after) (items : List α)
    (before : Chronicle) :
    ∃ turns after, Gives (items.mapM action) before (turns.map (·.report)) after ∧
      turns.map (·.toTask) = items.map task ∧ Takes settings before turns after := by
  induction items generalizing before with
  | nil =>
    exact ⟨[], before, by rw [List.mapM_nil]; exact .pure _ _, rfl, .rest (.refl before)⟩
  | cons item items ih =>
    obtain ⟨result, moments, between, hgives, htakes⟩ := h item before
    obtain ⟨turns, after, hrest, htasks, hturns⟩ := ih between
    refine ⟨⟨⟨task item, result⟩, moments⟩ :: turns, after, ?_, ?_, htakes.append hturns⟩
    · rw [List.mapM_cons]
      exact hgives.bind (hrest.bind (.pure _ _))
    · rw [List.map_cons, htasks]
      rfl

/-- Settling the tasks of several documents of a payload. -/
theorem generateNumbered_gives (hauto : settings.autoGenerate = true) (before : Chronicle)
    (path : String) (documents : List Json) :
    ∃ turns after,
      Gives (generateNumbered settings .whenStale (unitName path) path documents) before
        ⟨turns.map (·.report)⟩ after ∧
      turns.map (·.toTask) = numberedTasks settings path documents ∧
      Takes settings before turns after := by
  have hdocument := fun (item : Json × Nat) before =>
    generateValue_gives hauto before (unitName path ++ "." ++ toString (item.2 + 1)) path item.1
  obtain ⟨turns, after, hgives, htasks, htakes⟩ := mapM_gives
    (fun item before => (hdocument item before).imp fun _ => Exists.imp fun _ => Exists.imp
      fun _ h => ⟨h.1.bind (.pure _ _), h.2⟩) documents.zipIdx before
  exact ⟨turns, after, hgives.bind (.pure _ _), htasks, htakes⟩

/-- Loading a payload reads its file, and the clock for a filter, and takes time. -/
theorem load_gives (path : String) (filter? : Option String) (before : Chronicle) :
    ∃ moment after, Elapses before after ∧ before.moment ≤ moment ∧ moment ≤ after.moment ∧
      Gives (Payload.load path filter?) before (Payload.ofContent path filter?
        (before.clock moment) (before.files.read path).toOption) after := by
  have hasked : Gives (Host.isFile path) before _ _ := .isFile path before
  cases hfile : before.files.isFile path with
  | false =>
    rw [hfile] at hasked
    refine ⟨before.moment, before.next, .next before, Nat.le_refl _, Nat.le_succ _, ?_⟩
    cases hread : before.files.read path with
    | error fault => exact hasked.bind (.pure _ _)
    | ok content =>
      obtain ⟨location, hlocate, hoccupancy⟩ := Files.read_eq_ok.1 hread
      rw [Files.isFile_iff.2 ⟨location, content, hlocate, hoccupancy⟩] at hfile
      cases hfile
  | true =>
    rw [hfile] at hasked
    obtain ⟨location, content, hlocate, hoccupancy⟩ := Files.isFile_iff.1 hfile
    have hread := Files.read_eq_ok.2 ⟨location, hlocate, hoccupancy⟩
    have hanswer : Gives (Host.read path) before.next (before.files.read path) _ :=
      .read path before.next
    have helapses : Elapses before before.next.next := (Elapses.next before).trans (.next _)
    rw [hread] at hanswer ⊢
    dsimp only [Except.toOption, Payload.ofContent]
    cases hdocument : Payload.documentOf path content with
    | error failure =>
      refine ⟨before.moment, _, helapses, Nat.le_refl _, helapses.moment,
        hasked.bind (hanswer.bind ?_)⟩
      dsimp only
      rw [hdocument]
      exact .pure _ _
    | ok document =>
      cases filter? with
      | none =>
        refine ⟨before.moment, _, helapses, Nat.le_refl _, helapses.moment,
          hasked.bind (hanswer.bind ?_)⟩
        dsimp only
        rw [hdocument]
        exact .pure _ _
      | some filter =>
        refine ⟨before.next.next.moment, _, helapses.trans (.next _), helapses.moment,
          Nat.le_succ _, hasked.bind (hanswer.bind ?_)⟩
        dsimp only
        rw [hdocument]
        exact (Gives.now before.next.next).bind (.pure _ _)

/-- What a payload gives to settle, by one reading of the clock. -/
def payloadTasks (settings : Settings) (filter? : Option String) (path : String) : TaskSource :=
  fun readings files => tasksIn settings filter? (readings 0) files path

/-- The run over one payload settles its tasks, unless the filter breaks down for it. -/
theorem generatePayload_gives (hauto : settings.autoGenerate = true) (filter? : Option String)
    (before : Chronicle) (path : String) :
    ∃ readings loaded, Elapses before loaded ∧ Reads before loaded readings ∧
      match payloadTasks settings filter? path readings before.files with
      | .error reason => Gives (generatePayload settings filter? .whenStale path) before
          (.error reason) loaded
      | .ok tasks => ∃ turns after,
          Gives (generatePayload settings filter? .whenStale path) before
            (.ok ⟨turns.map (·.report)⟩) after ∧
          turns.map (·.toTask) = tasks ∧ Takes settings loaded turns after := by
  obtain ⟨moment, loaded, helapses, hfirst, hlast, hload⟩ := load_gives path filter? before
  refine ⟨_, loaded, helapses, .of_moment hfirst hlast, ?_⟩
  rw [payloadTasks, tasksIn]
  rcases hdocuments : Payload.ofContent path filter? (before.clock moment)
    (before.files.read path).toOption with
    reason | (failure | (_ | ⟨document, _ | ⟨second, rest⟩⟩))
  all_goals rw [hdocuments] at hload
  · exact hload.bind (.pure _ _)
  · obtain ⟨moments, htakes⟩ := Takes.undeclared_one (.refl loaded)
    exact ⟨[⟨⟨_, _⟩, moments⟩], loaded, hload.bind (.pure _ _), rfl, htakes⟩
  · obtain ⟨moments, htakes⟩ := Takes.undeclared_one (.refl loaded)
    exact ⟨[⟨⟨_, _⟩, moments⟩], loaded, hload.bind (.pure _ _), rfl, htakes⟩
  · obtain ⟨result, moments, after, hgives, htakes⟩ :=
      generateValue_gives hauto loaded (unitName path) path document
    exact ⟨[⟨⟨_, result⟩, moments⟩], after, hload.bind (hgives.bind (.pure _ _)), rfl, htakes⟩
  · obtain ⟨turns, after, hgives, htasks, htakes⟩ :=
      generateNumbered_gives hauto loaded.next path (document :: second :: rest)
    exact ⟨turns, after, hload.bind ((Gives.report _ _).bind (hgives.bind (.pure _ _))), htasks,
      htakes.wait (.next loaded)⟩

theorem generatePayloads_gives (hauto : settings.autoGenerate = true) (filter? : Option String)
    (before : Chronicle) (paths : List String) :
    ∃ turns ending after, Gives (generatePayloads settings filter? .whenStale paths) before
        (ending.map fun _ => ⟨turns.map (·.report)⟩) after ∧
      Follows settings before (paths.map (payloadTasks settings filter?)) turns ending after := by
  induction paths generalizing before with
  | nil => exact ⟨[], .ok (), before, .pure _ _, .done (.refl before)⟩
  | cons path paths ih =>
    obtain ⟨readings, loaded, helapses, hreads, hpayload⟩ :=
      generatePayload_gives hauto filter? before path
    cases htasks : payloadTasks settings filter? path readings before.files with
    | error reason =>
      rw [htasks] at hpayload
      exact ⟨[], .error reason, loaded, hpayload.bind (.pure _ _), .broken helapses hreads htasks⟩
    | ok tasks =>
      rw [htasks] at hpayload
      obtain ⟨turns, between, hgives, rfl, htakes⟩ := hpayload
      obtain ⟨others, ending, after, hrest, hfollows⟩ := ih between
      refine ⟨turns ++ others, ending, after, ?_, .turn helapses hreads htasks htakes hfollows⟩
      rw [List.map_append]
      cases ending <;> exact hgives.bind (hrest.bind (.pure _ _))

/-- The first document of payloads by what their files hold and by the clock, which is read for each
payload that is looked at. -/
def firstIn (filter? : Option String) (files : Files) :
    (readings : Nat → Int) → (failure : Failure) → (paths : List String) → Upshot (String × Json)
  | _, failure, [] => .ok (.error failure)
  | readings, failure, path :: others =>
    match Payload.ofContent path filter? (readings 0) (files.read path).toOption with
    | .error reason => .error reason
    | .ok (.error last) => firstIn filter? files (fun i => readings (i + 1)) last others
    | .ok (.ok []) => firstIn filter? files (fun i => readings (i + 1)) failure others
    | .ok (.ok (document :: _)) => .ok (.ok (path, document))

theorem firstDocument_gives (filter? : Option String) (failure : Failure) (paths : List String)
    (before : Chronicle) :
    ∃ readings after, Elapses before after ∧ Reads before after readings ∧
      Gives (firstDocument filter? failure paths) before
        (firstIn filter? before.files readings failure paths) after := by
  induction paths generalizing failure before with
  | nil =>
    exact ⟨_, before, .refl before, .of_moment (Nat.le_refl _) (Nat.le_refl _), .pure _ _⟩
  | cons path others ih =>
    obtain ⟨moment, loaded, helapses, hfirst, hlast, hload⟩ := load_gives path filter? before
    -- the readings of a search that goes on after this payload
    have hgoes : ∀ {last : Failure} {later : Chronicle}, Elapses loaded later →
        ∃ readings after, Elapses before after ∧ Reads before after readings ∧
          readings 0 = before.clock moment ∧ Gives (firstDocument filter? last others) later
            (firstIn filter? before.files (fun i => readings (i + 1)) last others) after := by
      intro last later hlater
      obtain ⟨readings, after, hafter, hreads, hgives⟩ := ih last later
      have hbefore := helapses.trans hlater
      have hlater' := Nat.le_trans hlast hlater.moment
      refine ⟨_, after, hbefore.trans hafter, hreads.cons hbefore hafter hfirst hlater', rfl, ?_⟩
      rw [← hbefore.files]
      exact hgives
    rcases hdocuments : Payload.ofContent path filter? (before.clock moment)
      (before.files.read path).toOption with
      reason | (last | (_ | ⟨document, rest⟩))
    all_goals rw [hdocuments] at hload
    · refine ⟨_, loaded, helapses, .of_moment hfirst hlast, ?_⟩
      rw [firstIn, hdocuments]
      exact hload.bind (.pure _ _)
    · obtain ⟨readings, after, hafter, hreads, hreading, hgives⟩ := hgoes (.next loaded)
      refine ⟨readings, after, hafter, hreads, ?_⟩
      rw [firstIn, hreading, hdocuments]
      exact hload.bind ((Gives.report _ _).bind hgives)
    · obtain ⟨readings, after, hafter, hreads, hreading, hgives⟩ := hgoes (.refl loaded)
      refine ⟨readings, after, hafter, hreads, ?_⟩
      rw [firstIn, hreading, hdocuments]
      exact hload.bind hgives
    · cases rest with
      | nil =>
        refine ⟨_, loaded, helapses, .of_moment hfirst hlast, ?_⟩
        rw [firstIn, hdocuments]
        exact hload.bind (.pure _ _)
      | cons second rest =>
        refine ⟨_, loaded.next, helapses.trans (.next loaded),
          .of_moment hfirst (Nat.le_succ_of_le hlast), ?_⟩
        rw [firstIn, hdocuments]
        exact hload.bind ((Gives.report _ _).bind (.pure _ _))

/-- The task of a run under a name, by what its payloads are searched for. -/
def namedTask (settings : Settings) (name : String) : Except Failure (String × Json) → Task
  | .error failure => ⟨name, .error failure⟩
  | .ok (origin, document) => documentTask settings origin name document

theorem name_namedTask (settings : Settings) (name : String)
    (found : Except Failure (String × Json)) : (namedTask settings name found).name = name := by
  cases found <;> rfl

/-- What a run under a name has to settle. -/
def namedTasks (settings : Settings) (filter? : Option String) (name : String)
    (paths : List String) : TaskSource :=
  fun readings files => (firstIn filter? files readings noDocuments paths).map fun found =>
    [namedTask settings name found]

/-- The run under a name settles its task, unless the filter breaks down on the way to it. -/
theorem generateNamed_gives (hauto : settings.autoGenerate = true) (filter? : Option String)
    (name : String) (paths : List String) (before : Chronicle) :
    ∃ turns ending after, Gives (generateValues settings (some name) filter? .whenStale paths)
        before (ending.map fun _ => ⟨turns.map (·.report)⟩) after ∧
      Follows settings before [namedTasks settings filter? name paths] turns ending after := by
  obtain ⟨readings, loaded, helapses, hreads, hfirst⟩ :=
    firstDocument_gives filter? noDocuments paths before
  rw [generateValues, hauto]
  cases hfound : firstIn filter? before.files readings noDocuments paths with
  | error reason =>
    rw [hfound] at hfirst
    have hgives : Gives (generateNamed settings filter? .whenStale name paths) before
        (.error reason) loaded := hfirst.bind (.pure _ _)
    refine ⟨[], .error reason, loaded, hgives.bind (.pure _ _), .broken helapses hreads ?_⟩
    rw [namedTasks, hfound]
    rfl
  | ok found =>
    rw [hfound] at hfirst
    have htasks : namedTasks settings filter? name paths readings before.files =
        .ok [namedTask settings name found] := by
      rw [namedTasks, hfound]
      rfl
    suffices hturn : ∃ result moments after,
        Gives (generateNamed settings filter? .whenStale name paths) before (.ok result) after ∧
        Takes settings loaded [⟨⟨namedTask settings name found, result⟩, moments⟩] after by
      obtain ⟨result, moments, after, hgives, htakes⟩ := hturn
      refine ⟨_ ++ [], .ok (), after, ?_,
        .turn helapses hreads (htasks.trans rfl) htakes (.done (.refl after))⟩
      rw [List.append_nil, List.map_singleton, Step.report, name_namedTask]
      exact hgives.bind (.pure _ _)
    rcases found with failure | ⟨origin, document⟩
    · obtain ⟨moments, htakes⟩ := Takes.undeclared_one (.refl loaded)
      exact ⟨_, moments, loaded, hfirst.bind (.pure _ _), htakes⟩
    · obtain ⟨result, moments, after, hgives, htakes⟩ :=
        generateValue_gives hauto loaded name origin document
      exact ⟨result, moments, after, hfirst.bind (hgives.bind (.pure _ _)), htakes⟩

/-! ## Calls -/

/-- A call of the generator for values in which fresh artifacts are kept. -/
inductive ValueCall where
  | value (name origin : String) (document : Json)
  | values (name? filter? : Option String) (paths : List String)

namespace ValueCall

/-- What a call does. -/
def perform (settings : Settings) : ValueCall → StateM Chronicle (Except Breakdown Report)
  | .value name origin document => do
    return .ok ⟨[⟨name, ← generateValue settings .whenStale name origin document⟩]⟩
  | .values name? filter? paths => generateValues settings name? filter? .whenStale paths

/-- The paths that a call reads. -/
def inputs : ValueCall → List String
  | .value _ _ _ => []
  | .values _ _ paths => paths

/-- The filter of a call, if it has one. -/
def filter? : ValueCall → Option String
  | .value _ _ _ => none
  | .values _ filter? _ => filter?

/-- Where the tasks of a call come from. -/
def sources (settings : Settings) : ValueCall → List TaskSource
  | .value name origin document => [fun _ _ => .ok [documentTask settings origin name document]]
  | .values none filter? paths => paths.map (payloadTasks settings filter?)
  | .values (some name) filter? paths => [namedTasks settings filter? name paths]

/-- A call settles the tasks of its sources, up to one that breaks down. -/
theorem perform_gives (hauto : settings.autoGenerate = true) (call : ValueCall)
    (before : Chronicle) :
    ∃ turns ending after, Gives (call.perform settings) before
        (ending.map fun _ => ⟨turns.map (·.report)⟩) after ∧
      Follows settings before (call.sources settings) turns ending after := by
  cases call with
  | value name origin document =>
    obtain ⟨result, moments, after, hgives, htakes⟩ :=
      generateValue_gives hauto before name origin document
    exact ⟨[⟨⟨_, result⟩, moments⟩] ++ [], .ok (), after, hgives.bind (.pure _ _),
      .turn (.refl before) (.of_moment (Nat.le_refl _) (Nat.le_refl _)) rfl htakes
        (.done (.refl _))⟩
  | values name? filter? paths =>
    cases name? with
    | none =>
      rw [perform, generateValues, hauto]
      exact generatePayloads_gives hauto filter? before paths
    | some name => exact generateNamed_gives hauto filter? name paths before

/-- Where generation from payloads is turned off a call does nothing. -/
theorem perform_disabled (hauto : settings.autoGenerate = false) (call : ValueCall) :
    ∃ name, ∀ before,
      Gives (call.perform settings) before (.ok ⟨[⟨name, .ok .disabled⟩]⟩) before := by
  cases call with
  | value name origin document =>
    refine ⟨name, fun before => ?_⟩
    rw [perform, generateValue, hauto]
    exact (Gives.pure _ _).bind (.pure _ _)
  | values name? filter? paths =>
    refine ⟨name?.getD "values", fun before => ?_⟩
    rw [perform, generateValues.eq_def, hauto]
    exact .pure _ _

end ValueCall

/-! ## What calls keep -/

/-- A property that is kept as time passes, and by a declaration whatever becomes of it. -/
structure Invariant (settings : Settings) (I : Chronicle → Prop) : Prop where
  elapses : ∀ {before after : Chronicle}, Elapses before after → I before → I after
  attempt : ∀ {declaration : Declaration} {moments : Moments} {result : Except Failure Outcome}
    {before after : Chronicle}, Attempt settings declaration moments before result after →
      I before → I after

namespace Invariant

variable {I : Chronicle → Prop}

/-- It is enough to look at single changes of the files. -/
theorem of_changes (elapses : ∀ {before after : Chronicle}, Elapses before after →
      I before → I after)
    (make : ∀ (chronicle : Chronicle) (path : String) (files : Files), I chronicle →
      chronicle.files.makeDirectory path chronicle.now = .ok files →
      I { chronicle.next with files := files })
    (write : ∀ (chronicle : Chronicle) (declaration : Declaration) (date : String)
      (files : Files), I chronicle →
      chronicle.files.write (settings.artifactPath declaration.name)
        (content settings declaration date) chronicle.now = .ok files →
      I { chronicle.next with
        files := files
        journal := chronicle.journal ++
          [(settings.artifactPath declaration.name, chronicle.now)] }) :
    Invariant settings I := by
  have hensure : Keeps I (ensureOutput settings) :=
    Keeps.ensureOutput (fun chronicle => elapses (.next chronicle)) make settings
  refine ⟨elapses, fun {declaration moments result before after} hattempt hbefore => ?_⟩
  cases hattempt with
  | homeless hgives => exact hensure.of_gives hgives hbefore
  | housed hgives _ hdeposit =>
    have hbetween := hensure.of_gives hgives hbefore
    cases hdeposit with
    | fresh _ _ hafter => exact elapses hafter hbetween
    | refused _ _ hafter => exact elapses hafter hbetween
    | @written later _ files _ hlater _ hwrite hafter =>
      rw [← hlater.files] at hwrite
      exact elapses hafter (write later declaration _ files (elapses hlater hbetween) hwrite)

variable (hI : Invariant settings I)
include hI

theorem takes {turns : List Turn} (h : Takes settings before turns after) (hbefore : I before) :
    I after := by
  induction h with
  | rest helapses => exact hI.elapses helapses hbefore
  | undeclared helapses _ _ ih => exact ih (hI.elapses helapses hbefore)
  | declared helapses hattempt _ ih => exact ih (hI.attempt hattempt (hI.elapses helapses hbefore))

theorem follows {sources : List TaskSource} {turns : List Turn} {ending : Except Breakdown Unit}
    (h : Follows settings before sources turns ending after) (hbefore : I before) : I after := by
  induction h with
  | done helapses => exact hI.elapses helapses hbefore
  | broken helapses => exact hI.elapses helapses hbefore
  | turn helapses _ _ htakes _ ih => exact ih (hI.takes htakes (hI.elapses helapses hbefore))

/-- What is kept by each declaration is kept by a call. -/
theorem call (call : ValueCall) (hbefore : I before) : I (call.perform settings before).2 := by
  cases hauto : settings.autoGenerate with
  | true =>
    obtain ⟨turns, ending, after, hgives, hfollows⟩ := call.perform_gives hauto before
    rw [hgives]
    exact hI.follows hfollows hbefore
  | false =>
    obtain ⟨name, hgives⟩ := call.perform_disabled hauto
    rw [hgives before]
    exact hbefore

end Invariant

/-- The clock stays the same, and time goes on. -/
theorem invariant_clock (settings : Settings) (chronicle : Chronicle) :
    Invariant settings fun later =>
      later.clock = chronicle.clock ∧ chronicle.moment ≤ later.moment :=
  .of_changes
    (fun helapses h => ⟨helapses.clock.trans h.1, Nat.le_trans h.2 helapses.moment⟩)
    (fun _ _ _ h _ => ⟨h.1, Nat.le_succ_of_le h.2⟩)
    (fun _ _ _ _ h _ => ⟨h.1, Nat.le_succ_of_le h.2⟩)

end Chronicle
end ResponseTypes
