import Mathlib.Data.List.Basic
import ResponseTypes.CommandLine.Run
import ResponseTypes.Proofs.Questions
import ResponseTypes.Proofs.SessionEffects

/-!
# How a run ends

A command line is carried out whatever there is on disk: broken settings are replaced by the
defaults, a schema that cannot be read leaves nothing to do, and what goes wrong with a unit is told
in the report.  The one failure that a run passes on is that of a pattern among its arguments, and
since patterns are followed before anything is written, such a run leaves the files alone.

A run is told to fail for nothing else.  But a filter can take it down: what breaks down in the
evaluation of a filter is caught nowhere, so the program ends with a number of its own, and without
a report.

The system is not fixed here.  It may answer each question as it likes, and refuse whatever it likes
to refuse.  The proof follows the answers of the actions (`Host.Returns`) from the arguments to the
result.  Two things can be wrong with an answer.  It is an error of the arguments, and this happens
exactly when one of them is a pattern that cannot be read (`Payload.returns_resolve`).  Or there is
none, and this comes from a filter alone (`Generation.returns_generateValues`).

## Main definitions

- `CommandLine.Invocation.HasBadPattern`, `CommandLine.Invocation.BreaksDown`: the two causes.
- `CommandLine.Invocation.Promised`: the end of a run as the program promises it.

## Main statements

- `CommandLine.returns_run`: how a run ends.
- `CommandLine.run_fails_iff`: when a run fails, and when it ends as promised.
-/

namespace ResponseTypes

open Host

variable {σ φ : Type} [Host (StateM σ)]

/-! ## Patterns that cannot be read -/

/-- An answer that is the failure of a pattern in the bad case, and none in any other. -/
inductive FailsWhen {α : Type} (bad : Prop) : Except Failure α → Prop
  | failure (text detail : String) : bad → FailsWhen bad (.error (.pattern text detail))
  | result (a : α) : ¬ bad → FailsWhen bad (.ok a)

/-- Following a pattern fails exactly when it cannot be read, with the fault of reading it. -/
theorem Glob.returns_expand (text : String) :
    Returns (σ := σ) (expand text) fun answer =>
      ∀ fault, answer = .error fault ↔ Pattern.parse text = .error fault := by
  rw [expand]
  cases Pattern.parse text with
  | error fault => exact .pure fun other => by rw [Except.error.injEq, Except.error.injEq]
  | ok pattern => exact Returns.after fun paths => .pure fun fault => by simp

namespace Payload

/-- An argument that is taken for a pattern and is not well formed. -/
def BadPattern (argument : String) : Prop :=
  isPattern argument = true ∧ ∃ fault, Glob.Pattern.parse argument = .error fault

/-- Following an argument fails exactly for a pattern that cannot be read. -/
theorem returns_pathsOf (argument : String) :
    Returns (σ := σ) (pathsOf argument) (FailsWhen (BadPattern argument)) := by
  rw [pathsOf]
  cases hpattern : isPattern argument with
  | false => exact .pure (.result _ fun hbad => absurd hbad.1 (by simp [hpattern]))
  | true =>
    refine (Glob.returns_expand argument).bind fun found hfound => ?_
    cases found with
    | error fault => exact .pure (.failure _ _ ⟨hpattern, fault, (hfound fault).1 rfl⟩)
    | ok paths =>
      refine .pure (.result _ fun hbad => ?_)
      obtain ⟨fault, hfault⟩ := hbad.2
      exact nomatch (hfound fault).2 hfault

/-- Following arguments fails exactly when one of them is a pattern that cannot be read. -/
theorem returns_resolve (arguments : List String) :
    Returns (σ := σ) (resolve arguments)
      (FailsWhen (∃ argument ∈ arguments, BadPattern argument)) := by
  induction arguments with
  | nil => exact .pure (.result _ nofun)
  | cons argument others ih =>
    simp only [List.exists_mem_cons_iff]
    refine (returns_pathsOf argument).bind fun found hfound => ?_
    cases hfound with
    | failure text detail hbad => exact .pure (.failure _ _ (.inl hbad))
    | result paths hgood =>
      refine ih.bind fun rest hrest => .pure ?_
      cases hrest with
      | failure text detail hbad => exact .failure _ _ (.inr hbad)
      | result more hothers => exact .result _ (not_or.2 ⟨hgood, hothers⟩)

end Payload

/-! ## Filters that break down -/

/-- The evaluation of a filter breaks down for some document at some time. -/
def Filter.BreaksDown (filter : String) (reason : Breakdown) : Prop :=
  ∃ now document, run now filter document = .error reason

/-- An answer that is missing only where a filter is to blame. -/
def BlamesFilter {α : Type} (filter? : Option String) (answer : Except Breakdown α) : Prop :=
  ∀ reason, answer = .error reason →
    ∃ filter, filter? = some filter ∧ Filter.BreaksDown filter reason

namespace BlamesFilter

variable {α β : Type} {filter? : Option String}

/-- What ends one action without an answer ends the next one too. -/
theorem passed {reason : Breakdown}
    (h : BlamesFilter filter? (.error reason : Except Breakdown α)) :
    BlamesFilter filter? (.error reason : Except Breakdown β) :=
  fun other hbroken => h other (by rw [Except.error.inj hbroken])

theorem map {answer : Except Breakdown α} (h : BlamesFilter filter? answer) (f : α → β) :
    BlamesFilter filter? (answer.map f) := by
  cases answer with
  | error reason => exact h.passed
  | ok a => exact nofun

end BlamesFilter

theorem Payload.returns_load (path : String) (filter? : Option String) :
    Returns (σ := σ) (load path filter?) (BlamesFilter filter?) := by
  refine Returns.after fun found => .ite (.pure nofun) (Returns.after fun content => ?_)
  cases content with
  | error fault => exact .pure nofun
  | ok content =>
    dsimp only
    cases documentOf path content with
    | error failure => exact .pure nofun
    | ok document =>
      cases filter? with
      | none => exact .pure nofun
      | some filter =>
        exact Returns.after fun now =>
          .pure fun reason hbroken => ⟨filter, rfl, now, document, hbroken⟩

namespace Generation

theorem returns_generatePayload (settings : Settings) (filter? : Option String)
    (replacement : Replacement) (path : String) :
    Returns (σ := σ) (generatePayload settings filter? replacement path)
      (BlamesFilter filter?) := by
  refine (Payload.returns_load path filter?).bind fun found hfound => ?_
  rcases found with reason | (failure | (_ | ⟨document, _ | ⟨second, others⟩⟩))
  · exact .pure hfound.passed
  · exact .pure nofun
  · exact .pure nofun
  · exact Returns.after fun _ => .pure nofun
  · exact Returns.after fun _ => Returns.after fun _ => .pure nofun

theorem returns_generatePayloads (settings : Settings) (filter? : Option String)
    (replacement : Replacement) (paths : List String) :
    Returns (σ := σ) (generatePayloads settings filter? replacement paths)
      (BlamesFilter filter?) := by
  induction paths with
  | nil => exact .pure nofun
  | cons path others ih =>
    refine (returns_generatePayload settings filter? replacement path).bind fun first hfirst => ?_
    cases first with
    | error reason => exact .pure hfirst
    | ok first => exact ih.bind fun rest hrest => .pure (hrest.map _)

theorem returns_firstDocument (filter? : Option String) (failure : Failure)
    (paths : List String) :
    Returns (σ := σ) (firstDocument filter? failure paths) (BlamesFilter filter?) := by
  induction paths generalizing failure with
  | nil => exact .pure nofun
  | cons path others ih =>
    refine (Payload.returns_load path filter?).bind fun found hfound => ?_
    rcases found with reason | (last | (_ | ⟨document, rest⟩))
    · exact .pure hfound.passed
    · exact Returns.after fun _ => ih last
    · exact ih failure
    · exact .ite (Returns.after fun _ => .pure nofun) (.pure nofun)

theorem returns_generateNamed (settings : Settings) (filter? : Option String)
    (replacement : Replacement) (name : String) (paths : List String) :
    Returns (σ := σ) (generateNamed settings filter? replacement name paths)
      (BlamesFilter filter?) := by
  refine (returns_firstDocument filter? noDocuments paths).bind fun found hfound => ?_
  rcases found with reason | (failure | found)
  · exact .pure hfound.passed
  · exact .pure nofun
  · exact Returns.after fun _ => .pure nofun

/-- There is no report only where a filter is to blame. -/
theorem returns_generateValues (settings : Settings) (name? filter? : Option String)
    (replacement : Replacement) (paths : List String) :
    Returns (σ := σ) (generateValues settings name? filter? replacement paths)
      (BlamesFilter filter?) := by
  refine .ite (.pure nofun) ?_
  cases name? with
  | none => exact returns_generatePayloads settings filter? replacement paths
  | some name =>
    exact (returns_generateNamed settings filter? replacement name paths).bind
      fun result hresult => .pure (hresult.map _)

end Generation

/-! ## Results of a run -/

namespace CommandLine

/-- A command line with a pattern among its payloads that cannot be read. -/
def Invocation.HasBadPattern (invocation : Invocation) : Prop :=
  ∃ inputs name? filter? force, invocation.task = .values inputs name? filter? force ∧
    ∃ input ∈ inputs, Payload.BadPattern input

/-- A command line with a filter that breaks down for some document at some time. -/
def Invocation.BreaksDown (invocation : Invocation) (reason : Breakdown) : Prop :=
  ∃ inputs name? filter force, invocation.task = .values inputs name? (some filter) force ∧
    Filter.BreaksDown filter reason

/-- What a run can come to: the failure of a pattern, its regular end, or what a filter has broken
down with. -/
inductive Ending (invocation : Invocation) : Upshot Unit → Prop
  | pattern (text detail : String) : invocation.HasBadPattern →
      Ending invocation (.ok (.error (.pattern text detail)))
  | regular : ¬ invocation.HasBadPattern → Ending invocation (.ok (.ok ()))
  | broken (reason : Breakdown) : ¬ invocation.HasBadPattern → invocation.BreaksDown reason →
      Ending invocation (.error reason)

theorem returns_run (invocation : Invocation) :
    Returns (σ := σ) (run invocation) (Ending invocation) := by
  obtain ⟨config?, verbose, output?, dialect?, task⟩ := invocation
  refine Returns.after fun settings => ?_
  cases task with
  | models model? schema? models? =>
    exact Returns.after fun _ => .pure (.regular (by rintro ⟨_, _, _, _, ⟨⟩, _⟩))
  | values inputs name? filter? force =>
    refine (Payload.returns_resolve inputs).bind fun found hfound => ?_
    cases hfound with
    | failure text detail hbad => exact .pure (.pattern _ _ ⟨_, _, _, _, rfl, hbad⟩)
    | result paths hgood =>
      have hnone : ¬ Invocation.HasBadPattern
          ⟨config?, verbose, output?, dialect?, .values inputs name? filter? force⟩ := by
        rintro ⟨_, _, _, _, ⟨⟩, hbad⟩
        exact hgood hbad
      refine (Generation.returns_generateValues _ _ _ _ paths).bind fun report hreport => ?_
      cases report with
      | ok report => exact Returns.after fun _ => .pure (.regular hnone)
      | error reason =>
        obtain ⟨filter, rfl, hbroken⟩ := hreport reason rfl
        exact .pure (.broken reason hnone ⟨_, _, _, _, rfl, hbroken⟩)

section

variable {m : Type → Type} [Monad m] [Host m] {P : ∀ {α : Type}, m α → Prop}

theorem quiet_settingsOf (hP : Host.Chains m P) (hquiet : Host.Quiet m P)
    (invocation : Invocation) : P (settingsOf invocation : m Settings) := by
  refine hP.bind (hP.bind (Settings.quiet_load hP hquiet _) fun found => ?_) fun _ => hP.pure _
  rcases found with failure | (_ | settings)
  · exact hP.bind (hquiet.report _) fun _ => hP.pure _
  · exact Host.either (hP.bind (hquiet.report _) fun _ => hP.pure _) (hP.pure _)
  · exact hP.pure _

end

/-- Patterns are followed before anything is written. -/
theorem leaves_of_hasBadPattern {view : σ → φ} (hview : Quiet (StateM σ) (Leaves view))
    {invocation : Invocation} (h : invocation.HasBadPattern) :
    Leaves view (run invocation : StateM σ (Upshot Unit)) := by
  obtain ⟨config?, verbose, output?, dialect?, task⟩ := invocation
  obtain ⟨inputs, name?, filter?, force, ⟨⟩, hbad⟩ := h
  have hchains := chains_leaves view
  refine hchains.bind (quiet_settingsOf hchains hview _) fun settings => ?_
  refine Leaves.bind_returns (Payload.quiet_resolve hchains hview inputs)
    (Payload.returns_resolve inputs) fun found hfound => ?_
  cases hfound with
  | failure text detail _ => exact hchains.pure _
  | result paths hgood => exact absurd hbad hgood

/-- The end of a run as the program promises it: unless it comes to no end, it fails exactly for a
pattern that cannot be read, with the number 1 and without touching what is viewed; and in every
other case it ends well, with the number 0. -/
def Invocation.Promised (view : σ → φ) (invocation : Invocation) (before : σ)
    (ended : Upshot Unit × σ) : Prop :=
  ended.1 ≠ .error .endless →
    ((∃ failure, ended.1 = .ok (.error failure)) ↔ invocation.HasBadPattern) ∧
    (invocation.HasBadPattern → exitCode? ended.1 = some 1 ∧ view ended.2 = view before) ∧
    (¬ invocation.HasBadPattern → ended.1 = .ok (.ok ()) ∧ exitCode? ended.1 = some 0)

/-- How a run ends, on a system that answers and refuses whatever it likes, as long as asking it
does not change what is viewed.  A run fails exactly for a pattern among its payloads that cannot be
read, with the number 1, and then it has changed nothing, whatever the settings say.  Every other
run ends well, with the number 0, unless its filter breaks down and takes the run with it; then it
ends with the number of that, if it ends.  So it ends as promised unless there is an end that comes
from a filter. -/
theorem run_fails_iff {view : σ → φ} (hview : Quiet (StateM σ) (Leaves view))
    (invocation : Invocation) (system : σ) :
    let ended := (run invocation : StateM σ (Upshot Unit)) system
    ((∃ failure, ended.1 = .ok (.error failure)) ↔ invocation.HasBadPattern) ∧
    (invocation.HasBadPattern → exitCode? ended.1 = some 1 ∧ view ended.2 = view system) ∧
    (¬ invocation.HasBadPattern → ended.1 = .ok (.ok ()) ∧ exitCode? ended.1 = some 0 ∨
      ∃ reason, ended.1 = .error reason ∧ exitCode? ended.1 = reason.exitCode? ∧
        invocation.BreaksDown reason) ∧
    (invocation.Promised view system ended ↔
      ∀ reason, ended.1 = .error reason → reason = .endless) := by
  have hending := returns_run invocation system
  have hleaves : invocation.HasBadPattern → _ := fun h => leaves_of_hasBadPattern hview h system
  revert hending hleaves
  generalize (run invocation : StateM σ (Upshot Unit)) system = ended
  obtain ⟨result, after⟩ := ended
  intro hending hleaves
  dsimp only [Invocation.Promised] at hleaves ⊢
  cases hending with
  | pattern text detail hbad =>
    have hfails : (∃ failure, Except.ok (Except.error (Failure.pattern text detail)) =
        (.ok (.error failure) : Upshot Unit)) ↔ invocation.HasBadPattern :=
      ⟨fun _ => hbad, fun _ => ⟨_, rfl⟩⟩
    exact ⟨hfails, fun _ => ⟨rfl, hleaves hbad⟩, absurd hbad, fun _ _ => nofun, fun _ _ =>
      ⟨hfails, fun _ => ⟨rfl, hleaves hbad⟩, absurd hbad⟩⟩
  | regular hgood =>
    have hfails : (∃ failure, Except.ok (Except.ok ()) = (.ok (.error failure) : Upshot Unit)) ↔
        invocation.HasBadPattern := ⟨nofun, fun h => absurd h hgood⟩
    exact ⟨hfails, fun h => absurd h hgood, fun _ => .inl ⟨rfl, rfl⟩, fun _ _ => nofun, fun _ _ =>
      ⟨hfails, fun h => absurd h hgood, fun _ => ⟨rfl, rfl⟩⟩⟩
  | broken reason hgood hbroken =>
    refine ⟨⟨nofun, fun h => absurd h hgood⟩, fun h => absurd h hgood,
      fun _ => .inr ⟨reason, rfl, rfl, hbroken⟩, fun hpromised other hother => ?_,
      fun hendless hend => absurd (congrArg Except.error (hendless reason rfl)) hend⟩
    obtain rfl := Except.error.inj hother
    by_contra hne
    obtain ⟨-, -, hends⟩ := hpromised fun hendless => hne (Except.error.inj hendless)
    cases (hends hgood).1

/-- Asking a session does not change its files. -/
theorem quiet_session : Quiet (StateM Session) (Leaves Session.files) where
  isDirectory _ _ := rfl
  isFile _ _ := rfl
  exists? _ _ := rfl
  modified? _ _ := rfl
  list _ _ := rfl
  read _ _ := rfl
  now _ := rfl
  stamp _ := rfl
  report _ _ := rfl
  say _ _ := rfl

/-- A session in which some paths may neither be read nor written. -/
structure Guarded where
  session : Session
  closed : List String

namespace Guarded

/-- What a session does, behind the guard. -/
def lift {α : Type} (action : StateM Session α) : StateM Guarded α := fun guarded =>
  let (answer, session) := action guarded.session
  (answer, { guarded with session := session })

/-- An operation on a path, unless it is closed. -/
def unlessClosed {α : Type} (path : String) (action : StateM Session (Except FileFault α)) :
    StateM Guarded (Except FileFault α) := fun guarded =>
  if path ∈ guarded.closed then (.error .denied, guarded) else lift action guarded

instance : Host (StateM Guarded) where
  isDirectory path := lift (Host.isDirectory path)
  isFile path := lift (Host.isFile path)
  exists? path := lift (Host.exists? path)
  modified? path := lift (Host.modified? path)
  list path := unlessClosed path (Host.list path)
  read path := unlessClosed path (Host.read path)
  write path content := unlessClosed path (Host.write path content)
  makeDirectory path := unlessClosed path (Host.makeDirectory path)
  now := lift Host.now
  stamp := lift Host.stamp
  report event := lift (Host.report event)
  say line := lift (Host.say line)

/-- The files behind the guard. -/
def files (guarded : Guarded) : Files :=
  guarded.session.files

theorem leaves_unlessClosed {α : Type} {path : String}
    {action : StateM Session (Except FileFault α)} (h : Leaves Session.files action) :
    Leaves files (unlessClosed path action) := by
  intro guarded
  rw [unlessClosed]
  split
  · rfl
  · exact h guarded.session

theorem quiet : Quiet (StateM Guarded) (Leaves files) where
  isDirectory _ _ := rfl
  isFile _ _ := rfl
  exists? _ _ := rfl
  modified? _ _ := rfl
  list path := leaves_unlessClosed (quiet_session.list path)
  read path := leaves_unlessClosed (quiet_session.read path)
  now _ := rfl
  stamp _ := rfl
  report _ _ := rfl
  say _ _ := rfl

end Guarded

/-- A directory with a payload and with settings that turn generation off. -/
def turnedOff : Session where
  files :=
    { entries :=
        [(["a.json".toList], .file "{}".toUTF8.toList 0),
          ([defaultConfig.toList], .file "auto_generate = false".toUTF8.toList 0)]
      home := [] }
  now := 0
  stamp := ""

/-- The same directory, where neither of the two may be read. -/
def turnedAway : Guarded where
  session := turnedOff
  closed := ["a.json", defaultConfig]

/-- A command line with payloads and nothing else. -/
def valuesOf (inputs : List String) (filter? : Option String) : Invocation where
  config? := none
  verbose := false
  output? := none
  dialect? := none
  task := .values inputs none filter? false

theorem hasBadPattern_openBracket : (valuesOf ["a.json", "b[.json"] none).HasBadPattern :=
  ⟨_, _, _, _, rfl, "b[.json", by simp, by decide, ⟨.range, 1⟩, by decide⟩

theorem not_hasBadPattern_plain (filter? : Option String) :
    ¬ (valuesOf ["a.json"] filter?).HasBadPattern := by
  rintro ⟨_, _, _, _, ⟨⟩, input, hinput, hpattern, -⟩
  rw [List.mem_singleton.1 hinput] at hpattern
  exact absurd hpattern (by decide)

/-- A bracket that is not closed ends the run with an error although generation is turned off.  A
run over a payload that may not be read ends well, and so do the settings that may not be read. -/
theorem run_fails_iff_turnedOff :
    let opened := turnedOff.perform (run (valuesOf ["a.json", "b[.json"] none))
    let refused := (run (valuesOf ["a.json"] none) : StateM Guarded (Upshot Unit)) turnedAway
    exitCode? opened.1 = some 1 ∧ opened.2.files = turnedOff.files ∧
    refused.1 = .ok (.ok ()) ∧ exitCode? refused.1 = some 0 ∧
    refused.2.session.events.map (·.message) = ["using default configuration",
      "I/O error on a.json: Permission denied (os error 13)"] := by
  intro opened refused
  obtain ⟨hcode, hfiles⟩ := (run_fails_iff quiet_session _ turnedOff).2.1 hasBadPattern_openBracket
  rcases (run_fails_iff Guarded.quiet (valuesOf ["a.json"] none) turnedAway).2.2.1
    (not_hasBadPattern_plain none) with ⟨hresult, hcode'⟩ | ⟨_, -, -, _, _, _, _, ⟨⟩, -⟩
  exact ⟨hcode, hfiles, hresult, hcode', by decide +kernel⟩

/-- A directory with a payload that holds a text. -/
def letters : Session where
  files :=
    { entries := [(["a.json".toList], .file "\"ab\"".toUTF8.toList 0)]
      home := [] }
  now := 0
  stamp := ""

/-- Not every run ends as promised: an expression of which an inner group has matched before the
group around it takes the program down, and the number is that of a program that has collapsed. -/
theorem not_forall_promised : ¬ ∀ (invocation : Invocation) (session : Session),
    invocation.Promised Session.files session (session.perform (run invocation)) := by
  intro h
  have hresult : (letters.perform (run
      (valuesOf ["a.json"] (some "matches(\"((a)|b)+\"; \"g\")")))).1 = .error .collapse := by
    decide +kernel
  have hends := (h (valuesOf ["a.json"] (some "matches(\"((a)|b)+\"; \"g\")")) letters ?_).2.2
    (not_hasBadPattern_plain _)
  · rw [hresult] at hends
    cases hends.1
  · rw [hresult]
    exact nofun

end CommandLine
end ResponseTypes
