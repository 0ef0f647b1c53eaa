import ResponseTypes.Proofs.UntouchedOutput
import ResponseTypes.Proofs.Utf8Bytes

/-!
# Calls that are made once more

A call that is made once more reads what it read, and finds what it left.  The artifacts that it has
written or found fresh are fresh as long as they are young, and what it could not write it still
cannot; so nothing is changed, unless a filter makes something else of the inputs than it did.  A
filter can look at the clock, so this has to be asked for: with a filter that lets its input pass
for some time only, there is nothing to declare any more when the time is over.

That the inputs hold the same when both calls begin does not say what a payload held when its turn
came in the first call, for by then it may have been written over.  But then it was an artifact and
held a declaration, which is no payload; no declaration is ever taken away, so it holds one when the
second call begins, and there was nothing to declare in it either time.

## Main definitions

- `Chronicle.Declared`: a location with the text of a declaration; `Chronicle.Remembers`: none of
  these is lost.
- `Chronicle.Consistent`: what a payload gives twice; `Chronicle.Agrees`: the same for a task.
- `Chronicle.Vouches`: a result that says that an artifact is there.
- `Chronicle.Leaves`: what the result of a step says of the files for good.
- `Chronicle.Steady`: an input that gives the same whenever the clock is read.

## Main statements

- `Chronicle.ofContent_consistent`: a payload gives what it gave the first time.
- `Chronicle.Attempt.of_young`: an artifact that stays young is found fresh.
- `Chronicle.Takes.again`, `Chronicle.Follows.again`: tasks that are settled once more.
- `Chronicle.calls_keep_distance`: writes are a window apart, and a call that is made once more
  within the window writes nothing.
-/

namespace ResponseTypes

/-- What is young at some time has been so before. -/
theorem Freshness.isYounger_of_le {time window first second : Int} (hle : first ≤ second)
    (h : isYounger time window second = true) : isYounger time window first = true := by
  rw [isYounger_iff] at h ⊢
  omega

/-! ## Texts of declarations -/

/-- No document begins with a slash. -/
theorem Json.parse_slash (rest : Bytes) : parse .any (47 :: rest) =
    .error { problem := .wantsValue, left := rest.length } := by
  change (valueWith (some (value 126)) .any (47 :: rest)).map _ = _
  rw [valueWith, skipBlank, List.dropWhile_cons_of_neg (by decide)]
  rfl

namespace Generation

variable {settings : Settings}

/-- The text of a declaration begins with a comment. -/
theorem content_eq_slash (settings : Settings) (declaration : Declaration) (date : String) :
    ∃ rest, content settings declaration date = 47 :: rest := by
  have hlines : declaration.lines settings.dialect settings.excludedColumns date =
      Declaration.header ::
        (declaration.lines settings.dialect settings.excludedColumns date).tail := rfl
  have hheader : (Declaration.header ++ "\n").toUTF8.toList =
      47 :: (Declaration.header ++ "\n").toUTF8.toList.tail := by decide +kernel
  rw [content, Declaration.render, hlines, List.map_cons, String.join_cons, toList_toUTF8_append,
    hheader]
  exact ⟨_, rfl⟩

/-- A declaration is no payload. -/
theorem ofContent_content (settings : Settings) (path : String) (filter? : Option String)
    (t : Int) (declaration : Declaration) (date : String) : ∃ failure,
      Payload.ofContent path filter? t (some (content settings declaration date)) =
        .ok (.error failure) := by
  obtain ⟨rest, hrest⟩ := content_eq_slash settings declaration date
  rw [hrest, Payload.ofContent, Payload.documentOf, Json.parse_slash]
  exact ⟨_, rfl⟩

end Generation

namespace Chronicle

open Generation

variable {settings : Settings} {before between later after start : Chronicle}
variable {files initial mid final : Files} {path : String} {filter? : Option String} {t t' : Int}
variable {moments : Moments}

/-! ## Reading inputs again -/

/-- There is the text of a declaration where an artifact is. -/
def Declared (settings : Settings) (files : Files) (location : Location) : Prop :=
  ∃ name declaration date, files.locate (settings.artifactPath name) = .ok location ∧
    files.occupancy location = .file (content settings declaration date)

/-- Directories are made, and declarations are written to artifacts, and that is all. -/
def Declares (settings : Settings) (before after : Files) : Prop :=
  Files.Growth (fun _ => True) (Declared settings after) before after

/-- No declaration is lost. -/
structure Remembers (settings : Settings) (before after : Files) : Prop where
  home : after.home = before.home
  declared : ∀ location, Declared settings before location → Declared settings after location

theorem Remembers.trans (h : Remembers settings initial mid) (h' : Remembers settings mid final) :
    Remembers settings initial final :=
  ⟨h'.home.trans h.home, fun location hdeclared =>
    h'.declared location (h.declared location hdeclared)⟩

namespace Declares

theorem refl (files : Files) : Declares settings files files := Files.Growth.refl files

theorem remembers (h : Declares settings initial mid) : Remembers settings initial mid := by
  refine ⟨h.home, fun location hdeclared => ?_⟩
  by_contra hnot
  obtain ⟨name, declaration, date, hlocate, hfile⟩ := hdeclared
  rcases Files.Growth.of_not_written h hnot with hkept | ⟨hvacant, -⟩
  · exact hnot ⟨name, declaration, date, Files.locate_grown h hlocate, hkept.trans hfile⟩
  · rw [hvacant] at hfile
    cases hfile

theorem trans (h : Declares settings initial mid) (h' : Declares settings mid final) :
    Declares settings initial final :=
  Files.Growth.trans (h.mono (fun _ => id) h'.remembers.declared) h'

end Declares

theorem invariant_declares (settings : Settings) (files : Files) :
    Invariant settings fun chronicle => Declares settings files chronicle.files := by
  refine .of_changes (fun helapses h => ?_) (fun chronicle path changed h hfiles => ?_)
    fun chronicle declaration date changed h hfiles => ?_
  · rwa [helapses.files]
  · obtain ⟨location, -, hvacant, rfl⟩ := Files.makeDirectory_eq_ok hfiles
    exact h.trans (Files.growth_create hvacant trivial)
  · refine h.trans ((Files.write_growth hfiles).mono (fun _ => id) fun location hlocate => ?_)
    obtain ⟨found, hfound, -, hentry, -⟩ := Files.at?_of_write hfiles
    have hgrown : Files.Growth (fun _ => True) _ chronicle.files changed :=
      Files.write_growth hfiles
    obtain rfl := Except.ok.inj ((Files.locate_grown hgrown hfound).symm.trans hlocate)
    refine ⟨declaration.name, declaration, date, hlocate, ?_⟩
    rw [Files.occupancy, hentry]
    rfl

theorem History.remembers (h : History settings start after) :
    Remembers settings start.files after.files := by
  refine Invariant.history
    (I := fun chronicle => Remembers settings start.files chronicle.files) ⟨?_, ?_⟩ ?_ h
    ⟨rfl, fun _ => id⟩
  · intro before after helapses hremembers
    rwa [helapses.files]
  · intro declaration moments result before after hattempt hremembers
    exact hremembers.trans ((invariant_declares settings before.files).attempt hattempt
      (.refl before.files)).remembers
  · intro chronicle files moment _ huntouched hremembers
    refine hremembers.trans ⟨huntouched.home, fun location hdeclared => ?_⟩
    obtain ⟨name, declaration, date, hlocate, hfile⟩ := hdeclared
    exact ⟨name, declaration, date, (huntouched.locate name).trans hlocate,
      (huntouched.occupancy hlocate).trans hfile⟩

/-- A path that does not lead upwards reads the same during a call unless there is a declaration
now. -/
theorem toOption_read_of_declares (htree : initial.IsTree) (h : Declares settings initial mid)
    (hparts : ['.', '.'] ∉ Path.parts path.toList)
    (hfree : ∀ location, mid.locate path = .ok location → ¬ Declared settings mid location) :
    (mid.read path).toOption = (initial.read path).toOption :=
  Files.toOption_read_of_growth htree h hparts fun location hlocate =>
    h.content?_eq (hfree location hlocate)

/-- There are no documents in a payload that is a declaration. -/
theorem ofContent_of_declared (filter? : Option String) (t : Int) {location : Location}
    (hlocate : files.locate path = .ok location)
    (h : Declared settings files location) :
    ∃ failure, Payload.ofContent path filter? t (files.read path).toOption =
      .ok (.error failure) := by
  obtain ⟨name, declaration, date, -, hfile⟩ := h
  rw [Files.read_eq_ok.2 ⟨location, hlocate, hfile⟩]
  exact ofContent_content settings path filter? t declaration date

/-- What a payload gives twice: the same documents, or none either time. -/
def Consistent (documents again : Upshot (List Json)) : Prop :=
  again = documents ∨ (∃ failure, documents = .ok (.error failure)) ∧
    ∃ failure, again = .ok (.error failure)

/-- A payload gives what it gave during a call, as long as it holds what it held when the call began
and the time makes no difference to the filter. -/
theorem ofContent_consistent (htree : initial.IsTree) (h : Declares settings initial mid)
    (hremembers : Remembers settings mid final) (hparts : ['.', '.'] ∉ Path.parts path.toList)
    (hsame : (final.read path).toOption = (initial.read path).toOption)
    (hsteady : Payload.ofContent path filter? t' (initial.read path).toOption =
      Payload.ofContent path filter? t (initial.read path).toOption) :
    Consistent (Payload.ofContent path filter? t (mid.read path).toOption)
      (Payload.ofContent path filter? t' (final.read path).toOption) := by
  by_cases hthere : ∃ location, mid.locate path = .ok location ∧ Declared settings mid location
  · obtain ⟨location, hlocate, hdeclared⟩ := hthere
    refine .inr ⟨ofContent_of_declared filter? t hlocate hdeclared, ?_⟩
    cases hfinal : final.locate path with
    | ok location' =>
      obtain rfl := Files.locate_unique hremembers.home hlocate hfinal
      exact ofContent_of_declared filter? t' hfinal (hremembers.declared _ hdeclared)
    | error fault =>
      refine ⟨.absent .payload path, ?_⟩
      rw [Files.toOption_read, hfinal]
      rfl
  · have hread := toOption_read_of_declares htree h hparts fun location hlocate hdeclared =>
      hthere ⟨location, hlocate, hdeclared⟩
    exact .inl (by rw [hsame, hread, hsteady])

/-- Tasks that are the same or have nothing to declare. -/
def Agrees (task other : Task) : Prop :=
  other = task ∨ other.name = task.name ∧ (∃ failure, task.declaration = .error failure) ∧
    ∃ failure, other.declaration = .error failure

theorem agrees_refl (tasks : List Task) : List.Forall₂ Agrees tasks tasks :=
  List.forall₂_same.2 fun _ _ => .inl rfl

/-- Payloads that give the same documents give the same tasks. -/
theorem tasksIn_agree (h : Consistent (Payload.ofContent path filter? t (files.read path).toOption)
      (Payload.ofContent path filter? t' (final.read path).toOption))
    {tasks : List Task} (htasks : tasksIn settings filter? t files path = .ok tasks) :
    ∃ again, tasksIn settings filter? t' final path = .ok again ∧
      List.Forall₂ Agrees tasks again := by
  rcases h with hsame | ⟨⟨failure, hfailed⟩, failure', hfailed'⟩
  · exact ⟨tasks, by rw [← htasks, tasksIn, tasksIn, hsame], agrees_refl tasks⟩
  · rw [tasksIn, hfailed] at htasks
    obtain rfl := Except.ok.inj htasks
    exact ⟨[⟨unitName path, .error failure'⟩], by rw [tasksIn, hfailed']; rfl,
      .cons (.inr ⟨rfl, ⟨_, rfl⟩, _, rfl⟩) .nil⟩

/-- Payloads that give the same documents have the same first document. -/
theorem firstIn_agree {paths : List String} {failure failure' : Failure}
    {readings readings' : Nat → Int}
    (h : ∀ path ∈ paths, ∀ i,
      Consistent (Payload.ofContent path filter? (readings i) (files.read path).toOption)
        (Payload.ofContent path filter? (readings' i) (final.read path).toOption))
    {found : Except Failure (String × Json)}
    (hfound : firstIn filter? files readings failure paths = .ok found) :
    ∃ again, firstIn filter? final readings' failure' paths = .ok again ∧
      (again = found ∨
        (∃ failure, found = .error failure) ∧ ∃ failure, again = .error failure) := by
  induction paths generalizing failure failure' readings readings' with
  | nil =>
    obtain rfl := Except.ok.inj hfound
    exact ⟨_, rfl, .inr ⟨⟨_, rfl⟩, _, rfl⟩⟩
  | cons path paths ih =>
    obtain ⟨hpath, hothers⟩ := List.forall_mem_cons.1 h
    rw [firstIn] at hfound ⊢
    rcases hpath 0 with hsame | ⟨⟨last, hfailed⟩, last', hfailed'⟩
    · rw [hsame]
      split at hfound
      · cases hfound
      · exact ih (fun path hmem i => hothers path hmem (i + 1)) hfound
      · exact ih (fun path hmem i => hothers path hmem (i + 1)) hfound
      · obtain rfl := Except.ok.inj hfound
        exact ⟨_, rfl, .inl rfl⟩
    · rw [hfailed] at hfound
      rw [hfailed']
      exact ih (fun path hmem i => hothers path hmem (i + 1)) hfound

/-- Payloads that give the same documents have the same task under a name. -/
theorem namedTasks_agree {paths : List String} {name : String} {readings readings' : Nat → Int}
    (h : ∀ path ∈ paths, ∀ i,
      Consistent (Payload.ofContent path filter? (readings i) (files.read path).toOption)
        (Payload.ofContent path filter? (readings' i) (final.read path).toOption))
    {tasks : List Task}
    (htasks : namedTasks settings filter? name paths readings files = .ok tasks) :
    ∃ again, namedTasks settings filter? name paths readings' final = .ok again ∧
      List.Forall₂ Agrees tasks again := by
  rw [namedTasks] at htasks ⊢
  cases hfound : firstIn filter? files readings noDocuments paths with
  | error reason =>
    rw [hfound] at htasks
    cases htasks
  | ok found =>
    rw [hfound] at htasks
    obtain rfl := Except.ok.inj htasks
    obtain ⟨found', hfound', hsame⟩ := firstIn_agree h hfound
    refine ⟨[namedTask settings name found'], by rw [hfound']; rfl, .cons ?_ .nil⟩
    rcases hsame with rfl | ⟨⟨failure, rfl⟩, failure', rfl⟩
    · exact .inl rfl
    · exact .inr ⟨rfl, ⟨_, rfl⟩, _, rfl⟩

/-- A call whose inputs give the same documents has the same tasks. -/
theorem sources_agree {call : ValueCall} {readings readings' : Nat → Int}
    (h : ∀ path ∈ call.inputs, ∀ i,
      Consistent (Payload.ofContent path call.filter? (readings i) (files.read path).toOption)
        (Payload.ofContent path call.filter? (readings' i) (final.read path).toOption))
    {source : TaskSource} (hsource : source ∈ call.sources settings) {tasks : List Task}
    (htasks : source readings files = .ok tasks) :
    ∃ again, source readings' final = .ok again ∧ List.Forall₂ Agrees tasks again := by
  cases call with
  | value name origin document =>
    rw [List.mem_singleton.1 hsource] at htasks ⊢
    exact ⟨tasks, htasks, agrees_refl tasks⟩
  | values name? filter? paths =>
    cases name? with
    | none =>
      obtain ⟨path, hpath, rfl⟩ := List.mem_map.1 hsource
      exact tasksIn_agree (h path hpath 0) htasks
    | some name =>
      rw [List.mem_singleton.1 hsource] at htasks ⊢
      exact namedTasks_agree h htasks

/-! ## The same call again -/

/-- A result that vouches for an artifact, which has been written or found fresh. -/
def Vouches (result : Except Failure Outcome) (path : String) : Prop :=
  result = .ok (.written path) ∨ result = .ok (.fresh path)

theorem Vouches.unique {result : Except Failure Outcome} {path path' : String}
    (h : Vouches result path) (h' : Vouches result path') : path = path' := by
  rcases h with rfl | rfl <;> rcases h' with h' | h' <;> cases h' <;> rfl

/-- What the result of a step says of the files for good. -/
inductive Leaves (settings : Settings) (files : Files) : Step → Prop
  | undeclared {name : String} {failure : Failure} :
      Leaves settings files ⟨⟨name, .error failure⟩, .error failure⟩
  | barred {name : String} {declaration : Declaration} {failure : Failure} :
      Barred settings (settings.artifactPath declaration.name) files →
      Leaves settings files ⟨⟨name, .ok declaration⟩, .error failure⟩
  | vouched {name : String} {declaration : Declaration} {result : Except Failure Outcome} :
      Housed settings files → Vouches result (settings.artifactPath declaration.name) →
      Leaves settings files ⟨⟨name, .ok declaration⟩, result⟩

theorem invariant_leaves (settings : Settings) (step : Step) :
    Invariant settings fun chronicle => Leaves settings chronicle.files step where
  elapses helapses h := by rwa [helapses.files]
  attempt hattempt h := by
    cases h with
    | undeclared => exact .undeclared
    | barred hbarred => exact .barred ((invariant_barred settings _).attempt hattempt hbarred)
    | vouched hhoused hvouches =>
      exact .vouched ((invariant_housed settings).attempt hattempt hhoused) hvouches

theorem History.leaves (h : History settings start after) {step : Step}
    (hstart : Leaves settings start.files step) : Leaves settings after.files step := by
  cases hstart with
  | undeclared => exact .undeclared
  | barred hbarred => exact .barred (h.barred hbarred)
  | vouched hhoused hvouches => exact .vouched (h.housed hhoused) hvouches

theorem Attempt.leaves {declaration : Declaration} {result : Except Failure Outcome}
    (h : Attempt settings declaration moments before result after) (name : String) :
    Leaves settings after.files ⟨⟨name, .ok declaration⟩, result⟩ := by
  cases h with
  | homeless hensure => exact .barred (.inl (hopeless_of_error hensure))
  | housed hensure _ hdeposit =>
    have hhoused := (housed_of_ok hensure).grown hdeposit.growth
    cases hdeposit with
    | fresh => exact .vouched hhoused (.inr rfl)
    | refused _ hwrite hafter =>
      refine .barred (.inr ⟨hhoused, ?_⟩)
      rw [hafter.files]
      exact Files.unwritable_of_error hwrite
    | written => exact .vouched hhoused (.inl rfl)

theorem Takes.leaves {turns : List Turn} (h : Takes settings before turns after) :
    ∀ turn ∈ turns, Leaves settings after.files turn.toStep := by
  induction h with
  | rest => exact List.forall_mem_nil _
  | undeclared _ _ _ ih => exact List.forall_mem_cons.2 ⟨.undeclared, ih⟩
  | declared _ hattempt htakes ih =>
    exact List.forall_mem_cons.2
      ⟨(invariant_leaves settings _).takes htakes (hattempt.leaves _), ih⟩

theorem Follows.leaves {sources : List TaskSource} {turns : List Turn}
    {ending : Except Breakdown Unit} (h : Follows settings before sources turns ending after) :
    ∀ turn ∈ turns, Leaves settings after.files turn.toStep := by
  induction h with
  | done | broken => exact List.forall_mem_nil _
  | turn _ _ _ htakes hfollows ih =>
    exact List.forall_mem_append.2 ⟨fun turn hturn =>
      (invariant_leaves settings turn.toStep).follows hfollows (htakes.leaves turn hturn), ih⟩

/-- An artifact that is young all the time is found fresh, and nothing is changed. -/
theorem Attempt.of_young {declaration : Declaration} {result : Except Failure Outcome} {time : Int}
    (h : Attempt settings declaration moments before result after)
    (hhoused : Housed settings before.files)
    (hmodified : before.files.modified? (settings.artifactPath declaration.name) = some time)
    (hyoung : ∀ moment, moment ≤ after.moment →
      Freshness.isYounger time (window settings) (before.clock moment) = true) :
    result = .ok (.fresh (settings.artifactPath declaration.name)) ∧
      after.files = before.files := by
  obtain ⟨between, helapses, hwithin, hdeposit⟩ := h.deposit hhoused
  have hyounger : Freshness.isYounger time (window settings) (between.clock moments.asked) =
      true := by
    rw [helapses.clock]
    exact hyoung _ (Nat.le_trans hwithin.dated (Nat.le_trans hwithin.stamped hwithin.last))
  rw [← helapses.files] at hmodified ⊢
  cases hdeposit with
  | fresh _ _ hafter => exact ⟨rfl, hafter.files⟩
  | refused hstale | written hstale =>
    rw [hstale time hmodified] at hyounger
    cases hyounger

/-- A unit that is reported once more. -/
def Repeats (unit again : UnitReport) : Prop :=
  again.name = unit.name ∧ ∀ path, Vouches unit.result path → again.result = .ok (.fresh path)

theorem repeats_of_error {name : String} {failure : Failure} {result : Except Failure Outcome} :
    Repeats ⟨name, .error failure⟩ ⟨name, result⟩ :=
  ⟨rfl, fun _ hvouches => by rcases hvouches with h | h <;> cases h⟩

/-- What a step has left is there, and the artifacts it vouches for are young for some time. -/
structure Ready (settings : Settings) (files : Files) (limit : Int) (step : Step) : Prop where
  leaves : Leaves settings files step
  young : ∀ path, Vouches step.result path → ∃ time, files.modified? path = some time ∧
    Freshness.isYounger time (window settings) limit = true

namespace Ready

variable {step : Step} {name : String}

theorem undeclared {limit : Int} {failure : Failure} (h : Ready settings files limit step)
    (hagrees : Agrees step.toTask ⟨name, .error failure⟩) :
    Repeats step.report ⟨name, .error failure⟩ := by
  cases h.leaves with
  | undeclared =>
    rcases hagrees with hsame | ⟨hname, -⟩
    · cases hsame
      exact repeats_of_error
    · cases hname
      exact repeats_of_error
  | barred | vouched =>
    rcases hagrees with hsame | ⟨-, ⟨_, hfailed⟩, -⟩
    · cases hsame
    · cases hfailed

/-- A declaration that is made once more changes nothing. -/
theorem attempt {last : Nat} {declaration : Declaration} {result : Except Failure Outcome}
    (h : Ready settings before.files (before.clock last) step) (hforward : Forward before.clock)
    (hattempt : Attempt settings declaration moments before result after)
    (hlast : after.moment ≤ last)
    (hagrees : Agrees step.toTask ⟨name, .ok declaration⟩) :
    after.files = before.files ∧ Repeats step.report ⟨name, result⟩ := by
  have hsame := hagrees.resolve_right (by rintro ⟨-, -, _, hfailed⟩; cases hfailed)
  cases h with
  | mk hleaves hyoung =>
    cases hleaves with
    | undeclared => cases hsame
    | barred hbarred =>
      cases hsame
      exact ⟨hattempt.of_barred hbarred, repeats_of_error⟩
    | vouched hhoused hvouches =>
      cases hsame
      obtain ⟨time, hmodified, hyounger⟩ := hyoung _ hvouches
      obtain ⟨rfl, hfiles⟩ := hattempt.of_young hhoused hmodified fun moment hmoment =>
        Freshness.isYounger_of_le (hforward (Nat.le_trans hmoment hlast)) hyounger
      refine ⟨hfiles, rfl, fun path hpath => ?_⟩
      rw [hvouches.unique hpath]

end Ready

/-- Tasks that are settled once more change nothing. -/
theorem Takes.again {turns others : List Turn} {last : Nat} (hforward : Forward later.clock)
    (h : Takes settings later others after) (hlast : after.moment ≤ last)
    (hagrees : List.Forall₂ Agrees (turns.map (·.toTask)) (others.map (·.toTask)))
    (hready : ∀ turn ∈ turns, Ready settings later.files (later.clock last) turn.toStep) :
    after.files = later.files ∧
      List.Forall₂ Repeats (turns.map (·.report)) (others.map (·.report)) := by
  induction h generalizing turns with
  | rest helapses =>
    cases turns with
    | nil => exact ⟨helapses.files, .nil⟩
    | cons => cases hagrees
  | undeclared helapses _ _ ih =>
    cases turns with
    | nil => cases hagrees
    | cons turn turns =>
      obtain ⟨hagree, hagrees⟩ := List.forall₂_cons.1 hagrees
      rw [← helapses.files, ← helapses.clock] at hready
      rw [← helapses.clock] at hforward
      obtain ⟨hturn, hturns⟩ := List.forall_mem_cons.1 hready
      obtain ⟨hfiles, hrepeats⟩ := ih hforward hlast hagrees hturns
      exact ⟨hfiles.trans helapses.files, .cons (hturn.undeclared hagree) hrepeats⟩
  | @declared later between next after name declaration result moments others helapses hattempt
      htakes ih =>
    cases turns with
    | nil => cases hagrees
    | cons turn turns =>
      obtain ⟨hagree, hagrees⟩ := List.forall₂_cons.1 hagrees
      rw [← helapses.files, ← helapses.clock] at hready
      rw [← helapses.clock] at hforward
      obtain ⟨hturn, hturns⟩ := List.forall_mem_cons.1 hready
      have hnext := (invariant_clock settings between).attempt hattempt ⟨rfl, Nat.le_refl _⟩
      have hend := (invariant_clock settings next).takes htakes ⟨rfl, Nat.le_refl _⟩
      obtain ⟨hfiles, hrepeat⟩ :=
        hturn.attempt hforward hattempt (Nat.le_trans hend.2 hlast) hagree
      rw [← hnext.1] at hforward
      rw [← hfiles, ← hnext.1] at hturns
      obtain ⟨hrest, hrepeats⟩ := ih hforward hlast hagrees hturns
      exact ⟨hrest.trans (hfiles.trans helapses.files), .cons hrepeat hrepeats⟩

/-- What the clock shows for a while it shows in any time around it. -/
theorem Reads.mono {first last : Chronicle} {readings : Nat → Int}
    (h : Reads before after readings) (hclock : before.clock = first.clock)
    (hfirst : first.moment ≤ before.moment) (hlast : after.moment ≤ last.moment) :
    Reads first last readings := by
  intro i
  obtain ⟨moment, hbefore, hafter, hreading⟩ := h i
  exact ⟨moment, Nat.le_trans hfirst hbefore, Nat.le_trans hafter hlast,
    hreading.trans (congrFun hclock moment)⟩

/-- Sources that give the tasks which they gave the first time give nothing new to write. -/
theorem Follows.again {initial final : Chronicle} {sources : List TaskSource}
    {turns others : List Turn} {ending : Except Breakdown Unit} {last : Nat}
    (h : Follows settings initial sources turns (.ok ()) final)
    (h' : Follows settings later sources others ending after) (hforward : Forward later.clock)
    (hlast : after.moment ≤ last)
    (hagrees : ∀ source ∈ sources, ∀ files, Declares settings initial.files files →
      Declares settings files final.files → ∀ readings readings' tasks,
      Reads initial final readings → Reads later after readings' →
      source readings files = .ok tasks →
      ∃ again, source readings' later.files = .ok again ∧ List.Forall₂ Agrees tasks again)
    (hready : ∀ turn ∈ turns, Ready settings later.files (later.clock last) turn.toStep) :
    ending = .ok () ∧ after.files = later.files ∧
      List.Forall₂ Repeats (turns.map (·.report)) (others.map (·.report)) := by
  generalize hcompletes : (.ok () : Except Breakdown Unit) = completes at h
  induction h generalizing later others with
  | done =>
    cases h' with
    | done helapses => exact ⟨rfl, helapses.files, .nil⟩
  | broken => cases hcompletes
  | @turn initial loaded between final source sources readings turns rest _ helapses hreads htasks
      htakes hfollows ih =>
    obtain ⟨hsource, hsources⟩ := List.forall_mem_cons.1 hagrees
    obtain ⟨hturns, hrest⟩ := List.forall_mem_append.1 hready
    have hloaded := (invariant_clock settings loaded).takes htakes ⟨rfl, Nat.le_refl _⟩
    have hfinally := (invariant_clock settings between).follows hfollows ⟨rfl, Nat.le_refl _⟩
    have hbetween : Declares settings initial.files between.files := by
      rw [← helapses.files]
      exact (invariant_declares settings _).takes htakes (.refl _)
    have hfinal : Declares settings between.files final.files :=
      (invariant_declares settings _).follows hfollows (.refl _)
    have hread : Reads initial final readings :=
      hreads.mono rfl (Nat.le_refl _) (Nat.le_trans hloaded.2 hfinally.2)
    cases h' with
    | broken helapses' hreads' hbroken =>
      obtain ⟨again, hagain, -⟩ :=
        hsource initial.files (.refl _) (hbetween.trans hfinal) _ _ _ hread hreads' htasks
      rw [hbroken] at hagain
      cases hagain
    | @turn _ loaded' middle _ _ _ readings' others rest' _ helapses' hreads' htasks' htakes'
        hfollows' =>
      have hmiddle := (invariant_clock settings loaded').takes htakes' ⟨rfl, Nat.le_refl _⟩
      have hend := (invariant_clock settings middle).follows hfollows' ⟨rfl, Nat.le_refl _⟩
      obtain ⟨again, hagain, htask⟩ :=
        hsource initial.files (.refl _) (hbetween.trans hfinal) _ _ _ hread
          (hreads'.mono rfl (Nat.le_refl _) (Nat.le_trans hmiddle.2 hend.2)) htasks
      rw [htasks'] at hagain
      obtain rfl := Except.ok.inj hagain
      rw [← helapses'.files, ← helapses'.clock] at hturns hrest
      rw [← helapses'.clock] at hforward
      obtain ⟨hfiles, hrepeats⟩ :=
        htakes'.again hforward (Nat.le_trans hend.2 hlast) htask hturns
      rw [← hmiddle.1] at hforward
      rw [← hfiles, ← hmiddle.1] at hrest
      have hlater : middle.files = later.files := hfiles.trans helapses'.files
      obtain ⟨hending, hunchanged, hothers⟩ := ih hfollows' hforward
        (fun source hmem files hdeclares hdeclares' readings readings' tasks hreads hreads' => by
          rw [hlater]
          refine hsources source hmem files (hbetween.trans hdeclares) hdeclares' readings readings'
            tasks (hreads.mono (hloaded.1.trans helapses.clock)
              (Nat.le_trans helapses.moment hloaded.2) (Nat.le_refl _))
            (hreads'.mono (hmiddle.1.trans helapses'.clock)
              (Nat.le_trans helapses'.moment hmiddle.2) (Nat.le_refl _))) hrest hcompletes
      refine ⟨hending, hunchanged.trans hlater, ?_⟩
      rw [List.map_append, List.map_append]
      exact List.rel_append hrepeats hothers

/-! ## Calls -/

/-- An input that does not lead upwards, and to no artifact, reads the same after a call. -/
theorem ValueCall.toOption_read (htree : before.files.IsTree) (call : ValueCall)
    (hparts : ['.', '.'] ∉ Path.parts path.toList)
    (happart : ∀ name location, (call.perform settings before).2.files.locate path = .ok location →
      (call.perform settings before).2.files.locate (settings.artifactPath name) ≠ .ok location) :
    ((call.perform settings before).2.files.read path).toOption =
      (before.files.read path).toOption :=
  toOption_read_of_declares htree
    ((invariant_declares settings before.files).call call (.refl before.files)) hparts
    fun location hlocate hdeclared => by
      obtain ⟨name, -, -, hartifact, -⟩ := hdeclared
      exact happart name location hlocate hartifact

/-- What an input gives does not depend on when the clock is read, at any moment of one call or of
the other. -/
def Steady (call : ValueCall) (input : String) (before after before' after' : Chronicle) : Prop :=
  ∀ moment moment', before.moment ≤ moment → moment ≤ after.moment →
    before'.moment ≤ moment' → moment' ≤ after'.moment →
    Payload.ofContent input call.filter? (before'.clock moment')
        (before.files.read input).toOption =
      Payload.ofContent input call.filter? (before.clock moment)
        (before.files.read input).toOption

theorem Steady.reads {call : ValueCall} {input : String} {before after before' after' : Chronicle}
    (h : Steady call input before after before' after') {readings readings' : Nat → Int}
    (hreads : Reads before after readings) (hreads' : Reads before' after' readings') (i : Nat) :
    Payload.ofContent input call.filter? (readings' i) (before.files.read input).toOption =
      Payload.ofContent input call.filter? (readings i) (before.files.read input).toOption := by
  obtain ⟨moment, hfirst, hlast, hreading⟩ := hreads i
  obtain ⟨moment', hfirst', hlast', hreading'⟩ := hreads' i
  rw [hreading, hreading']
  exact h moment moment' hfirst hlast hfirst' hlast'

/-- A call that is made once more changes nothing, as long as its inputs hold what they held, the
time makes no difference to what they give, and what it has written or found fresh is young. -/
theorem ValueCall.again {again : Chronicle} {report : Report} (htree : before.files.IsTree)
    (call : ValueCall)
    (hreport : (call.perform settings before).1 = .ok report)
    (hhistory : History settings (call.perform settings before).2 again)
    (hforward : Forward again.clock)
    (hinputs : ∀ input ∈ call.inputs, ['.', '.'] ∉ Path.parts input.toList ∧
      (again.files.read input).toOption = (before.files.read input).toOption ∧
      Steady call input before (call.perform settings before).2 again
        (call.perform settings again).2)
    (hyoung : ∀ unit ∈ report.units, ∀ path, Vouches unit.result path →
      ∃ time, again.files.modified? path = some time ∧ Freshness.isYounger time (window settings)
        (call.perform settings again).2.now = true) :
    ∃ report', (call.perform settings again).1 = .ok report' ∧
      (call.perform settings again).2.files = again.files ∧
      List.Forall₂ Repeats report.units report'.units := by
  cases hauto : settings.autoGenerate with
  | false =>
    obtain ⟨name, hgives⟩ := call.perform_disabled hauto
    rw [hgives before] at hreport
    rw [hgives again]
    obtain rfl := Except.ok.inj hreport
    refine ⟨_, rfl, rfl, .cons ⟨rfl, fun path hvouches => ?_⟩ .nil⟩
    rcases hvouches with h | h <;> cases h
  | true =>
    obtain ⟨turns, ending, final, hgives, hfollows⟩ := call.perform_gives hauto before
    obtain ⟨others, ending', after, hgives', hfollows'⟩ := call.perform_gives hauto again
    rw [hgives] at hreport hhistory hinputs
    rw [hgives'] at hinputs hyoung ⊢
    cases ending with
    | error reason => cases hreport
    | ok _ =>
      obtain rfl := Except.ok.inj hreport
      have hafter := (invariant_clock settings again).follows hfollows' ⟨rfl, Nat.le_refl _⟩
      have hready : ∀ turn ∈ turns,
          Ready settings again.files (again.clock after.moment) turn.toStep := by
        refine fun turn hturn => ⟨hhistory.leaves (hfollows.leaves turn hturn), ?_⟩
        rw [← hafter.1]
        exact hyoung turn.report (List.mem_map_of_mem hturn)
      suffices hagain : ending' = .ok () ∧ after.files = again.files ∧
          List.Forall₂ Repeats (turns.map (·.report)) (others.map (·.report)) by
        obtain ⟨rfl, hfiles, hrepeats⟩ := hagain
        exact ⟨_, rfl, hfiles, hrepeats⟩
      refine hfollows.again hfollows' hforward (Nat.le_refl _) ?_ hready
      intro source hsource files hdeclares hdeclares' readings readings' tasks hreads hreads'
      refine sources_agree (fun path hpath i => ?_) hsource
      obtain ⟨hparts, hsame, hsteady⟩ := hinputs path hpath
      exact ofContent_consistent htree hdeclares (hdeclares'.remembers.trans hhistory.remembers)
        hparts hsame (hsteady.reads hreads hreads' i)

/-- Calls that keep fresh artifacts, while the clock never goes back and nothing else touches the
output directory.  Writes of one path are at least a window apart; what a call writes is what it
reports as written, in that order.  An input that does not lead upwards, and to no artifact, reads
the same after a call.  And a call that is made once more, while its inputs hold what they held, the
time makes no difference to what they give, and the artifacts that it has written or found fresh are
younger than the window, changes no file and finds all of these artifacts fresh. -/
theorem calls_keep_distance {settings : Settings} {start line : Chronicle}
    (hclock : Forward start.clock) (htree : start.files.IsTree) (hjournal : start.journal = [])
    (h : History settings start line) :
    line.journal.Pairwise (Distant (window settings)) ∧
    ∀ call : ValueCall,
      let first := call.perform settings line
      (∀ input, ['.', '.'] ∉ Path.parts input.toList →
        (∀ name location, first.2.files.locate input = .ok location →
          first.2.files.locate (settings.artifactPath name) ≠ .ok location) →
        (first.2.files.read input).toOption = (line.files.read input).toOption) ∧
      ∀ report, first.1 = .ok report →
        first.2.writtenPaths = line.writtenPaths ++
          report.units.filterMap (fun unit => writtenPath? unit.result) ∧
        ∀ again, History settings first.2 again →
          let second := call.perform settings again
          (∀ input ∈ call.inputs, ['.', '.'] ∉ Path.parts input.toList ∧
            (again.files.read input).toOption = (line.files.read input).toOption ∧
            Steady call input line first.2 again second.2) →
          (∀ unit ∈ report.units, ∀ path,
            unit.result = .ok (.written path) ∨ unit.result = .ok (.fresh path) →
            ∃ time, again.files.modified? path = some time ∧
              Freshness.isYounger time (window settings) second.2.now = true) →
          ∃ report', second.1 = .ok report' ∧ second.2.files = again.files ∧
            List.Forall₂ (fun unit unit' => unit'.name = unit.name ∧ ∀ path,
                unit.result = .ok (.written path) ∨ unit.result = .ok (.fresh path) →
                unit'.result = .ok (.fresh path))
              report.units report'.units := by
  have hrecorded := h.recorded (.of_empty hclock hjournal)
  have hline := h.isTree htree
  refine ⟨hrecorded.apart, fun call => ⟨fun input => call.toOption_read hline, ?_⟩⟩
  intro report hreport
  have hgives : Gives (call.perform settings) line (.ok report) (call.perform settings line).2 :=
    Prod.ext hreport rfl
  refine ⟨ValueCall.writtenPaths_perform hgives, ?_⟩
  intro again hhistory second hinputs hyoung
  have hforward := (hhistory.recorded ((Recorded.invariant settings).call call hrecorded)).forward
  exact call.again hline hreport hhistory hforward hinputs hyoung

/-- One payload, and a clock that shows a second more each time. -/
def ticking : Chronicle where
  files := {
    entries := [(["a.json".toList], .file "\x7b\"a\":1\x7d".toUTF8.toList 0)]
    home := [] }
  clock moment := moment * Freshness.second
  dates _ := ""

theorem forward_ticking : Forward ticking.clock := fun _ _ hle =>
  Int.mul_le_mul_of_nonneg_right (Int.ofNat_le.2 hle) (by decide)

theorem isTree_ticking : ticking.files.IsTree :=
  Files.isTree_of_entries (by decide)

/-- A run over the same payload twice, with a filter that lets it pass for so many seconds. -/
def doubled (seconds : String) : ValueCall :=
  .values none (some ("if now < " ++ seconds ++ " then . else empty end")) ["a.json", "a.json"]

/-- There is one document, and it is the payload. -/
def isPayload : Upshot (List Json) → Bool
  | .ok (.ok [.object [(key, .integer n)]]) => key == "a" && n == 1
  | _ => false

theorem eq_of_isPayload {documents : Upshot (List Json)} (h : isPayload documents = true) :
    documents = .ok (.ok [.object [("a", .integer 1)]]) := by
  unfold isPayload at h
  split at h
  · rename_i key n
    obtain ⟨hkey, hn⟩ := Bool.and_eq_true_iff.1 h
    rw [eq_of_beq hkey, eq_of_beq hn]
  · cases h

/-- Two runs in the first minute. -/
theorem steady_doubled :
    let first := ((doubled "60").perform {} ticking).2
    Steady (doubled "60") "a.json" ticking first first ((doubled "60").perform {} first).2 := by
  have hpasses : ∀ moment < 32,
      isPayload (Payload.ofContent "a.json" (doubled "60").filter? (ticking.clock moment)
        (ticking.files.read "a.json").toOption) = true := by decide +kernel
  have hlast : ((doubled "60").perform {} ticking).2.moment < 32 ∧ ((doubled "60").perform {}
      ((doubled "60").perform {} ticking).2).2.moment < 32 := by decide +kernel
  intro first moment moment' _ hmoment _ hmoment'
  have hclock : first.clock = ticking.clock :=
    ((invariant_clock {} ticking).call (doubled "60") ⟨rfl, Nat.le_refl _⟩).1
  rw [hclock, eq_of_isPayload (hpasses moment (Nat.lt_of_le_of_lt hmoment hlast.1)),
    eq_of_isPayload (hpasses moment' (Nat.lt_of_le_of_lt hmoment' hlast.2))]

/-- The only artifact that a call vouches for is a young one. -/
theorem young_of_units {units : List UnitReport} {files : Files} {now time : Int}
    (hunits : ∀ unit ∈ units, unit.result = .ok (.written "types/AType.ts") ∨
      unit.result = .ok (.fresh "types/AType.ts") ∨ unit.result.isOk = false)
    (hmodified : files.modified? "types/AType.ts" = some time)
    (hyounger : Freshness.isYounger time (window {}) now = true) :
    ∀ unit ∈ units, ∀ path,
      unit.result = .ok (.written path) ∨ unit.result = .ok (.fresh path) →
      ∃ time, files.modified? path = some time ∧
        Freshness.isYounger time (window {}) now = true := by
  intro unit hunit path hresult
  have hpath : path = "types/AType.ts" := by
    rcases hresult with hpath | hpath <;> rcases hunits unit hunit with h | h | h <;>
      rw [hpath] at h <;> cases h <;> rfl
  rw [hpath]
  exact ⟨time, hmodified, hyounger⟩

/-- The first unit writes the artifact and the second one finds it fresh.  In the call after that
both find it fresh, and no file is changed.  With a window that is shorter than what a unit takes,
both write it. -/
theorem calls_keep_distance_ticking :
    let first := (doubled "60").perform {} ticking
    let second := (doubled "60").perform {} first.2
    let hasty := ((doubled "60").perform { freshnessSeconds := 3 } ticking).2
    first.1 = .ok ⟨[⟨"a", .ok (.written "types/AType.ts")⟩,
        ⟨"a", .ok (.fresh "types/AType.ts")⟩]⟩ ∧
      second.1 = .ok ⟨[⟨"a", .ok (.fresh "types/AType.ts")⟩,
        ⟨"a", .ok (.fresh "types/AType.ts")⟩]⟩ ∧
      second.2.files = first.2.files ∧
      hasty.journal = [("types/AType.ts", 8000000000), ("types/AType.ts", 17000000000)] ∧
      hasty.journal.Pairwise (Distant 3000000000) := by
  intro first second hasty
  have hfirst : first.1 = .ok ⟨[⟨"a", .ok (.written "types/AType.ts")⟩,
      ⟨"a", .ok (.fresh "types/AType.ts")⟩]⟩ := by decide +kernel
  have hyoung : ∀ unit ∈ [⟨"a", .ok (.written "types/AType.ts")⟩,
      (⟨"a", .ok (.fresh "types/AType.ts")⟩ : UnitReport)], ∀ path,
      unit.result = .ok (.written path) ∨ unit.result = .ok (.fresh path) →
      ∃ time, first.2.files.modified? path = some time ∧
        Freshness.isYounger time (window {}) second.2.now = true :=
    young_of_units (by decide)
      (by decide +kernel : first.2.files.modified? "types/AType.ts" = some 8000000000)
      (by decide +kernel)
  have hstart : History {} ticking ticking := .start
  obtain ⟨-, hcalls⟩ := calls_keep_distance forward_ticking isTree_ticking rfl hstart
  obtain ⟨-, hagain⟩ := (hcalls (doubled "60")).2 _ hfirst
  have hinputs : ∀ input ∈ (doubled "60").inputs, ['.', '.'] ∉ Path.parts input.toList ∧
      (first.2.files.read input).toOption = (ticking.files.read input).toOption ∧
      Steady (doubled "60") input ticking first.2 first.2 second.2 := by
    intro input hinput
    obtain rfl : input = "a.json" := by simpa [doubled, ValueCall.inputs] using hinput
    exact ⟨by decide, by decide +kernel, steady_doubled⟩
  obtain ⟨-, -, hfiles, -⟩ := hagain first.2 .start hinputs hyoung
  have hhasty : History { freshnessSeconds := 3 } ticking hasty := .call (doubled "60") .start
  exact ⟨hfirst, by decide +kernel, hfiles, by decide +kernel,
    (calls_keep_distance forward_ticking isTree_ticking rfl hhasty).1⟩

/-- A call that is made once more need not find fresh what it has written, though its inputs hold
what they held and nothing is old: the filter may look at the clock. -/
theorem not_forall_fresh_again : ¬ ∀ (settings : Settings) (start line : Chronicle),
    Forward start.clock → start.files.IsTree → start.journal = [] → History settings start line →
    ∀ (call : ValueCall) (report : Report), (call.perform settings line).1 = .ok report →
    ∀ again, History settings (call.perform settings line).2 again →
    (∀ input ∈ call.inputs, ['.', '.'] ∉ Path.parts input.toList ∧
      (∀ name, input ≠ settings.artifactPath name) ∧
      (again.files.read input).toOption = (line.files.read input).toOption) →
    (∀ unit ∈ report.units, ∀ path,
      unit.result = .ok (.written path) ∨ unit.result = .ok (.fresh path) →
      ∃ time, again.files.modified? path = some time ∧ Freshness.isYounger time (window settings)
        (call.perform settings again).2.now = true) →
    ∃ report', (call.perform settings again).1 = .ok report' ∧
      (call.perform settings again).2.files = again.files ∧
      List.Forall₂ (fun unit unit' => unit'.name = unit.name ∧ ∀ path,
          unit.result = .ok (.written path) ∨ unit.result = .ok (.fresh path) →
          unit'.result = .ok (.fresh path))
        report.units report'.units := by
  intro h
  have hfirst : ((doubled "10").perform {} ticking).1 =
      .ok ⟨[⟨"a", .ok (.written "types/AType.ts")⟩,
        ⟨"a", .error (.unsupported "a.json" "filter produced no documents")⟩]⟩ := by
    decide +kernel
  have hsecond : ((doubled "10").perform {} ((doubled "10").perform {} ticking).2).1 =
      .ok ⟨[⟨"a", .error (.unsupported "a.json" "filter produced no documents")⟩,
        ⟨"a", .error (.unsupported "a.json" "filter produced no documents")⟩]⟩ := by
    decide +kernel
  have hinputs : ∀ input ∈ (doubled "10").inputs, ['.', '.'] ∉ Path.parts input.toList ∧
      (∀ name, input ≠ ({} : Settings).artifactPath name) ∧
      (((doubled "10").perform {} ticking).2.files.read input).toOption =
        (ticking.files.read input).toOption := by
    intro input hinput
    obtain rfl : input = "a.json" := by simpa [doubled, ValueCall.inputs] using hinput
    refine ⟨by decide, fun name hname => ?_, by decide +kernel⟩
    -- the two end differently
    have hlast := congrArg (fun s => s.toList.getLast?) hname
    rw [Settings.artifactPath, Path.join, Path.joinChars] at hlast
    split_ifs at hlast <;> simp [Dialect.extension, List.getLast?_cons] at hlast
  obtain ⟨report', hreport', -, hunits⟩ := h {} ticking ticking forward_ticking isTree_ticking rfl
    .start (doubled "10") _ hfirst _ .start hinputs (young_of_units (by decide)
      (by decide +kernel : ((doubled "10").perform {} ticking).2.files.modified? "types/AType.ts" =
        some 8000000000) (by decide +kernel))
  rw [hsecond] at hreport'
  obtain rfl := Except.ok.inj hreport'
  have hrepeats := (List.forall₂_cons.1 hunits).1.2 "types/AType.ts" (.inl rfl)
  cases hrepeats

end Chronicle
end ResponseTypes
