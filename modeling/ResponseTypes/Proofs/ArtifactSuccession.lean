import ResponseTypes.Proofs.UntouchedOutput

/-!
# Who writes an artifact

Several payloads of a run can lead to one artifact: files of one name in two folders, names that
only differ in their separators, or the documents of one payload beside another payload.  Each of
their turns finds the artifact fresh if the last one that has written it did so within the window,
and writes it otherwise.  So in a run that is shorter than the window the first one writes the
artifact and all others leave it to the first; and without a window each replaces what the one
before has written.

Two turns can have different paths to one file where the suffix has separators, so artifacts are
told apart by their locations.  The directories stand still once the output directory has been made,
so the location that a path has at the end of a run is the one at which it was written.

## Main definitions

- `Generation.Task.leadsTo`: a task has to write the file at a location.
- `Chronicle.Fills`: turns in an output directory that is there.
- `Chronicle.writer?`: the last turn that has written the file at a location.
- `Chronicle.Succession`: what becomes of the turns that lead to a location, and of the location.
- `Chronicle.holder`, `Chronicle.Tenure`: the same without a window, or within it.

## Main statements

- `Chronicle.Fills.at?_eq`: what is at a location has been written there last.
- `Chronicle.Fills.result_of_leadsTo`: a turn is fresh if the artifact has been written within the
  window.
- `Chronicle.Succession.tenure`: the first one holds the artifact, or the last one.
- `Chronicle.generateValues_succession`: all of this for a run over payloads.
-/

namespace ResponseTypes

open Generation

namespace Generation

variable {settings : Settings} {files after : Files} {location : Location} {task : Task}

/-- A task has something to declare, and its artifact is at a location. -/
def Task.leadsTo (settings : Settings) (files : Files) (location : Location) (task : Task) : Bool :=
  (task.path? settings).any fun path => decide (files.locate path = .ok location)

theorem Task.leadsTo_iff : task.leadsTo settings files location = true ↔
    ∃ declaration, task.declaration = .ok declaration ∧
      files.locate (settings.artifactPath declaration.name) = .ok location := by
  rw [leadsTo, path?]
  cases task.declaration <;> simp

/-- Once the directories stand still, a task leads where it led before. -/
theorem Task.leadsTo_grown {written : Location → Prop}
    (h : Files.Growth (fun _ => False) written files after) :
    leadsTo settings after location = leadsTo settings files location := by
  funext task
  rw [Bool.eq_iff_iff, leadsTo_iff, leadsTo_iff]
  simp only [Files.locate_iff_of_growth h]

end Generation

namespace Chronicle

variable {settings : Settings} {before between after start : Chronicle} {files : Files}
variable {location : Location} {declaration : Declaration} {moments : Moments}
variable {result : Except Failure Outcome} {turn : Turn} {turns : List Turn}

/-! ## One artifact -/

theorem Deposit.clock (h : Deposit settings declaration moments before result after) :
    after.clock = before.clock ∧ after.dates = before.dates := by
  cases h with
  | fresh _ _ hafter | refused _ _ hafter => exact ⟨hafter.clock, hafter.dates⟩
  | written _ hlater _ _ hafter =>
    exact ⟨hafter.clock.trans hlater.clock, hafter.dates.trans hlater.dates⟩

/-- What is at a location is young at a moment. -/
def isYoungAt (settings : Settings) (chronicle : Chronicle) (location : Location) (moment : Nat) :
    Bool :=
  (chronicle.files.at? location).any fun entry =>
    Freshness.isYounger entry.modified (window settings) (chronicle.clock moment)

/-- A declaration whose artifact is at a location where no directory is: a young file is left there,
and otherwise the artifact is written. -/
theorem Deposit.of_leads (h : Deposit settings declaration moments before result after)
    (hlocate : before.files.locate (settings.artifactPath declaration.name) = .ok location)
    (hfree : before.files.occupancy location ≠ .directory) :
    (isYoungAt settings before location moments.asked = true ∧
      result = .ok (.fresh (settings.artifactPath declaration.name)) ∧
      after.files = before.files) ∨
    isYoungAt settings before location moments.asked = false ∧
      result = .ok (.written (settings.artifactPath declaration.name)) ∧
      after.files.at? location =
        some (.file (content settings declaration (before.dates moments.dated))
          (before.clock moments.stamped)) := by
  cases h with
  | fresh hmodified hyounger hafter =>
    rw [Files.modified?_eq hlocate] at hmodified
    obtain ⟨entry, hentry, rfl⟩ := Option.map_eq_some_iff.1 hmodified
    refine .inl ⟨?_, rfl, hafter.files⟩
    rw [isYoungAt, hentry]
    exact hyounger
  | refused _ hwrite =>
    obtain ⟨last, hwritten, -⟩ := Files.write_of_ne_directory
      (content settings declaration (before.dates moments.dated)) (before.clock moments.stamped)
      hlocate hfree
    rw [hwritten] at hwrite
    cases hwrite
  | written hstale hlater hstamped hwrite hafter =>
    refine .inr ⟨?_, rfl, ?_⟩
    · cases hentry : before.files.at? location with
      | none => rw [isYoungAt, hentry]; rfl
      | some entry =>
        rw [isYoungAt, hentry]
        refine hstale entry.modified ?_
        rw [Files.modified?_eq hlocate, hentry]
        rfl
    · obtain ⟨found, hfound, -, hentry, -⟩ := Files.at?_of_write hwrite
      obtain rfl := Except.ok.inj (hfound.symm.trans hlocate)
      rw [hafter.files, hentry, now, hlater.clock, hstamped]

/-- A declaration whose artifact is elsewhere does not matter to a location without a directory. -/
theorem Deposit.at?_of_elsewhere (h : Deposit settings declaration moments before result after)
    (hlocate : before.files.locate (settings.artifactPath declaration.name) ≠ .ok location)
    (hfree : before.files.occupancy location ≠ .directory) :
    after.files.at? location = before.files.at? location := by
  rcases h.files_or_write with hfiles | ⟨date, time, hwrite⟩
  · rw [hfiles]
  · obtain ⟨found, hfound, -, -, hothers⟩ := Files.at?_of_write hwrite
    have hne : location ≠ found := by
      rintro rfl
      exact hlocate hfound
    refine (hothers location hne).resolve_right ?_
    rintro ⟨rfl, -⟩
    exact hfree (settings.folder_of_locate_artifactPath hfound)

/-! ## Turns in an output directory that is there -/

/-- Turns, one after the other, for which the output directory is there. -/
inductive Fills (settings : Settings) : Chronicle → List Turn → Chronicle → Prop
  | rest {before after : Chronicle} : Elapses before after → Fills settings before [] after
  | undeclared {before between after : Chronicle} {name : String} {failure : Failure}
      {moments : Moments} {turns : List Turn} : Elapses before between →
      Fills settings between turns after →
      Fills settings before (⟨⟨⟨name, .error failure⟩, .error failure⟩, moments⟩ :: turns) after
  | declared {before between later after : Chronicle} {name : String} {declaration : Declaration}
      {result : Except Failure Outcome} {moments : Moments} {turns : List Turn} :
      Elapses before between → Deposit settings declaration moments between result later →
      Fills settings later turns after →
      Fills settings before (⟨⟨⟨name, .ok declaration⟩, result⟩, moments⟩ :: turns) after

theorem Takes.fills (h : Takes settings before turns after)
    (hhoused : Housed settings before.files) : Fills settings before turns after := by
  induction h with
  | rest helapses => exact .rest helapses
  | undeclared helapses _ _ ih =>
    exact .undeclared helapses (ih (by rwa [helapses.files]))
  | declared helapses hattempt _ ih =>
    rw [← helapses.files] at hhoused
    obtain ⟨mid, hmid, -, hdeposit⟩ := hattempt.deposit hhoused
    exact .declared (helapses.trans hmid) hdeposit
      (ih (hhoused.grown (hattempt.growth_of_housed hhoused)))

namespace Fills

theorem growth (h : Fills settings before turns after) :
    Files.Growth (fun _ => False) (fun _ => True) before.files after.files := by
  induction h with
  | rest helapses => exact helapses.files ▸ .refl _
  | undeclared helapses _ ih => exact helapses.files ▸ ih
  | declared helapses hdeposit _ ih => exact helapses.files ▸ hdeposit.growth.trans ih

theorem clock (h : Fills settings before turns after) :
    after.clock = before.clock ∧ after.dates = before.dates := by
  induction h with
  | rest helapses => exact ⟨helapses.clock, helapses.dates⟩
  | undeclared helapses _ ih =>
    exact ⟨ih.1.trans helapses.clock, ih.2.trans helapses.dates⟩
  | declared helapses hdeposit _ ih =>
    exact ⟨ih.1.trans (hdeposit.clock.1.trans helapses.clock),
      ih.2.trans (hdeposit.clock.2.trans helapses.dates)⟩

/-- Turns can be cut between any two of them. -/
theorem split {others : List Turn} (h : Fills settings before (turns ++ others) after) :
    ∃ between, Fills settings before turns between ∧ Fills settings between others after := by
  induction turns generalizing before with
  | nil => exact ⟨before, .rest (.refl before), h⟩
  | cons turn turns ih =>
    cases h with
    | undeclared helapses hfills =>
      obtain ⟨between, hturns, hothers⟩ := ih hfills
      exact ⟨between, .undeclared helapses hturns, hothers⟩
    | declared helapses hdeposit hfills =>
      obtain ⟨between, hturns, hothers⟩ := ih hfills
      exact ⟨between, .declared helapses hdeposit hturns, hothers⟩

end Fills

/-! ## What is at a location -/

/-- A turn has written the file at a location. -/
def Turn.wroteAt (settings : Settings) (files : Files) (location : Location) (turn : Turn) : Bool :=
  turn.leadsTo settings files location && (writtenPath? turn.result).isSome

theorem Turn.wroteAt_iff : turn.wroteAt settings files location = true ↔
    turn.leadsTo settings files location = true ∧ ∃ path, turn.result = .ok (.written path) := by
  rw [wroteAt, Bool.and_eq_true_iff, and_congr_right_iff]
  intro _
  rcases turn.result with failure | (path | path | _) <;> simp [writtenPath?]

theorem Turn.wroteAt_grown {written : Location → Prop}
    (h : Files.Growth (fun _ => False) written files after.files) :
    wroteAt settings after.files location = wroteAt settings files location := by
  funext turn
  rw [wroteAt, wroteAt, Task.leadsTo_grown h]

/-- The last of some turns that has written the file at a location. -/
def writer? (settings : Settings) (files : Files) (location : Location) (turns : List Turn) :
    Option Turn :=
  (turns.filter (·.wroteAt settings files location)).getLast?

theorem writer?_cons (turn : Turn) (turns : List Turn) :
    writer? settings files location (turn :: turns) =
      (writer? settings files location turns).or
        (if turn.wroteAt settings files location then some turn else none) := by
  rw [writer?, writer?, List.filter_cons]
  split_ifs
  · rw [List.getLast?_cons]
    cases (turns.filter (·.wroteAt settings files location)).getLast? <;> rfl
  · rw [Option.or_none]

theorem mem_of_writer? (h : writer? settings files location turns = some turn) :
    turn ∈ turns ∧ turn.wroteAt settings files location = true :=
  List.mem_filter.1 (List.mem_of_getLast? h)

/-- The file that a turn writes, by the clock. -/
def Turn.entry (settings : Settings) (chronicle : Chronicle) (turn : Turn) : Entry :=
  .file (turn.content settings (chronicle.dates turn.dated)) (chronicle.clock turn.stamped)

theorem Turn.entry_congr (h : after.clock = before.clock ∧ after.dates = before.dates) :
    Turn.entry settings after = Turn.entry settings before := by
  funext turn
  rw [entry, entry, h.1, h.2]

/-- One turn puts its file at the location where it has written, and changes nothing elsewhere. -/
theorem Deposit.at?_eq (name : String)
    (h : Deposit settings declaration moments before result after)
    (hfree : before.files.occupancy location ≠ .directory) :
    after.files.at? location =
      ((if Turn.wroteAt settings before.files location ⟨⟨⟨name, .ok declaration⟩, result⟩, moments⟩
          then some ⟨⟨⟨name, .ok declaration⟩, result⟩, moments⟩
          else none).map (Turn.entry settings before)).or (before.files.at? location) := by
  by_cases hlocate : before.files.locate (settings.artifactPath declaration.name) = .ok location
  · have hleads : Task.leadsTo settings before.files location ⟨name, .ok declaration⟩ = true :=
      Task.leadsTo_iff.2 ⟨declaration, rfl, hlocate⟩
    rw [Turn.wroteAt, hleads]
    rcases h.of_leads hlocate hfree with ⟨-, rfl, hfiles⟩ | ⟨-, rfl, hentry⟩
    · rw [hfiles]
      rfl
    · rw [hentry]
      rfl
  · have hleads : Task.leadsTo settings before.files location ⟨name, .ok declaration⟩ = false := by
      rw [Bool.eq_false_iff, ne_eq, Task.leadsTo_iff]
      rintro ⟨_, hdeclared, hlocated⟩
      obtain rfl := Except.ok.inj hdeclared
      exact hlocate hlocated
    rw [Turn.wroteAt, hleads, h.at?_of_elsewhere hlocate hfree]
    rfl

/-- At a location where no directory is there is what has been written there last, or what was there
before. -/
theorem Fills.at?_eq (h : Fills settings before turns after)
    (hfree : before.files.occupancy location ≠ .directory) :
    after.files.at? location =
      ((writer? settings after.files location turns).map (Turn.entry settings before)).or
        (before.files.at? location) := by
  induction h with
  | rest helapses =>
    rw [helapses.files]
    rfl
  | undeclared helapses hfills ih =>
    rw [← helapses.files] at hfree ⊢
    rw [ih hfree, writer?_cons, Turn.entry_congr ⟨helapses.clock, helapses.dates⟩]
    exact congrArg (fun last => (Option.map _ last).or _) (Option.or_none).symm
  | declared helapses hdeposit hfills ih =>
    rw [← helapses.files] at hfree ⊢
    rw [ih (mt (hdeposit.growth.directory_iff location).1 hfree), hdeposit.at?_eq _ hfree,
      writer?_cons, Turn.wroteAt_grown (hdeposit.growth.trans hfills.growth),
      Turn.entry_congr hdeposit.clock, Turn.entry_congr ⟨helapses.clock, helapses.dates⟩,
      Option.map_or, Option.or_assoc]

/-- A turn that leads to a location where nothing was is fresh if the file has been written there
within the window, and otherwise writes its artifact. -/
theorem Fills.result_of_leadsTo {later : List Turn}
    (h : Fills settings before (turns ++ turn :: later) after)
    (hnone : before.files.at? location = none)
    (hleads : turn.leadsTo settings after.files location = true) :
    ∃ path, turn.path? settings = some path ∧ turn.result = .ok
      (if (writer? settings after.files location turns).any fun writer =>
          Freshness.isYounger (before.clock writer.stamped) (window settings)
            (before.clock turn.asked)
        then .fresh path else .written path) := by
  obtain ⟨between, hturns, hrest⟩ := h.split
  have hfree : before.files.occupancy location ≠ .directory := by
    rw [Files.at?_eq_none_iff.1 hnone]
    exact nofun
  have hat := hturns.at?_eq hfree
  rw [hnone, Option.or_none] at hat
  rw [writer?, Turn.wroteAt_grown hrest.growth, ← writer?]
  rw [Task.leadsTo_grown hrest.growth] at hleads
  obtain ⟨declaration, hdeclared, hlocate⟩ := Task.leadsTo_iff.1 hleads
  refine ⟨settings.artifactPath declaration.name, Task.path?_eq_some.2 ⟨_, hdeclared, rfl⟩, ?_⟩
  have hfree' := mt (hturns.growth.directory_iff location).1 hfree
  cases hrest with
  | undeclared => cases hdeclared
  | @declared _ mid _ _ _ _ _ moments _ helapses hdeposit =>
    obtain rfl := Except.ok.inj hdeclared
    rw [← helapses.files] at hlocate hat hfree'
    have hyoung : isYoungAt settings mid location moments.asked =
        (writer? settings between.files location turns).any fun writer =>
          Freshness.isYounger (before.clock writer.stamped) (window settings)
            (before.clock moments.asked) := by
      rw [isYoungAt, hat, helapses.clock, hturns.clock.1, ← helapses.files, Option.any_map]
      rfl
    rw [← hyoung]
    rcases hdeposit.of_leads hlocate hfree' with ⟨hyes, rfl, -⟩ | ⟨hno, rfl, -⟩
    · rw [if_pos hyes]
    · rw [if_neg (Bool.eq_false_iff.1 hno)]

/-! ## With or without an output directory -/

/-- The output directory is made from directories. -/
theorem ensureOutput_growth {made : Except Failure Unit}
    (h : Gives (ensureOutput settings) before made after) :
    Files.Growth (fun _ => True) (fun _ => False) before.files after.files := by
  refine Keeps.of_gives (I := fun chronicle =>
    Files.Growth (fun _ => True) (fun _ => False) before.files chronicle.files)
    (Keeps.ensureOutput (fun _ => id) ?_ settings) h (.refl _)
  intro chronicle path files hgrown hfiles
  obtain ⟨found, -, hvacant, rfl⟩ := Files.makeDirectory_eq_ok hfiles
  exact hgrown.trans (Files.growth_create hvacant trivial)

theorem failure_of_ensureOutput {failure : Failure}
    (h : Gives (ensureOutput settings) before (.error failure) after) :
    ∃ fault, failure = .file settings.outputPath fault := by
  obtain ⟨made, last, -, hgives, -⟩ := ensureOutput_gives settings 0 (.refl before.files)
  obtain ⟨hmade, -⟩ := h.unique hgives
  cases made with
  | ok _ => cases hmade
  | error fault => exact ⟨fault, Except.error.inj hmade⟩

/-- A turn that has something to declare fails. -/
def Fails (turn : Turn) : Prop :=
  ∀ declaration, turn.declaration = .ok declaration →
    ∃ path fault, turn.result = .error (.file path fault)

/-- Where the output directory cannot be made all turns fail. -/
theorem Takes.of_hopeless (h : Takes settings before turns after)
    (hhopeless : Hopeless settings before.files) :
    after.files = before.files ∧ ∀ turn ∈ turns, Fails turn := by
  induction h with
  | rest helapses => exact ⟨helapses.files, List.forall_mem_nil _⟩
  | undeclared helapses _ _ ih =>
    obtain ⟨hfiles, hfails⟩ := ih (helapses.files ▸ hhopeless)
    exact ⟨hfiles.trans helapses.files, List.forall_mem_cons.2 ⟨nofun, hfails⟩⟩
  | declared helapses hattempt _ ih =>
    rw [← helapses.files] at hhopeless
    have hsame := hattempt.of_hopeless hhopeless
    obtain ⟨hfiles, hfails⟩ := ih (hsame ▸ hhopeless)
    refine ⟨(hfiles.trans hsame).trans helapses.files, List.forall_mem_cons.2 ⟨?_, hfails⟩⟩
    intro declaration hdeclared
    cases hattempt with
    | homeless hensure =>
      obtain ⟨fault, rfl⟩ := failure_of_ensureOutput hensure
      exact ⟨_, fault, rfl⟩
    | housed hensure =>
      obtain ⟨failure, last, hgives, -⟩ := hhopeless.gives
      cases (hensure.unique hgives).1

/-- There is nothing to declare, and the files stay as they are; or there is no output directory,
and all turns fail; or it is there for all of them. -/
theorem Takes.trichotomy (h : Takes settings before turns after) :
    ((∀ turn ∈ turns, ∀ declaration, turn.declaration ≠ .ok declaration) ∧
      after.files = before.files) ∨
    (Files.Growth (fun _ => True) (fun _ => False) before.files after.files ∧
      ∀ turn ∈ turns, Fails turn) ∨
    ∃ made, Files.Growth (fun _ => True) (fun _ => False) before.files made.files ∧
      (made.clock = before.clock ∧ made.dates = before.dates) ∧
      Fills settings made turns after := by
  induction h with
  | rest helapses => exact .inl ⟨List.forall_mem_nil _, helapses.files⟩
  | undeclared helapses _ _ ih =>
    rw [helapses.files, helapses.clock, helapses.dates] at ih
    rcases ih with ⟨hnone, hfiles⟩ | ⟨hgrown, hfails⟩ | ⟨made, hgrown, hclock, hfills⟩
    · exact .inl ⟨List.forall_mem_cons.2 ⟨nofun, hnone⟩, hfiles⟩
    · exact .inr (.inl ⟨hgrown, List.forall_mem_cons.2 ⟨nofun, hfails⟩⟩)
    · exact .inr (.inr ⟨made, hgrown, hclock, .undeclared (.refl made) hfills⟩)
  | declared helapses hattempt htakes =>
    right
    cases hattempt with
    | homeless hensure =>
      obtain ⟨hfiles, hfails⟩ := htakes.of_hopeless (hopeless_of_error hensure)
      obtain ⟨fault, rfl⟩ := failure_of_ensureOutput hensure
      refine .inl ⟨?_, List.forall_mem_cons.2 ⟨fun _ _ => ⟨_, fault, rfl⟩, hfails⟩⟩
      rw [hfiles, ← helapses.files]
      exact ensureOutput_growth hensure
    | @housed made _ _ hensure _ hdeposit =>
      obtain ⟨hclock, hdates, -⟩ := ensureOutput_passes hensure
      refine .inr ⟨made, helapses.files ▸ ensureOutput_growth hensure,
        ⟨hclock.trans helapses.clock, hdates.trans helapses.dates⟩, ?_⟩
      have hhoused : Housed settings made.files := housed_of_ok hensure
      exact .declared (.refl made) hdeposit (htakes.fills (hhoused.grown hdeposit.growth))

/-- A declaration whose artifact has no location fails. -/
theorem Deposit.of_lost (h : Deposit settings declaration moments before result after)
    (hlost : ∀ location,
      before.files.locate (settings.artifactPath declaration.name) ≠ .ok location) :
    ∃ path fault, result = .error (.file path fault) := by
  cases h with
  | fresh hmodified =>
    obtain ⟨location, -, hlocate, -⟩ := Files.modified?_eq_some hmodified
    exact absurd hlocate (hlost location)
  | refused => exact ⟨_, _, rfl⟩
  | written _ _ _ hwrite =>
    obtain ⟨location, hlocate, -⟩ := Files.at?_of_write hwrite
    exact absurd hlocate (hlost location)

/-- A turn whose artifact has no location fails. -/
theorem Takes.result_of_lost (h : Takes settings before turns after) (hturn : turn ∈ turns)
    (hdeclared : turn.declaration = .ok declaration)
    (hlost : ∀ location,
      after.files.locate (settings.artifactPath declaration.name) ≠ .ok location) :
    ∃ path fault, turn.result = .error (.file path fault) := by
  rcases h.trichotomy with ⟨hnone, -⟩ | ⟨-, hfails⟩ | ⟨made, -, -, hfills⟩
  · exact absurd hdeclared (hnone turn hturn declaration)
  · exact hfails turn hturn declaration hdeclared
  · obtain ⟨earlier, later, rfl⟩ := List.append_of_mem hturn
    obtain ⟨between, -, hrest⟩ := hfills.split
    have hgrown := hrest.growth
    cases hrest with
    | undeclared => cases hdeclared
    | declared helapses hdeposit =>
      obtain rfl := Except.ok.inj hdeclared
      rw [← helapses.files] at hgrown
      refine hdeposit.of_lost fun location hlocate => ?_
      exact hlost location (Files.locate_grown hgrown hlocate)

/-- The moments of turns come one after the other. -/
theorem Takes.ordered (h : Takes settings before turns after) :
    before.moment ≤ after.moment ∧
      (∀ turn ∈ turns, turn.toMoments.Within before.moment after.moment) ∧
      turns.Pairwise fun first second => first.stamped ≤ second.asked := by
  induction h with
  | rest helapses => exact ⟨helapses.moment, List.forall_mem_nil _, .nil⟩
  | undeclared helapses hwithin _ ih =>
    obtain ⟨hafter, hturns, hordered⟩ := ih
    refine ⟨Nat.le_trans helapses.moment hafter, List.forall_mem_cons.2 ⟨?_, ?_⟩,
      .cons (fun other hother => ?_) hordered⟩
    · exact hwithin.mono helapses.moment hafter
    · exact fun turn hturn => (hturns turn hturn).mono helapses.moment (Nat.le_refl _)
    · exact Nat.le_trans hwithin.last (hturns other hother).asked
  | declared helapses hattempt _ ih =>
    obtain ⟨hafter, hturns, hordered⟩ := ih
    have hwithin := hattempt.within
    have hlater := Nat.le_trans hwithin.asked
      (Nat.le_trans hwithin.dated (Nat.le_trans hwithin.stamped hwithin.last))
    refine ⟨Nat.le_trans helapses.moment (Nat.le_trans hlater hafter),
      List.forall_mem_cons.2 ⟨?_, ?_⟩, .cons (fun other hother => ?_) hordered⟩
    · exact hwithin.mono helapses.moment hafter
    · exact fun turn hturn =>
        (hturns turn hturn).mono (Nat.le_trans helapses.moment hlater) (Nat.le_refl _)
    · exact Nat.le_trans hwithin.last (hturns other hother).asked

/-! ## What becomes of a location -/

/-- The turns that lead to a location find the file fresh if it has been written within the window,
and write it otherwise, and the file is that of the last one that has written it. -/
structure Succession (settings : Settings) (start : Chronicle) (turns : List Turn) (after : Files)
    (location : Location) : Prop where
  result : ∀ earlier turn later, turns = earlier ++ turn :: later →
    turn.leadsTo settings after location = true →
    ∃ path, turn.path? settings = some path ∧ turn.result = .ok
      (if (writer? settings after location earlier).any fun writer =>
          Freshness.isYounger (start.clock writer.stamped) (window settings)
            (start.clock turn.asked)
        then .fresh path else .written path)
  occupancy : after.occupancy location =
    (writer? settings after location turns).elim .vacant
      fun writer => .file (writer.content settings (start.dates writer.dated))

/-- The turns that lead to a location fail, and nothing comes to be there. -/
structure Failing (settings : Settings) (turns : List Turn) (after : Files)
    (location : Location) : Prop where
  result : ∀ turn ∈ turns, turn.leadsTo settings after location = true →
    ∃ path fault, turn.result = .error (.file path fault)
  occupancy : after.occupancy location = .vacant

/-- Making directories brings in no file. -/
theorem vacant_of_made {made : Location → Prop}
    (h : Files.Growth made (fun _ => False) files after.files)
    (hvacant : files.occupancy location = .vacant)
    (hfree : after.files.occupancy location ≠ .directory) :
    after.files.occupancy location = .vacant := by
  rcases h.of_not_written (show ¬ (fun _ => False) location from id) with
    hsame | ⟨-, hdirectory, -⟩
  · exact hsame.trans hvacant
  · exact absurd hdirectory hfree

theorem Fills.succession (h : Fills settings before turns after)
    (hclock : before.clock = start.clock ∧ before.dates = start.dates)
    (hvacant : before.files.occupancy location = .vacant) :
    Succession settings start turns after.files location := by
  have hnone := Files.at?_eq_none_iff.2 hvacant
  constructor
  · rintro earlier turn later rfl hleads
    rw [← hclock.1]
    exact h.result_of_leadsTo hnone hleads
  · have hnotDirectory : before.files.occupancy location ≠ .directory := by
      rw [hvacant]
      exact nofun
    have hat := h.at?_eq hnotDirectory
    rw [hnone, Option.or_none] at hat
    rw [Files.occupancy, hat, ← hclock.2]
    cases writer? settings after.files location turns <;> rfl

/-- At a location where nothing was, the turns that lead there come one after the other, or all of
them fail. -/
theorem Takes.failing_or_succession (h : Takes settings start turns after)
    (hvacant : start.files.occupancy location = .vacant)
    (hfree : after.files.occupancy location ≠ .directory) :
    Failing settings turns after.files location ∨
      Succession settings start turns after.files location := by
  rcases h.trichotomy with ⟨hnone, hfiles⟩ | ⟨hgrown, hfails⟩ | ⟨made, hgrown, hclock, hfills⟩
  · refine .inl ⟨fun turn hturn hleads => ?_, by rw [hfiles, hvacant]⟩
    obtain ⟨declaration, hdeclared, -⟩ := Task.leadsTo_iff.1 hleads
    exact absurd hdeclared (hnone turn hturn declaration)
  · refine .inl ⟨fun turn hturn hleads => ?_, vacant_of_made hgrown hvacant hfree⟩
    obtain ⟨declaration, hdeclared, -⟩ := Task.leadsTo_iff.1 hleads
    exact hfails turn hturn declaration hdeclared
  · exact .inr (hfills.succession hclock
      (vacant_of_made hgrown hvacant (mt hfills.growth.directory hfree)))

/-! ## Without a window, and within it -/

/-- Between two moments the clock does not go on by as much as a window. -/
def Brief (window : Int) (clock : Nat → Int) (first last : Nat) : Prop :=
  ∀ earlier later, first ≤ earlier → earlier ≤ later → later ≤ last →
    clock later < clock earlier + window

theorem window_pos : 0 < window settings ↔ 0 < settings.freshnessSeconds := by
  rw [window, Freshness.second]
  omega

/-- Of the turns that lead to one location, the one whose declaration is kept: the first one if
there is a window of freshness, and the last one if there is none. -/
def holder (settings : Settings) (turns : List Turn) : Option Turn :=
  if settings.freshnessSeconds = 0 then turns.getLast? else turns.head?

/-- Only earlier turns lead to the holder's location if there is no window, and only later ones if
there is one. -/
theorem holder_eq_some {p : Turn → Bool} (h : holder settings (turns.filter p) = some turn) :
    ∃ earlier later, turns = earlier ++ turn :: later ∧ p turn = true ∧
      ((settings.freshnessSeconds = 0 ∧ ∀ other ∈ later, ¬ p other) ∨
        0 < settings.freshnessSeconds ∧ ∀ other ∈ earlier, ¬ p other) := by
  rw [holder] at h
  split_ifs at h with hwindow
  · obtain ⟨before, hlast⟩ := List.getLast?_eq_some_iff.1 h
    obtain ⟨earlier, rest, rfl, -, hrest⟩ := List.filter_eq_append_iff.1 hlast
    obtain ⟨skipped, later, rfl, -, hturn, hlater⟩ := List.filter_eq_cons_iff.1 hrest
    exact ⟨earlier ++ skipped, later, by rw [List.append_assoc], hturn,
      .inl ⟨hwindow, List.filter_eq_nil_iff.1 hlater⟩⟩
  · obtain ⟨rest, hfirst⟩ := List.head?_eq_some_iff.1 h
    obtain ⟨earlier, later, rfl, hearlier, hturn, -⟩ := List.filter_eq_cons_iff.1 hfirst
    exact ⟨earlier, later, rfl, hturn, .inr ⟨Nat.pos_of_ne_zero hwindow, hearlier⟩⟩

theorem holder_eq_none {p : Turn → Bool} (h : holder settings (turns.filter p) = none) :
    ∀ turn ∈ turns, ¬ p turn := by
  rw [holder] at h
  split_ifs at h with hwindow
  · exact List.filter_eq_nil_iff.1 (List.getLast?_eq_none_iff.1 h)
  · exact List.filter_eq_nil_iff.1 (List.head?_eq_none_iff.1 h)

/-- The turns that lead to a location write the file there, unless there is a window and an earlier
one leads there; then they find it fresh. -/
def FirstWrites (settings : Settings) (turns : List Turn) (files : Files) (location : Location) :
    Prop :=
  ∀ earlier turn later, turns = earlier ++ turn :: later →
    turn.leadsTo settings files location = true →
    ∃ path, turn.path? settings = some path ∧ turn.result = .ok
      (if 0 < settings.freshnessSeconds ∧
          ∃ other ∈ earlier, other.leadsTo settings files location = true
        then .fresh path else .written path)

/-- The turns that lead to a location write the file there, or find it fresh if there is a window
and an earlier one leads there, and the file is that of the holder. -/
structure Tenure (settings : Settings) (start : Chronicle) (turns : List Turn) (after : Files)
    (location : Location) : Prop where
  result : FirstWrites settings turns after location
  occupancy : after.occupancy location =
    (holder settings (turns.filter (·.leadsTo settings after location))).elim .vacant
      fun turn => .file (turn.content settings (start.dates turn.dated))

theorem writer?_eq_none_iff : writer? settings files location turns = none ↔
    ∀ turn ∈ turns, ¬ turn.wroteAt settings files location = true := by
  rw [writer?, List.getLast?_eq_none_iff, List.filter_eq_nil_iff]

/-- A turn behind which no other has written is the last one that has. -/
theorem writer?_of_last {earlier later : List Turn}
    (hturn : turn.wroteAt settings files location = true)
    (hlater : ∀ other ∈ later, ¬ other.wroteAt settings files location = true) :
    writer? settings files location (earlier ++ turn :: later) = some turn := by
  rw [writer?, List.filter_append, List.filter_cons_of_pos hturn, List.filter_eq_nil_iff.2 hlater,
    List.getLast?_concat]

/-- Where only the first one writes if there is a window, the last one that writes is the holder. -/
theorem FirstWrites.writer?_eq_holder (h : FirstWrites settings turns files location) :
    writer? settings files location turns =
      holder settings (turns.filter (·.leadsTo settings files location)) := by
  cases hholder : holder settings (turns.filter (·.leadsTo settings files location)) with
  | none =>
    have hnobody := holder_eq_none hholder
    exact writer?_eq_none_iff.2 fun turn hturn hwrote =>
      hnobody turn hturn (Turn.wroteAt_iff.1 hwrote).1
  | some turn =>
    obtain ⟨earlier, later, hturns, hleads, hothers⟩ := holder_eq_some hholder
    obtain ⟨path, -, hwritten⟩ := h earlier turn later hturns hleads
    rw [if_neg ?_] at hwritten
    · rw [hturns, writer?_of_last (Turn.wroteAt_iff.2 ⟨hleads, path, hwritten⟩)]
      intro other hother hwrote
      obtain ⟨hleadsOther, path', hwrittenOther⟩ := Turn.wroteAt_iff.1 hwrote
      rcases hothers with ⟨-, hlater⟩ | ⟨hwindow, -⟩
      · exact hlater other hother hleadsOther
      · -- a later turn finds the file fresh
        obtain ⟨before, behind, rfl⟩ := List.append_of_mem hother
        obtain ⟨_, -, hfresh⟩ := h (earlier ++ turn :: before) other behind
          (by rw [hturns, List.append_assoc, List.cons_append]) hleadsOther
        rw [if_pos ⟨hwindow, turn, List.mem_append_right _ List.mem_cons_self, hleads⟩,
          hwrittenOther] at hfresh
        cases hfresh
    · rintro ⟨hwindow, other, hother, hleadsOther⟩
      rcases hothers with ⟨hnoWindow, -⟩ | ⟨-, hearlier⟩
      · omega
      · exact hearlier other hother hleadsOther

namespace Succession

variable {first last : Nat} (h : Succession settings start turns files location)
include h

/-- Of the turns that lead to a location, one has written the file. -/
theorem exists_writer {earlier later : List Turn} (hturns : turns = earlier ++ later)
    (hleads : ∃ other ∈ earlier, other.leadsTo settings files location = true) :
    ∃ writer, writer? settings files location earlier = some writer := by
  by_contra hnobody
  have hnone : writer? settings files location earlier = none :=
    Option.eq_none_iff_forall_ne_some.2 fun writer hwriter => hnobody ⟨writer, hwriter⟩
  have hwrote := writer?_eq_none_iff.1 hnone
  obtain ⟨other, hother, hleads⟩ := hleads
  obtain ⟨before, behind, rfl⟩ := List.append_of_mem hother
  have hbefore : writer? settings files location before = none :=
    writer?_eq_none_iff.2 fun turn hturn => hwrote turn (List.mem_append_left _ hturn)
  obtain ⟨path, -, hresult⟩ := h.result before other (behind ++ later)
    (by rw [hturns, List.append_assoc, List.cons_append]) hleads
  rw [hbefore] at hresult
  exact hwrote other hother (Turn.wroteAt_iff.2 ⟨hleads, path, hresult⟩)

/-- Without a window a turn finds no young file, and in a run that is shorter than the window it
finds one if an earlier turn leads there. -/
theorem firstWrites (hordered : turns.Pairwise fun first second => first.stamped ≤ second.asked)
    (hwithin : ∀ turn ∈ turns, turn.toMoments.Within first last)
    (hclock : settings.freshnessSeconds = 0 ∨ Brief (window settings) start.clock first last) :
    FirstWrites settings turns files location := by
  intro earlier turn later hturns hleads
  obtain ⟨path, hpath, hresult⟩ := h.result earlier turn later hturns hleads
  refine ⟨path, hpath, ?_⟩
  suffices hsame : ((writer? settings files location earlier).any fun writer =>
      Freshness.isYounger (start.clock writer.stamped) (window settings)
        (start.clock turn.asked)) = true ↔
      0 < settings.freshnessSeconds ∧
        ∃ other ∈ earlier, other.leadsTo settings files location = true by
    simpa only [hsame] using hresult
  rw [Option.any_eq_true]
  constructor
  · rintro ⟨writer, hwriter, hyoung⟩
    obtain ⟨hmem, hwrote⟩ := mem_of_writer? hwriter
    exact ⟨window_pos.1 ((Freshness.isYounger_iff _ _ _).1 hyoung).1, writer, hmem,
      (Turn.wroteAt_iff.1 hwrote).1⟩
  · rintro ⟨hwindow, hothers⟩
    obtain ⟨writer, hwriter⟩ := h.exists_writer hturns hothers
    have hmem := (mem_of_writer? hwriter).1
    subst hturns
    have hstamped : writer.stamped ≤ turn.asked :=
      (List.pairwise_append.1 hordered).2.2 writer hmem turn List.mem_cons_self
    have hwriterWithin := hwithin writer (List.mem_append_left _ hmem)
    have hturnWithin := hwithin turn (List.mem_append_right _ List.mem_cons_self)
    refine ⟨writer, hwriter, (Freshness.isYounger_iff _ _ _).2 ⟨window_pos.2 hwindow, ?_⟩⟩
    refine (hclock.resolve_left (Nat.ne_of_gt hwindow)) _ _ ?_ hstamped ?_
    · exact Nat.le_trans hwriterWithin.asked
        (Nat.le_trans hwriterWithin.dated hwriterWithin.stamped)
    · exact Nat.le_trans hturnWithin.dated (Nat.le_trans hturnWithin.stamped hturnWithin.last)

/-- Without a window the last turn holds the artifact, and in a run that is shorter than the window
the first one. -/
theorem tenure (hordered : turns.Pairwise fun first second => first.stamped ≤ second.asked)
    (hwithin : ∀ turn ∈ turns, turn.toMoments.Within first last)
    (hclock : settings.freshnessSeconds = 0 ∨ Brief (window settings) start.clock first last) :
    Tenure settings start turns files location := by
  have hfirst := h.firstWrites hordered hwithin hclock
  exact ⟨hfirst, hfirst.writer?_eq_holder ▸ h.occupancy⟩

end Succession

/-! ## Runs over payloads -/

/-- The turns of several sources are turns one after the other. -/
theorem Follows.takes {sources : List TaskSource} {ending : Except Breakdown Unit}
    (h : Follows settings before sources turns ending after) :
    Takes settings before turns after := by
  induction h with
  | done helapses | broken helapses => exact .rest helapses
  | turn helapses _ _ htakes _ ih => exact (htakes.wait helapses).append ih

/-- A run over payloads in which files are kept while they are fresh, whatever the clock does.  Its
turns come one after the other, up to a payload for which the filter breaks down.  At every location
where nothing was before the run, and where no directory has been made, the turns that lead there
fail all together, or each one finds the file fresh if the last of them that has written it did so
within the window, and writes it otherwise.  So without a window each of them writes it, and it is
the last one's in the end; and in a run that is shorter than the window the first one writes it and
all others find it fresh.  A turn that leads nowhere fails. -/
theorem generateValues_succession {settings : Settings} (hauto : settings.autoGenerate = true)
    (filter? : Option String) (start : Chronicle) (paths : List String) :
    let run := (ValueCall.values none filter? paths).perform settings start
    ∃ turns ending,
      Follows settings start (paths.map (payloadTasks settings filter?)) turns ending run.2 ∧
      run.1 = ending.map (fun _ => ⟨turns.map (·.report)⟩) ∧
      turns.Pairwise (fun first second => first.stamped ≤ second.asked) ∧
      (∀ turn ∈ turns, turn.toMoments.Within start.moment run.2.moment) ∧
      (∀ turn ∈ turns, ∀ declaration, turn.declaration = .ok declaration →
        (∀ location, run.2.files.locate (settings.artifactPath declaration.name) ≠ .ok location) →
        ∃ path fault, turn.result = .error (.file path fault)) ∧
      ∀ location, start.files.occupancy location = .vacant →
        run.2.files.occupancy location ≠ .directory →
        Failing settings turns run.2.files location ∨
          Succession settings start turns run.2.files location ∧
          (settings.freshnessSeconds = 0 ∨
              Brief (window settings) start.clock start.moment run.2.moment →
            Tenure settings start turns run.2.files location) := by
  obtain ⟨turns, ending, after, hgives, hfollows⟩ :=
    ValueCall.perform_gives hauto (.values none filter? paths) start
  rw [hgives]
  have htakes := hfollows.takes
  obtain ⟨-, hwithin, hordered⟩ := htakes.ordered
  refine ⟨turns, ending, hfollows, rfl, hordered, hwithin, ?_, fun location hvacant hfree => ?_⟩
  · exact fun turn hturn declaration => htakes.result_of_lost hturn
  · refine (htakes.failing_or_succession hvacant hfree).imp_right fun hsuccession => ?_
    exact ⟨hsuccession, hsuccession.tenure hordered hwithin⟩

/-- Two payloads of one name in two folders, and a clock that shows a second more each time. -/
def twoFolders : Chronicle where
  files := {
    entries :=
      [(["a".toList], .directory 0),
        (["a".toList, "x.json".toList], .file "\x7b\"a\":1\x7d".toUTF8.toList 0),
        (["b".toList], .directory 0),
        (["b".toList, "x.json".toList], .file "\x7b\"b\":\"s\"\x7d".toUTF8.toList 0)]
    home := [] }
  clock moment := moment * Freshness.second
  dates _ := "2024-01-01 02:00:00"

/-- A run over both of them. -/
def bothFolders : ValueCall :=
  .values none none ["a/x.json", "b/x.json"]

/-- The first of the two payloads writes the artifact, which the second one finds fresh. -/
theorem generateValues_succession_twoFolders :
    let run := bothFolders.perform {} twoFolders
    run.1 = .ok ⟨[⟨"x", .ok (.written "types/XType.ts")⟩, ⟨"x", .ok (.fresh "types/XType.ts")⟩]⟩ ∧
      ∃ turns : List Turn, run.1 = .ok ⟨turns.map (·.report)⟩ ∧
        Tenure {} twoFolders turns run.2.files ["types".toList, "XType.ts".toList] := by
  have hreport : (bothFolders.perform {} twoFolders).1 =
      .ok ⟨[⟨"x", .ok (.written "types/XType.ts")⟩, ⟨"x", .ok (.fresh "types/XType.ts")⟩]⟩ := by
    decide +kernel
  have hvacant : twoFolders.files.occupancy ["types".toList, "XType.ts".toList] = .vacant := by
    decide
  have hcontent : (bothFolders.perform {} twoFolders).2.files.content?
      ["types".toList, "XType.ts".toList] ≠ none := by decide +kernel
  have hmoment : (bothFolders.perform {} twoFolders).2.moment < 60 := by decide +kernel
  have hbrief : Brief (window {}) twoFolders.clock twoFolders.moment
      (bothFolders.perform {} twoFolders).2.moment := by
    intro earlier later _ _ hlast
    change (later : Int) * 1000000000 < earlier * 1000000000 + 3600 * 1000000000
    omega
  obtain ⟨turns, ending, -, hturns, -, -, -, hlocations⟩ :=
    @generateValues_succession {} rfl none twoFolders ["a/x.json", "b/x.json"]
  refine ⟨hreport, turns, ?_, ?_⟩
  · cases ending with
    | ok _ => exact hturns
    | error reason =>
      rw [bothFolders, hturns] at hreport
      cases hreport
  · rcases hlocations _ hvacant (by decide +kernel) with hfailing | ⟨-, htenure⟩
    · rw [Files.content?, bothFolders, hfailing.occupancy] at hcontent
      exact absurd rfl hcontent
    · exact htenure (.inr hbrief)

/-- The declaration of the record in `a`. -/
def firstFolder : Declaration where
  name := "XType"
  fields := [⟨"a", "number"⟩]
  source := some "a/x.json"

/-- The declaration of the record in `b`. -/
def secondFolder : Declaration where
  name := "XType"
  fields := [⟨"b", "string"⟩]
  source := some "b/x.json"

/-- One payload that gives one task has one turn. -/
theorem follows_one {chronicle : Chronicle} {path : String} {task : Task}
    (htask : tasksIn {} none 0 chronicle.files path = .ok [task]) :
    ∃ turn after, Gives (generatePayload {} none .whenStale path) chronicle
        (.ok ⟨[turn.report]⟩) after ∧ turn.toTask = task ∧
      ∀ paths turns last, Follows {} after (paths.map (payloadTasks {} none)) turns (.ok ()) last →
        Follows {} chronicle ((path :: paths).map (payloadTasks {} none)) (turn :: turns) (.ok ())
          last := by
  obtain ⟨readings, loaded, helapses, hreads, hpayload⟩ :=
    @generatePayload_gives {} rfl none chronicle path
  have hsame : payloadTasks {} none path readings chronicle.files = .ok [task] := by
    rw [payloadTasks, tasksIn, Payload.ofContent_unfiltered path (readings 0) 0]
    exact htask
  rw [hsame] at hpayload
  obtain ⟨turns, after, hgives, htasks, htakes⟩ := hpayload
  obtain ⟨turn, rfl, rfl⟩ := List.map_eq_singleton_iff.1 htasks
  exact ⟨turn, after, hgives, rfl, fun paths turns last hfollows =>
    .turn helapses hreads hsame htakes hfollows⟩

/-- A run over both payloads has two turns. -/
theorem turns_of_twoFolders : ∃ first second : Turn, ∃ after,
    Follows {} twoFolders (["a/x.json", "b/x.json"].map (payloadTasks {} none)) [first, second]
      (.ok ()) after ∧
    first.declaration = .ok firstFolder ∧ second.declaration = .ok secondFolder ∧
    after = (bothFolders.perform {} twoFolders).2 := by
  have hfirst : tasksIn {} none 0 twoFolders.files "a/x.json" = .ok [⟨"x", .ok firstFolder⟩] := by
    decide +kernel
  obtain ⟨first, between, hgives, htask, hfollows⟩ := follows_one hfirst
  have hbetween : ((generatePayload {} none .whenStale "a/x.json" : StateM Chronicle _)
      twoFolders).2 = between := congrArg Prod.snd hgives
  have hsecond : tasksIn {} none 0 between.files "b/x.json" = .ok [⟨"x", .ok secondFolder⟩] := by
    rw [← hbetween]
    decide +kernel
  obtain ⟨second, after, hgives', htask', hfollows'⟩ := follows_one hsecond
  have hnil : Gives (generatePayloads {} none .whenStale []) after (.ok ⟨[]⟩) after := .pure _ _
  have hrest : Gives (generatePayloads {} none .whenStale ["b/x.json"]) between
      (.ok ⟨[second.report]⟩) after := hgives'.bind (hnil.bind (.pure _ _))
  have hboth : Gives (generatePayloads {} none .whenStale ["a/x.json", "b/x.json"]) twoFolders
      (.ok ⟨[first.report, second.report]⟩) after := hgives.bind (hrest.bind (.pure _ _))
  refine ⟨first, second, after, ?_, congrArg Task.declaration htask,
    congrArg Task.declaration htask', (congrArg Prod.snd hboth).symm⟩
  exact hfollows ["b/x.json"] [second] after (hfollows' [] [] after (.done (.refl after)))

/-- The last turn that has something to declare for a path does not always see its declaration
written: a file of the same run is fresh, although nothing was there before the run. -/
theorem not_forall_last_written :
    ¬ ∀ (settings : Settings) (filter? : Option String) (start : Chronicle) (paths : List String)
      (turns : List Turn) (after : Chronicle), settings.autoGenerate = true →
      Follows settings start (paths.map (payloadTasks settings filter?)) turns (.ok ()) after →
      (∀ turn ∈ turns, ∀ path, turn.path? settings = some path →
        start.files.exists? path = false) →
      ∀ earlier turn later path, turns = earlier ++ turn :: later →
        turn.path? settings = some path → (∀ other ∈ later, other.path? settings ≠ some path) →
        after.files.read path = .ok (turn.content settings (start.dates turn.dated)) := by
  intro h
  obtain ⟨first, second, after, hfollows, hfirst, hsecond, rfl⟩ := turns_of_twoFolders
  have hpath : first.path? {} = some "types/XType.ts" := by
    rw [Task.path?, hfirst]
    decide
  have hpath' : second.path? {} = some "types/XType.ts" := by
    rw [Task.path?, hsecond]
    decide
  have habsent : ∀ turn ∈ [first, second], ∀ path, turn.path? {} = some path →
      twoFolders.files.exists? path = false := by
    simp only [List.forall_mem_cons, hpath, hpath', Option.some.injEq, forall_eq',
      List.not_mem_nil, false_implies, implies_true, and_true]
    decide
  have hread := h {} none twoFolders ["a/x.json", "b/x.json"] [first, second] _ rfl hfollows
    habsent [first] second [] "types/XType.ts" rfl hpath' (by simp)
  rw [Step.content, hsecond] at hread
  change _ = Except.ok (content {} secondFolder "2024-01-01 02:00:00") at hread
  exact absurd hread (by decide +kernel)

end Chronicle
end ResponseTypes
