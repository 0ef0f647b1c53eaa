import ResponseTypes.Proofs.ChronicleRuns

/-!
# The distance between writes

An artifact is only written when it has been found older than the window, and whatever is done
afterwards does not make it older than it was when it was written.  So the journal of a chronicle
has no two writes of one artifact within a window.

## Main definitions

- `Chronicle.Forward`: a clock that never goes back.
- `Chronicle.Distant`: writes that are at least a window apart, if they are of one path.
- `Chronicle.Recorded`: what the journal and the files have to do with each other.
- `Chronicle.writtenPaths`: the paths in the journal.

## Main statements

- `Files.modified?_of_write`, `Files.modified?_of_create`: a change of the files keeps a time, or
  makes it the present one.
- `Chronicle.Recorded.distant`: what is written after it has been found stale is far enough from
  its last write.
- `Chronicle.Recorded.invariant`: a call keeps the record.
- `Chronicle.ValueCall.writtenPaths_perform`: what is written is what is reported as written.
-/

namespace ResponseTypes

namespace Files

variable {files after : Files} {path : String} {t : Int}

/-- Something that is there, with its time. -/
theorem modified?_eq_some {time : Int} (h : files.modified? path = some time) :
    ∃ location entry, files.locate path = .ok location ∧ files.at? location = some entry ∧
      entry.modified = time := by
  cases hlocate : files.locate path with
  | error fault =>
    rw [modified?, find_eq, hlocate] at h
    cases h
  | ok location =>
    rw [modified?_eq hlocate] at h
    obtain ⟨entry, hentry, htime⟩ := Option.map_eq_some_iff.1 h
    exact ⟨location, entry, rfl, hentry, htime⟩

/-- After a growth something that was there has the time that it had, or that of the growth. -/
theorem modified?_grown {made written : Location → Prop} (h : Growth made written files after)
    (htimes : ∀ location entry, files.at? location = some entry →
      ∃ entry', after.at? location = some entry' ∧
        (entry'.modified = entry.modified ∨ entry'.modified = t))
    {time : Int} (hmodified : files.modified? path = some time) :
    ∃ time', after.modified? path = some time' ∧ (time' = time ∨ time' = t) := by
  obtain ⟨location, entry, hlocate, hentry, rfl⟩ := modified?_eq_some hmodified
  obtain ⟨entry', hentry', htime⟩ := htimes location entry hentry
  refine ⟨entry'.modified, ?_, htime⟩
  rw [modified?_eq (locate_grown h hlocate), hentry']
  rfl

theorem modified_modifiedAt (t : Int) (entry : Entry) : (entry.modifiedAt t).modified = t := by
  cases entry <;> rfl

/-- Making a directory moves the time of at most the directory around it. -/
theorem modified?_of_create {location : Location} (hvacant : files.occupancy location = .vacant)
    {time : Int} (hmodified : files.modified? path = some time) :
    ∃ time', (files.create location (.directory t) t).modified? path = some time' ∧
      (time' = time ∨ time' = t) := by
  have hgrown : Growth (fun _ => True) (fun _ => True) files _ :=
    growth_create (t := t) hvacant trivial
  refine modified?_grown hgrown (fun other entry hentry => ?_) hmodified
  have hne : other ≠ location := by
    rintro rfl
    rw [at?_eq_none_iff.2 hvacant] at hentry
    cases hentry
  rw [create, at?_put_of_ne _ _ hne]
  rcases at?_touch files location.dropLast t other with hsame | ⟨-, htouched⟩
  · exact ⟨entry, hsame.trans hentry, .inl rfl⟩
  · rw [htouched, hentry]
    exact ⟨_, rfl, .inr (modified_modifiedAt t entry)⟩

/-- Writing a file moves the time of at most the file and of the directory around it. -/
theorem modified?_of_write {content : Bytes} {target : String}
    (h : files.write target content t = .ok after) {time : Int}
    (hmodified : files.modified? path = some time) :
    ∃ time', after.modified? path = some time' ∧ (time' = time ∨ time' = t) := by
  obtain ⟨location, -, -, hself, hothers⟩ := at?_of_write h
  have hgrown : Growth (fun _ => True) _ files after := write_growth h
  refine modified?_grown hgrown (fun other entry hentry => ?_) hmodified
  by_cases hother : other = location
  · subst hother
    exact ⟨_, hself, .inr rfl⟩
  · rcases hothers other hother with hsame | ⟨-, htouched⟩
    · exact ⟨entry, hsame.trans hentry, .inl rfl⟩
    · rw [htouched, hentry]
      exact ⟨_, rfl, .inr (modified_modifiedAt t entry)⟩

/-- A file has the time at which it was written. -/
theorem modified?_of_written {content : Bytes} (h : files.write path content t = .ok after) :
    after.modified? path = some t := by
  obtain ⟨location, hlocate, -, hself, -⟩ := at?_of_write h
  have hgrown : Growth (fun _ => True) _ files after := write_growth h
  rw [modified?_eq (locate_grown hgrown hlocate), hself]
  rfl

end Files

namespace Chronicle

open Generation

variable {settings : Settings} {before between after start : Chronicle}

/-! ## What the journal and the files have to do with each other -/

/-- A window is never negative. -/
theorem window_nonneg (settings : Settings) : 0 ≤ window settings := by
  rw [window, Freshness.second]
  omega

/-- A clock that never goes back. -/
def Forward (clock : Nat → Int) : Prop :=
  ∀ ⦃first second : Nat⦄, first ≤ second → clock first ≤ clock second

/-- Writes of one path are at least a window apart. -/
def Distant (window : Int) (first second : String × Int) : Prop :=
  first.1 = second.1 → first.2 + window ≤ second.2

/-- What is in the journal has been written to artifacts in the past, the artifacts are there and no
older than that, and the entries of each of them are a window apart. -/
structure Recorded (settings : Settings) (chronicle : Chronicle) : Prop where
  forward : Forward chronicle.clock
  past : ∀ entry ∈ chronicle.journal, entry.2 ≤ chronicle.now
  there : ∀ entry ∈ chronicle.journal, ∃ time,
    chronicle.files.modified? entry.1 = some time ∧ entry.2 ≤ time
  artifact : ∀ entry ∈ chronicle.journal, ∃ name, entry.1 = settings.artifactPath name
  apart : chronicle.journal.Pairwise (Distant (window settings))

namespace Recorded

theorem of_empty (hforward : Forward start.clock) (hjournal : start.journal = []) :
    Recorded settings start := by
  refine ⟨hforward, ?_, ?_, ?_, ?_⟩ <;> simp [hjournal]

/-- A change of the files keeps the record if every artifact keeps its time or gets the present
one. -/
theorem of_times (h : Recorded settings before) (hclock : after.clock = before.clock)
    (hmoment : before.moment ≤ after.moment) (hjournal : after.journal = before.journal)
    (htimes : ∀ name time, before.files.modified? (settings.artifactPath name) = some time →
      ∃ time', after.files.modified? (settings.artifactPath name) = some time' ∧
        (time' = time ∨ time' = before.now)) : Recorded settings after := by
  have hnow : before.now ≤ after.now := by
    rw [now, now, hclock]
    exact h.forward hmoment
  refine ⟨?_, ?_, ?_, ?_, ?_⟩
  · rw [hclock]
    exact h.forward
  · rw [hjournal]
    exact fun entry hentry => Int.le_trans (h.past entry hentry) hnow
  · rw [hjournal]
    intro entry hentry
    obtain ⟨time, hmodified, hle⟩ := h.there entry hentry
    obtain ⟨name, hname⟩ := h.artifact entry hentry
    rw [hname] at hmodified ⊢
    obtain ⟨time', hmodified', rfl | rfl⟩ := htimes name time hmodified
    · exact ⟨_, hmodified', hle⟩
    · exact ⟨_, hmodified', h.past entry hentry⟩
  · rw [hjournal]
    exact h.artifact
  · rw [hjournal]
    exact h.apart

theorem elapses (h : Recorded settings before) (helapses : Elapses before after) :
    Recorded settings after :=
  h.of_times helapses.clock helapses.moment helapses.journal fun _ time hmodified =>
    ⟨time, helapses.files ▸ hmodified, .inl rfl⟩

theorem ensureOutput {made : Except Failure Unit} (h : Recorded settings before)
    (hgives : Gives (ensureOutput settings) before made after) : Recorded settings after := by
  refine Keeps.of_gives (Keeps.ensureOutput (fun _ hstate => hstate.elapses (.next _)) ?_ settings)
    hgives h
  intro chronicle path files hstate hfiles
  obtain ⟨location, -, hvacant, rfl⟩ := Files.makeDirectory_eq_ok hfiles
  exact hstate.of_times rfl (Nat.le_succ _) rfl fun name time hmodified =>
    Files.modified?_of_create hvacant hmodified

/-- An artifact that is written after it has been found stale is far enough from its last entry. -/
theorem distant {later : Chronicle} {name : String} {moment : Nat} (h : Recorded settings between)
    (hstale : Stale settings between (settings.artifactPath name) moment)
    (hlast : moment ≤ later.moment) (helapses : Elapses between later) :
    ∀ entry ∈ between.journal,
      Distant (window settings) entry (settings.artifactPath name, later.now) := by
  intro entry hentry hpath
  obtain ⟨time, hmodified, hle⟩ := h.there entry hentry
  rw [hpath] at hmodified
  have hyounger := hstale time hmodified
  have hpast := (h.elapses helapses).past entry (helapses.journal ▸ hentry)
  have hclock : between.clock moment ≤ later.now := by
    rw [now, helapses.clock]
    exact h.forward hlast
  have hwindow := window_nonneg settings
  have hold := mt (Freshness.isYounger_iff time (window settings) (between.clock moment)).2
    (Bool.eq_false_iff.1 hyounger)
  dsimp only at hclock ⊢
  omega

/-- A declaration in an output directory that is there keeps the record, whatever becomes of it. -/
theorem deposit {declaration : Declaration} {moments : Moments} {result : Except Failure Outcome}
    (h : Recorded settings before) {last : Nat} (hmoments : moments.Within before.moment last)
    (hdeposit : Deposit settings declaration moments before result after) :
    Recorded settings after := by
  cases hdeposit with
  | fresh _ _ helapses => exact h.elapses helapses
  | refused _ _ helapses => exact h.elapses helapses
  | @written later _ files hstale hlater hstamped hwrite hafter =>
    have hlast : moments.asked ≤ later.moment :=
      hstamped ▸ Nat.le_trans hmoments.dated hmoments.stamped
    have hdistant := h.distant hstale hlast hlater
    have hstate := h.elapses hlater
    rw [← hlater.files] at hwrite
    have hkept : Recorded settings { later.next with files := files } :=
      hstate.of_times rfl (Nat.le_succ _) rfl fun name time hmodified =>
        Files.modified?_of_write hwrite hmodified
    refine Recorded.elapses ?_ hafter
    refine ⟨hkept.forward, ?_, ?_, ?_, ?_⟩
    · refine List.forall_mem_append.2 ⟨hkept.past, ?_⟩
      rw [List.forall_mem_singleton]
      exact hstate.forward (Nat.le_succ later.moment)
    · refine List.forall_mem_append.2 ⟨hkept.there, ?_⟩
      rw [List.forall_mem_singleton]
      exact ⟨_, Files.modified?_of_written hwrite, Int.le_refl _⟩
    · refine List.forall_mem_append.2 ⟨hkept.artifact, ?_⟩
      rw [List.forall_mem_singleton]
      exact ⟨declaration.name, rfl⟩
    · refine List.pairwise_append.2 ⟨hkept.apart, List.pairwise_singleton _ _, ?_⟩
      intro entry hentry
      rw [List.forall_mem_singleton]
      exact hdistant entry (hlater.journal ▸ hentry)

/-- A declaration keeps the record, whatever becomes of it. -/
theorem attempt {declaration : Declaration} {moments : Moments} {result : Except Failure Outcome}
    (h : Recorded settings before)
    (hattempt : Attempt settings declaration moments before result after) :
    Recorded settings after := by
  cases hattempt with
  | homeless hensure => exact h.ensureOutput hensure
  | housed hensure hmoments hdeposit => exact (h.ensureOutput hensure).deposit hmoments hdeposit

theorem invariant (settings : Settings) : Invariant settings (Recorded settings) :=
  ⟨fun helapses h => h.elapses helapses, fun hattempt h => h.attempt hattempt⟩

end Recorded

/-! ## What the journal and the reports have to do with each other -/

/-- The paths under which files have been written, in order. -/
def writtenPaths (chronicle : Chronicle) : List String :=
  chronicle.journal.map Prod.fst

/-- The path that a result says has been written. -/
def writtenPath? : Except Failure Outcome → Option String
  | .ok (.written path) => some path
  | _ => none

theorem Elapses.writtenPaths (h : Elapses before after) :
    after.writtenPaths = before.writtenPaths :=
  congrArg (List.map Prod.fst) h.journal

theorem writtenPaths_ensureOutput {made : Except Failure Unit}
    (h : Gives (ensureOutput settings) before made after) :
    after.writtenPaths = before.writtenPaths :=
  congrArg (List.map Prod.fst) (ensureOutput_passes h).2.2.2

/-- A declaration is entered into the journal if it is reported as written, and only then. -/
theorem Attempt.writtenPaths {declaration : Declaration} {moments : Moments}
    {result : Except Failure Outcome}
    (h : Attempt settings declaration moments before result after) :
    after.writtenPaths = before.writtenPaths ++ (writtenPath? result).toList := by
  cases h with
  | homeless hensure =>
    rw [writtenPaths_ensureOutput hensure]
    exact (List.append_nil _).symm
  | housed hensure _ hdeposit =>
    rw [← writtenPaths_ensureOutput hensure]
    cases hdeposit with
    | fresh _ _ hafter =>
      rw [hafter.writtenPaths]
      exact (List.append_nil _).symm
    | refused _ _ hafter =>
      rw [hafter.writtenPaths]
      exact (List.append_nil _).symm
    | written _ hlater _ _ hafter =>
      rw [hafter.writtenPaths, ← hlater.writtenPaths]
      exact List.map_append

theorem Takes.writtenPaths {turns : List Turn} (h : Takes settings before turns after) :
    after.writtenPaths =
      before.writtenPaths ++ turns.filterMap fun turn => writtenPath? turn.result := by
  induction h with
  | rest helapses => rw [helapses.writtenPaths, List.filterMap_nil, List.append_nil]
  | undeclared helapses _ _ ih => exact helapses.writtenPaths ▸ ih
  | declared helapses hattempt _ ih =>
    rw [ih, hattempt.writtenPaths, helapses.writtenPaths, List.append_assoc, List.filterMap_cons]
    cases writtenPath? _ <;> rfl

theorem Follows.writtenPaths {sources : List TaskSource} {turns : List Turn}
    {ending : Except Breakdown Unit} (h : Follows settings before sources turns ending after) :
    after.writtenPaths =
      before.writtenPaths ++ turns.filterMap fun turn => writtenPath? turn.result := by
  induction h with
  | done helapses => rw [helapses.writtenPaths, List.filterMap_nil, List.append_nil]
  | broken helapses => rw [helapses.writtenPaths, List.filterMap_nil, List.append_nil]
  | turn helapses _ _ htakes _ ih =>
    rw [ih, htakes.writtenPaths, helapses.writtenPaths, List.append_assoc, List.filterMap_append]

/-- A call enters into the journal what it reports as written, in that order, and nothing else. -/
theorem ValueCall.writtenPaths_perform {call : ValueCall} {report : Report}
    (h : Gives (call.perform settings) before (.ok report) after) :
    after.writtenPaths = before.writtenPaths ++
      report.units.filterMap fun unit => writtenPath? unit.result := by
  cases hauto : settings.autoGenerate with
  | false =>
    obtain ⟨name, hgives⟩ := call.perform_disabled hauto
    obtain ⟨hreport, rfl⟩ := h.unique (hgives before)
    obtain rfl := Except.ok.inj hreport
    exact (List.append_nil _).symm
  | true =>
    obtain ⟨turns, ending, final, hgives, hfollows⟩ := call.perform_gives hauto before
    obtain ⟨hreport, rfl⟩ := h.unique hgives
    cases ending with
    | error reason => cases hreport
    | ok _ =>
      obtain rfl := Except.ok.inj hreport
      rw [hfollows.writtenPaths, List.filterMap_map]
      rfl

end Chronicle
end ResponseTypes
