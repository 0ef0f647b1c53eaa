import ResponseTypes.Proofs.PayloadIsolation
import ResponseTypes.Proofs.WriteDistance

/-!
# While nothing else touches the output directory

What a run finds out about its output directory holds until somebody else changes it.  A directory
that could not be made cannot be made later; one that is there stays there; and an artifact that
could not be written in it cannot be written later, for no directory is made any more.  This goes on
over further calls, and over changes that leave the output directory and those above it alone.

## Main definitions

- `Files.SameAt`: a path that leads to the same place in two file systems.
- `Chronicle.Barred`: an artifact that cannot be written.
- `Chronicle.Untouched`: a change that leaves the output directory and the artifacts alone.
- `Chronicle.History`: what can have happened since a chronicle.

## Main statements

- `Files.Creates.still`: an attempt to make directories that changes nothing is the same in all
  files that are the same along its path.
- `Files.IsTree.makeDirectory`, `Files.IsTree.write`: a tree stays a tree.
- `Chronicle.Invariant.history`: what calls and changes elsewhere keep is kept in a history.
-/

namespace ResponseTypes
namespace Files

variable {files other after : Files} {path : String} {t : Int}

/-! ## One path in two file systems -/

/-- Where a walk leads depends on its start alone; the files only tell whether it gets there. -/
theorem walk_unique {start goal goal' : Location} {parts : List (List Char)}
    (h : files.walk start parts = .ok goal) (h' : other.walk start parts = .ok goal') :
    goal = goal' := by
  induction parts generalizing start with
  | nil => exact Except.ok.inj (h.symm.trans h')
  | cons part others ih =>
    obtain ⟨next, hstep, hrest⟩ := walk_cons_eq_ok.1 h
    obtain ⟨next', hstep', hrest'⟩ := walk_cons_eq_ok.1 h'
    obtain rfl := Except.ok.inj ((step_eq_ok.1 hstep).2.symm.trans (step_eq_ok.1 hstep').2)
    exact ih hrest hrest'

theorem locate_unique (hhome : other.home = files.home) {location location' : Location}
    (h : files.locate path = .ok location) (h' : other.locate path = .ok location') :
    location = location' := by
  have hpath := pathFault?_of_follow h
  rw [locate_eq, follow_of_pathFault_none _ hpath] at h h'
  rw [origin, hhome] at h'
  exact walk_unique h h'

/-- A path leads to the same place, and what is there differs in its time at most. -/
structure SameAt (files other : Files) (path : String) : Prop where
  follow : other.follow path (Path.parts path.toList) = files.follow path (Path.parts path.toList)
  occupancy : ∀ location, files.follow path (Path.parts path.toList) = .ok location →
    other.occupancy location = files.occupancy location

theorem SameAt.of_shape {twin : Files} (hshape : SameShape files twin)
    (h : SameAt files other path) : SameAt twin other path where
  follow := h.follow.trans (hshape.follow_eq path _).symm
  occupancy location hfollow := by
    rw [hshape.follow_eq] at hfollow
    rw [h.occupancy location hfollow, hshape.occupancy]

theorem SameAt.isDirectory_eq (h : SameAt files other path) :
    other.isDirectory path = files.isDirectory path := by
  cases hfollow : files.follow path (Path.parts path.toList) with
  | error fault =>
    rw [isDirectory_of_lost hfollow, isDirectory_of_lost (h.follow.trans hfollow)]
  | ok location =>
    rw [Bool.eq_iff_iff, isDirectory_of_follow hfollow,
      isDirectory_of_follow (h.follow.trans hfollow), h.occupancy location hfollow]

/-- Where making a directory does not change anything, it gives the same answer in other files that
are the same there. -/
theorem Ensures.still {result : Except FileFault Unit} (h : Ensures t files path result after)
    (hstill : after = files) (hsame : SameAt files other path) :
    Ensures t other path result other := by
  cases h with
  | lost hfollow => exact .lost (hsame.follow.trans hfollow)
  | found hfollow hdirectory =>
    exact .found (hsame.follow.trans hfollow) ((hsame.occupancy _ hfollow).trans hdirectory)
  | blocked hfollow hfile =>
    exact .blocked (hsame.follow.trans hfollow) ((hsame.occupancy _ hfollow).trans hfile)
  | @made location _ hvacant =>
    have hdirectory := occupancy_create_self (t := t) hvacant
    rw [hstill, hvacant] at hdirectory
    cases hdirectory

/-- The same for a directory with those above it. -/
theorem Creates.still {result : Except FileFault Unit} (h : Creates t files path result after)
    (hstill : after = files)
    (hsame : ∀ above, Path.Ancestor path above → SameAt files other above) :
    Creates t other path result other := by
  induction h with
  | empty => exact .empty
  | direct hne hensures hresult =>
    exact .direct hne (hensures.still hstill (hsame _ .self)) hresult
  | orphan hne hensures hparent =>
    exact .orphan hne (hensures.still rfl (hsame _ .self)) hparent
  | stopped hne hensures hparent _ ih =>
    refine .stopped hne (hensures.still rfl (hsame _ .self)) hparent (ih hstill ?_)
    exact fun above habove => hsame above (habove.of_parent hparent)
  | @onward between after path parent result hne hensures hparent hcreates hlast ih =>
    have hbetween : between = files := by
      cases hlast with
      | lost | found | blocked => exact hstill
      | @made location _ hvacant =>
        -- what is made here would have been there from the start
        have hgrown := hcreates.growth fun _ => False
        have hdirectory : files.occupancy location = .directory := by
          rw [← hstill]
          exact occupancy_create_self hvacant
        have hthere := hgrown.directory hdirectory
        rw [hvacant] at hthere
        cases hthere
    subst hbetween
    refine .onward hne (hensures.still rfl (hsame _ .self)) hparent (ih rfl ?_)
      (hlast.still hstill (hsame _ .self))
    exact fun above habove => hsame above (habove.of_parent hparent)

/-! ## Trees that grow -/

/-- Where a walk of at least one part leads, there is a directory, or it is in one. -/
theorem IsTree.folder_of_walk (htree : files.IsTree) {start goal : Location}
    {parts : List (List Char)} (hparts : parts ≠ []) (h : files.walk start parts = .ok goal) :
    files.occupancy goal = .directory ∨ files.occupancy goal.dropLast = .directory := by
  induction parts generalizing start with
  | nil => exact absurd rfl hparts
  | cons part others ih =>
    obtain ⟨next, hstep, hrest⟩ := walk_cons_eq_ok.1 h
    cases others with
    | cons second others => exact ih (List.cons_ne_nil _ _) hrest
    | nil =>
      obtain rfl := Except.ok.inj hrest
      obtain ⟨hstart, hmove⟩ := step_eq_ok.1 hstep
      rw [move] at hmove
      split_ifs at hmove
      · obtain rfl := Except.ok.inj hmove
        exact .inl hstart
      · obtain rfl := Except.ok.inj hmove
        left
        cases start using List.reverseRecOn with
        | nil => exact hstart
        | append_singleton above name =>
          rw [List.dropLast_concat]
          exact htree.directory_of_ne_vacant above name (by rw [hstart]; simp)
      · obtain rfl := Except.ok.inj hmove
        rw [List.dropLast_concat]
        exact .inr hstart

/-- Where a path leads and no directory is, there is a directory around it. -/
theorem IsTree.folder_of_follow (htree : files.IsTree) {extra : List (List Char)}
    {location : Location} (h : files.follow path (Path.parts path.toList ++ extra) = .ok location)
    (hfree : files.occupancy location ≠ .directory) :
    files.occupancy location.dropLast = .directory := by
  have hpath := pathFault?_of_follow h
  rw [follow_of_pathFault_none _ hpath] at h
  refine (htree.folder_of_walk (fun hnil => ?_) h).resolve_left hfree
  rw [hnil, walk_nil, origin] at h
  have hne : path.toList ≠ [] := by
    intro hempty
    obtain rfl : path = "" := String.toList_inj.1 hempty
    cases hpath
  cases habsolute : Path.isAbsolute path.toList with
  | false => exact Path.parts_ne_nil hne habsolute (List.append_eq_nil_iff.1 hnil).1
  | true =>
    rw [habsolute] at h
    obtain rfl := Except.ok.inj h
    exact hfree rfl

/-- Something new in a directory leaves the files a tree. -/
theorem IsTree.of_changed (htree : files.IsTree) {location : Location}
    (hfolder : files.occupancy location.dropLast = .directory)
    (hfree : files.occupancy location ≠ .directory)
    (hothers : ∀ other, other ≠ location → after.occupancy other = files.occupancy other) :
    after.IsTree := by
  refine ⟨fun folder name hoccupied => ?_⟩
  have hdirectory : files.occupancy folder = .directory := by
    by_cases hnew : folder ++ [name] = location
    · rwa [← hnew, List.dropLast_concat] at hfolder
    · rw [hothers _ hnew] at hoccupied
      exact htree.directory_of_ne_vacant folder name hoccupied
  rw [hothers folder ?_, hdirectory]
  rintro rfl
  exact hfree hdirectory

theorem IsTree.makeDirectory (htree : files.IsTree)
    (h : files.makeDirectory path t = .ok after) : after.IsTree := by
  obtain ⟨location, hfollow, hvacant, rfl⟩ := makeDirectory_eq_ok h
  have hfree : files.occupancy location ≠ .directory := by rw [hvacant]; simp
  rw [← List.append_nil (Path.parts path.toList)] at hfollow
  refine htree.of_changed (htree.folder_of_follow hfollow hfree) hfree fun other hother => ?_
  rw [occupancy_create _ _ _ (ne_root_of_vacant hvacant), if_neg hother]

theorem IsTree.write (htree : files.IsTree) {content : Bytes}
    (h : files.write path content t = .ok after) : after.IsTree := by
  cases hlocate : files.locate path with
  | error fault =>
    rw [write_of_lost hlocate] at h
    cases h
  | ok location =>
    by_cases hdirectory : files.occupancy location = .directory
    · rw [write_of_directory hlocate hdirectory] at h
      cases h
    · obtain ⟨last, hwrite, -, hoccupancy⟩ := write_of_ne_directory content t hlocate hdirectory
      obtain rfl := Except.ok.inj (h.symm.trans hwrite)
      refine htree.of_changed (htree.folder_of_follow hlocate hdirectory) hdirectory
        fun other hother => ?_
      rw [hoccupancy, if_neg hother]

/-! ## Paths that cannot be written -/

/-- A path leads nowhere that a file can be written. -/
def Unwritable (files : Files) (path : String) : Prop :=
  ∀ location, files.locate path = .ok location → files.occupancy location = .directory

theorem unwritable_of_error {content : Bytes} {fault : FileFault}
    (h : files.write path content t = .error fault) : files.Unwritable path := by
  intro location hlocate
  rcases write_eq_error.1 h with hlost | ⟨-, found, hfound, hdirectory⟩
  · rw [hlocate] at hlost
    cases hlost
  · rwa [Except.ok.inj (hlocate.symm.trans hfound)]

theorem Unwritable.write_ne_ok (h : files.Unwritable path) {content : Bytes} :
    files.write path content t ≠ .ok after := by
  intro hwrite
  cases hlocate : files.locate path with
  | error fault =>
    rw [write_of_lost hlocate] at hwrite
    cases hwrite
  | ok location =>
    rw [write_of_directory hlocate (h location hlocate)] at hwrite
    cases hwrite

/-- As long as no directory is made it cannot be written. -/
theorem Unwritable.grown {written : Location → Prop}
    (hgrown : Growth (fun _ => False) written files after) (h : files.Unwritable path) :
    after.Unwritable path :=
  fun location hlocate => hgrown.directory (h location ((locate_iff_of_growth hgrown).1 hlocate))

end Files

namespace Chronicle

open Generation

variable {settings : Settings} {before after start : Chronicle} {files changed : Files}
variable {declaration : Declaration} {moments : Moments} {result : Except Failure Outcome}
variable {path : String}

/-! ## Declarations that get no artifact -/

/-- There is no output directory and never will be, or there is one, and the path in it cannot be
written. -/
def Barred (settings : Settings) (path : String) (files : Files) : Prop :=
  Hopeless settings files ∨ Housed settings files ∧ files.Unwritable path

theorem Attempt.of_hopeless (h : Attempt settings declaration moments before result after)
    (hhopeless : Hopeless settings before.files) : after.files = before.files := by
  obtain ⟨failure, last, hgives, hfiles⟩ := hhopeless.gives
  cases h with
  | homeless hensure => exact (hensure.unique hgives).2 ▸ hfiles
  | housed hensure => cases (hensure.unique hgives).1

/-- Files are only changed by writing the artifact. -/
theorem Deposit.files_or_write (h : Deposit settings declaration moments before result after) :
    after.files = before.files ∨
      ∃ date time, before.files.write (settings.artifactPath declaration.name)
        (content settings declaration date) time = .ok after.files := by
  cases h with
  | fresh _ _ hafter | refused _ _ hafter => exact .inl hafter.files
  | written _ _ _ hwrite hafter =>
    exact .inr ⟨_, _, hwrite.trans (congrArg _ hafter.files.symm)⟩

/-- Once the output directory is there, all that is left of an attempt is the artifact. -/
theorem Attempt.deposit (h : Attempt settings declaration moments before result after)
    (hhoused : Housed settings before.files) : ∃ between, Elapses before between ∧
      moments.Within between.moment after.moment ∧
      Deposit settings declaration moments between result after := by
  obtain ⟨last, hgives, hfiles⟩ := gives_of_housed hhoused
  cases h with
  | homeless hensure => cases (hensure.unique hgives).1
  | housed hensure hmoments hdeposit =>
    obtain ⟨-, rfl⟩ := hensure.unique hgives
    obtain ⟨hclock, hdates, hmoment, hjournal⟩ := ensureOutput_passes hensure
    exact ⟨_, ⟨hfiles, hclock, hdates, hmoment, hjournal⟩, hmoments, hdeposit⟩

theorem Deposit.growth (h : Deposit settings declaration moments before result after) :
    Files.Growth (fun _ => False) (fun _ => True) before.files after.files := by
  rcases h.files_or_write with hfiles | ⟨date, time, hwrite⟩
  · rw [hfiles]
    exact .refl _
  · exact (Files.write_growth hwrite).mono (fun _ => id) fun _ _ => trivial

theorem Attempt.growth_of_housed (h : Attempt settings declaration moments before result after)
    (hhoused : Housed settings before.files) :
    Files.Growth (fun _ => False) (fun _ => True) before.files after.files := by
  obtain ⟨between, helapses, -, hdeposit⟩ := h.deposit hhoused
  rw [← helapses.files]
  exact hdeposit.growth

/-- A declaration that gets no artifact does not change anything. -/
theorem Attempt.of_barred (h : Attempt settings declaration moments before result after)
    (hbarred : Barred settings (settings.artifactPath declaration.name) before.files) :
    after.files = before.files := by
  rcases hbarred with hhopeless | ⟨hhoused, hunwritable⟩
  · exact h.of_hopeless hhopeless
  · obtain ⟨between, helapses, -, hdeposit⟩ := h.deposit hhoused
    rw [← helapses.files] at hunwritable ⊢
    refine hdeposit.files_or_write.resolve_right ?_
    rintro ⟨date, time, hwrite⟩
    exact hunwritable.write_ne_ok hwrite

theorem invariant_housed (settings : Settings) :
    Invariant settings fun chronicle => Housed settings chronicle.files where
  elapses helapses hhoused := by rwa [helapses.files]
  attempt hattempt hhoused := hhoused.grown (hattempt.growth_of_housed hhoused)

/-- A declaration that gets no artifact gets none later. -/
theorem invariant_barred (settings : Settings) (path : String) :
    Invariant settings fun chronicle => Barred settings path chronicle.files where
  elapses helapses hbarred := by rwa [helapses.files]
  attempt hattempt hbarred := by
    rcases hbarred with hhopeless | ⟨hhoused, hunwritable⟩
    · rw [hattempt.of_hopeless hhopeless]
      exact .inl hhopeless
    · have hgrown := hattempt.growth_of_housed hhoused
      exact .inr ⟨hhoused.grown hgrown, hunwritable.grown hgrown⟩

theorem invariant_isTree (settings : Settings) :
    Invariant settings fun chronicle => chronicle.files.IsTree :=
  .of_changes (fun helapses htree => by rwa [helapses.files])
    (fun _ _ _ htree hfiles => htree.makeDirectory hfiles)
    (fun _ _ _ _ htree hfiles => htree.write hfiles)

/-! ## Histories -/

/-- A change elsewhere: the files are still a tree, the output directory and those above it are
where and what they were, and so are the artifacts, times included. -/
structure Untouched (settings : Settings) (files changed : Files) : Prop where
  tree : changed.IsTree
  home : changed.home = files.home
  above : ∀ above, Path.Ancestor settings.outputPath above → Files.SameAt files changed above
  locate : ∀ name, changed.locate (settings.artifactPath name) =
    files.locate (settings.artifactPath name)
  entry : ∀ name location, files.locate (settings.artifactPath name) = .ok location →
    changed.at? location = files.at? location

namespace Untouched

variable (h : Untouched settings files changed)
include h

theorem modified?_eq (name : String) : changed.modified? (settings.artifactPath name) =
    files.modified? (settings.artifactPath name) :=
  Files.modified?_congr (fun _ => by rw [h.locate]) (h.entry name)

theorem occupancy {name : String} {location : Location}
    (hlocate : files.locate (settings.artifactPath name) = .ok location) :
    changed.occupancy location = files.occupancy location := by
  rw [Files.occupancy, Files.occupancy, h.entry name location hlocate]

theorem housed (hhoused : Housed settings files) : Housed settings changed := by
  intro hne
  rw [(h.above _ .self).isDirectory_eq, hhoused hne]

theorem barred {name : String} (hbarred : Barred settings (settings.artifactPath name) files) :
    Barred settings (settings.artifactPath name) changed := by
  rcases hbarred with ⟨twin, fault, hshape, hcreates⟩ | ⟨hhoused, hunwritable⟩
  · refine .inl ⟨changed, fault, .refl changed, hcreates.still rfl fun above habove => ?_⟩
    exact (h.above above habove).of_shape hshape
  · refine .inr ⟨h.housed hhoused, fun location hlocate => ?_⟩
    rw [h.locate] at hlocate
    rw [h.occupancy hlocate, hunwritable location hlocate]

end Untouched

/-- What can have happened since a chronicle: calls, and changes elsewhere. -/
inductive History (settings : Settings) (start : Chronicle) : Chronicle → Prop
  | start : History settings start start
  | call {chronicle : Chronicle} (call : ValueCall) : History settings start chronicle →
      History settings start (call.perform settings chronicle).2
  | elsewhere {chronicle : Chronicle} {files : Files} {moment : Nat} :
      History settings start chronicle → chronicle.moment ≤ moment →
      Untouched settings chronicle.files files →
      History settings start { chronicle with files := files, moment := moment }

/-- What is kept by each declaration and by changes elsewhere is kept in a history. -/
theorem Invariant.history {I : Chronicle → Prop} (hI : Invariant settings I)
    (helsewhere : ∀ (chronicle : Chronicle) (files : Files) (moment : Nat),
      chronicle.moment ≤ moment → Untouched settings chronicle.files files → I chronicle →
      I { chronicle with files := files, moment := moment })
    (h : History settings start after) (hstart : I start) : I after := by
  induction h with
  | start => exact hstart
  | call call _ ih => exact hI.call call ih
  | elsewhere _ hmoment huntouched ih => exact helsewhere _ _ _ hmoment huntouched ih

namespace History

variable (h : History settings start after)
include h

theorem recorded (hstart : Recorded settings start) : Recorded settings after :=
  (Recorded.invariant settings).history (fun _ _ _ hmoment huntouched hstate =>
    hstate.of_times rfl hmoment rfl fun name time hmodified =>
      ⟨time, (huntouched.modified?_eq name).trans hmodified, .inl rfl⟩) h hstart

theorem isTree (hstart : start.files.IsTree) : after.files.IsTree :=
  (invariant_isTree settings).history (fun _ _ _ _ huntouched _ => huntouched.tree) h hstart

theorem housed (hstart : Housed settings start.files) : Housed settings after.files :=
  (invariant_housed settings).history (fun _ _ _ _ huntouched => huntouched.housed) h hstart

theorem barred {name : String}
    (hstart : Barred settings (settings.artifactPath name) start.files) :
    Barred settings (settings.artifactPath name) after.files :=
  (invariant_barred settings _).history (fun _ _ _ _ huntouched => huntouched.barred) h hstart

end History

end Chronicle
end ResponseTypes
