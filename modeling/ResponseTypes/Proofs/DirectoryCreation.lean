import Mathlib.Data.List.Induction
import ResponseTypes.Host
import ResponseTypes.Proofs.FileGrowth
import ResponseTypes.Proofs.SessionEffects

/-!
# Making directories

A directory is made inside those above it, which are made first if they are missing.  What this
comes to is told by two relations that know of no fuel, and the recursion over fuel is shown to
follow them.  Making directories only ever adds directories, and an attempt that failed is not
mended by what it left behind.

## Main definitions

- `Files.Ensures`: making one directory.
- `Files.Creates`: making a directory and those above it.
- `Files.IsTree`: everything is in a directory.

## Main statements

- `Files.createDirectories_yields`: the recursion over fuel follows `Files.Creates`.
- `Files.Creates.growth`: only a path and those above it become directories.
- `Files.Creates.retry`: a failed attempt fails again, for the same reason up to one exception.
- `Files.Creates.retry_of_isTree`: in a tree, without a part that leads upwards, for the same
  reason.
-/

namespace ResponseTypes
namespace Files

variable {t : Int} {date : String} {files after : Files} {path : String}

/-! ## One directory -/

/-- Making a directory inside one that is there: its answer and the files after it. -/
inductive Ensures (t : Int) (files : Files) (path : String) :
    Except FileFault Unit → Files → Prop where
  /-- the path leads nowhere -/
  | lost {fault : FileFault} : files.follow path (Path.parts path.toList) = .error fault →
      Ensures t files path (.error fault) files
  | made {location : Location} : files.follow path (Path.parts path.toList) = .ok location →
      files.occupancy location = .vacant →
      Ensures t files path (.ok ()) (files.create location (.directory t) t)
  /-- there is such a directory already -/
  | found {location : Location} : files.follow path (Path.parts path.toList) = .ok location →
      files.occupancy location = .directory → Ensures t files path (.ok ()) files
  /-- a file is in the way -/
  | blocked {location : Location} {content : Bytes} :
      files.follow path (Path.parts path.toList) = .ok location →
      files.occupancy location = .file content → Ensures t files path (.error .occupied) files

theorem makeDirectory_of_lost {fault : FileFault}
    (h : files.follow path (Path.parts path.toList) = .error fault) :
    files.makeDirectory path t = .error fault := by
  rw [makeDirectory, h]
  rfl

theorem makeDirectory_of_vacant {location : Location}
    (h : files.follow path (Path.parts path.toList) = .ok location)
    (hvacant : files.occupancy location = .vacant) :
    files.makeDirectory path t = .ok (files.create location (.directory t) t) := by
  have hnone := at?_eq_none_iff.2 hvacant
  rw [makeDirectory, h]
  simp only [bind, Except.bind, hnone]
  rfl

theorem makeDirectory_of_occupied {location : Location}
    (h : files.follow path (Path.parts path.toList) = .ok location)
    (hoccupied : files.occupancy location ≠ .vacant) :
    files.makeDirectory path t = .error .occupied := by
  obtain ⟨entry, hentry⟩ := Option.ne_none_iff_exists'.1 (mt at?_eq_none_iff.1 hoccupied)
  rw [makeDirectory, h]
  simp only [bind, Except.bind, hentry]

theorem isDirectory_of_lost {fault : FileFault}
    (h : files.follow path (Path.parts path.toList) = .error fault) :
    files.isDirectory path = false := by
  rw [Bool.eq_false_iff, ne_eq, isDirectory_iff]
  rintro ⟨location, hlocate, -⟩
  rw [locate_error_of_follow h] at hlocate
  cases hlocate

theorem isDirectory_of_follow {location : Location}
    (h : files.follow path (Path.parts path.toList) = .ok location) :
    files.isDirectory path = true ↔ files.occupancy location = .directory := by
  rw [isDirectory_iff]
  constructor
  · rintro ⟨goal, hlocate, hdirectory⟩
    rw [follow_of_locate hlocate] at h
    rwa [← Except.ok.inj h]
  · exact fun hdirectory => ⟨location, locate_of_follow h hdirectory, hdirectory⟩

theorem Ensures.unique {result result' : Except FileFault Unit} {after' : Files}
    (h : Ensures t files path result after) (h' : Ensures t files path result' after') :
    result = result' ∧ after = after' := by
  cases h <;> cases h' <;> simp_all

/-- A fault leaves the files as they are. -/
theorem Ensures.error {fault : FileFault} (h : Ensures t files path (.error fault) after) :
    after = files := by
  cases h <;> rfl

theorem ensureDirectory_yields (t : Int) (date : String) (files : Files) (path : String) :
    ∃ result after, Session.Yields (Host.ensureDirectory path) t date files result after ∧
      Ensures t files path result after := by
  cases hfollow : files.follow path (Path.parts path.toList) with
  | error fault =>
    refine ⟨.error fault, files, ?_, .lost hfollow⟩
    refine (Session.Yields.makeDirectory_error (makeDirectory_of_lost hfollow)).bind ?_
    change Session.Yields (if fault = .absent then _ else _) _ _ _ _ _
    split_ifs
    · exact .pure _ _
    · refine (Session.Yields.isDirectory path files).bind ?_
      rw [isDirectory_of_lost hfollow]
      exact .pure _ _
  | ok location =>
    cases hoccupancy : files.occupancy location with
    | vacant =>
      exact ⟨.ok (), files.create location (.directory t) t,
        (Session.Yields.makeDirectory_ok (makeDirectory_of_vacant hfollow hoccupancy)).bind
          (.pure _ _), .made hfollow hoccupancy⟩
    | directory =>
      have hoccupied : files.occupancy location ≠ .vacant := by simp [hoccupancy]
      refine ⟨.ok (), files, ?_, .found hfollow hoccupancy⟩
      refine (Session.Yields.makeDirectory_error
        (makeDirectory_of_occupied hfollow hoccupied)).bind ?_
      refine (Session.Yields.isDirectory path files).bind ?_
      rw [(isDirectory_of_follow hfollow).2 hoccupancy]
      exact .pure _ _
    | file content =>
      have hoccupied : files.occupancy location ≠ .vacant := by simp [hoccupancy]
      have hfile : files.isDirectory path = false := by
        rw [Bool.eq_false_iff, ne_eq, isDirectory_of_follow hfollow, hoccupancy]
        simp
      refine ⟨.error .occupied, files, ?_, .blocked hfollow hoccupancy⟩
      refine (Session.Yields.makeDirectory_error
        (makeDirectory_of_occupied hfollow hoccupied)).bind ?_
      refine (Session.Yields.isDirectory path files).bind ?_
      rw [hfile]
      exact .pure _ _

/-! ## A directory and those above it -/

/-- Making a directory and those above it that are missing: its answer and the files after it. -/
inductive Creates (t : Int) (files : Files) :
    String → Except FileFault Unit → Files → Prop where
  | empty : Creates t files "" (.ok ()) files
  /-- the directories above are there, or it is not their absence that is in the way -/
  | direct {after : Files} {path : String} {result : Except FileFault Unit} : path ≠ "" →
      Ensures t files path result after → result ≠ .error .absent →
      Creates t files path result after
  | orphan {path : String} : path ≠ "" →
      Ensures t files path (.error .absent) files → Path.parent? path = none →
      Creates t files path (.error (.other "failed to create whole tree")) files
  /-- the directory above cannot be made -/
  | stopped {after : Files} {path parent : String} {fault : FileFault} : path ≠ "" →
      Ensures t files path (.error .absent) files → Path.parent? path = some parent →
      Creates t files parent (.error fault) after → Creates t files path (.error fault) after
  /-- the directory above is made first -/
  | onward {between after : Files} {path parent : String} {result : Except FileFault Unit} :
      path ≠ "" → Ensures t files path (.error .absent) files → Path.parent? path = some parent →
      Creates t files parent (.ok ()) between → Ensures t between path result after →
      Creates t files path result after

theorem createFrom_yields (t : Int) (date : String) (fuel : Nat) (files : Files) (path : String)
    (hfuel : (Path.components path.toList).length < fuel) :
    ∃ result after, Session.Yields (Host.createFrom fuel path) t date files result after ∧
      Creates t files path result after := by
  induction fuel generalizing path files with
  | zero => exact absurd hfuel (Nat.not_lt_zero _)
  | succ fuel ih =>
    rw [Host.createFrom]
    by_cases hempty : path = ""
    · subst hempty
      exact ⟨.ok (), files, .pure _ _, .empty⟩
    · rw [if_neg (by simpa using hempty)]
      obtain ⟨result, after, hyields, hensures⟩ := ensureDirectory_yields t date files path
      by_cases hresult : result = .error .absent
      · subst hresult
        obtain rfl := hensures.error
        cases hparent : Path.parent? path with
        | none => exact ⟨_, _, hyields.bind (.pure _ _), .orphan hempty hensures hparent⟩
        | some parent =>
          have hshorter := Path.length_components_parent hparent
          obtain ⟨above, between, habove, hcreates⟩ := ih after parent (by omega)
          cases above with
          | error fault =>
            exact ⟨_, _, hyields.bind (habove.bind (.pure _ _)),
              .stopped hempty hensures hparent hcreates⟩
          | ok _ =>
            obtain ⟨last, final, hlast, hfinal⟩ := ensureDirectory_yields t date between path
            exact ⟨last, final, hyields.bind (habove.bind hlast),
              .onward hempty hensures hparent hcreates hfinal⟩
      · refine ⟨result, after, hyields.bind ?_, .direct hempty hensures hresult⟩
        cases result with
        | ok _ => exact .pure _ _
        | error fault =>
          cases fault <;> first | exact absurd rfl hresult | exact .pure _ _

/-- The recursion over fuel makes a directory and those above it. -/
theorem createDirectories_yields (t : Int) (date : String) (files : Files) (path : String) :
    ∃ result after, Session.Yields (Host.createDirectories path) t date files result after ∧
      Creates t files path result after :=
  createFrom_yields t date _ files path (Nat.lt_succ_self _)

theorem Creates.unique {result result' : Except FileFault Unit} {after' : Files}
    (h : Creates t files path result after) (h' : Creates t files path result' after') :
    result = result' ∧ after = after' := by
  induction h generalizing result' after' with
  | empty => cases h' <;> first | exact ⟨rfl, rfl⟩ | contradiction
  | direct hne hensures hresult =>
    cases h' with
    | empty => contradiction
    | direct _ hensures' _ => exact hensures.unique hensures'
    | orphan _ hensures' _ => exact absurd (hensures.unique hensures').1 hresult
    | stopped _ hensures' _ _ => exact absurd (hensures.unique hensures').1 hresult
    | onward _ hensures' _ _ _ => exact absurd (hensures.unique hensures').1 hresult
  | orphan hne hensures hparent =>
    cases h' with
    | empty => contradiction
    | direct _ hensures' hresult' => exact absurd (hensures'.unique hensures).1 hresult'
    | orphan => exact ⟨rfl, rfl⟩
    | stopped _ _ hparent' _ => rw [hparent] at hparent'; cases hparent'
    | onward _ _ hparent' _ _ => rw [hparent] at hparent'; cases hparent'
  | stopped hne hensures hparent _ ih =>
    cases h' with
    | empty => contradiction
    | direct _ hensures' hresult' => exact absurd (hensures'.unique hensures).1 hresult'
    | orphan _ _ hparent' => rw [hparent] at hparent'; cases hparent'
    | stopped _ _ hparent' habove =>
      obtain rfl := Option.some.inj (hparent.symm.trans hparent')
      exact ih habove
    | onward _ _ hparent' habove _ =>
      obtain rfl := Option.some.inj (hparent.symm.trans hparent')
      cases (ih habove).1
  | onward hne hensures hparent _ hlast ih =>
    cases h' with
    | empty => contradiction
    | direct _ hensures' hresult' => exact absurd (hensures'.unique hensures).1 hresult'
    | orphan _ _ hparent' => rw [hparent] at hparent'; cases hparent'
    | stopped _ _ hparent' habove =>
      obtain rfl := Option.some.inj (hparent.symm.trans hparent')
      cases (ih habove).1
    | onward _ _ hparent' habove hlast' =>
      obtain rfl := Option.some.inj (hparent.symm.trans hparent')
      obtain rfl := (ih habove).2
      exact hlast.unique hlast'

/-! ## What is made -/

/-- A location that a path, or one of those above it, leads to. -/
def IsAbove (files : Files) (path : String) (location : Location) : Prop :=
  ∃ above, Path.Ancestor path above ∧ files.locate above = .ok location

theorem IsAbove.grown {made written : Location → Prop} (h : Growth made written files after)
    {location : Location} (habove : IsAbove files path location) :
    IsAbove after path location := by
  obtain ⟨above, hancestor, hlocate⟩ := habove
  exact ⟨above, hancestor, locate_grown h hlocate⟩

theorem ne_root_of_vacant {location : Location} (h : files.occupancy location = .vacant) :
    location ≠ [] := by
  rintro rfl
  rw [occupancy_root] at h
  cases h

theorem occupancy_create_self {location : Location} (hvacant : files.occupancy location = .vacant) :
    (files.create location (.directory t) t).occupancy location = .directory := by
  rw [occupancy_create _ _ _ (ne_root_of_vacant hvacant), if_pos rfl]
  rfl

theorem growth_create {location : Location} (hvacant : files.occupancy location = .vacant)
    {made written : Location → Prop} (hmade : made location) :
    Growth made written files (files.create location (.directory t) t) := by
  have hroot := ne_root_of_vacant hvacant
  refine ⟨home_create _ _ _ _, fun other => ?_⟩
  rw [occupancy_create _ _ _ hroot]
  split_ifs with hother
  · subst hother
    rw [hvacant]
    exact .made hmade
  · exact .kept _

/-- Making one directory changes nothing but the location of its path. -/
theorem Ensures.growth {result : Except FileFault Unit} (h : Ensures t files path result after)
    (written : Location → Prop) : Growth (after.IsAbove path) written files after := by
  cases h with
  | lost | found | blocked => exact .refl files
  | made hfollow hvacant =>
    have hgrown : Growth (fun _ => True) written files _ := growth_create (t := t) hvacant trivial
    exact growth_create hvacant ⟨path, .self,
      locate_of_follow (follow_grown hgrown hfollow) (occupancy_create_self hvacant)⟩

/-- Only a path and those above it become directories. -/
theorem Creates.growth {result : Except FileFault Unit} (h : Creates t files path result after)
    (written : Location → Prop) : Growth (after.IsAbove path) written files after := by
  induction h with
  | empty | orphan => exact .refl _
  | direct _ hensures _ => exact hensures.growth written
  | stopped _ _ hparent _ ih =>
    refine ih.mono (fun location habove => ?_) fun _ => id
    obtain ⟨above, hancestor, hlocate⟩ := habove
    exact ⟨above, hancestor.of_parent hparent, hlocate⟩
  | onward _ _ hparent _ hlast ih =>
    refine Growth.trans (ih.mono (fun location habove => ?_) fun _ => id) (hlast.growth written)
    obtain ⟨above, hancestor, hlocate⟩ := habove.grown (hlast.growth written)
    exact ⟨above, hancestor.of_parent hparent, hlocate⟩

theorem Ensures.isDirectory (h : Ensures t files path (.ok ()) after) :
    after.isDirectory path = true := by
  cases h with
  | found hfollow hdirectory => exact (isDirectory_of_follow hfollow).2 hdirectory
  | made hfollow hvacant =>
    have hgrown : Growth (fun _ => True) (fun _ => True) files _ :=
      growth_create (t := t) hvacant trivial
    exact (isDirectory_of_follow (follow_grown hgrown hfollow)).2 (occupancy_create_self hvacant)

/-- A directory that has been made is there. -/
theorem Creates.isDirectory (h : Creates t files path (.ok ()) after) (hne : path ≠ "") :
    after.isDirectory path = true := by
  cases h with
  | empty => contradiction
  | direct _ hensures _ => exact hensures.isDirectory
  | onward _ _ _ _ hlast => exact hlast.isDirectory

/-- A directory that is there, or that has no path, need not be made. -/
theorem creates_of_isDirectory (h : path ≠ "" → files.isDirectory path = true) :
    Creates t files path (.ok ()) files := by
  by_cases hempty : path = ""
  · subst hempty
    exact .empty
  · obtain ⟨location, hlocate, hdirectory⟩ := isDirectory_iff.1 (h hempty)
    exact .direct hempty (.found (follow_of_locate hlocate) hdirectory) (by simp)

/-! ## Attempts that failed -/

theorem pathFault?_absent (h : pathFault? path = some .absent) : path = "" := by
  rw [pathFault?] at h
  split_ifs at h <;> simp_all

/-- Where the parts of a parent lead, the components of the path lead on by one. -/
theorem walk_components (files : Files) {parent : String}
    (hparent : Path.parent? path = some parent) :
    ∃ last, files.walk (files.origin path) (Path.components path.toList) =
      (files.walk (files.origin parent) (Path.parts parent.toList)).bind fun location =>
        files.step location last := by
  obtain ⟨hne, -⟩ := Path.parent?_eq_some hparent
  refine ⟨(Path.components path.toList).getLast hne, ?_⟩
  have horigin : files.origin parent = files.origin path := by
    rw [origin, origin, Path.isAbsolute_parent hparent]
  conv_lhs => rw [← List.dropLast_concat_getLast hne, ← Path.parts_parent hparent, walk_append]
  rw [horigin]
  congr 1
  funext location
  exact walk_singleton files location _

/-- Whatever keeps the directory above from being made is in the way of the directory as well. -/
theorem lost_of_parent {parent : String} {fault : FileFault}
    (hpath : pathFault? path = none) (hparent : Path.parent? path = some parent)
    (hne : parent ≠ "") (h : Ensures t files parent (.error fault) files) :
    files.follow path (Path.parts path.toList) = .error fault ∨
      (fault = .occupied ∧
        files.follow path (Path.parts path.toList) = .error .notDirectory) := by
  have habove := pathFault?_of_sublist hpath (Path.parent_sublist hparent) hne
  obtain ⟨last, hwalk⟩ := walk_components files hparent
  rw [follow_of_pathFault_none files hpath]
  cases h with
  | lost hfollow =>
    rw [follow_of_pathFault_none files habove] at hfollow
    rw [hfollow] at hwalk
    exact .inl (walk_parts_of_components hwalk)
  | blocked hfollow hfile =>
    rw [follow_of_pathFault_none files habove] at hfollow
    rw [hfollow, Except.bind, step, hfile] at hwalk
    exact .inr ⟨rfl, walk_parts_of_components hwalk⟩

/-- An attempt that failed fails again.  It fails for the same reason, unless it made directories
that a part leads up from again: then a file in the way of one above is now met on the way. -/
theorem Creates.retry {fault : FileFault} (h : Creates t files path (.error fault) after) :
    (∃ reason, Ensures t after path (.error reason) after) ∧
      ∃ fault', (fault' = fault ∨ (fault = .occupied ∧ fault' = .notDirectory)) ∧
        Creates t after path (.error fault') after := by
  generalize hresult : (Except.error fault : Except FileFault Unit) = result at h
  induction h with
  | empty => cases hresult
  | direct hne hensures hdirect =>
    subst hresult
    obtain rfl := hensures.error
    exact ⟨⟨_, hensures⟩, fault, .inl rfl, .direct hne hensures hdirect⟩
  | orphan hne hensures hparent =>
    obtain rfl := Except.error.inj hresult
    exact ⟨⟨_, hensures⟩, _, .inl rfl, .orphan hne hensures hparent⟩
  | @stopped after path parent fault' hne hensures hparent habove ih =>
    obtain rfl := Except.error.inj hresult
    have hpath : pathFault? path = none := by
      cases hensures with
      | lost hfollow =>
        cases hfault : pathFault? path with
        | none => rfl
        | some reason =>
          rw [follow_of_fault files hfault] at hfollow
          obtain rfl := Except.error.inj hfollow
          exact absurd (pathFault?_absent hfault) hne
    have hparentNe : parent ≠ "" := by
      rintro rfl
      cases habove <;> contradiction
    obtain ⟨⟨reason, hreason⟩, again, hagain, hretry⟩ := ih rfl
    rcases lost_of_parent hpath hparent hparentNe hreason with hlost | ⟨rfl, hlost⟩
    · refine ⟨⟨reason, .lost hlost⟩, again, hagain, ?_⟩
      by_cases habsent : reason = .absent
      · subst habsent
        exact .stopped hne (.lost hlost) hparent hretry
      · have hdirect : (Except.error reason : Except FileFault Unit) ≠ .error .absent := by
          simpa using habsent
        obtain rfl := Except.error.inj (hretry.unique (.direct hparentNe hreason hdirect)).1
        exact .direct hne (.lost hlost) hdirect
    · obtain rfl := Except.error.inj
        (hretry.unique (.direct hparentNe hreason (by simp))).1
      refine ⟨⟨_, .lost hlost⟩, .notDirectory, .inr ⟨?_, rfl⟩, .direct hne (.lost hlost) (by simp)⟩
      rcases hagain with heq | ⟨-, heq⟩
      · exact heq.symm
      · cases heq
  | @onward between after path parent result hne hensures hparent habove hlast ih =>
    subst hresult
    obtain rfl := hlast.error
    have hthere : Creates t after parent (.ok ()) after :=
      creates_of_isDirectory fun hparentNe => habove.isDirectory hparentNe
    refine ⟨⟨fault, hlast⟩, fault, .inl rfl, ?_⟩
    by_cases habsent : fault = .absent
    · subst habsent
      exact .onward hne hlast hparent hthere hlast
    · exact .direct hne hlast (by simpa using habsent)

/-! ## Trees -/

/-- Everything is in a directory. -/
structure IsTree (files : Files) : Prop where
  directory_of_ne_vacant : ∀ (location : Location) (name : List Char),
    files.occupancy (location ++ [name]) ≠ .vacant → files.occupancy location = .directory

/-- The entries of a file system tell whether it is a tree. -/
theorem isTree_of_entries
    (h : ∀ entry ∈ files.entries, files.occupancy entry.1.dropLast = .directory) :
    files.IsTree := by
  refine ⟨fun location name hoccupied => ?_⟩
  obtain ⟨found, hfound⟩ := Option.ne_none_iff_exists'.1 (mt at?_eq_none_iff.1 hoccupied)
  rw [at?, if_neg (by simp)] at hfound
  obtain ⟨entry, hentry, -⟩ := Option.map_eq_some_iff.1 hfound
  have hlocation : entry.1 = location ++ [name] := by simpa using List.find?_some hentry
  have hdirectory := h entry (List.mem_of_find?_eq_some hentry)
  rwa [hlocation, List.dropLast_concat] at hdirectory

/-- There is something at every location on the way to something. -/
theorem IsTree.ne_vacant_above (htree : files.IsTree) {location : Location}
    (hoccupied : files.occupancy location ≠ .vacant) {above : Location}
    (hbelow : above <+: location) : files.occupancy above ≠ .vacant := by
  obtain ⟨names, rfl⟩ := hbelow
  induction names using List.reverseRecOn with
  | nil => rwa [List.append_nil] at hoccupied
  | append_singleton names name ih =>
    rw [← List.append_assoc] at hoccupied
    have hdirectory := htree.directory_of_ne_vacant _ _ hoccupied
    exact ih (by rw [hdirectory]; simp)

theorem prefix_of_move {start next : Location} {part : List Char} (hpart : part ≠ ['.', '.'])
    (h : move start part = .ok next) : start <+: next := by
  rw [move, if_neg hpart] at h
  split_ifs at h
  · exact (Except.ok.inj h) ▸ List.prefix_refl start
  · exact (Except.ok.inj h) ▸ List.prefix_append start [part]

/-- Without a part that leads upwards a walk only ever leads further down. -/
theorem prefix_of_walk {start goal : Location} {parts : List (List Char)}
    (hparts : ['.', '.'] ∉ parts) (h : files.walk start parts = .ok goal) : start <+: goal := by
  induction parts generalizing start with
  | nil => exact (Except.ok.inj h) ▸ List.prefix_refl start
  | cons part others ih =>
    obtain ⟨hpart, hothers⟩ := not_or.1 (mt List.mem_cons.2 hparts)
    obtain ⟨next, hstep, hrest⟩ := walk_cons_eq_ok.1 h
    exact (prefix_of_move (Ne.symm hpart) (step_eq_ok.1 hstep).2).trans (ih hothers hrest)

/-- Directories that were made are not on the way to anything that was there before. -/
theorem IsTree.walk_of_grown (htree : files.IsTree) {made written : Location → Prop}
    (hgrown : Growth made written files after) {start goal : Location}
    {parts : List (List Char)} (hparts : ['.', '.'] ∉ parts)
    (hgoal : files.occupancy goal ≠ .vacant) (h : after.walk start parts = .ok goal) :
    files.walk start parts = .ok goal := by
  induction parts generalizing start with
  | nil => exact h
  | cons part others ih =>
    have hbelow := prefix_of_walk hparts h
    obtain ⟨-, hothers⟩ := not_or.1 (mt List.mem_cons.2 hparts)
    obtain ⟨next, hstep, hrest⟩ := walk_cons_eq_ok.1 h
    obtain ⟨hstart, hmove⟩ := step_eq_ok.1 hstep
    have hthere : files.occupancy start = .directory := by
      rcases hgrown.of_directory hstart with hthere | ⟨hvacant, -⟩
      · exact hthere
      · exact absurd hvacant (htree.ne_vacant_above hgoal hbelow)
    exact walk_cons_eq_ok.2 ⟨next, step_eq_ok.2 ⟨hthere, hmove⟩, ih hothers hrest⟩

/-- A path that leads to something that was there before has led there before. -/
theorem IsTree.locate_of_grown (htree : files.IsTree) {made written : Location → Prop}
    (hgrown : Growth made written files after) (hparts : ['.', '.'] ∉ Path.parts path.toList)
    {location : Location} (hoccupied : files.occupancy location ≠ .vacant)
    (h : after.locate path = .ok location) : files.locate path = .ok location := by
  have hpath := pathFault?_of_follow h
  have hclosing : ['.', '.'] ∉ Path.parts path.toList ++ closing path := by
    rw [List.mem_append, closing]
    rintro (hmem | hmem)
    · exact hparts hmem
    · split_ifs at hmem <;> simp at hmem
  rw [locate_eq, follow_of_pathFault_none _ hpath] at h ⊢
  rw [hgrown.origin] at h
  exact htree.walk_of_grown hgrown hclosing hoccupied h

theorem move_ne_occupied (start : Location) (part : List Char) :
    move start part ≠ .error .occupied := by
  rw [move]
  split_ifs <;> simp

theorem walk_ne_occupied {start : Location} {parts : List (List Char)} :
    files.walk start parts ≠ .error .occupied := by
  induction parts generalizing start with
  | nil => simp
  | cons part others ih =>
    rw [walk_cons, step]
    cases files.occupancy start with
    | vacant => simp [Except.bind]
    | file content => simp [Except.bind]
    | directory =>
      have hmove := move_ne_occupied start part
      cases hnext : move start part with
      | error fault => rw [hnext] at hmove; simpa [Except.bind, hnext] using hmove
      | ok next => simpa [Except.bind, hnext] using ih

theorem follow_ne_occupied {parts : List (List Char)} :
    files.follow path parts ≠ .error .occupied := by
  rw [follow]
  split_ifs
  · simp
  · simp
  · simp
  · exact walk_ne_occupied
  · exact walk_ne_occupied

/-- In a tree, an attempt that meets a file in the way makes nothing. -/
theorem Creates.unchanged_of_occupied (htree : files.IsTree)
    (hparts : ['.', '.'] ∉ Path.parts path.toList)
    (h : Creates t files path (.error .occupied) after) : after = files := by
  generalize hresult : (Except.error .occupied : Except FileFault Unit) = result at h
  induction h with
  | empty => rfl
  | direct _ hensures _ =>
    subst hresult
    exact hensures.error
  | orphan => rfl
  | stopped _ _ hparent _ ih =>
    refine ih ?_ hresult
    rw [Path.parts_parent hparent]
    exact fun hmem => hparts ((Path.components_sublist _).subset
      ((List.dropLast_sublist _).subset hmem))
  | @onward between after path parent result hne hensures hparent habove hlast ih =>
    subst hresult
    obtain rfl := hlast.error
    have hgrown := habove.growth fun _ => False
    exfalso
    cases hlast with
    | lost hfollow => exact follow_ne_occupied hfollow
    | @blocked location content hfollow hfile =>
      -- a file is only where one was before, so the walk to it did not need the new directories
      have hbefore : files.occupancy location = .file content :=
        (hgrown.of_file hfile).resolve_right fun hwritten => hwritten.2
      have hpath := pathFault?_of_follow hfollow
      rw [follow_of_pathFault_none _ hpath, hgrown.origin] at hfollow
      have hwalk := htree.walk_of_grown hgrown hparts (by rw [hbefore]; simp) hfollow
      rw [← follow_of_pathFault_none files hpath] at hwalk
      cases (hensures.unique (.blocked hwalk hbefore)).1

/-- In a tree, without a part that leads upwards, an attempt that failed fails again for the same
reason. -/
theorem Creates.retry_of_isTree (htree : files.IsTree)
    (hparts : ['.', '.'] ∉ Path.parts path.toList) {fault : FileFault}
    (h : Creates t files path (.error fault) after) :
    Creates t after path (.error fault) after := by
  obtain ⟨-, fault', rfl | ⟨rfl, -⟩, hretry⟩ := h.retry
  · exact hretry
  · obtain rfl := h.unchanged_of_occupied htree hparts
    exact h

end Files
end ResponseTypes
