import Mathlib.Data.List.Basic
import ResponseTypes.Files
import ResponseTypes.Proofs.PathParts

/-!
# Walks through file systems

Following a path depends on what is at each location that it passes through, and not on times.  A
walk is taken apart into steps, one for each part of the path, and every step starts from a
directory.

## Main definitions

- `Files.occupancy`: what is at a location, apart from times.
- `Files.step`: one step of a walk.
- `Files.locateFolder`: where a path leads that names are joined to.

## Main statements

- `Files.walk_cons`, `Files.walk_append`: a walk as steps, and one walk after another.
- `Files.walk_parts_of_components`: parts that stay where they are do not mend a walk.
- `Files.locate_join`: a name that is joined to a folder leads to the name in the folder's location.
-/

namespace ResponseTypes

/-- What is at a location, apart from times. -/
inductive Occupancy where
  | vacant
  | directory
  | file (content : Bytes)
deriving DecidableEq, Repr

/-- The content of a file. -/
def Occupancy.content? : Occupancy → Option Bytes
  | .file content => some content
  | _ => none

/-- What something is, apart from times. -/
def Entry.occupancy : Entry → Occupancy
  | .directory _ => .directory
  | .file content _ => .file content

@[simp]
theorem Entry.occupancy_modifiedAt (t : Int) (entry : Entry) :
    (entry.modifiedAt t).occupancy = entry.occupancy := by
  cases entry <;> rfl

namespace Files

/-- What is at a location, apart from times. -/
def occupancy (files : Files) (location : Location) : Occupancy :=
  ((files.at? location).map Entry.occupancy).getD .vacant

@[simp]
theorem occupancy_root (files : Files) : files.occupancy [] = .directory := rfl

/-- The content of a file at a location, if there is one. -/
def content? (files : Files) (location : Location) : Option Bytes :=
  (files.occupancy location).content?

/-! ## Changes at a location -/

theorem occupancy_put (files : Files) {location : Location} (entry : Entry) (h : location ≠ [])
    (other : Location) : (files.put location entry).occupancy other =
      if other = location then entry.occupancy else files.occupancy other := by
  by_cases hother : other = location
  · simp [occupancy, hother, h]
  · simp [occupancy, hother]

/-- Times do not show in what is at a location. -/
theorem occupancy_touch (files : Files) (location : Location) (now : Int) (other : Location) :
    (files.touch location now).occupancy other = files.occupancy other := by
  rw [touch]
  split
  · next entry hentry =>
    split_ifs with hroot
    · rfl
    · rw [occupancy_put files _ hroot]
      split_ifs with hother
      · simp [occupancy, hother, hentry]
      · rfl
  · rfl

@[simp]
theorem home_touch (files : Files) (location : Location) (now : Int) :
    (files.touch location now).home = files.home := by
  rw [touch]
  split
  · split_ifs <;> rfl
  · rfl

theorem occupancy_create (files : Files) {location : Location} (entry : Entry) (now : Int)
    (h : location ≠ []) (other : Location) : (files.create location entry now).occupancy other =
      if other = location then entry.occupancy else files.occupancy other := by
  rw [create, occupancy_put _ _ h, occupancy_touch]

@[simp]
theorem home_create (files : Files) (location : Location) (entry : Entry) (now : Int) :
    (files.create location entry now).home = files.home := by
  rw [create, home_put, home_touch]

theorem at?_eq_none_iff {files : Files} {location : Location} :
    files.at? location = none ↔ files.occupancy location = .vacant := by
  rw [occupancy]
  rcases files.at? location with _ | (_ | _) <;> simp [Entry.occupancy]

/-! ## Walks -/

/-- Where a part of a path leads from a directory. -/
def move (start : Location) (part : List Char) : Except FileFault Location :=
  if part = ['.'] then .ok start
  else if part = ['.', '.'] then .ok start.dropLast
  else if maxName < (String.ofList part).utf8ByteSize then .error .nameTooLong
  else .ok (start ++ [part])

/-- Where a part of a path leads from a location. -/
def step (files : Files) (start : Location) (part : List Char) : Except FileFault Location :=
  match files.occupancy start with
  | .vacant => .error .absent
  | .file _ => .error .notDirectory
  | .directory => move start part

theorem step_of_directory {files : Files} {start : Location}
    (h : files.occupancy start = .directory) (part : List Char) :
    files.step start part = move start part := by
  rw [step, h]

theorem step_eq_ok {files : Files} {start next : Location} {part : List Char} :
    files.step start part = .ok next ↔
      files.occupancy start = .directory ∧ move start part = .ok next := by
  rw [step]
  cases files.occupancy start <;> simp

@[simp]
theorem walk_nil (files : Files) (start : Location) : files.walk start [] = .ok start := rfl

/-- A walk takes one step for each part. -/
theorem walk_cons (files : Files) (start : Location) (part : List Char)
    (others : List (List Char)) : files.walk start (part :: others) =
      (files.step start part).bind fun next => files.walk next others := by
  rw [walk, step, occupancy]
  rcases files.at? start with _ | (_ | _)
  · rfl
  · rfl
  · simp only [Option.map_some, Option.getD_some, Entry.occupancy, move]
    split_ifs <;> rfl

theorem walk_cons_eq_ok {files : Files} {start goal : Location} {part : List Char}
    {others : List (List Char)} : files.walk start (part :: others) = .ok goal ↔
      ∃ next, files.step start part = .ok next ∧ files.walk next others = .ok goal := by
  rw [walk_cons]
  cases files.step start part <;> simp [Except.bind]

theorem walk_singleton (files : Files) (start : Location) (part : List Char) :
    files.walk start [part] = files.step start part := by
  rw [walk_cons]
  cases files.step start part <;> rfl

theorem walk_append (files : Files) (start : Location) (first second : List (List Char)) :
    files.walk start (first ++ second) =
      (files.walk start first).bind fun next => files.walk next second := by
  induction first generalizing start with
  | nil => rfl
  | cons part first ih =>
    rw [List.cons_append, walk_cons, walk_cons]
    cases files.step start part with
    | error fault => rfl
    | ok next => exact ih next

/-- A walk only passes through directories, so it goes on as before where they are still there. -/
theorem walk_of_directories {before after : Files}
    (h : ∀ location, before.occupancy location = .directory →
      after.occupancy location = .directory)
    {start goal : Location} {parts : List (List Char)}
    (hwalk : before.walk start parts = .ok goal) : after.walk start parts = .ok goal := by
  induction parts generalizing start with
  | nil => exact hwalk
  | cons part others ih =>
    obtain ⟨next, hstep, hothers⟩ := walk_cons_eq_ok.1 hwalk
    obtain ⟨hstart, hmove⟩ := step_eq_ok.1 hstep
    exact walk_cons_eq_ok.2 ⟨next, step_eq_ok.2 ⟨h start hstart, hmove⟩, ih hothers⟩

/-- A walk that fails still fails when parts that stay where they are stand between its parts. -/
theorem walk_error_of_filter {files : Files} {start : Location} {parts : List (List Char)}
    {fault : FileFault} (h : files.walk start (parts.filter (· ≠ ['.'])) = .error fault) :
    files.walk start parts = .error fault := by
  induction parts generalizing start with
  | nil => exact h
  | cons part others ih =>
    rw [walk_cons]
    by_cases hpart : part = ['.']
    · rw [List.filter_cons_of_neg (by simpa using hpart)] at h
      cases hstart : files.occupancy start with
      | directory =>
        rw [step_of_directory hstart, hpart]
        exact ih h
      | vacant =>
        cases hothers : others.filter (· ≠ ['.']) with
        | nil => rw [hothers] at h; cases h
        | cons first rest =>
          rw [hothers, walk_cons, step, hstart] at h
          rw [step, hstart]
          exact h
      | file content =>
        cases hothers : others.filter (· ≠ ['.']) with
        | nil => rw [hothers] at h; cases h
        | cons first rest =>
          rw [hothers, walk_cons, step, hstart] at h
          rw [step, hstart]
          exact h
    · rw [List.filter_cons_of_pos (by simpa using hpart), walk_cons] at h
      cases hstep : files.step start part with
      | error _ => rw [hstep] at h; exact h
      | ok next =>
        rw [hstep] at h
        exact ih h

theorem walk_parts_of_components {files : Files} {start : Location} {s : List Char}
    {fault : FileFault} (h : files.walk start (Path.components s) = .error fault) :
    files.walk start (Path.parts s) = .error fault := by
  rw [Path.components] at h
  cases hparts : Path.parts s with
  | nil => rw [hparts] at h; cases h
  | cons first others =>
    rw [hparts] at h
    split_ifs at h
    · exact walk_error_of_filter h
    · rw [walk_cons] at h ⊢
      cases hstep : files.step start first with
      | error _ => rw [hstep] at h; exact h
      | ok next =>
        rw [hstep] at h
        exact walk_error_of_filter h

/-! ## Paths -/

/-- Why a path leads nowhere in any file system. -/
def pathFault? (path : String) : Option FileFault :=
  if path.isEmpty then some .absent
  else if path.toList.contains '\x00' then
    some (.other "file name contained an unexpected NUL byte")
  else if maxPath < path.utf8ByteSize then some .nameTooLong
  else none

/-- Where a path starts from. -/
def origin (files : Files) (path : String) : Location :=
  if Path.isAbsolute path.toList then [] else files.home

theorem follow_of_fault (files : Files) {path : String} {fault : FileFault}
    (h : pathFault? path = some fault) (parts : List (List Char)) :
    files.follow path parts = .error fault := by
  rw [pathFault?] at h
  rw [follow]
  split_ifs at h ⊢ <;> simp_all

theorem follow_of_pathFault_none (files : Files) {path : String} (h : pathFault? path = none)
    (parts : List (List Char)) :
    files.follow path parts = files.walk (files.origin path) parts := by
  rw [pathFault?] at h
  rw [follow, origin]
  split_ifs at h ⊢ <;> rfl

/-- A path that leads somewhere can be walked. -/
theorem pathFault?_of_follow {files : Files} {path : String} {parts : List (List Char)}
    {location : Location} (h : files.follow path parts = .ok location) :
    pathFault? path = none := by
  cases hfault : pathFault? path with
  | none => rfl
  | some fault => rw [follow_of_fault files hfault] at h; cases h

/-- A path that is written with fewer characters is no harder to follow, unless it is empty. -/
theorem pathFault?_of_sublist {path shorter : String} (h : pathFault? path = none)
    (hsub : shorter.toList.Sublist path.toList) (hne : shorter ≠ "") :
    pathFault? shorter = none := by
  have hsize := Path.utf8ByteSize_le_of_sublist hsub
  rw [String.ofList_toList, String.ofList_toList] at hsize
  rw [pathFault?] at h ⊢
  split_ifs at h with hempty hnul hlong
  have hnul' : shorter.toList.contains '\x00' = false := by
    rw [Bool.eq_false_iff]
    intro hmem
    exact hnul (by simpa using hsub.subset (by simpa using hmem))
  rw [if_neg (by simpa using hne), if_neg (Bool.eq_false_iff.1 hnul'), if_neg (by omega)]

/-- The end of a path that has to lead to a directory. -/
def closing (path : String) : List (List Char) :=
  if path.toList.getLast? = some Path.separator then [['.']] else []

theorem locate_eq (files : Files) (path : String) :
    files.locate path = files.follow path (Path.parts path.toList ++ closing path) := rfl

/-- The end of a path makes no difference to where it leads if that is a directory. -/
theorem walk_closing (files : Files) (location : Location) (path : String)
    (h : files.occupancy location = .directory) :
    files.walk location (closing path) = .ok location := by
  rw [closing]
  split_ifs
  · rw [walk_singleton, step_of_directory h]; rfl
  · rfl

theorem eq_of_walk_closing {files : Files} {location goal : Location} {path : String}
    (h : files.walk location (closing path) = .ok goal) : goal = location := by
  rw [closing] at h
  split_ifs at h
  · rw [walk_singleton, step_eq_ok] at h
    exact (Except.ok.inj h.2).symm
  · exact (Except.ok.inj h).symm

/-- Where a path leads without regard to its end. -/
theorem follow_of_locate {files : Files} {path : String} {location : Location}
    (h : files.locate path = .ok location) :
    files.follow path (Path.parts path.toList) = .ok location := by
  have hfault := pathFault?_of_follow h
  rw [locate_eq, follow_of_pathFault_none files hfault, walk_append] at h
  rw [follow_of_pathFault_none files hfault]
  cases hwalk : files.walk (files.origin path) (Path.parts path.toList) with
  | error fault => rw [hwalk] at h; cases h
  | ok goal =>
    rw [hwalk] at h
    rw [eq_of_walk_closing h]

theorem locate_of_follow {files : Files} {path : String} {location : Location}
    (h : files.follow path (Path.parts path.toList) = .ok location)
    (hdirectory : files.occupancy location = .directory) : files.locate path = .ok location := by
  have hfault := pathFault?_of_follow h
  rw [follow_of_pathFault_none files hfault] at h
  rw [locate_eq, follow_of_pathFault_none files hfault, walk_append, h]
  exact walk_closing files location path hdirectory

theorem locate_error_of_follow {files : Files} {path : String} {fault : FileFault}
    (h : files.follow path (Path.parts path.toList) = .error fault) :
    files.locate path = .error fault := by
  rw [locate_eq]
  cases hpath : pathFault? path with
  | some other =>
    rw [follow_of_fault files hpath] at h ⊢
    exact h
  | none =>
    rw [follow_of_pathFault_none files hpath] at h ⊢
    rw [walk_append, h]
    rfl

/-! ## Questions about paths -/

theorem find_eq (files : Files) (path : String) : files.find path =
    (files.locate path).bind fun location =>
      match files.at? location with
      | some entry => .ok entry
      | none => .error .absent := by
  rw [find]
  cases files.locate path <;> rfl

theorem isDirectory_iff {files : Files} {path : String} : files.isDirectory path = true ↔
    ∃ location, files.locate path = .ok location ∧ files.occupancy location = .directory := by
  rw [isDirectory, find_eq]
  cases hlocate : files.locate path with
  | error fault => simp [Except.bind]
  | ok location =>
    simp only [Except.bind, occupancy, Except.ok.injEq, exists_eq_left']
    rcases files.at? location with _ | (_ | _) <;> simp [Entry.isDirectory, Entry.occupancy]

theorem isFile_iff {files : Files} {path : String} : files.isFile path = true ↔
    ∃ location content,
      files.locate path = .ok location ∧ files.occupancy location = .file content := by
  rw [isFile, find_eq]
  cases hlocate : files.locate path with
  | error fault => simp [Except.bind]
  | ok location =>
    simp only [Except.bind, occupancy, Except.ok.injEq, exists_and_left, exists_eq_left']
    rcases files.at? location with _ | (_ | _) <;> simp [Entry.isDirectory, Entry.occupancy]

theorem read_eq_ok {files : Files} {path : String} {content : Bytes} :
    files.read path = .ok content ↔
      ∃ location, files.locate path = .ok location ∧ files.occupancy location = .file content := by
  have hfind := find_eq files path
  cases hlocate : files.locate path with
  | error fault =>
    rw [hlocate] at hfind
    rw [read, hfind]
    simp [bind, Except.bind]
  | ok location =>
    rw [hlocate] at hfind
    simp only [Except.bind] at hfind
    rw [read, hfind]
    simp only [occupancy, Except.ok.injEq, exists_eq_left']
    rcases files.at? location with _ | (_ | _) <;>
      simp [Entry.occupancy, bind, Except.bind, pure, Except.pure]

theorem modified?_eq {files : Files} {path : String} {location : Location}
    (h : files.locate path = .ok location) :
    files.modified? path = (files.at? location).map Entry.modified := by
  rw [modified?, find_eq, h]
  simp only [Except.bind]
  cases files.at? location <;> rfl

theorem toOption_read (files : Files) (path : String) :
    (files.read path).toOption = (files.locate path).toOption.bind files.content? := by
  cases hread : files.read path with
  | ok content =>
    obtain ⟨location, hlocate, hoccupancy⟩ := read_eq_ok.1 hread
    rw [hlocate]
    simp [Except.toOption, content?, hoccupancy, Occupancy.content?]
  | error fault =>
    cases hlocate : files.locate path with
    | error _ => rfl
    | ok location =>
      cases hoccupancy : files.occupancy location with
      | file content =>
        rw [read_eq_ok.2 ⟨location, hlocate, hoccupancy⟩] at hread
        cases hread
      | _ => simp [Except.toOption, content?, hoccupancy, Occupancy.content?]

/-! ## Folders

Nothing is put between an empty path and a name, so an empty path stands for the home directory
when a name is joined to it, although it leads nowhere on its own. -/

/-- Where a path leads that names are joined to. -/
def locateFolder (files : Files) (path : String) : Except FileFault Location :=
  if path = "" then .ok files.home else files.locate path

theorem locateFolder_of_locate {files : Files} {path : String} {location : Location}
    (h : files.locate path = .ok location) : files.locateFolder path = .ok location := by
  rw [locateFolder]
  split_ifs with hempty
  · subst hempty
    cases h
  · exact h

/-- A name that says neither to stay nor to go upwards. -/
structure IsPlain (name : List Char) : Prop extends Path.IsName name where
  ne_point : name ≠ ['.']
  ne_points : name ≠ ['.', '.']

theorem isPlain_of_getLast? {name : List Char} {last : Char}
    (hsingle : Path.separator ∉ name) (hlast : name.getLast? = some last) (hne : last ≠ '.') :
    IsPlain name := by
  refine ⟨⟨?_, hsingle⟩, ?_, ?_⟩
  · rintro rfl
    cases hlast
  · rintro rfl
    exact hne (Option.some.inj hlast).symm
  · rintro rfl
    exact hne (Option.some.inj hlast).symm

theorem move_of_isPlain {name : List Char} (h : IsPlain name) {start location : Location}
    (hmove : move start name = .ok location) : location = start ++ [name] := by
  rw [move, if_neg h.ne_point, if_neg h.ne_points] at hmove
  split_ifs at hmove
  exact (Except.ok.inj hmove).symm

theorem toList_join (folder name : String) :
    (Path.join folder name).toList = Path.joinChars folder.toList name.toList := by
  rw [Path.join, String.toList_ofList]

theorem pathFault?_of_join {folder name : String} (hname : Path.IsName name.toList)
    (hfolder : folder ≠ "") (h : pathFault? (Path.join folder name) = none) :
    pathFault? folder = none := by
  refine pathFault?_of_sublist h ?_ hfolder
  rw [toList_join]
  exact (Path.prefix_joinChars folder.toList hname).sublist

theorem origin_join (files : Files) {folder name : String} (hname : Path.IsName name.toList) :
    files.origin (Path.join folder name) = files.origin folder := by
  rw [origin, origin, toList_join, Path.isAbsolute_joinChars folder.toList hname]

/-- Nothing has to follow a joined name. -/
theorem locate_join_eq_walk (files : Files) {folder name : String}
    (hname : Path.IsName name.toList) (hpath : pathFault? (Path.join folder name) = none) :
    files.locate (Path.join folder name) =
      (files.walk (files.origin folder) (Path.parts folder.toList)).bind fun location =>
        files.step location name.toList := by
  have hlast : closing (Path.join folder name) = [] := by
    rw [closing, toList_join, if_neg (Path.getLast?_joinChars folder.toList hname)]
  have hstep : (fun location => files.walk location [name.toList]) =
      fun location => files.step location name.toList := by
    funext location
    exact walk_singleton files location name.toList
  rw [locate_eq, follow_of_pathFault_none files hpath, hlast, List.append_nil,
    origin_join files hname, toList_join, Path.parts_joinChars folder.toList hname, walk_append,
    hstep]

/-- A folder that leads to a directory leads there without regard to its end. -/
theorem walk_of_locateFolder {files : Files} {folder : String} {location : Location}
    (h : files.locateFolder folder = .ok location) :
    files.walk (files.origin folder) (Path.parts folder.toList) = .ok location := by
  rw [locateFolder] at h
  split_ifs at h with hempty
  · subst hempty
    exact h
  · have hfollow := follow_of_locate h
    rwa [follow_of_pathFault_none files (pathFault?_of_follow h)] at hfollow

theorem locateFolder_of_walk {files : Files} {folder : String} {location : Location}
    (hpath : folder ≠ "" → pathFault? folder = none)
    (h : files.walk (files.origin folder) (Path.parts folder.toList) = .ok location)
    (hdirectory : files.occupancy location = .directory) :
    files.locateFolder folder = .ok location := by
  rw [locateFolder]
  split_ifs with hempty
  · subst hempty
    exact h
  · refine locate_of_follow ?_ hdirectory
    rw [follow_of_pathFault_none files (hpath hempty), h]

/-- A name that is joined to a folder leads to the name in the folder's location, if it leads
anywhere. -/
theorem locate_join {files : Files} {folder name : String} {location : Location}
    (hname : IsPlain name.toList) (h : files.locate (Path.join folder name) = .ok location) :
    ∃ directory, files.locateFolder folder = .ok directory ∧
      files.occupancy directory = .directory ∧ location = directory ++ [name.toList] := by
  have hpath := pathFault?_of_follow h
  rw [locate_join_eq_walk files hname.toIsName hpath] at h
  cases hwalk : files.walk (files.origin folder) (Path.parts folder.toList) with
  | error fault => rw [hwalk] at h; cases h
  | ok directory =>
    rw [hwalk] at h
    obtain ⟨hdirectory, hmove⟩ := step_eq_ok.1 h
    exact ⟨directory,
      locateFolder_of_walk (fun hne => pathFault?_of_join hname.toIsName hne hpath) hwalk
        hdirectory,
      hdirectory, move_of_isPlain hname hmove⟩

/-- Where a joined name leads depends on the location of the folder and on what is there. -/
theorem locate_join_congr {before after : Files} {folder name : String} {directory : Location}
    (hname : Path.IsName name.toList) (hbefore : before.locateFolder folder = .ok directory)
    (hafter : after.locateFolder folder = .ok directory)
    (hoccupancy : after.occupancy directory = before.occupancy directory) :
    after.locate (Path.join folder name) = before.locate (Path.join folder name) := by
  cases hpath : pathFault? (Path.join folder name) with
  | some fault => exact (follow_of_fault after hpath _).trans (follow_of_fault before hpath _).symm
  | none =>
    rw [locate_join_eq_walk after hname hpath, walk_of_locateFolder hafter,
      locate_join_eq_walk before hname hpath, walk_of_locateFolder hbefore]
    simp only [Except.bind, step, hoccupancy]

end Files
end ResponseTypes
