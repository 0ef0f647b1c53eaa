import ResponseTypes.Proofs.FileWalks

/-!
# Growth of file systems

A run makes directories where nothing was and writes files where no directory was, and that is all
it does to a file system apart from times.  A path that led somewhere before such a growth leads to
the same location after it.

## Main definitions

- `Files.Change`: what may become of one location.
- `Files.Growth`: a file system and what it has grown into, with the locations at which directories
  were made and files were written.
- `Files.Spares`: a change that leaves everything as it was, times included, apart from some files
  and the directories they are in.

## Main statements

- `Files.Growth.trans`: one growth after another.
- `Files.Growth.of_directory`, `Files.Growth.of_file`, `Files.Growth.of_vacant`: where what is there
  after a growth comes from.
- `Files.walk_grown`, `Files.locate_grown`: what leads somewhere still leads there after a growth.
- `Files.locate_iff_of_growth`: a growth without new directories lets nothing new lead anywhere.
- `Files.at?_of_write`: what is at which location after a file has been written, with times.
-/

namespace ResponseTypes
namespace Files

/-! ## Changes of one location -/

/-- What may become of a location: nothing new, a directory where nothing was, or a file where no
directory was. -/
inductive Change (made written : Prop) : Occupancy → Occupancy → Prop where
  | kept (occupancy : Occupancy) : Change made written occupancy occupancy
  | made : made → Change made written .vacant .directory
  | written {before : Occupancy} (content : Bytes) : written → before ≠ .directory →
      Change made written before (.file content)

/-- A file system and what it has grown into, with the locations at which directories were made and
files were written. -/
structure Growth (made written : Location → Prop) (before after : Files) : Prop where
  home : after.home = before.home
  change : ∀ location, Change (made location) (written location) (before.occupancy location)
    (after.occupancy location)

theorem Change.directory {made written : Prop} {after : Occupancy}
    (h : Change made written .directory after) : after = .directory := by
  cases h with
  | kept => rfl
  | written content hwritten hne => exact absurd rfl hne

theorem Change.trans {made written : Prop} {first second third : Occupancy}
    (h : Change made written first second) (h' : Change made written second third) :
    Change made written first third := by
  cases h with
  | kept => exact h'
  | made hmade => rw [h'.directory]; exact .made hmade
  | written content hwritten hne =>
    cases h' with
    | kept => exact .written content hwritten hne
    | written content' _ _ => exact .written content' hwritten hne

theorem Change.mono {made written made' written' : Prop} {before after : Occupancy}
    (h : Change made written before after) (hmade : made → made') (hwritten : written → written') :
    Change made' written' before after := by
  cases h with
  | kept => exact .kept _
  | made h => exact .made (hmade h)
  | written content h hne => exact .written content (hwritten h) hne

namespace Growth

variable {made written made' written' : Location → Prop} {before between after : Files}

theorem refl (files : Files) : Growth made written files files :=
  ⟨rfl, fun location => .kept (files.occupancy location)⟩

theorem trans (h : Growth made written before between) (h' : Growth made written between after) :
    Growth made written before after :=
  ⟨h'.home.trans h.home, fun location => (h.change location).trans (h'.change location)⟩

theorem mono (h : Growth made written before after) (hmade : ∀ location, made location →
    made' location) (hwritten : ∀ location, written location → written' location) :
    Growth made' written' before after :=
  ⟨h.home, fun location => (h.change location).mono (hmade location) (hwritten location)⟩

theorem directory (h : Growth made written before after) {location : Location}
    (hdirectory : before.occupancy location = .directory) :
    after.occupancy location = .directory := by
  have hchange := h.change location
  rw [hdirectory] at hchange
  exact hchange.directory

/-- A directory was there before, or it was made. -/
theorem of_directory (h : Growth made written before after) {location : Location}
    (hdirectory : after.occupancy location = .directory) :
    before.occupancy location = .directory ∨
      before.occupancy location = .vacant ∧ made location := by
  have hchange := h.change location
  rw [hdirectory] at hchange
  generalize before.occupancy location = first at hchange
  cases hchange with
  | kept => exact .inl rfl
  | made hmade => exact .inr ⟨rfl, hmade⟩

/-- A file was there before with the same content, or it was written. -/
theorem of_file (h : Growth made written before after) {location : Location} {content : Bytes}
    (hfile : after.occupancy location = .file content) :
    before.occupancy location = .file content ∨
      before.occupancy location ≠ .directory ∧ written location := by
  have hchange := h.change location
  rw [hfile] at hchange
  generalize before.occupancy location = first at hchange ⊢
  cases hchange with
  | kept => exact .inl rfl
  | written _ hwritten hne => exact .inr ⟨hne, hwritten⟩

/-- Nothing is gone. -/
theorem of_vacant (h : Growth made written before after) {location : Location}
    (hvacant : after.occupancy location = .vacant) : before.occupancy location = .vacant := by
  have hchange := h.change location
  rw [hvacant] at hchange
  generalize before.occupancy location = first at hchange
  cases hchange with
  | kept => rfl

/-- What is not written keeps its content. -/
theorem content?_eq (h : Growth made written before after) {location : Location}
    (hwritten : ¬ written location) : after.content? location = before.content? location := by
  have hchange := h.change location
  rw [Files.content?, Files.content?]
  generalize before.occupancy location = first at hchange ⊢
  generalize after.occupancy location = last at hchange ⊢
  cases hchange with
  | kept => rfl
  | made => rfl
  | written _ h _ => exact absurd h hwritten

/-- What is neither made nor written stays as it is. -/
theorem occupancy_eq (h : Growth made written before after) {location : Location}
    (hmade : ¬ made location) (hwritten : ¬ written location) :
    after.occupancy location = before.occupancy location := by
  have hchange := h.change location
  generalize before.occupancy location = first at hchange ⊢
  generalize after.occupancy location = last at hchange ⊢
  cases hchange with
  | kept => rfl
  | made h => exact absurd h hmade
  | written _ h _ => exact absurd h hwritten

/-- What is not written stays as it is, unless nothing was there and a directory is made. -/
theorem of_not_written (h : Growth made written before after) {location : Location}
    (hwritten : ¬ written location) :
    after.occupancy location = before.occupancy location ∨
      before.occupancy location = .vacant ∧ after.occupancy location = .directory ∧
        made location := by
  have hchange := h.change location
  generalize before.occupancy location = first at hchange ⊢
  generalize after.occupancy location = last at hchange ⊢
  cases hchange with
  | kept => exact .inl rfl
  | made hmade => exact .inr ⟨rfl, rfl, hmade⟩
  | written _ h _ => exact absurd h hwritten

theorem origin (h : Growth made written before after) (path : String) :
    after.origin path = before.origin path := by
  rw [Files.origin, Files.origin, h.home]

/-- If no directory is made the directories are those that were there before. -/
theorem directory_iff (h : Growth (fun _ => False) written before after) (location : Location) :
    after.occupancy location = .directory ↔ before.occupancy location = .directory := by
  refine ⟨fun hdirectory => ?_, h.directory⟩
  exact (h.of_directory hdirectory).resolve_right fun hmade => hmade.2

end Growth

section

variable {made written : Location → Prop} {before after : Files}

/-- A path that leads somewhere still leads there after a growth. -/
theorem walk_grown (h : Growth made written before after) {start goal : Location}
    {parts : List (List Char)} (hwalk : before.walk start parts = .ok goal) :
    after.walk start parts = .ok goal :=
  walk_of_directories (fun _ => h.directory) hwalk

theorem follow_grown (h : Growth made written before after) {path : String} {location : Location}
    {parts : List (List Char)} (hfollow : before.follow path parts = .ok location) :
    after.follow path parts = .ok location := by
  have hpath := pathFault?_of_follow hfollow
  rw [follow_of_pathFault_none _ hpath] at hfollow ⊢
  rw [h.origin]
  exact walk_grown h hfollow

theorem locate_grown (h : Growth made written before after) {path : String} {location : Location}
    (hlocate : before.locate path = .ok location) : after.locate path = .ok location :=
  follow_grown h hlocate

theorem locateFolder_grown (h : Growth made written before after) {path : String}
    {location : Location} (hlocate : before.locateFolder path = .ok location) :
    after.locateFolder path = .ok location := by
  rw [locateFolder] at hlocate ⊢
  split_ifs at hlocate ⊢
  · rw [h.home, hlocate]
  · exact locate_grown h hlocate

theorem isDirectory_grown (h : Growth made written before after) {path : String}
    (hdirectory : before.isDirectory path = true) : after.isDirectory path = true := by
  obtain ⟨location, hlocate, hoccupancy⟩ := isDirectory_iff.1 hdirectory
  exact isDirectory_iff.2 ⟨location, locate_grown h hlocate, h.directory hoccupancy⟩

/-- If no directory is made nothing leads anywhere that did not do so before. -/
theorem locate_iff_of_growth (h : Growth (fun _ => False) written before after) {path : String}
    {location : Location} :
    after.locate path = .ok location ↔ before.locate path = .ok location := by
  refine ⟨fun hlocate => ?_, locate_grown h⟩
  have hpath := pathFault?_of_follow hlocate
  rw [locate_eq, follow_of_pathFault_none _ hpath] at hlocate ⊢
  rw [h.origin] at hlocate
  exact walk_of_directories (fun location => (h.directory_iff location).1) hlocate

end

/-! ## Times -/

section

variable {files before between after : Files} {t : Int} {path : String} {content : Bytes}

/-- Marking something as modified changes nothing else. -/
theorem at?_touch (files : Files) (location : Location) (now : Int) (other : Location) :
    (files.touch location now).at? other = files.at? other ∨ other = location ∧
      (files.touch location now).at? other = (files.at? other).map (Entry.modifiedAt now) := by
  rw [touch]
  split
  · next entry hentry =>
    split_ifs with hroot
    · exact .inl rfl
    · by_cases hother : other = location
      · subst hother
        exact .inr ⟨rfl, by rw [at?_put_self _ _ hroot, hentry]; rfl⟩
      · exact .inl (at?_put_of_ne _ _ hother)
  · exact .inl rfl

/-- Writing a file changes what is at its location, and otherwise at most the time of the directory
around it. -/
theorem at?_of_write (h : files.write path content t = .ok after) :
    ∃ location, files.locate path = .ok location ∧ location ≠ [] ∧
      after.at? location = some (.file content t) ∧
      ∀ other, other ≠ location → after.at? other = files.at? other ∨
        other = location.dropLast ∧
          after.at? other = (files.at? other).map (Entry.modifiedAt t) := by
  cases hlocate : files.locate path with
  | error fault =>
    rw [write, hlocate] at h
    cases h
  | ok location =>
    have hroot : location ≠ [] := by
      rintro rfl
      rw [write, hlocate] at h
      cases h
    refine ⟨location, rfl, hroot, ?_⟩
    rw [write, hlocate] at h
    simp only [bind, Except.bind] at h
    rcases hentry : files.at? location with _ | (_ | _) <;> rw [hentry] at h
    · obtain rfl := Except.ok.inj h
      refine ⟨at?_put_self _ _ hroot, fun other hother => ?_⟩
      rw [create, at?_put_of_ne _ _ hother]
      exact at?_touch files _ t other
    · obtain rfl := Except.ok.inj h
      exact ⟨at?_put_self _ _ hroot, fun other hother => .inl (at?_put_of_ne _ _ hother)⟩
    · cases h

/-- Everything stays as it was, times included, apart from some files and the directories they are
in. -/
def Spares (written : Location → Prop) (before after : Files) : Prop :=
  ∀ location, ¬ written location → (∀ name, ¬ written (location ++ [name])) →
    after.at? location = before.at? location

namespace Spares

variable {written written' : Location → Prop}

theorem refl (files : Files) : Spares written files files :=
  fun _ _ _ => rfl

theorem trans (h : Spares written before between) (h' : Spares written between after) :
    Spares written before after :=
  fun location hkept hfolder =>
    (h' location hkept hfolder).trans (h location hkept hfolder)

theorem mono (h : Spares written before after)
    (hwritten : ∀ location, written location → written' location) : Spares written' before after :=
  fun location hkept hfolder =>
    h location (mt (hwritten location) hkept) fun name => mt (hwritten _) (hfolder name)

end Spares

/-- Writing a file spares everything but the file and the directory around it. -/
theorem spares_of_write (h : files.write path content t = .ok after) :
    Spares (fun location => files.locate path = .ok location) files after := by
  obtain ⟨location, hlocate, hroot, -, hothers⟩ := at?_of_write h
  intro other hkept hfolder
  have hne : other ≠ location := by
    rintro rfl
    exact hkept hlocate
  refine (hothers other hne).resolve_right ?_
  rintro ⟨rfl, -⟩
  refine hfolder (location.getLast hroot) ?_
  rw [List.dropLast_concat_getLast hroot]
  exact hlocate

end

end Files
end ResponseTypes
