import ResponseTypes.Proofs.PayloadRuns

/-!
# Chronicles

A run takes time.  The clock of a session stands still, so what it says of a window of freshness is
said of one moment; a chronicle is a system as a value whose clock goes on with everything that is
done, and which keeps a journal of what is written.

Where a directory can be made, and whether it can, does not depend on times.  So what is known about
making directories at one reading of the clock holds while the clock goes on.

## Main definitions

- `Chronicle`: the system, with its clock and its journal; an instance of `Host`.
- `Chronicle.Gives`: an action that gives an answer and leaves a chronicle.
- `Chronicle.Keeps`: an action that keeps a property.
- `Files.SameShape`: the same directories and files, apart from times.
- `Chronicle.Hopeless`: the output directory cannot be made.

## Main statements

- `Chronicle.Keeps.ensureOutput`: what is kept by each directory is kept by making them all.
- `Chronicle.hopeless_of_error`, `Chronicle.housed_of_ok`: an attempt to make the output directory
  settles the matter.
-/

namespace ResponseTypes

/-- A system as a value whose clock goes on with everything that is done, and which keeps a journal
of what is written.  What is put out is not kept. -/
structure Chronicle where
  files : Files
  /-- what the clock shows at each moment -/
  clock : Nat → Int
  /-- the same times as people write them -/
  dates : Nat → String
  /-- the number of things that have been done -/
  moment : Nat := 0
  /-- the paths under which files have been written, each with the time -/
  journal : List (String × Int) := []

namespace Chronicle

/-- The time by the clock. -/
def now (chronicle : Chronicle) : Int :=
  chronicle.clock chronicle.moment

/-- The next moment. -/
def next (chronicle : Chronicle) : Chronicle :=
  { chronicle with moment := chronicle.moment + 1 }

/-- An answer that changes nothing. -/
def ask {α : Type} (answer : Chronicle → α) : StateM Chronicle α :=
  fun chronicle => (answer chronicle, chronicle.next)

/-- Makes a directory, which is stamped with the time. -/
def make (path : String) : StateM Chronicle (Except FileFault Unit) :=
  fun chronicle =>
    match chronicle.files.makeDirectory path chronicle.now with
    | .ok files => (.ok (), { chronicle.next with files := files })
    | .error fault => (.error fault, chronicle.next)

/-- Writes a file, which is stamped with the time and entered into the journal. -/
def record (path : String) (content : Bytes) : StateM Chronicle (Except FileFault Unit) :=
  fun chronicle =>
    match chronicle.files.write path content chronicle.now with
    | .ok files =>
      (.ok (), { chronicle.next with
        files := files
        journal := chronicle.journal ++ [(path, chronicle.now)] })
    | .error fault => (.error fault, chronicle.next)

instance : Host (StateM Chronicle) where
  isDirectory path := ask (·.files.isDirectory path)
  isFile path := ask (·.files.isFile path)
  exists? path := ask (·.files.exists? path)
  modified? path := ask (·.files.modified? path)
  list path := ask (·.files.list path)
  read path := ask (·.files.read path)
  write := record
  makeDirectory := make
  now := ask now
  stamp := ask fun chronicle => chronicle.dates chronicle.moment
  report _ := ask fun _ => ()
  say _ := ask fun _ => ()

/-! ## Time that passes -/

/-- Nothing but time passes. -/
structure Elapses (before after : Chronicle) : Prop where
  files : after.files = before.files
  clock : after.clock = before.clock
  dates : after.dates = before.dates
  moment : before.moment ≤ after.moment
  journal : after.journal = before.journal

namespace Elapses

variable {first second third : Chronicle}

protected theorem refl (chronicle : Chronicle) : Elapses chronicle chronicle :=
  ⟨rfl, rfl, rfl, Nat.le_refl _, rfl⟩

theorem trans (h : Elapses first second) (h' : Elapses second third) : Elapses first third :=
  ⟨h'.files.trans h.files, h'.clock.trans h.clock, h'.dates.trans h.dates,
    Nat.le_trans h.moment h'.moment, h'.journal.trans h.journal⟩

theorem next (chronicle : Chronicle) : Elapses chronicle chronicle.next :=
  ⟨rfl, rfl, rfl, Nat.le_succ _, rfl⟩

end Elapses

/-! ## Answers -/

variable {α β : Type} {before between after : Chronicle}

/-- An action that starts from a chronicle gives an answer and leaves a chronicle. -/
def Gives (action : StateM Chronicle α) (before : Chronicle) (answer : α) (after : Chronicle) :
    Prop :=
  action before = (answer, after)

namespace Gives

protected theorem pure (answer : α) (chronicle : Chronicle) :
    Gives (pure answer) chronicle answer chronicle := rfl

theorem bind {action : StateM Chronicle α} {next : α → StateM Chronicle β} {answer : α}
    {result : β} (h : Gives action before answer between)
    (hnext : Gives (next answer) between result after) :
    Gives (action >>= next) before result after := by
  change (let (a, chronicle) := action before; next a chronicle) = _
  rw [h]
  exact hnext

theorem unique {action : StateM Chronicle α} {answer answer' : α} {after' : Chronicle}
    (h : Gives action before answer after) (h' : Gives action before answer' after') :
    answer = answer' ∧ after = after' :=
  Prod.mk.inj (h.symm.trans h')

theorem isDirectory (path : String) (chronicle : Chronicle) :
    Gives (Host.isDirectory path) chronicle (chronicle.files.isDirectory path) chronicle.next := rfl

theorem isFile (path : String) (chronicle : Chronicle) :
    Gives (Host.isFile path) chronicle (chronicle.files.isFile path) chronicle.next := rfl

theorem read (path : String) (chronicle : Chronicle) :
    Gives (Host.read path) chronicle (chronicle.files.read path) chronicle.next := rfl

theorem modified? (path : String) (chronicle : Chronicle) :
    Gives (Host.modified? path) chronicle (chronicle.files.modified? path) chronicle.next := rfl

theorem now (chronicle : Chronicle) :
    Gives Host.now chronicle chronicle.now chronicle.next := rfl

theorem stamp (chronicle : Chronicle) :
    Gives Host.stamp chronicle (chronicle.dates chronicle.moment) chronicle.next := rfl

theorem report (event : Event) (chronicle : Chronicle) :
    Gives (Host.report event) chronicle () chronicle.next := rfl

theorem makeDirectory_ok {path : String} {files : Files}
    (h : before.files.makeDirectory path before.now = .ok files) :
    Gives (Host.makeDirectory path) before (.ok ()) { before.next with files := files } := by
  change make path before = _
  rw [make, h]

theorem makeDirectory_error {path : String} {fault : FileFault}
    (h : before.files.makeDirectory path before.now = .error fault) :
    Gives (Host.makeDirectory path) before (.error fault) before.next := by
  change make path before = _
  rw [make, h]

theorem write_ok {path : String} {content : Bytes} {files : Files}
    (h : before.files.write path content before.now = .ok files) :
    Gives (Host.write path content) before (.ok ()) { before.next with
      files := files
      journal := before.journal ++ [(path, before.now)] } := by
  change record path content before = _
  rw [record, h]

theorem write_error {path : String} {content : Bytes} {fault : FileFault}
    (h : before.files.write path content before.now = .error fault) :
    Gives (Host.write path content) before (.error fault) before.next := by
  change record path content before = _
  rw [record, h]

end Gives

/-! ## Invariants -/

/-- An action that keeps a property of the chronicle. -/
def Keeps (I : Chronicle → Prop) (action : StateM Chronicle α) : Prop :=
  ∀ chronicle, I chronicle → I (action chronicle).2

namespace Keeps

variable {I : Chronicle → Prop}

theorem of_gives {action : StateM Chronicle α} {answer : α} (h : Keeps I action)
    (hgives : Gives action before answer after) (hbefore : I before) : I after := by
  have hafter := h before hbefore
  rwa [hgives] at hafter

protected theorem pure (answer : α) : Keeps I (pure answer) := fun _ => id

theorem bind {action : StateM Chronicle α} {next : α → StateM Chronicle β} (h : Keeps I action)
    (hnext : ∀ answer, Keeps I (next answer)) : Keeps I (action >>= next) :=
  fun chronicle hbefore => hnext _ _ (h chronicle hbefore)

protected theorem ite {condition : Prop} [Decidable condition] {first second : StateM Chronicle α}
    (hfirst : Keeps I first) (hsecond : Keeps I second) :
    Keeps I (if condition then first else second) := by
  split
  · exact hfirst
  · exact hsecond

/-- What is kept as time passes is kept by a question. -/
theorem ask (hnext : ∀ chronicle, I chronicle → I chronicle.next) (answer : Chronicle → α) :
    Keeps I (ask answer) :=
  fun chronicle => hnext chronicle

section

variable (hnext : ∀ chronicle, I chronicle → I chronicle.next)
variable (hmake : ∀ chronicle path files, I chronicle →
  chronicle.files.makeDirectory path chronicle.now = .ok files →
    I { chronicle.next with files := files })

include hnext hmake

theorem makeDirectory (path : String) : Keeps I (Host.makeDirectory path) := by
  intro chronicle hbefore
  cases hfiles : chronicle.files.makeDirectory path chronicle.now with
  | ok files =>
    rw [Gives.makeDirectory_ok hfiles]
    exact hmake chronicle path files hbefore hfiles
  | error fault =>
    rw [Gives.makeDirectory_error hfiles]
    exact hnext chronicle hbefore

theorem ensureDirectory (path : String) : Keeps I (Host.ensureDirectory path) := by
  refine (makeDirectory hnext hmake path).bind fun made => ?_
  cases made with
  | ok => exact .pure _
  | error fault => exact .ite (.pure _) ((ask hnext _).bind fun _ => .ite (.pure _) (.pure _))

/-- What is kept as time passes and by each directory that is made is kept by making a directory and
those above it. -/
theorem createFrom (fuel : Nat) (path : String) : Keeps I (Host.createFrom fuel path) := by
  induction fuel generalizing path with
  | zero => exact ensureDirectory hnext hmake path
  | succ fuel ih =>
    refine .ite (.pure _) ((ensureDirectory hnext hmake path).bind fun made => ?_)
    cases made with
    | ok => exact .pure _
    | error fault =>
      cases fault with
      | absent =>
        dsimp only
        cases Path.parent? path with
        | none => exact .pure _
        | some parent =>
          refine (ih parent).bind fun above => ?_
          cases above with
          | ok => exact ensureDirectory hnext hmake path
          | error => exact .pure _
      | _ => exact .pure _

theorem ensureOutput (settings : Settings) : Keeps I (Generation.ensureOutput settings) := by
  refine (ask hnext _).bind fun _ => .ite (.pure _) ?_
  refine (createFrom hnext hmake _ settings.outputPath).bind fun made => ?_
  cases made with
  | ok => exact (ask hnext _).bind fun _ => .pure _
  | error => exact .pure _

end

end Keeps

end Chronicle

/-! ## Times and shapes -/

namespace Files

/-- The same directories and files, apart from times. -/
structure SameShape (files twin : Files) : Prop where
  home : twin.home = files.home
  occupancy : ∀ location, twin.occupancy location = files.occupancy location

variable {files twin after : Files} {path : String} {t : Int}

namespace SameShape

protected theorem refl (files : Files) : SameShape files files := ⟨rfl, fun _ => rfl⟩

theorem walk_eq (h : SameShape files twin) (start : Location) (parts : List (List Char)) :
    twin.walk start parts = files.walk start parts := by
  induction parts generalizing start with
  | nil => rfl
  | cons part others ih =>
    rw [walk_cons, walk_cons, step, step, h.occupancy]
    cases files.occupancy start with
    | directory =>
      dsimp only
      cases move start part with
      | ok next => exact ih next
      | error fault => rfl
    | _ => rfl

/-- Following a path does not depend on times. -/
theorem follow_eq (h : SameShape files twin) (path : String) (parts : List (List Char)) :
    twin.follow path parts = files.follow path parts := by
  cases hpath : pathFault? path with
  | some fault => rw [follow_of_fault _ hpath, follow_of_fault _ hpath]
  | none =>
    rw [follow_of_pathFault_none _ hpath, follow_of_pathFault_none _ hpath, origin, h.home,
      h.walk_eq]
    rfl

theorem isDirectory_eq (h : SameShape files twin) (path : String) :
    twin.isDirectory path = files.isDirectory path := by
  rw [Bool.eq_iff_iff, isDirectory_iff, isDirectory_iff, locate_eq, locate_eq, h.follow_eq]
  simp only [h.occupancy]

/-- Making a directory does not depend on times. -/
theorem ensures (h : SameShape files twin) {result : Except FileFault Unit}
    (hensures : Ensures t files path result after) (t' : Int) :
    ∃ after', Ensures t' twin path result after' ∧ SameShape after after' := by
  cases hensures with
  | lost hfollow => exact ⟨twin, .lost ((h.follow_eq _ _).trans hfollow), h⟩
  | found hfollow hoccupancy =>
    exact ⟨twin, .found ((h.follow_eq _ _).trans hfollow) ((h.occupancy _).trans hoccupancy), h⟩
  | blocked hfollow hoccupancy =>
    exact ⟨twin, .blocked ((h.follow_eq _ _).trans hfollow) ((h.occupancy _).trans hoccupancy), h⟩
  | @made location hfollow hoccupancy =>
    have hroot := ne_root_of_vacant hoccupancy
    refine ⟨_, .made ((h.follow_eq _ _).trans hfollow) ((h.occupancy _).trans hoccupancy), ?_, ?_⟩
    · rw [home_create, home_create, h.home]
    · intro other
      rw [occupancy_create _ _ _ hroot, occupancy_create _ _ _ hroot, h.occupancy]
      rfl

end SameShape

/-- A directory is only made where nothing was. -/
theorem makeDirectory_eq_ok (h : files.makeDirectory path t = .ok after) :
    ∃ location, files.follow path (Path.parts path.toList) = .ok location ∧
      files.occupancy location = .vacant ∧ after = files.create location (.directory t) t := by
  cases hfollow : files.follow path (Path.parts path.toList) with
  | error fault =>
    rw [makeDirectory_of_lost hfollow] at h
    cases h
  | ok location =>
    by_cases hvacant : files.occupancy location = .vacant
    · rw [makeDirectory_of_vacant hfollow hvacant] at h
      exact ⟨location, rfl, hvacant, (Except.ok.inj h).symm⟩
    · rw [makeDirectory_of_occupied hfollow hvacant] at h
      cases h

end Files

namespace Chronicle

variable {before : Chronicle}

/-- Making one directory, at whatever times. -/
theorem ensureDirectory_gives {twin : Files} (h : Files.SameShape before.files twin) (t : Int)
    (path : String) :
    ∃ result after twin', Gives (Host.ensureDirectory path) before result after ∧
      Files.Ensures t twin path result twin' ∧ Files.SameShape after.files twin' := by
  obtain ⟨result, files, -, hensures⟩ :=
    Files.ensureDirectory_yields before.now "" before.files path
  obtain ⟨twin', htwin, hsame⟩ := h.ensures hensures t
  suffices hgives : ∃ after, Gives (Host.ensureDirectory path) before result after ∧
      after.files = files by
    obtain ⟨after, hgives, rfl⟩ := hgives
    exact ⟨result, after, twin', hgives, htwin, hsame⟩
  cases hensures with
  | @lost fault hfollow =>
    have hmake : Gives (Host.makeDirectory path) before _ _ :=
      .makeDirectory_error (Files.makeDirectory_of_lost hfollow)
    by_cases habsent : fault = .absent
    · refine ⟨before.next, hmake.bind ?_, rfl⟩
      dsimp only
      rw [if_pos habsent]
      exact .pure _ _
    · refine ⟨before.next.next, hmake.bind ?_, rfl⟩
      dsimp only
      rw [if_neg habsent]
      refine (Gives.isDirectory path _).bind ?_
      have hnone : before.next.files.isDirectory path = false := Files.isDirectory_of_lost hfollow
      rw [hnone]
      exact .pure _ _
  | made hfollow hvacant =>
    exact ⟨_, (Gives.makeDirectory_ok (Files.makeDirectory_of_vacant hfollow hvacant)).bind
      (.pure _ _), rfl⟩
  | @found location hfollow hdirectory =>
    have hoccupied : before.files.occupancy location ≠ .vacant := by rw [hdirectory]; exact nofun
    refine ⟨before.next.next, (Gives.makeDirectory_error
      (Files.makeDirectory_of_occupied hfollow hoccupied)).bind ?_, rfl⟩
    refine (Gives.isDirectory path _).bind ?_
    have hthere : before.next.files.isDirectory path = true :=
      (Files.isDirectory_of_follow hfollow).2 hdirectory
    rw [hthere]
    exact .pure _ _
  | @blocked location content hfollow hfile =>
    have hoccupied : before.files.occupancy location ≠ .vacant := by rw [hfile]; exact nofun
    refine ⟨before.next.next, (Gives.makeDirectory_error
      (Files.makeDirectory_of_occupied hfollow hoccupied)).bind ?_, rfl⟩
    refine (Gives.isDirectory path _).bind ?_
    have hthere : before.next.files.isDirectory path = false := by
      rw [Bool.eq_false_iff, ne_eq]
      intro hdirectory
      have hoccupancy := (Files.isDirectory_of_follow hfollow).1 hdirectory
      rw [hfile] at hoccupancy
      cases hoccupancy
    rw [hthere]
    exact .pure _ _

/-- Making a directory and those above it, at whatever times. -/
theorem createFrom_gives {twin : Files} (t : Int) (fuel : Nat) (path : String)
    (hfuel : (Path.components path.toList).length < fuel)
    (h : Files.SameShape before.files twin) :
    ∃ result after twin', Gives (Host.createFrom fuel path) before result after ∧
      Files.Creates t twin path result twin' ∧ Files.SameShape after.files twin' := by
  induction fuel generalizing path before twin with
  | zero => exact absurd hfuel (Nat.not_lt_zero _)
  | succ fuel ih =>
    rw [Host.createFrom]
    by_cases hempty : path = ""
    · subst hempty
      exact ⟨.ok (), before, twin, .pure _ _, .empty, h⟩
    · rw [if_neg (by simpa using hempty)]
      obtain ⟨result, after, twin', hgives, hensures, hsame⟩ := ensureDirectory_gives h t path
      by_cases hresult : result = .error .absent
      · subst hresult
        obtain rfl := hensures.error
        cases hparent : Path.parent? path with
        | none =>
          exact ⟨_, after, _, hgives.bind (.pure _ _), .orphan hempty hensures hparent, hsame⟩
        | some parent =>
          have hshorter := Path.length_components_parent hparent
          obtain ⟨above, between, between', habove, hcreates, hbetween⟩ :=
            ih parent (by omega) hsame
          cases above with
          | error fault =>
            exact ⟨_, between, _, hgives.bind (habove.bind (.pure _ _)),
              .stopped hempty hensures hparent hcreates, hbetween⟩
          | ok _ =>
            obtain ⟨last, final, final', hlast, hfinal, hend⟩ :=
              ensureDirectory_gives hbetween t path
            exact ⟨last, final, final', hgives.bind (habove.bind hlast),
              .onward hempty hensures hparent hcreates hfinal, hend⟩
      · refine ⟨result, after, twin', hgives.bind ?_, .direct hempty hensures hresult, hsame⟩
        cases result with
        | ok _ => exact .pure _ _
        | error fault =>
          cases fault <;> first | exact absurd rfl hresult | exact .pure _ _

open Generation

variable {settings : Settings} {files : Files}

theorem ensureOutput_gives (settings : Settings) {twin : Files} (t : Int)
    (h : Files.SameShape before.files twin) :
    ∃ result after twin',
      Gives (ensureOutput settings) before (result.mapError (.file settings.outputPath)) after ∧
      Files.Creates t twin settings.outputPath result twin' ∧
      Files.SameShape after.files twin' := by
  cases hdirectory : before.files.isDirectory settings.outputPath with
  | true =>
    refine ⟨.ok (), before.next, twin, ?_, Files.creates_of_isDirectory fun _ => ?_, h⟩
    · refine (Gives.isDirectory settings.outputPath before).bind ?_
      rw [hdirectory]
      exact .pure _ _
    · rw [h.isDirectory_eq, hdirectory]
  | false =>
    have hnext : Files.SameShape before.next.files twin := h
    obtain ⟨result, after, twin', hgives, hcreates, hsame⟩ :=
      createFrom_gives t _ settings.outputPath (Nat.lt_succ_self _) hnext
    have hcreate : Gives (Host.createDirectories settings.outputPath) before.next result after :=
      hgives
    suffices hend : ∃ last, Elapses after last ∧ Gives (ensureOutput settings) before
        (result.mapError (.file settings.outputPath)) last by
      obtain ⟨last, helapses, hgives⟩ := hend
      exact ⟨result, last, twin', hgives, hcreates, helapses.files ▸ hsame⟩
    cases result with
    | error fault =>
      refine ⟨after, .refl after, (Gives.isDirectory settings.outputPath before).bind ?_⟩
      rw [hdirectory]
      exact hcreate.bind (.pure _ _)
    | ok _ =>
      refine ⟨after.next, .next after, (Gives.isDirectory settings.outputPath before).bind ?_⟩
      rw [hdirectory]
      exact hcreate.bind ((Gives.report _ _).bind (.pure _ _))

/-- The files stay exactly as they are, or there is a directory where nothing was. -/
theorem ensureOutput_eq_or_grown {made : Except Failure Unit} {after : Chronicle}
    (h : Gives (ensureOutput settings) before made after) :
    after.files = before.files ∨ ∃ location, before.files.occupancy location = .vacant ∧
      after.files.occupancy location = .directory := by
  refine Keeps.of_gives (I := fun chronicle => chronicle.files = before.files ∨
    ∃ location, before.files.occupancy location = .vacant ∧
      chronicle.files.occupancy location = .directory)
    (Keeps.ensureOutput (fun _ => id) ?_ settings) h (.inl rfl)
  intro chronicle path files hstate hfiles
  obtain ⟨location, -, hvacant, rfl⟩ := Files.makeDirectory_eq_ok hfiles
  have hgrown : Files.Growth (fun _ => True) (fun _ => True) chronicle.files _ :=
    Files.growth_create (t := chronicle.now) hvacant trivial
  right
  rcases hstate with heq | ⟨other, hother, hdirectory⟩
  · exact ⟨location, heq ▸ hvacant, Files.occupancy_create_self hvacant⟩
  · exact ⟨other, hother, hgrown.directory hdirectory⟩

/-- Where making the output directory once more changes nothing, it changes nothing at other times
either. -/
theorem ensureOutput_still {twin : Files} {result : Except FileFault Unit} {t : Int}
    (h : Files.SameShape before.files twin)
    (hcreates : Files.Creates t twin settings.outputPath result twin) :
    ∃ after, Gives (ensureOutput settings) before (result.mapError (.file settings.outputPath))
      after ∧ after.files = before.files := by
  obtain ⟨result', after, twin', hgives, hcreates', hsame⟩ := ensureOutput_gives settings t h
  obtain ⟨rfl, rfl⟩ := hcreates.unique hcreates'
  refine ⟨after, hgives, ?_⟩
  refine (ensureOutput_eq_or_grown hgives).resolve_right ?_
  rintro ⟨location, hvacant, hdirectory⟩
  rw [← hsame.occupancy, h.occupancy, hvacant] at hdirectory
  cases hdirectory

/-- The output directory cannot be made, and trying changes nothing. -/
def Hopeless (settings : Settings) (files : Files) : Prop :=
  ∃ twin fault, Files.SameShape files twin ∧
    Files.Creates 0 twin settings.outputPath (.error fault) twin

theorem Hopeless.gives (h : Hopeless settings before.files) :
    ∃ failure after, Gives (ensureOutput settings) before (.error failure) after ∧
      after.files = before.files := by
  obtain ⟨twin, fault, hsame, hcreates⟩ := h
  obtain ⟨after, hgives, hfiles⟩ := ensureOutput_still hsame hcreates
  exact ⟨_, after, hgives, hfiles⟩

theorem gives_of_housed (h : Housed settings before.files) :
    ∃ after, Gives (ensureOutput settings) before (.ok ()) after ∧ after.files = before.files :=
  ensureOutput_still (t := 0) (.refl _) (h.creates 0)

/-- An attempt to make the output directory that failed fails for good. -/
theorem hopeless_of_error {failure : Failure} {after : Chronicle}
    (h : Gives (ensureOutput settings) before (.error failure) after) :
    Hopeless settings after.files := by
  obtain ⟨result, last, twin, hgives, hcreates, hsame⟩ :=
    ensureOutput_gives settings 0 (.refl before.files)
  obtain ⟨hresult, rfl⟩ := h.unique hgives
  cases result with
  | ok _ => cases hresult
  | error fault =>
    obtain ⟨-, again, -, hretry⟩ := hcreates.retry
    exact ⟨twin, again, hsame, hretry⟩

/-- One that did not fail need not be made again. -/
theorem housed_of_ok {after : Chronicle}
    (h : Gives (ensureOutput settings) before (.ok ()) after) : Housed settings after.files := by
  obtain ⟨result, last, twin, hgives, hcreates, hsame⟩ :=
    ensureOutput_gives settings 0 (.refl before.files)
  obtain ⟨hresult, rfl⟩ := h.unique hgives
  cases result with
  | error fault => cases hresult
  | ok _ =>
    intro hne
    rw [← hsame.isDirectory_eq]
    exact hcreates.isDirectory hne

end Chronicle
end ResponseTypes
