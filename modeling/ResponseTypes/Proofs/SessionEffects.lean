import Mathlib.Order.Defs.Unbundled
import ResponseTypes.Session

/-!
# Effects on sessions

What has been put out never decides what a run does next, so the effect of an action is told by the
files before it, its answer, and the files after it.

## Main definitions

- `Session.perform`: an action on a session.
- `Session.Yields`: an action's answer and the files after it.
- `Session.Within`: an action whose effect on the files stays within a relation.
- `Session.Still`: an action that leaves the whole session as it is.

## Main statements

- `Session.Yields.bind`, `Session.Within.bind`: one action after another.
- `Session.Within.mapM`, `Session.Within.filterM`: one action for each entry of a list.
-/

namespace ResponseTypes
namespace Session

variable {α β : Type} {t : Int} {date : String}

/-- What an action answers in a session, and the session after it. -/
def perform (session : Session) (action : StateM Session α) : α × Session :=
  action.run session

/-! ## Answers and files -/

/-- With these files an action gives this answer and leaves those files, whatever has been put out
before. -/
def Yields (action : StateM Session α) (t : Int) (date : String) (before : Files) (answer : α)
    (after : Files) : Prop :=
  ∃ said, ∀ output,
    action ⟨before, t, date, output⟩ = (answer, ⟨after, t, date, output ++ said⟩)

namespace Yields

variable {action : StateM Session α} {before between after files : Files} {answer : α}

protected theorem pure (answer : α) (files : Files) :
    Yields (pure answer) t date files answer files :=
  ⟨[], fun output => by rw [List.append_nil]; rfl⟩

/-- The second action starts from the files that the first one leaves. -/
theorem bind {next : α → StateM Session β} {result : β}
    (h : Yields action t date before answer between)
    (hnext : Yields (next answer) t date between result after) :
    Yields (action >>= next) t date before result after := by
  obtain ⟨said, haction⟩ := h
  obtain ⟨said', hresult⟩ := hnext
  refine ⟨said ++ said', fun output => ?_⟩
  change (let (a, session) := action ⟨before, t, date, output⟩; next a session) = _
  rw [haction, ← List.append_assoc]
  exact hresult (output ++ said)

theorem perform_fst {session : Session}
    (h : Yields action session.now session.stamp session.files answer after) :
    (session.perform action).1 = answer := by
  obtain ⟨said, h⟩ := h
  exact congrArg Prod.fst (h session.output)

theorem perform_snd {session : Session}
    (h : Yields action session.now session.stamp session.files answer after) :
    (session.perform action).2.files = after := by
  obtain ⟨said, h⟩ := h
  exact congrArg (fun pair => pair.2.files) (h session.output)

/-! ### The operations of a session -/

/-- A question changes nothing. -/
theorem ask (answer : Files → α) (files : Files) :
    Yields (ask fun session => answer session.files) t date files (answer files) files :=
  ⟨[], fun output => by rw [List.append_nil]; rfl⟩

theorem isDirectory (path : String) (files : Files) : Yields (Host.isDirectory path) t date
    files (files.isDirectory path) files :=
  ask (·.isDirectory path) files

theorem isFile (path : String) (files : Files) : Yields (Host.isFile path) t date
    files (files.isFile path) files :=
  ask (·.isFile path) files

theorem exists? (path : String) (files : Files) : Yields (Host.exists? path) t date
    files (files.exists? path) files :=
  ask (·.exists? path) files

theorem modified? (path : String) (files : Files) : Yields (Host.modified? path) t date
    files (files.modified? path) files :=
  ask (·.modified? path) files

theorem list (path : String) (files : Files) : Yields (Host.list path) t date
    files (files.list path) files :=
  ask (·.list path) files

theorem read (path : String) (files : Files) : Yields (Host.read path) t date
    files (files.read path) files :=
  ask (·.read path) files

theorem now (files : Files) : Yields (Host.now : StateM Session Int) t date files t files :=
  ⟨[], fun output => by rw [List.append_nil]; rfl⟩

theorem stamp (files : Files) :
    Yields (Host.stamp : StateM Session String) t date files date files :=
  ⟨[], fun output => by rw [List.append_nil]; rfl⟩

theorem report (event : Event) (files : Files) :
    Yields (Host.report event : StateM Session Unit) t date files () files :=
  ⟨[.event event], fun _ => rfl⟩

theorem say (line : String) (files : Files) :
    Yields (Host.say line : StateM Session Unit) t date files () files :=
  ⟨[.line line], fun _ => rfl⟩

theorem reports (events : List Event) (files : Files) :
    Yields (events.forM Host.report : StateM Session PUnit) t date files ⟨⟩ files := by
  induction events with
  | nil => exact .pure _ _
  | cons event events ih => exact (report event files).bind ih

/-- Asking about each entry of a list keeps those for which the answer is yes. -/
theorem filterM {γ : Type} {p : γ → StateM Session Bool} {test : γ → Bool} {files : Files}
    (h : ∀ item, Yields (p item) t date files (test item) files) (items : List γ) :
    Yields (items.filterM p) t date files (items.filter test) files := by
  have haux : ∀ (items kept : List γ), Yields (items.filterAuxM p kept) t date files
      ((items.filter test).reverse ++ kept) files := by
    intro items
    induction items with
    | nil => exact fun kept => .pure _ _
    | cons item items ih =>
      intro kept
      refine (h item).bind ?_
      cases htest : test item with
      | false => rw [List.filter_cons_of_neg (by simp [htest])]; exact ih kept
      | true =>
        rw [List.filter_cons_of_pos htest, List.reverse_cons, List.append_assoc]
        exact ih (item :: kept)
  have hkept := haux items []
  rw [List.append_nil] at hkept
  refine hkept.bind ?_
  rw [List.reverse_reverse]
  exact .pure _ _

theorem write_ok {path : String} {content : Bytes}
    (h : before.write path content t = .ok after) :
    Yields (Host.write path content) t date before (.ok ()) after := by
  refine ⟨[], fun output => ?_⟩
  change Session.change _ _ = _
  rw [Session.change, h, List.append_nil]

theorem write_error {path : String} {content : Bytes} {fault : FileFault}
    (h : files.write path content t = .error fault) :
    Yields (Host.write path content) t date files (.error fault) files := by
  refine ⟨[], fun output => ?_⟩
  change Session.change _ _ = _
  rw [Session.change, h, List.append_nil]

theorem makeDirectory_ok {path : String} (h : before.makeDirectory path t = .ok after) :
    Yields (Host.makeDirectory path) t date before (.ok ()) after := by
  refine ⟨[], fun output => ?_⟩
  change Session.change _ _ = _
  rw [Session.change, h, List.append_nil]

theorem makeDirectory_error {path : String} {fault : FileFault}
    (h : files.makeDirectory path t = .error fault) :
    Yields (Host.makeDirectory path) t date files (.error fault) files := by
  refine ⟨[], fun output => ?_⟩
  change Session.change _ _ = _
  rw [Session.change, h, List.append_nil]

end Yields

/-! ## Effects within a relation -/

/-- An action after which the files are related to the files before it. -/
def Within (R : Files → Files → Prop) (action : StateM Session α) : Prop :=
  ∀ t date before, ∃ answer after, Yields action t date before answer after ∧ R before after

namespace Within

variable {R : Files → Files → Prop} [IsPreorder Files R] {action : StateM Session α}

/-- An action that leaves the files as they are. -/
theorem of_yields (h : ∀ t date files, ∃ answer, Yields action t date files answer files) :
    Within R action := by
  intro t date files
  obtain ⟨answer, hyields⟩ := h t date files
  exact ⟨answer, files, hyields, refl_of R files⟩

protected theorem pure (answer : α) : Within R (pure answer) :=
  of_yields fun _ _ files => ⟨answer, .pure answer files⟩

theorem bind {next : α → StateM Session β} (h : Within R action)
    (hnext : ∀ answer, Within R (next answer)) : Within R (action >>= next) := by
  intro t date before
  obtain ⟨answer, between, haction, hbetween⟩ := h t date before
  obtain ⟨result, after, hresult, hafter⟩ := hnext answer t date between
  exact ⟨result, after, haction.bind hresult, trans_of R hbetween hafter⟩

omit [IsPreorder Files R] in
/-- After a question only its answers have to be considered. -/
theorem bind_of_yields {answer : Files → α} {next : α → StateM Session β}
    (h : ∀ t date files, Yields action t date files (answer files) files)
    (hnext : ∀ files, Within R (next (answer files))) : Within R (action >>= next) := by
  intro t date before
  obtain ⟨result, after, hresult, hafter⟩ := hnext before t date before
  exact ⟨result, after, (h t date before).bind hresult, hafter⟩

omit [IsPreorder Files R] in
protected theorem ite {condition : Prop} [Decidable condition] {first second : StateM Session α}
    (hfirst : Within R first) (hsecond : Within R second) :
    Within R (if condition then first else second) := by
  split
  · exact hfirst
  · exact hsecond

theorem isDirectory (path : String) : Within R (Host.isDirectory path) :=
  of_yields fun _ _ files => ⟨_, .isDirectory path files⟩

theorem isFile (path : String) : Within R (Host.isFile path) :=
  of_yields fun _ _ files => ⟨_, .isFile path files⟩

theorem exists? (path : String) : Within R (Host.exists? path) :=
  of_yields fun _ _ files => ⟨_, .exists? path files⟩

theorem modified? (path : String) : Within R (Host.modified? path) :=
  of_yields fun _ _ files => ⟨_, .modified? path files⟩

theorem list (path : String) : Within R (Host.list path) :=
  of_yields fun _ _ files => ⟨_, .list path files⟩

theorem read (path : String) : Within R (Host.read path) :=
  of_yields fun _ _ files => ⟨_, .read path files⟩

theorem now : Within R Host.now :=
  of_yields fun t _ files => ⟨t, .now files⟩

theorem stamp : Within R Host.stamp :=
  of_yields fun _ date files => ⟨date, .stamp files⟩

theorem report (event : Event) : Within R (Host.report event) :=
  of_yields fun _ _ files => ⟨(), .report event files⟩

theorem say (line : String) : Within R (Host.say line) :=
  of_yields fun _ _ files => ⟨(), .say line files⟩

/-! ### Lists of actions -/

variable {γ : Type}

theorem mapM {f : γ → StateM Session β} (h : ∀ item, Within R (f item)) (items : List γ) :
    Within R (items.mapM f) := by
  induction items with
  | nil => rw [List.mapM_nil]; exact .pure []
  | cons item items ih =>
    rw [List.mapM_cons]
    exact (h item).bind fun _ => ih.bind fun _ => .pure _

theorem filterM {p : γ → StateM Session Bool} (h : ∀ item, Within R (p item)) (items : List γ) :
    Within R (items.filterM p) := by
  have haux : ∀ (items kept : List γ), Within R (items.filterAuxM p kept) := by
    intro items
    induction items with
    | nil => exact fun kept => .pure kept
    | cons item items ih => exact fun kept => (h item).bind fun _ => ih _
  exact (haux items []).bind fun _ => .pure _

end Within

/-! ## Actions that leave a session as it is -/

theorem perform_bind (session : Session) (action : StateM Session α)
    (next : α → StateM Session β) : session.perform (action >>= next) =
      (session.perform action).2.perform (next (session.perform action).1) := rfl

/-- Events are put out in order after what has been put out before. -/
theorem perform_reports (session : Session) (events : List Event) :
    session.perform (events.forM Host.report : StateM Session PUnit) =
      (⟨⟩, { session with output := session.output ++ events.map .event }) := by
  induction events generalizing session with
  | nil => rw [List.map_nil, List.append_nil]; rfl
  | cons event events ih =>
    change session.perform (Host.report event >>= fun _ => events.forM Host.report) = _
    rw [perform_bind, ih, List.map_cons, List.append_cons]
    rfl

/-- An action that changes no file and puts nothing out. -/
def Still (action : StateM Session α) : Prop :=
  ∀ session : Session, (session.perform action).2 = session

namespace Still

variable {action : StateM Session α}

protected theorem pure (answer : α) : Still (pure answer) := fun _ => rfl

theorem bind {next : α → StateM Session β} (h : Still action)
    (hnext : ∀ answer, Still (next answer)) : Still (action >>= next) := by
  intro session
  rw [perform_bind, h session]
  exact hnext _ session

protected theorem ite {condition : Prop} [Decidable condition] {first second : StateM Session α}
    (hfirst : Still first) (hsecond : Still second) :
    Still (if condition then first else second) := by
  split
  · exact hfirst
  · exact hsecond

theorem isFile (path : String) : Still (Host.isFile path) := fun _ => rfl

theorem read (path : String) : Still (Host.read path) := fun _ => rfl

theorem now : Still Host.now := fun _ => rfl

end Still

end Session
end ResponseTypes
