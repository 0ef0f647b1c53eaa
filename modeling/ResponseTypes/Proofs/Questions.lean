import ResponseTypes.Sources

/-!
# Asking a system

Most of what a run does is to ask: following a pattern and reading the settings are made of
questions and messages, and of nothing that changes a file.  What is true of each question and of
one action after another is then true of them.  This is said here once, over any system, whatever it
answers, and holds for the effects on a `Session` as well as for a view of a system that questions
do not change.

## Main definitions

- `Host.Chains`: a property that is kept when one action comes after another.
- `Host.Quiet`: a property of everything that a system can be asked or told.
- `Host.Returns`: an action whose answer has a property.
- `Host.Leaves`: an action that leaves a view as it is.

## Main statements

- `Glob.quiet_expand`: following a pattern is quiet.
- `Payload.quiet_resolve`, `Settings.quiet_load`: so are following arguments and reading settings.
-/

namespace ResponseTypes

namespace Host

/-! ## Properties of actions -/

/-- What is true of both branches is true of a choice between them. -/
theorem either {γ : Type} {P : γ → Prop} {condition : Prop} [Decidable condition]
    {first second : γ} (hfirst : P first) (hsecond : P second) :
    P (if condition then first else second) :=
  iteInduction (fun _ => hfirst) fun _ => hsecond

section

variable (m : Type → Type) [Monad m]

/-- A property of actions that is kept when one action comes after another. -/
structure Chains (P : ∀ {α : Type}, m α → Prop) : Prop where
  pure : ∀ {α : Type} (answer : α), P (Pure.pure answer)
  bind : ∀ {α β : Type} {action : m α} {next : α → m β},
    P action → (∀ answer, P (next answer)) → P (action >>= next)

namespace Chains

variable {m} {P : ∀ {α : Type}, m α → Prop} (hP : Chains m P)
include hP

theorem flatMapM [LawfulMonad m] {α β : Type} {f : α → m (List β)} (h : ∀ item, P (f item))
    (items : List α) : P (items.flatMapM f) := by
  induction items with
  | nil =>
    rw [List.flatMapM_nil]
    exact hP.pure []
  | cons item items ih =>
    rw [List.flatMapM_cons]
    exact hP.bind (h item) fun _ => hP.bind ih fun _ => hP.pure _

end Chains

/-- A property of everything that a system can be asked or told: of all operations but those that
change files. -/
structure Quiet [Host m] (P : ∀ {α : Type}, m α → Prop) : Prop where
  isDirectory : ∀ path, P (Host.isDirectory path)
  isFile : ∀ path, P (Host.isFile path)
  exists? : ∀ path, P (Host.exists? path)
  modified? : ∀ path, P (Host.modified? path)
  list : ∀ path, P (Host.list path)
  read : ∀ path, P (Host.read path)
  now : P (Host.now : m Int)
  stamp : P (Host.stamp : m String)
  report : ∀ event, P (Host.report event)
  say : ∀ line, P (Host.say line)

end

/-! ## Answers and views -/

section

variable {σ φ α β : Type} {action : StateM σ α} {next : α → StateM σ β}

/-- An action whose answer has a property, whatever the system is. -/
def Returns (action : StateM σ α) (P : α → Prop) : Prop :=
  ∀ system, P (action system).1

namespace Returns

variable {P : α → Prop} {R : β → Prop}

protected theorem pure {answer : α} (h : P answer) : Returns (σ := σ) (pure answer) P := fun _ => h

theorem bind (h : Returns action P) (hnext : ∀ answer, P answer → Returns (next answer) R) :
    Returns (action >>= next) R :=
  fun system => hnext _ (h system) _

/-- After an action of which nothing is known every answer has to be considered. -/
theorem after (hnext : ∀ answer, Returns (next answer) R) : Returns (action >>= next) R :=
  fun _ => hnext _ _

protected theorem ite {condition : Prop} [Decidable condition] {first second : StateM σ α}
    (hfirst : Returns first P) (hsecond : Returns second P) :
    Returns (if condition then first else second) P := by
  split
  · exact hfirst
  · exact hsecond

end Returns

/-- An action after which a view of the system is what it was. -/
def Leaves (view : σ → φ) (action : StateM σ α) : Prop :=
  ∀ system, view (action system).2 = view system

/-- After an action whose answer is known to have a property only such answers have to be
considered. -/
theorem Leaves.bind_returns {view : σ → φ} {P : α → Prop} (h : Leaves view action)
    (hreturns : Returns action P) (hnext : ∀ answer, P answer → Leaves view (next answer)) :
    Leaves view (action >>= next) :=
  fun system => (hnext _ (hreturns system) _).trans (h system)

theorem chains_leaves (view : σ → φ) : Chains (StateM σ) (Leaves view) where
  pure _ _ := rfl
  bind h hnext system := (hnext _ _).trans (h system)

end

end Host

/-! ## What is made of questions -/

variable {m : Type → Type} [Monad m] [Host m] {P : ∀ {α : Type}, m α → Prop}

namespace Glob

section

variable (hP : Host.Chains m P) (hquiet : Host.Quiet m P)
include hP hquiet

theorem quiet_namesIn (directory : String) : P (namesIn directory) := by
  refine hP.bind (hquiet.isDirectory directory) fun found => ?_
  cases found
  · exact hP.pure []
  · refine hP.bind (hquiet.list directory) fun names => ?_
    cases names <;> exact hP.pure _

omit [Monad m] hP in
theorem quiet_leads (directory path name : String) : P (leads directory path name) :=
  Host.either (hquiet.isDirectory directory) (hquiet.exists? path)

variable [LawfulMonad m]

/-- Following the parts of a pattern is quiet if going deeper is. -/
theorem quiet_descend (directoriesOnly : Bool)
    {deeper : List (List Token) → String → m (List String)}
    (hdeeper : ∀ parts path, P (deeper parts path)) (parts : List (List Token))
    (path : String) : P (descend directoriesOnly deeper parts path) := by
  fun_induction descend directoriesOnly deeper parts path with
  | case1 path =>
    exact hP.bind (hquiet.isDirectory path) fun _ => Host.either (hP.pure _) (hP.pure _)
  | case2 _ _ ih => exact ih
  | case3 path =>
    exact hP.bind (quiet_namesIn hP hquiet path) fun names => hP.flatMapM (fun name =>
      hP.bind (hquiet.isDirectory _) fun _ =>
        Host.either (hP.bind (hdeeper _ _) fun _ => hP.pure _) (hP.pure _)) names
  | case4 part parts path _ ih =>
    -- what is found here is put together with what is found further down
    have hjoin : ∀ name here, P (do
        if ← Host.isDirectory (inside path name) then
          return here ++ (← deeper ([.anyDepth] :: part :: parts) (inside path name))
        else return here) := fun name here =>
      hP.bind (hquiet.isDirectory _) fun _ =>
        Host.either (hP.bind (hdeeper _ _) fun _ => hP.pure _) (hP.pure _)
    exact hP.bind (quiet_namesIn hP hquiet path) fun names => hP.flatMapM (fun name =>
      Host.either (hP.bind (ih name) fun here => hjoin name here)
        (hP.bind (hP.pure _) fun here => hjoin name here)) names
  | case5 part parts path _ _ _ text _ name next ih =>
    exact hP.bind (quiet_leads hquiet path next name) fun _ => Host.either ih (hP.pure _)
  | case6 part parts path _ _ _ _ ih ih' =>
    exact hP.bind (hquiet.isDirectory path) fun _ => Host.either (hP.pure _) <|
      hP.bind (hP.flatMapM ih _) fun _ => hP.bind (quiet_namesIn hP hquiet path) fun _ =>
        hP.bind (hP.flatMapM ih' _) fun _ => hP.pure _

theorem quiet_below (directoriesOnly : Bool) (depth : Nat) (parts : List (List Token))
    (path : String) : P (below directoriesOnly depth parts path : m (List String)) := by
  induction depth generalizing parts path with
  | zero => exact quiet_descend hP hquiet directoriesOnly (fun _ _ => hP.pure []) parts path
  | succ depth ih => exact quiet_descend hP hquiet directoriesOnly ih parts path

theorem quiet_expand (text : String) : P (expand text : m (Except Fault (List String))) := by
  rw [expand]
  split
  · exact hP.pure _
  · exact hP.bind (quiet_below hP hquiet _ _ _ _) fun _ => hP.pure _

end

end Glob

variable (hP : Host.Chains m P) (hquiet : Host.Quiet m P)
include hP hquiet

namespace Payload

variable [LawfulMonad m]

theorem quiet_pathsOf (argument : String) :
    P (pathsOf argument : m (Except Failure (List String))) :=
  Host.either (hP.bind (Glob.quiet_expand hP hquiet argument) fun _ => hP.pure _) (hP.pure _)

theorem quiet_resolve (arguments : List String) :
    P (resolve arguments : m (Except Failure (List String))) := by
  induction arguments with
  | nil => exact hP.pure _
  | cons argument others ih =>
    refine hP.bind (quiet_pathsOf hP hquiet argument) fun found => ?_
    cases found with
    | error failure => exact hP.pure _
    | ok paths => exact hP.bind ih fun _ => hP.pure _

end Payload

theorem Settings.quiet_load (path : String) :
    P (load path : m (Except Failure (Option Settings))) := by
  refine hP.bind (hquiet.read path) fun found => ?_
  rcases found with fault | content
  · cases fault <;> exact hP.pure _
  · dsimp only
    cases String.fromUTF8? ⟨content.toArray⟩ with
    | none => exact hP.pure _
    | some text =>
      dsimp only
      cases Settings.parse text <;> exact hP.pure _

end ResponseTypes
