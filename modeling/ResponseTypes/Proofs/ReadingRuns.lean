import ResponseTypes.Generation.Run
import ResponseTypes.Proofs.FileWalks
import ResponseTypes.Proofs.Questions
import ResponseTypes.Proofs.SessionEffects

/-!
# What reading does to the files

Following a pattern, looking for models, and reading manifests and payloads leave the files as they
are.  This is stated as an effect within any preorder, so that it serves inside runs that write.

## Main statements

- `Glob.within_expand`: following a pattern.
- `Model.discover_yields`: looking for models.
- `Model.load_yields`, `Generation.modelDeclaration_yields`: reading a model.
- `Payload.within_load`, `Generation.within_firstDocument`: reading payloads.
-/

namespace ResponseTypes

open Session

variable {R : Files → Files → Prop} [IsPreorder Files R]

/-! ## Questions -/

namespace Session

theorem Within.chains : Host.Chains (StateM Session) (Within R) where
  pure answer := .pure answer
  bind h hnext := h.bind hnext

theorem Within.quiet : Host.Quiet (StateM Session) (Within R) where
  isDirectory path := .isDirectory path
  isFile path := .isFile path
  exists? path := .exists? path
  modified? path := .modified? path
  list path := .list path
  read path := .read path
  now := .now
  stamp := .stamp
  report event := .report event
  say line := .say line

end Session

/-! ## Patterns -/

namespace Glob

theorem within_expand (text : String) : Within R (expand text) :=
  quiet_expand Within.chains Within.quiet text

/-! ### What is found

The effects above say nothing of the answers. These say what a pattern of literal parts and a last
part with special characters finds. -/

variable {t : Int} {date : String}

/-- A part without special characters leads on if it is said to lead somewhere. -/
theorem descend_leads_yields {deeper : List (List Token) → String → StateM Session (List String)}
    {part : List Token} {parts : List (List Token)} {text : List Char} {path : String}
    {files : Files} {found : List String} (hliteral : literal? part = some text)
    (hleads : Yields (leads path (inside path (String.ofList text)) (String.ofList text)) t date
      files true files)
    (hfound : Yields (descend false deeper parts (inside path (String.ofList text))) t date files
      found files) :
    Yields (descend false deeper (part :: parts) path) t date files found files := by
  have hdepth : part ≠ [.anyDepth] := by
    rintro rfl
    cases hliteral
  rw [descend, hliteral]
  · exact hleads.bind hfound
  · exact fun _ h => absurd h hdepth
  · exact fun h => absurd h hdepth
  · exact fun _ _ h => absurd h hdepth

/-- A part without special characters leads on if there is something of its name. -/
theorem descend_literal_yields {deeper : List (List Token) → String → StateM Session (List String)}
    {part : List Token} {parts : List (List Token)} {text : List Char} {path : String}
    {files : Files} {found : List String}
    (hliteral : literal? part = some text) (hstep : isStep (String.ofList text) = false)
    (hthere : files.exists? (inside path (String.ofList text)) = true)
    (hfound : Yields (descend false deeper parts (inside path (String.ofList text))) t date files
      found files) :
    Yields (descend false deeper (part :: parts) path) t date files found files := by
  refine descend_leads_yields hliteral ?_ hfound
  rw [leads, hstep]
  have hexists : Yields (Host.exists? _) t date files _ files :=
    .exists? (inside path (String.ofList text)) files
  rwa [hthere] at hexists

theorem namesIn_yields {path : String} {files : Files} {names : List String}
    (hdirectory : files.isDirectory path = true) (hlist : files.list path = .ok names) :
    Yields (namesIn path) t date files (names.mergeSort fun a b => decide (a ≤ b)) files := by
  refine (Yields.isDirectory path files).bind ?_
  rw [hdirectory]
  refine (Yields.list path files).bind ?_
  rw [hlist]
  exact .pure _ _

/-- The last part of a pattern finds the names that fit it. -/
theorem descend_names_yields {deeper : List (List Token) → String → StateM Session (List String)}
    {part : List Token} {path : String} {files : Files} {names : List String}
    (hliteral : literal? part = none) (hdepth : part ≠ [.anyDepth]) (hsteps : stepsFor part = [])
    (hdirectory : files.isDirectory path = true) (hlist : files.list path = .ok names) :
    Yields (descend false deeper [part] path) t date files
      (((names.mergeSort fun a b => decide (a ≤ b)).filter fun name =>
        «matches» part name.toList).map (inside path)) files := by
  have hleaf : ∀ child,
      Yields (descend false deeper [] child) t date files [child] files := by
    intro child
    rw [descend]
    exact (Yields.isDirectory child files).bind (.pure _ _)
  have hleaves : ∀ found : List String,
      Yields (found.flatMapM fun name => descend false deeper [] (inside path name)) t date files
        (found.map (inside path)) files := by
    intro found
    induction found with
    | nil => exact .pure _ _
    | cons name found ih =>
      rw [List.flatMapM_cons]
      exact (hleaf _).bind (ih.bind (.pure _ _))
  rw [descend, hliteral]
  · dsimp only
    refine (Yields.isDirectory path files).bind ?_
    rw [hdirectory, hsteps]
    exact (Yields.pure [] files).bind
      ((namesIn_yields hdirectory hlist).bind ((hleaves _).bind (.pure _ _)))
  · exact fun _ h => absurd h hdepth
  · exact fun h => absurd h hdepth
  · exact fun _ _ h => absurd h hdepth

/-- A part with special characters that no name in the directory fits finds nothing. -/
theorem descend_unfit_yields {deeper : List (List Token) → String → StateM Session (List String)}
    {part : List Token} {parts : List (List Token)} {path : String} {files : Files}
    {names : List String} (hliteral : literal? part = none) (hdepth : part ≠ [.anyDepth])
    (hsteps : stepsFor part = []) (hdirectory : files.isDirectory path = true)
    (hlist : files.list path = .ok names)
    (hunfit : ∀ name ∈ names, «matches» part name.toList = false) :
    Yields (descend false deeper (part :: parts) path) t date files [] files := by
  have hnone : ((names.mergeSort fun a b => decide (a ≤ b)).filter fun name =>
      «matches» part name.toList) = [] := by
    refine List.filter_eq_nil_iff.2 fun name hname => ?_
    rw [hunfit name (List.mem_mergeSort.1 hname)]
    exact Bool.false_ne_true
  rw [descend, hliteral]
  · dsimp only
    refine (Yields.isDirectory path files).bind ?_
    rw [hdirectory, hsteps]
    refine (Yields.pure [] files).bind ((namesIn_yields hdirectory hlist).bind ?_)
    rw [hnone]
    exact (Yields.pure [] files).bind (.pure _ _)
  · exact fun _ h => absurd h hdepth
  · exact fun h => absurd h hdepth
  · exact fun _ _ h => absurd h hdepth

end Glob

/-! ## Models -/

namespace Model

theorem within_discover (modelsPath : String) : Within R (discover modelsPath) := by
  refine (Within.isDirectory modelsPath).bind fun _ => .ite (.pure _) ?_
  refine (Glob.within_expand _).bind fun found => ?_
  cases found with
  | error fault => exact .pure _
  | ok paths => exact (Within.filterM Within.isFile paths).bind fun _ => .pure _

/-- What is found are the names of the files among the paths that fit the pattern. -/
theorem discover_of_expand {modelsPath : String} {files : Files} {t : Int} {date : String}
    {paths : List String} (hdirectory : files.isDirectory modelsPath = true)
    (hexpand : Yields (Glob.expand (Path.join modelsPath ("*" ++ extension))) t date files
      (.ok paths) files) :
    Yields (discover modelsPath) t date files (.ok (((paths.filter files.isFile).filterMap
      Path.fileStem?).mergeSort fun a b => decide (a ≤ b))) files := by
  have hasked : Yields (Host.isDirectory modelsPath) t date files _ files :=
    .isDirectory modelsPath files
  rw [hdirectory] at hasked
  exact hasked.bind (hexpand.bind
    ((Yields.filterM (fun path => .isFile path files) paths).bind (.pure _ _)))

/-- Sorted names are in order. -/
theorem pairwise_mergeSort (names : List String) :
    (names.mergeSort fun a b => decide (a ≤ b)).Pairwise (· ≤ ·) := by
  have htrans : ∀ a b c : String, decide (a ≤ b) → decide (b ≤ c) → decide (a ≤ c) := by
    simp only [decide_eq_true_eq]
    exact fun _ _ _ => String.le_trans
  have htotal : ∀ a b : String, decide (a ≤ b) || decide (b ≤ a) := by
    simpa using String.le_total
  exact (List.pairwise_mergeSort htrans htotal names).imp of_decide_eq_true

/-- Models are looked for in a directory, and what is found are names in order. -/
theorem discover_yields (modelsPath : String) (files : Files) (t : Int) (date : String) :
    ∃ answer, Yields (discover modelsPath) t date files answer files ∧
      ∀ names, answer = .ok names → files.isDirectory modelsPath = true ∧
        names.Pairwise (· ≤ ·) ∧ ∀ name ∈ names, Path.separator ∉ name.toList := by
  have hdirectory : Yields (Host.isDirectory modelsPath) t date files _ files :=
    .isDirectory modelsPath files
  cases hfound : files.isDirectory modelsPath with
  | false =>
    rw [hfound] at hdirectory
    exact ⟨_, hdirectory.bind (.pure _ _), fun _ => nofun⟩
  | true =>
    rw [hfound] at hdirectory
    obtain ⟨expanded, _, hexpand, rfl⟩ :=
      Glob.within_expand (R := Eq) (Path.join modelsPath ("*" ++ extension)) t date files
    cases expanded with
    | error fault => exact ⟨_, hdirectory.bind (hexpand.bind (.pure _ _)), fun _ => nofun⟩
    | ok paths =>
      obtain ⟨manifests, _, hfilter, rfl⟩ :=
        Within.filterM (R := Eq) Within.isFile paths t date files
      refine ⟨_, hdirectory.bind (hexpand.bind (hfilter.bind (.pure _ _))), ?_⟩
      rintro names hnames
      obtain rfl := Except.ok.inj hnames
      refine ⟨rfl, ?_, fun name hname => ?_⟩
      · exact pairwise_mergeSort _
      · obtain ⟨path, -, hstem⟩ := List.mem_filterMap.1 (List.mem_mergeSort.1 hname)
        exact Path.separator_not_mem_fileStem hstem

/-- The path of the manifest of a name. -/
def manifestPath (modelsPath name : String) : String :=
  Path.join modelsPath (name ++ extension)

/-- A manifest is named by one part of a path. -/
theorem isPlain_manifestName {name : String} (hname : Path.separator ∉ name.toList) :
    Files.IsPlain (name ++ extension).toList := by
  have hlast : (name ++ extension).toList.getLast? = some 'n' := by
    rw [String.toList_append, List.getLast?_append]
    rfl
  refine Files.isPlain_of_getLast? ?_ hlast (by decide)
  rw [String.toList_append, List.mem_append]
  rintro (hmem | hmem)
  · exact hname hmem
  · exact absurd hmem (by decide)

/-- The model of a name by the content of its manifest, if there is one. -/
def ofManifest (manifest name : String) : Option Bytes → Except Failure Model
  | none => .error (.absent .model name)
  | some content =>
    match tableNamed content with
    | .error fault => .error (.malformed manifest (fault.located content))
    | .ok table => .ok { name, table := table.getD (Naming.tableName name), manifest }

theorem name_of_ofManifest {manifest name : String} {content? : Option Bytes} {model : Model}
    (h : ofManifest manifest name content? = .ok model) : model.name = name := by
  rw [ofManifest.eq_def] at h
  split at h
  · cases h
  · split at h
    · cases h
    · obtain rfl := Except.ok.inj h
      rfl

/-- Loading a model reads its manifest and nothing else. -/
theorem load_yields (modelsPath name : String) (files : Files) (t : Int) (date : String) :
    Yields (load modelsPath name) t date files (ofManifest (manifestPath modelsPath name) name
      (files.read (manifestPath modelsPath name)).toOption) files := by
  refine (Yields.isFile (manifestPath modelsPath name) files).bind ?_
  cases hfile : files.isFile (manifestPath modelsPath name) with
  | false =>
    cases hread : files.read (manifestPath modelsPath name) with
    | error fault => exact .pure _ _
    | ok content =>
      obtain ⟨location, hlocate, hoccupancy⟩ := Files.read_eq_ok.1 hread
      rw [Files.isFile_iff.2 ⟨location, content, hlocate, hoccupancy⟩] at hfile
      cases hfile
  | true =>
    obtain ⟨location, content, hlocate, hoccupancy⟩ := Files.isFile_iff.1 hfile
    have hread := Files.read_eq_ok.2 ⟨location, hlocate, hoccupancy⟩
    refine (Yields.read (manifestPath modelsPath name) files).bind ?_
    rw [hread]
    dsimp only [Except.toOption, ofManifest]
    cases tableNamed content <;> exact .pure _ _

theorem still_load (modelsPath name : String) : Still (load modelsPath name) := by
  refine (Still.isFile _).bind fun _ => .ite (.pure _) ?_
  refine (Still.read _).bind fun found => ?_
  cases found with
  | error fault => exact .pure _
  | ok content =>
    dsimp only
    cases tableNamed content <;> exact .pure _

end Model

/-! ## Payloads -/

namespace Payload

theorem within_load (path : String) (filter? : Option String) : Within R (load path filter?) := by
  refine (Within.isFile path).bind fun _ => .ite (.pure _) ?_
  refine (Within.read path).bind fun found => ?_
  cases found with
  | error fault => exact .pure _
  | ok content =>
    dsimp only
    cases documentOf path content with
    | error failure => exact .pure _
    | ok document =>
      cases filter? with
      | none => exact .pure _
      | some filter => exact Within.now.bind fun _ => .pure _

end Payload

namespace Generation

theorem within_firstDocument (filter? : Option String) (failure : Failure) (paths : List String) :
    Within R (firstDocument filter? failure paths) := by
  induction paths generalizing failure with
  | nil => exact .pure _
  | cons path others ih =>
    refine (Payload.within_load path filter?).bind fun found => ?_
    rcases found with reason | (last | (_ | ⟨document, rest⟩))
    · exact .pure _
    · exact (Within.report _).bind fun _ => ih last
    · exact ih failure
    · exact .ite ((Within.report _).bind fun _ => .pure _) (.pure _)

/-- The declaration of a model by the content of its manifest, if there is one. -/
def declarationFrom (settings : Settings) (schema : SchemaSource) (name : String)
    (content? : Option Bytes) : Except Failure Declaration := do
  let model ← Model.ofManifest (Model.manifestPath settings.modelsPath name) name content?
  let described ← describeAll schema model.table
  return declarationOf settings model described.1

/-- A model is declared by what its manifest says and the columns of its table. -/
theorem declarationFrom_eq_ok {settings : Settings} {schema : SchemaSource} {name : String}
    {content? : Option Bytes} {declaration : Declaration}
    (h : declarationFrom settings schema name content? = .ok declaration) :
    ∃ model described,
      Model.ofManifest (Model.manifestPath settings.modelsPath name) name content? = .ok model ∧
      describeAll schema model.table = .ok described ∧
      declaration = declarationOf settings model described.1 := by
  rw [declarationFrom] at h
  cases hmodel : Model.ofManifest (Model.manifestPath settings.modelsPath name) name content? with
  | error failure => rw [hmodel] at h; cases h
  | ok model =>
    rw [hmodel] at h
    cases hdescribed : describeAll schema model.table with
    | error failure => simp [bind, Except.bind, hdescribed] at h
    | ok described =>
      simp only [bind, Except.bind, hdescribed] at h
      exact ⟨model, described, rfl, hdescribed, (Except.ok.inj h).symm⟩

/-- The declaration of a model is named after the model. -/
theorem name_of_declarationFrom {settings : Settings} {schema : SchemaSource} {name : String}
    {content? : Option Bytes} {declaration : Declaration}
    (h : declarationFrom settings schema name content? = .ok declaration) :
    declaration.name = Naming.typeName name settings.modelSuffix := by
  obtain ⟨model, described, hmodel, -, rfl⟩ := declarationFrom_eq_ok h
  rw [← Model.name_of_ofManifest hmodel]
  rfl

/-- Declaring a model reads its manifest and nothing else. -/
theorem modelDeclaration_yields (settings : Settings) (schema : SchemaSource) (name : String)
    (files : Files) (t : Int) (date : String) :
    Yields (modelDeclaration settings schema name) t date files (declarationFrom settings schema
      name (files.read (Model.manifestPath settings.modelsPath name)).toOption) files := by
  refine (Model.load_yields settings.modelsPath name files t date).bind ?_
  rw [declarationFrom]
  cases Model.ofManifest (Model.manifestPath settings.modelsPath name) name
      (files.read (Model.manifestPath settings.modelsPath name)).toOption with
  | error failure => exact .pure _ _
  | ok model =>
    dsimp only [bind, Except.bind]
    cases describeAll schema model.table with
    | error failure => exact .pure _ _
    | ok described => exact (Yields.reports described.2 files).bind (.pure _ _)

end Generation
end ResponseTypes
