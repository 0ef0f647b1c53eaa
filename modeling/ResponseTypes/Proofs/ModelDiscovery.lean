import Mathlib.Data.List.Nodup
import ResponseTypes.Proofs.LiteralPatterns

/-!
# Looking for models and loading them

Models are looked for by a pattern and named by the stems of what is found; one of them is loaded by
joining its name and the extension to the directory.  These are inverse to each other where the path
of the directory stands for itself in a pattern, up to one name: a file that is named by the
extension alone is the manifest of the empty name, and its stem is the extension.

## Main definitions

- `Files.IsProper`: everything is there once, under names that are one part of a path.
- `Model.nameFound`: the name that is found for a manifest.
- `Model.Agrees`: looking for models and loading them agree.

## Main statements

- `Model.discover_ok_yields`: what is found in a directory, as the names whose manifests are there.
- `Model.discover_agrees_iff`: when looking and loading agree.
- `Model.not_forall_discover_agrees`: they do not in a directory whose path is read as a pattern.
-/

namespace ResponseTypes

open Session

/-! ## Names of files -/

namespace Path

theorem fileName?_joinChars (folder : List Char) {name : List Char} (h : Files.IsPlain name) :
    fileName? (joinChars folder name) = some name := by
  have hfilter : [name].filter (· ≠ ['.']) = [name] := by simp [h.ne_point]
  have hlast : (components (joinChars folder name)).getLast? = some name := by
    rw [components, isAbsolute_joinChars folder h.toIsName, parts_joinChars folder h.toIsName]
    cases parts folder with
    | nil => cases isAbsolute folder <;> simp [h.ne_point]
    | cons first others =>
      dsimp only [List.cons_append]
      split_ifs
      · rw [← List.cons_append, List.filter_append, hfilter, List.getLast?_concat]
      · rw [List.filter_append, hfilter, ← List.cons_append, List.getLast?_concat]
  rw [fileName?, hlast]
  simp [h.ne_point, h.ne_points]

/-- The stem of a name with an extension is what stands before the extension, unless that is
nothing. -/
theorem stem_append {before after : List Char} (hafter : '.' ∉ after) :
    stem (before ++ '.' :: after) = if before = [] then '.' :: after else before := by
  have hdrop : (before ++ '.' :: after).reverse.dropWhile (· ≠ '.') = '.' :: before.reverse := by
    have hreverse : (before ++ '.' :: after).reverse = after.reverse ++ '.' :: before.reverse := by
      simp
    have hbehind : ∀ c ∈ after.reverse, decide (c ≠ '.') = true := by
      intro c hc
      simp only [ne_eq, decide_eq_true_eq]
      rintro rfl
      exact hafter (List.mem_reverse.1 hc)
    rw [hreverse, List.dropWhile_append_of_pos hbehind, List.dropWhile_cons_of_neg (by simp)]
  rw [stem, hdrop]
  by_cases hbefore : before = [] <;> simp [hbefore]

end Path

/-! ## Listings -/

namespace Files

variable {files : Files} {path : String} {location : Location} {names : List String}

/-- What a file system is on a disk: everything is there once, under names that are one part of a
path. -/
structure IsProper (files : Files) : Prop where
  nodup : (files.entries.map (·.1)).Nodup
  plain : ∀ entry ∈ files.entries, ∀ name ∈ entry.1, IsPlain name ∧ '\x00' ∉ name

instance (name : List Char) : Decidable (IsPlain name) :=
  decidable_of_iff (name ≠ [] ∧ Path.separator ∉ name ∧ name ≠ ['.'] ∧ name ≠ ['.', '.'])
    ⟨fun ⟨hne, hsingle, hpoint, hpoints⟩ => ⟨⟨hne, hsingle⟩, hpoint, hpoints⟩,
      fun h => ⟨h.nonempty, h.single, h.ne_point, h.ne_points⟩⟩

theorem nameIn_eq_some {directory location : Location} {name : List Char} :
    nameIn directory location = some name ↔ location = directory ++ [name] := by
  rw [nameIn]
  constructor
  · intro h
    split at h
    · next last hlast =>
      split_ifs at h with hdirectory
      obtain rfl := Option.some.inj h
      obtain ⟨above, rfl⟩ := List.getLast?_eq_some_iff.1 hlast
      rw [List.dropLast_concat] at hdirectory
      rw [hdirectory]
    · cases h
  · rintro rfl
    simp

theorem list_eq_of_locate (hlocate : files.locate path = .ok location)
    (hdirectory : files.occupancy location = .directory) : files.list path =
      .ok (files.entries.filterMap fun entry =>
        (nameIn location entry.1).map String.ofList) := by
  rw [list, hlocate]
  rw [occupancy] at hdirectory
  dsimp only [bind, Except.bind]
  cases hentry : files.at? location with
  | none => rw [hentry] at hdirectory; cases hdirectory
  | some entry =>
    cases entry with
    | directory => rfl
    | file => rw [hentry] at hdirectory; cases hdirectory

/-- A listing has the names of what is directly in the directory. -/
theorem mem_list (hlocate : files.locate path = .ok location)
    (hdirectory : files.occupancy location = .directory) (hlist : files.list path = .ok names)
    {name : String} : name ∈ names ↔ ∃ entry ∈ files.entries,
      entry.1 = location ++ [name.toList] := by
  rw [list_eq_of_locate hlocate hdirectory] at hlist
  obtain rfl := Except.ok.inj hlist
  simp only [List.mem_filterMap, Option.map_eq_some_iff, nameIn_eq_some]
  constructor
  · rintro ⟨entry, hentry, _, heq, rfl⟩
    exact ⟨entry, hentry, by rw [heq, String.toList_ofList]⟩
  · rintro ⟨entry, hentry, heq⟩
    exact ⟨entry, hentry, _, heq, String.ofList_toList⟩

/-- What is in a directory is in its listing. -/
theorem mem_list_of_occupancy (hlocate : files.locate path = .ok location)
    (hdirectory : files.occupancy location = .directory) (hlist : files.list path = .ok names)
    {name : String} (hthere : files.occupancy (location ++ [name.toList]) ≠ .vacant) :
    name ∈ names := by
  obtain ⟨found, hfound⟩ := Option.ne_none_iff_exists'.1 (mt at?_eq_none_iff.1 hthere)
  rw [at?, if_neg (by simp)] at hfound
  obtain ⟨entry, hentry, -⟩ := Option.map_eq_some_iff.1 hfound
  exact (mem_list hlocate hdirectory hlist).2
    ⟨entry, List.mem_of_find?_eq_some hentry, by simpa using List.find?_some hentry⟩

theorem IsProper.nodup_list (h : files.IsProper) (hlocate : files.locate path = .ok location)
    (hdirectory : files.occupancy location = .directory) (hlist : files.list path = .ok names) :
    names.Nodup := by
  rw [list_eq_of_locate hlocate hdirectory] at hlist
  obtain rfl := Except.ok.inj hlist
  have hmap : (files.entries.filterMap fun entry => (nameIn location entry.1).map String.ofList) =
      (files.entries.map (·.1)).filterMap fun place =>
        (nameIn location place).map String.ofList := by
    rw [List.filterMap_map]
    rfl
  rw [hmap]
  refine List.Nodup.filterMap (fun first second name hfirst hsecond => ?_) h.nodup
  simp only [Option.mem_def, Option.map_eq_some_iff, nameIn_eq_some] at hfirst hsecond
  obtain ⟨_, rfl, rfl⟩ := hfirst
  obtain ⟨_, rfl, heq⟩ := hsecond
  rw [String.ofList_injective heq]

theorem IsProper.plain_of_mem_list (h : files.IsProper)
    (hlocate : files.locate path = .ok location)
    (hdirectory : files.occupancy location = .directory) (hlist : files.list path = .ok names)
    {name : String} (hname : name ∈ names) : IsPlain name.toList ∧ '\x00' ∉ name.toList := by
  obtain ⟨entry, hentry, heq⟩ := (mem_list hlocate hdirectory hlist).1 hname
  exact h.plain entry hentry _ (by simp [heq])

end Files

/-! ## Models -/

namespace Model

variable {files : Files} {modelsPath name : String} {location : Location}

/-- The name that is found for the manifest of a name.  Where the name is empty, the extension is
taken for it. -/
def nameFound (name : String) : String :=
  if name = "" then extension else name

theorem stem_manifest (name : String) :
    String.ofList (Path.stem (name ++ extension).toList) = nameFound name := by
  have htoList : (name ++ extension).toList = name.toList ++ '.' :: ['j', 's', 'o', 'n'] := by
    rw [String.toList_append]
    rfl
  rw [htoList, Path.stem_append (by decide), nameFound]
  by_cases hname : name = ""
  · rw [if_pos hname, if_pos (by simp [hname])]
    rfl
  · rw [if_neg hname, if_neg (by simpa using hname), String.ofList_toList]

/-- The pattern of manifests. -/
theorem pattern_eq : "*" ++ extension = String.ofList ('*' :: extension.toList) := by decide

/-- Names that a text is the end of are the text after another name. -/
theorem exists_base (h : extension.toList <:+ name.toList) : ∃ base, name = base ++ extension := by
  obtain ⟨base, hbase⟩ := h
  exact ⟨String.ofList base, String.toList_injective (by simp [hbase])⟩

/-- Every listed name of a directory has a path that can be followed. -/
def HasRoom (files : Files) (modelsPath : String) : Prop :=
  ∀ names, files.list modelsPath = .ok names → ∀ name ∈ names,
    (Path.join modelsPath name).utf8ByteSize ≤ Files.maxPath

variable {t : Int} {date : String}

/-- A listed name is joined to a directory without fault. -/
theorem pathFault?_join (hlocate : files.locate modelsPath = .ok location)
    (hname : Path.IsName name.toList) (hnul : '\x00' ∉ name.toList)
    (hsize : (Path.join modelsPath name).utf8ByteSize ≤ Files.maxPath) :
    Files.pathFault? (Path.join modelsPath name) = none := by
  have hfolder := Files.pathFault?_of_follow hlocate
  rw [Files.pathFault?] at hfolder ⊢
  split_ifs at hfolder with hempty hnul' hlong
  have hne : Path.join modelsPath name ≠ "" := by
    intro hjoin
    have hbegins := Path.prefix_joinChars modelsPath.toList hname
    rw [← Files.toList_join, hjoin] at hbegins
    exact hempty (by simpa using List.prefix_nil.1 hbegins)
  have hclean : '\x00' ∉ (Path.join modelsPath name).toList := by
    intro hmem
    have hsublist := Path.joinChars_sublist modelsPath.toList name.toList
    rw [← Files.toList_join] at hsublist
    rcases List.mem_append.1 (hsublist.subset hmem) with hmem | hmem
    · exact hnul' (by simpa using hmem)
    · rcases List.mem_cons.1 hmem with heq | hmem
      · exact absurd heq (by decide)
      · exact hnul hmem
  rw [if_neg (by simpa using hne), if_neg (by simpa using hclean), if_neg (by omega)]

/-- The path that a pattern finds for a name leads where the joined path leads. -/
theorem isFile_inside {reached : String} {behind : List Char}
    (hreached : Glob.Reaches files reached behind location)
    (hbehind : behind ++ name.toList = Path.joinChars modelsPath.toList name.toList)
    (hlocate : files.locate modelsPath = .ok location) (hname : Path.IsName name.toList)
    (hpath : Files.pathFault? (Path.join modelsPath name) = none) :
    files.isFile (Glob.inside reached name) = files.isFile (Path.join modelsPath name) := by
  have hne : Glob.inside reached name ≠ "" := by
    have hinside : Glob.inside reached (String.ofList name.toList) ≠ "" :=
      hreached.inside_ne_empty fun _ => hname.nonempty
    rwa [String.ofList_toList] at hinside
  have hinside : Files.pathFault? (Glob.inside reached name) = none := by
    refine Files.pathFault?_of_sublist hpath ?_ hne
    rw [Files.toList_join, ← hbehind]
    exact hreached.short name
  have hjoin : files.locate (Path.join modelsPath name) = files.step location name.toList := by
    rw [Files.locate_join_eq_walk files hname hpath,
      Files.walk_of_locateFolder (Files.locateFolder_of_locate hlocate)]
    rfl
  rw [Files.isFile, Files.isFile, Files.find_eq, Files.find_eq,
    hreached.locate_inside hname hinside, hjoin]

/-- A manifest is listed in its directory. -/
theorem mem_list_of_isFile {names : List String} (hlocate : files.locate modelsPath = .ok location)
    (hoccupancy : files.occupancy location = .directory)
    (hlist : files.list modelsPath = .ok names) (hname : Path.separator ∉ name.toList)
    (hfile : files.isFile (manifestPath modelsPath name) = true) : name ++ extension ∈ names := by
  obtain ⟨found, content, hfound, hcontent⟩ := Files.isFile_iff.1 hfile
  obtain ⟨directory, hdirectory, -, rfl⟩ := Files.locate_join (isPlain_manifestName hname) hfound
  rw [Files.locateFolder_of_locate hlocate] at hdirectory
  obtain rfl := Except.ok.inj hdirectory
  refine Files.mem_list_of_occupancy hlocate hoccupancy hlist ?_
  rw [hcontent]
  exact nofun

/-- The names whose manifests are among listed files. -/
theorem exists_bases (manifests : List String)
    (h : ∀ manifest ∈ manifests, extension.toList <:+ manifest.toList) :
    ∃ bases : List String, bases.map (· ++ extension) = manifests := by
  induction manifests with
  | nil => exact ⟨[], rfl⟩
  | cons manifest manifests ih =>
    obtain ⟨hmanifest, hmanifests⟩ := List.forall_mem_cons.1 h
    obtain ⟨base, rfl⟩ := exists_base hmanifest
    obtain ⟨bases, rfl⟩ := ih hmanifests
    exact ⟨base :: bases, rfl⟩

theorem append_extension_injective : Function.Injective (· ++ extension) := by
  intro first second heq
  refine String.toList_injective ?_
  have htoList := congrArg String.toList heq
  simpa only [String.toList_append, List.append_cancel_right_eq] using htoList

/-- The name that is found by a path is taken from its last part. -/
theorem fileStem?_inside (reached : String) (hname : Files.IsPlain name.toList) :
    Path.fileStem? (Glob.inside reached name) = some (String.ofList (Path.stem name.toList)) := by
  have hfile : Path.fileName? (Glob.inside reached name).toList = some name.toList := by
    rw [Glob.inside]
    split_ifs
    · have halone : Path.joinChars [] name.toList = name.toList := by simp [Path.joinChars]
      rw [← Path.fileName?_joinChars [] hname, halone]
    · rw [Files.toList_join, Path.fileName?_joinChars _ hname]
  rw [Path.fileStem?, hfile]
  rfl

/-- Looking for models finds the manifests in a directory, each by one name. -/
theorem discover_ok_yields (t : Int) (date : String) (hproper : files.IsProper)
    (hdirectory : files.isDirectory modelsPath = true)
    (hliteral : Glob.IsLiteral modelsPath.toList)
    (hfollow : Glob.canFollow modelsPath.toList = true) (hroom : HasRoom files modelsPath) :
    ∃ bases : List String, bases.Nodup ∧
      (∀ base, base ∈ bases ↔ Path.separator ∉ base.toList ∧
        files.isFile (manifestPath modelsPath base) = true) ∧
      Yields (discover modelsPath) t date files
        (.ok ((bases.map nameFound).mergeSort fun a b => decide (a ≤ b))) files := by
  obtain ⟨location, hlocate, hoccupancy⟩ := Files.isDirectory_iff.1 hdirectory
  obtain ⟨names, hlist⟩ : ∃ names, files.list modelsPath = .ok names :=
    ⟨_, Files.list_eq_of_locate hlocate hoccupancy⟩
  obtain ⟨reached, behind, hreached, hbehind, hexpand⟩ := Glob.expand_ending_yields t date
    hliteral hfollow (by decide : Glob.IsLiteral extension.toList) (by decide) hlocate hoccupancy
    hlist
  rw [← pattern_eq] at hexpand
  have hplain := fun name (hname : name ∈ names) =>
    hproper.plain_of_mem_list hlocate hoccupancy hlist hname
  set manifests := ((names.mergeSort fun a b => decide (a ≤ b)).filter fun name =>
    Glob.matches (Glob.endingTokens extension.toList) name.toList).filter fun name =>
      files.isFile (Glob.inside reached name) with hmanifests
  have hmem : ∀ name, name ∈ manifests ↔ (name ∈ names ∧ extension.toList <:+ name.toList) ∧
      files.isFile (Path.join modelsPath name) = true := by
    intro name
    rw [hmanifests, List.mem_filter, List.mem_filter, List.mem_mergeSort, Glob.endingTokens,
      Glob.matches_ending]
    refine and_congr_right fun hname => ?_
    obtain ⟨hisPlain, hnul⟩ := hplain name hname.1
    rw [isFile_inside hreached (hbehind _ hisPlain.toIsName) hlocate hisPlain.toIsName
      (pathFault?_join hlocate hisPlain.toIsName hnul (hroom names hlist name hname.1))]
  obtain ⟨bases, hbases⟩ := exists_bases manifests fun name hname => ((hmem name).1 hname).1.2
  have hnodup : manifests.Nodup :=
    (((List.mergeSort_perm _ _).nodup_iff.2
      (hproper.nodup_list hlocate hoccupancy hlist)).filter _).filter _
  have hbase : ∀ base, base ∈ bases ↔ Path.separator ∉ base.toList ∧
      files.isFile (manifestPath modelsPath base) = true := by
    intro base
    rw [← List.mem_map_of_injective append_extension_injective, hbases, hmem]
    constructor
    · rintro ⟨⟨hlisted, -⟩, hfile⟩
      refine ⟨fun hseparator => (hplain _ hlisted).1.single ?_, hfile⟩
      rw [String.toList_append]
      exact List.mem_append_left _ hseparator
    · rintro ⟨hsingle, hfile⟩
      refine ⟨⟨mem_list_of_isFile hlocate hoccupancy hlist hsingle hfile, ?_⟩, hfile⟩
      rw [String.toList_append]
      exact List.suffix_append _ _
  have hstems : (manifests.map (Glob.inside reached)).filterMap Path.fileStem? =
      bases.map nameFound := by
    rw [← hbases, List.map_map, List.filterMap_map, ← List.filterMap_eq_map]
    refine List.filterMap_congr fun base hmember => ?_
    dsimp only [Function.comp]
    rw [fileStem?_inside reached (isPlain_manifestName ((hbase base).1 hmember).1), stem_manifest]
  refine ⟨bases, List.Nodup.of_map _ (hbases ▸ hnodup), hbase, ?_⟩
  have hdiscover := discover_of_expand hdirectory hexpand
  rw [List.filter_map] at hdiscover
  rw [← hstems]
  exact hdiscover

/-! ## Looking for models and loading them -/

/-- Looking for models in a directory and loading them agree: what is found, in order and without
repetition, are the names whose manifests are files there, and loading finds the manifest of every
one of them. -/
structure Agrees (session : Session) (modelsPath : String) (names : List String) : Prop where
  sorted : names.Pairwise (· < ·)
  complete : ∀ name, name ∈ names ↔ Path.separator ∉ name.toList ∧
    session.files.isFile (manifestPath modelsPath name) = true
  loads : ∀ name ∈ names,
    (session.perform (load modelsPath name)).1 ≠ .error (.absent .model name)

/-- Loading a name only misses the model if its manifest is not a file. -/
theorem load_ne_absent {session : Session}
    (hfile : session.files.isFile (manifestPath modelsPath name) = true) :
    (session.perform (load modelsPath name)).1 ≠ .error (.absent .model name) := by
  have hload := load_yields modelsPath name session.files session.now session.stamp
  obtain ⟨found, content, hfound, hcontent⟩ := Files.isFile_iff.1 hfile
  have hread := Files.read_eq_ok.2 ⟨found, hfound, hcontent⟩
  rw [hload.perform_fst, hread, Except.toOption, ofManifest]
  cases tableNamed content <;> simp

theorem nameFound_ne_empty (name : String) : nameFound name ≠ "" := by
  rw [nameFound]
  split_ifs with hname
  · decide
  · exact hname

theorem strictly_sorted {names : List String} (h : names.Nodup) :
    (names.mergeSort fun a b => decide (a ≤ b)).Pairwise (· < ·) := by
  have hne := (List.mergeSort_perm names fun a b => decide (a ≤ b)).nodup_iff.2 h
  refine ((pairwise_mergeSort names).and hne).imp fun hab => ?_
  exact String.not_le.1 fun hba => hab.2 (String.le_antisymm hab.1 hba)

/-- Looking for models in a directory succeeds, whatever is in it, if the path of the directory
stands for itself in a pattern.  Then looking and loading agree exactly if no manifest is for the
empty name, which is found as another one. -/
theorem discover_agrees_iff (modelsPath : String) (session : Session)
    (hproper : session.files.IsProper)
    (hdirectory : session.files.isDirectory modelsPath = true)
    (hliteral : Glob.IsLiteral modelsPath.toList)
    (hfollow : Glob.canFollow modelsPath.toList = true)
    (hroom : HasRoom session.files modelsPath) :
    ∃ names, (session.perform (discover modelsPath)).1 = .ok names ∧
      (∀ name, name ∈ names ↔ ∃ base, nameFound base = name ∧ Path.separator ∉ base.toList ∧
        session.files.isFile (manifestPath modelsPath base) = true) ∧
      (Agrees session modelsPath names ↔
        session.files.isFile (manifestPath modelsPath "") = false) := by
  obtain ⟨bases, hnodup, hbases, hdiscover⟩ := discover_ok_yields session.now session.stamp
    hproper hdirectory hliteral hfollow hroom
  have hmem : ∀ name, name ∈ ((bases.map nameFound).mergeSort fun a b => decide (a ≤ b)) ↔
      ∃ base, nameFound base = name ∧ Path.separator ∉ base.toList ∧
        session.files.isFile (manifestPath modelsPath base) = true := by
    intro name
    simp only [List.mem_mergeSort, List.mem_map, hbases, and_comm]
  refine ⟨_, hdiscover.perform_fst, hmem, fun hagrees => ?_, fun hempty => ?_⟩
  · refine Bool.eq_false_iff.2 fun hfile => ?_
    obtain ⟨base, hbase, -⟩ := (hmem "").1 ((hagrees.complete "").2 ⟨by simp, hfile⟩)
    exact nameFound_ne_empty base hbase
  · have hne : ∀ base ∈ bases, nameFound base = base := by
      intro base hbase
      refine if_neg ?_
      rintro rfl
      rw [((hbases "").1 hbase).2] at hempty
      cases hempty
    have hmap : bases.map nameFound = bases :=
      (List.map_congr_left hne).trans (List.map_id' bases)
    rw [hmap]
    have hcomplete : ∀ name, name ∈ (bases.mergeSort fun a b => decide (a ≤ b)) ↔
        Path.separator ∉ name.toList ∧
          session.files.isFile (manifestPath modelsPath name) = true :=
      fun name => List.mem_mergeSort.trans (hbases name)
    exact ⟨strictly_sorted hnodup, hcomplete,
      fun name hname => load_ne_absent ((hcomplete name).1 hname).2⟩

/-- A directory of manifests, and another one whose path is a pattern for the name `m1`. -/
def shelves : Session where
  files := {
    entries :=
      [(["models".toList], .directory 0), (["models".toList, "User.json".toList], .file [] 0),
        (["m[1]".toList], .directory 0), (["m[1]".toList, "User.json".toList], .file [] 0)]
    home := [] }
  now := 0
  stamp := ""

theorem isProper_shelves : shelves.files.IsProper :=
  ⟨by decide, by decide⟩

theorem hasRoom_models : HasRoom shelves.files "models" := by
  intro names hlist
  have hnames : shelves.files.list "models" = .ok ["User.json"] := by decide
  obtain rfl := Except.ok.inj (hnames.symm.trans hlist)
  decide

theorem discover_agrees_models : ∃ names, (shelves.perform (discover "models")).1 = .ok names ∧
    Agrees shelves "models" names := by
  obtain ⟨names, hdiscover, -, hagrees⟩ := discover_agrees_iff "models" shelves isProper_shelves
    (by decide) (by decide) (by decide) hasRoom_models
  exact ⟨names, hdiscover, hagrees.2 (by decide)⟩

/-- Brackets are read as a set of characters, so the directory is not even entered. -/
theorem discover_brackets : (shelves.perform (discover "m[1]")).1 = .ok [] := by
  have hparse : Glob.Pattern.parse (Path.join "m[1]" ("*" ++ extension)) =
      .ok ⟨false, [[.char 'm', .oneOf [('1', '1')]], Glob.endingTokens extension.toList],
        false⟩ := by decide
  have hlist : shelves.files.list "." = .ok ["models", "m[1]"] := by decide
  have hexpand : Yields (Glob.expand (Path.join "m[1]" ("*" ++ extension))) 0 "" shelves.files
      (.ok []) shelves.files := by
    rw [Glob.expand, hparse]
    refine Yields.bind ?_ (.pure _ _)
    exact Glob.descend_unfit_yields rfl (by decide) rfl (by decide) hlist (by decide)
  have hdiscover := (discover_of_expand (by decide) hexpand).perform_fst
  rwa [List.filter_nil, List.filterMap_nil, List.mergeSort_nil] at hdiscover

/-- Looking for models does not find those in a directory whose path is read as a pattern for
another one. -/
theorem not_forall_discover_agrees : ¬ ∀ (modelsPath : String) (session : Session),
    session.files.IsProper → session.files.isDirectory modelsPath = true →
      ∃ names, (session.perform (discover modelsPath)).1 = .ok names ∧
        Agrees session modelsPath names := by
  intro hall
  obtain ⟨names, hdiscover, hagrees⟩ := hall "m[1]" shelves isProper_shelves (by decide)
  rw [discover_brackets] at hdiscover
  obtain rfl := Except.ok.inj hdiscover
  have huser := (hagrees.complete "User").2 ⟨by decide, by decide⟩
  cases huser

end Model
end ResponseTypes
