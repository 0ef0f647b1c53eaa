import ResponseTypes.Proofs.ReadingRuns

/-!
# Patterns that begin with a path

A program that looks for the files with an ending in a folder writes the folder's path in front of
the pattern.  Nothing takes the meaning of a special character away, so this finds what is in the
folder only if the path has none.  Then every part of the path is a part of the pattern that is
looked up, and the path that is found for a name leads where the joined path leads, with no more
characters than that.

## Main definitions

- `Glob.IsLiteral`: a text in which no character stands for others.
- `Glob.canFollow`: a path that a pattern which begins with it can be followed along.
- `Glob.Reaches`: how far a pattern has been followed.

## Main statements

- `Glob.matches_ending`: which names fit a pattern for an ending.
- `Glob.Pattern.parse_join`: how the pattern is read.
- `Glob.Reaches.follow`: the literal parts of a pattern lead where the path leads.
- `Glob.expand_ending_yields`: what the pattern finds.
-/

namespace ResponseTypes
namespace Glob

/-! ## Names that fit -/

theorem anyEnd_iff {test : List Char → Bool} {s : List Char} :
    anyEnd test s = true ↔ ∃ ending, ending <:+ s ∧ test ending = true := by
  induction s with
  | nil => simp [anyEnd]
  | cons c rest ih =>
    simp only [anyEnd, Bool.or_eq_true, ih, List.suffix_cons_iff]
    constructor
    · rintro (htest | ⟨ending, hending, htest⟩)
      · exact ⟨_, .inl rfl, htest⟩
      · exact ⟨ending, .inr hending, htest⟩
    · rintro ⟨ending, rfl | hending, htest⟩
      · exact .inl htest
      · exact .inr ⟨ending, hending, htest⟩

/-- Tokens that each stand for one character only fit the text of these characters. -/
theorem matches_map_char {text s : List Char} :
    «matches» (text.map .char) s = true ↔ s = text := by
  induction text generalizing s with
  | nil => simp [«matches»]
  | cons c text ih =>
    cases s with
    | nil => simp [«matches», Token.isSequence]
    | cons d rest =>
      simp [«matches», Token.isSequence, Token.fits, ih, eq_comm (a := c)]

/-- Any characters before a text are the names that end with it. -/
theorem matches_ending {text s : List Char} :
    «matches» (.anySequence :: text.map .char) s = true ↔ text <:+ s := by
  have hsequence : «matches» (.anySequence :: text.map .char) s =
      anyEnd («matches» (text.map .char)) s := by
    simp [«matches», Token.isSequence]
  rw [hsequence, anyEnd_iff]
  simp only [matches_map_char]
  exact ⟨fun ⟨_, hending, heq⟩ => heq ▸ hending, fun h => ⟨text, h, rfl⟩⟩

theorem literal?_map_char (text : List Char) : literal? (text.map .char) = some text := by
  rw [literal?]
  induction text with
  | nil => rfl
  | cons c text ih => simp [List.mapM_cons, ih]

/-! ## Reading -/

/-- A text in which no character stands for others. -/
def IsLiteral (s : List Char) : Prop :=
  ∀ c ∈ s, c ≠ '?' ∧ c ≠ '*' ∧ c ≠ '['

instance (s : List Char) : Decidable (IsLiteral s) :=
  List.decidableBAll (fun c => c ≠ '?' ∧ c ≠ '*' ∧ c ≠ '[') s

theorem readFrom_cons {c : Char} (hc : c ≠ '?' ∧ c ≠ '*' ∧ c ≠ '[') (fuel position : Nat)
    (fresh : Bool) (rest : List Char) : readFrom (fuel + 1) position fresh (c :: rest) =
      (readFrom fuel (position + 1) (c = Path.separator) rest).map (.char c :: ·) := by
  rw [readFrom, if_neg hc.1, if_neg hc.2.1, if_neg hc.2.2]

/-- Reading a text in which no character stands for others keeps its characters and goes on behind
it. -/
theorem readFrom_literal {s : List Char} (hs : IsLiteral s) (fuel : Nat) (rest : List Char)
    {tokens : List Token}
    (hrest : ∀ position fresh, readFrom fuel position fresh rest = .ok tokens)
    (position : Nat) (fresh : Bool) :
    readFrom (s.length + fuel) position fresh (s ++ rest) = .ok (s.map .char ++ tokens) := by
  induction s generalizing position fresh with
  | nil => simpa using hrest position fresh
  | cons c s ih =>
    obtain ⟨hc, hs⟩ := List.forall_mem_cons.1 hs
    rw [List.length_cons, Nat.add_right_comm, List.cons_append, readFrom_cons hc,
      ih (fun d hd => hs d hd)]
    rfl

theorem read_literal {s : List Char} (hs : IsLiteral s) : read s = .ok (s.map .char) := by
  have hnil : ∀ position fresh, readFrom 0 position fresh [] = .ok [] := fun _ _ => rfl
  have hread := readFrom_literal hs 0 [] hnil 0 true
  rwa [List.append_nil, List.append_nil] at hread

/-- The tokens of any characters before a text. -/
def endingTokens (text : List Char) : List Token :=
  .anySequence :: text.map .char

theorem readFrom_ending {text : List Char} (htext : IsLiteral text) (position : Nat)
    (fresh : Bool) :
    readFrom (text.length + 1) position fresh ('*' :: text) = .ok (endingTokens text) := by
  have hdrop : text.dropWhile (· = '*') = text := by
    cases text with
    | nil => rfl
    | cons c text => simp [(htext c List.mem_cons_self).2.1]
  have hnil : ∀ position fresh, readFrom 0 position fresh [] = .ok [] := fun _ _ => rfl
  have hread := readFrom_literal htext 0 [] hnil (position + 1) false
  rw [List.append_nil, List.append_nil, Nat.add_zero] at hread
  rw [readFrom, if_neg (by decide), if_pos rfl, hdrop]
  dsimp only
  rw [Nat.sub_self, hread]
  rfl

/-! ## Patterns below a directory -/

namespace Pattern

/-- The texts of the parts of a path that a pattern begins with. -/
def folderTexts (folder : List Char) : List (List Char) :=
  if Path.isAbsolute folder then (texts folder).tail else texts folder

/-- A path is the text before a separator, with the separator or without it. -/
theorem exists_stretch {folder : List Char} (hfolder : folder ≠ []) :
    ∃ stretch, stretch <+: folder ∧ texts folder = Path.split stretch ∧
      Path.parts stretch = Path.parts folder ∧
      Path.isAbsolute (stretch ++ [Path.separator]) = Path.isAbsolute folder ∧
      ∀ name, Path.IsName name →
        Path.joinChars folder name = stretch ++ Path.separator :: name := by
  obtain ⟨c, rest, rfl⟩ := List.exists_cons_of_ne_nil hfolder
  have htexts : texts (c :: rest) =
      if (Path.split (c :: rest)).getLast? = some [] then (Path.split (c :: rest)).dropLast
      else Path.split (c :: rest) := rfl
  by_cases hlast : (c :: rest).getLast? = some Path.separator
  · obtain ⟨stretch, hstretch⟩ := List.getLast?_eq_some_iff.1 hlast
    refine ⟨stretch, ⟨_, hstretch.symm⟩, ?_, ?_, by rw [hstretch], fun name hname => ?_⟩
    · have hsplit : Path.split (c :: rest) = Path.split stretch ++ [[]] := by
        rw [hstretch, Path.split_append_separator]
        rfl
      rw [htexts, hsplit, if_pos (by simp), List.dropLast_concat]
    · rw [hstretch, Path.parts_append_separator]
      exact (List.append_nil _).symm
    · simp [Path.joinChars, Path.isAbsolute_of_isName hname, hstretch]
  · refine ⟨c :: rest, List.prefix_rfl, ?_, rfl, rfl, fun name hname => ?_⟩
    · rw [htexts, if_neg]
      rintro hempty
      obtain ⟨before, hbefore⟩ := List.getLast?_eq_some_iff.1 hempty
      have hflat := Path.flatMap_split (c :: rest)
      rw [hbefore, List.flatMap_append] at hflat
      refine hlast ?_
      have hend := congrArg List.getLast? hflat
      simpa [List.getLast?_append] using hend.symm
    · simp [Path.joinChars, Path.isAbsolute_of_isName hname, hlast]

/-- The texts of a joined path are those of the folder, and then the name. -/
theorem texts_joinChars {folder name : List Char} (hfolder : folder ≠ [])
    (hname : Path.IsName name) :
    texts (if Path.isAbsolute folder then (Path.joinChars folder name).drop 1
      else Path.joinChars folder name) = folderTexts folder ++ [name] := by
  -- a name is never empty, so the last text is not dropped
  have hname' : ∀ s, texts (s ++ Path.separator :: name) = Path.split s ++ [name] := by
    intro s
    have hsplit : Path.split (s ++ Path.separator :: name) = Path.split s ++ [name] := by
      rw [Path.split_append_separator, Path.split_of_single hname.single]
    rw [texts.eq_def]
    split
    · next heq => simp at heq
    · simp [hsplit, hname.nonempty]
  obtain ⟨stretch, -, htexts, -, habsolute, hjoin⟩ := exists_stretch hfolder
  rw [hjoin name hname, folderTexts, htexts]
  split_ifs with hroot
  · rw [hroot] at habsolute
    cases stretch with
    | nil =>
      have hsplit := Path.split_of_single hname.single
      rw [List.nil_append, List.drop_one, List.tail_cons, texts.eq_def]
      split
      · exact absurd rfl hname.nonempty
      · simp [hsplit, hname.nonempty, Path.split]
    | cons c stretch =>
      obtain rfl : c = Path.separator := by simpa [Path.isAbsolute] using habsolute
      rw [List.cons_append, List.drop_one, List.tail_cons, hname', Path.split_cons_separator,
        List.tail_cons]
  · exact hname' stretch

/-- The character at the front of a path that starts at the root, if it is not one of a part. -/
def front (folder : List Char) : List Char :=
  if Path.isAbsolute folder then [Path.separator] else []

/-- The parts of a path are the texts that are not empty. -/
theorem filter_folderTexts {folder : List Char} (hfolder : folder ≠ []) :
    (folderTexts folder).filter (!·.isEmpty) = Path.parts folder := by
  obtain ⟨stretch, -, htexts, hparts, habsolute, -⟩ := exists_stretch hfolder
  rw [folderTexts, htexts, ← hparts, Path.parts]
  split_ifs with hroot
  · rw [hroot] at habsolute
    cases stretch with
    | nil => rfl
    | cons c stretch =>
      obtain rfl : c = Path.separator := by simpa [Path.isAbsolute] using habsolute
      rw [Path.split_cons_separator]
      rfl
  · rfl

/-- A path with a name joined to it is written as its texts, with a separator after each, and then
the name. -/
theorem front_append_texts {folder name : List Char} (hfolder : folder ≠ [])
    (hname : Path.IsName name) :
    front folder ++ (folderTexts folder).flatMap (· ++ [Path.separator]) ++ name =
      Path.joinChars folder name := by
  obtain ⟨stretch, -, htexts, -, habsolute, hjoin⟩ := exists_stretch hfolder
  have hflat := Path.flatMap_split_append stretch
  rw [front, folderTexts, htexts, hjoin name hname, List.append_cons, ← hflat]
  congr 1
  split_ifs with hroot
  · rw [hroot] at habsolute
    cases stretch with
    | nil => rfl
    | cons c stretch =>
      obtain rfl : c = Path.separator := by simpa [Path.isAbsolute] using habsolute
      rw [Path.split_cons_separator]
      rfl
  · rfl

theorem single_of_mem_folderTexts {folder part : List Char} (hfolder : folder ≠ [])
    (hpart : part ∈ folderTexts folder) : Path.separator ∉ part := by
  obtain ⟨stretch, -, htexts, -⟩ := exists_stretch hfolder
  rw [folderTexts, htexts] at hpart
  split_ifs at hpart
  · exact Path.single_of_mem_split (List.mem_of_mem_tail hpart)
  · exact Path.single_of_mem_split hpart

theorem isLiteral_of_mem_folderTexts {folder part : List Char} (hfolder : folder ≠ [])
    (hliteral : IsLiteral folder) (hpart : part ∈ folderTexts folder) : IsLiteral part := by
  obtain ⟨stretch, hstretch, htexts, -⟩ := exists_stretch hfolder
  have hsplit : part ∈ Path.split stretch := by
    rw [folderTexts, htexts] at hpart
    split_ifs at hpart
    · exact List.mem_of_mem_tail hpart
    · exact hpart
  have hsublist : (Path.separator :: part).Sublist (Path.separator :: stretch) := by
    rw [← Path.flatMap_split stretch]
    simpa using (List.singleton_sublist.2 hsplit).flatMap (Path.separator :: ·)
  exact fun c hc => hliteral c
    (hstretch.sublist.subset ((List.cons_sublist_cons.1 hsublist).subset hc))

theorem mapM_read {texts : List (List Char)} (h : ∀ text ∈ texts, IsLiteral text) :
    texts.mapM read = .ok (texts.map (·.map .char)) := by
  induction texts with
  | nil => rfl
  | cons text texts ih =>
    obtain ⟨htext, htexts⟩ := List.forall_mem_cons.1 h
    rw [List.mapM_cons, read_literal htext, ih htexts]
    rfl

/-- A pattern for the names with an ending in a folder, whose path stands for itself. -/
theorem parse_join {folder : String} {ending : List Char} (hfolder : folder ≠ "")
    (hliteral : IsLiteral folder.toList) (hending : IsLiteral ending)
    (hsingle : Path.separator ∉ ending) :
    parse (Path.join folder (String.ofList ('*' :: ending))) =
      .ok ⟨Path.isAbsolute folder.toList,
        (folderTexts folder.toList).map (·.map .char) ++ [endingTokens ending], false⟩ := by
  have hne : folder.toList ≠ [] := by simpa using hfolder
  have hname : Path.IsName ('*' :: ending) := ⟨by simp, by simpa [Path.separator] using hsingle⟩
  have hread : read ('*' :: ending) = .ok (endingTokens ending) :=
    readFrom_ending hending 0 true
  have hwhole : ∃ tokens, read (Path.joinChars folder.toList ('*' :: ending)) = .ok tokens := by
    obtain ⟨stretch, hstretch, -, -, -, hjoin⟩ := exists_stretch hne
    have hstretch : IsLiteral (stretch ++ [Path.separator]) := by
      intro c hc
      rcases List.mem_append.1 hc with hc | hc
      · exact hliteral c (hstretch.sublist.subset hc)
      · obtain rfl := List.mem_singleton.1 hc
        decide
    rw [hjoin _ hname, List.append_cons, read, List.length_append]
    exact ⟨_, readFrom_literal hstretch _ _ (readFrom_ending hending) 0 true⟩
  obtain ⟨tokens, hwhole⟩ := hwhole
  have hparts : (folderTexts folder.toList ++ ['*' :: ending]).mapM read =
      .ok ((folderTexts folder.toList).map (·.map .char) ++ [endingTokens ending]) := by
    rw [List.mapM_append,
      mapM_read fun part hpart => isLiteral_of_mem_folderTexts hne hliteral hpart,
      List.mapM_cons, hread]
    rfl
  have hlast : decide ((Path.joinChars folder.toList ('*' :: ending)).getLast? =
      some Path.separator) = false :=
    decide_eq_false (Path.getLast?_joinChars folder.toList hname)
  rw [parse, Files.toList_join, String.toList_ofList, hwhole]
  dsimp only [bind, Except.bind, pure, Except.pure]
  rw [Path.isAbsolute_joinChars folder.toList hname, texts_joinChars hne hname, hparts, hlast]

end Pattern

/-! ## Following -/

/-- A path leads to the start where paths start from if it has no parts but points. -/
theorem isHere_iff {path : String} : isHere path = true ↔
    Path.isAbsolute path.toList = false ∧ Path.parts path.toList ≠ [] ∧
      ∀ part ∈ Path.parts path.toList, part = ['.'] := by
  rw [isHere, decide_eq_true_eq, Path.components]
  cases hparts : Path.parts path.toList with
  | nil => simp
  | cons first others =>
    cases habsolute : Path.isAbsolute path.toList with
    | false => simp [List.filter_eq_nil_iff]
    | true =>
      simp only [if_true, Bool.true_eq_false, false_and, iff_false]
      intro heq
      have hpoint : ['.'] ∈ (first :: others).filter (· ≠ ['.']) := by rw [heq]; simp
      simpa using (List.mem_filter.1 hpoint).2

theorem isHere_start : isHere "." = true := by decide

theorem isHere_root : isHere (String.singleton Path.separator) = false := by decide

/-- A path that does not stand for the start does not come to do so. -/
theorem isHere_join {path name : String} (hname : Path.separator ∉ name.toList) (hne : path ≠ "")
    (hhere : isHere path = false) : isHere (Path.join path name) = false := by
  have hne' : path.toList ≠ [] := by simpa using hne
  refine Bool.eq_false_iff.2 fun hjoin => Bool.eq_false_iff.1 hhere ?_
  rw [isHere_iff, Files.toList_join] at hjoin
  rw [isHere_iff]
  by_cases hempty : name.toList = []
  · rwa [hempty, (Path.joinChars_nil hne').1, (Path.joinChars_nil hne').2] at hjoin
  · have hname' : Path.IsName name.toList := ⟨hempty, hname⟩
    rw [Path.isAbsolute_joinChars _ hname', Path.parts_joinChars _ hname'] at hjoin
    obtain ⟨habsolute, -, hpoints⟩ := hjoin
    exact ⟨habsolute, Path.parts_ne_nil hne' habsolute, fun part hpart =>
      hpoints part (List.mem_append_left _ hpart)⟩

open Session

variable {files : Files} {path : String} {behind part : List Char} {location next goal : Location}
variable {t : Int} {date : String}

/-- A pattern has been followed to a path.  The path leads to a directory, and is written with no
more than the characters of the pattern that are behind. -/
structure Reaches (files : Files) (path : String) (behind : List Char) (location : Location) :
    Prop where
  locate : files.locate path = .ok location
  directory : files.occupancy location = .directory
  start : isHere path = true → path = "."
  short : ∀ name : String, (inside path name).toList.Sublist (behind ++ name.toList)

namespace Reaches

theorem ne_empty (h : Reaches files path behind location) : path ≠ "" := by
  rintro rfl
  cases h.locate

theorem home (h : Reaches files "." behind location) : location = files.home := by
  have hlocate := h.locate
  have hhome : files.locate "." = files.walk files.home [['.']] := by
    rw [Files.locate_eq, Files.follow_of_pathFault_none files (by decide)]
    rfl
  rw [hhome, Files.walk_singleton, Files.step_eq_ok] at hlocate
  exact (Except.ok.inj hlocate.2).symm

/-- A name in the directory of a path leads to the name at the directory's location. -/
theorem locate_inside (h : Reaches files path behind location) {name : String}
    (hname : Path.IsName name.toList) (hpath : Files.pathFault? (inside path name) = none) :
    files.locate (inside path name) = files.step location name.toList := by
  rw [inside] at hpath ⊢
  split_ifs at hpath ⊢ with hhere
  · obtain rfl := h.start hhere
    have hlast : Files.closing name = [] := by
      rw [Files.closing, if_neg fun hlast => hname.single (List.mem_of_getLast? hlast)]
    have horigin : files.origin name = files.home := by
      rw [Files.origin, Path.isAbsolute_of_isName hname]
      rfl
    rw [Files.locate_eq, Files.follow_of_pathFault_none files hpath, hlast, horigin,
      Path.parts_of_isName hname, List.append_nil, Files.walk_singleton, h.home]
  · have hfollow := Files.follow_of_locate h.locate
    rw [Files.follow_of_pathFault_none files (Files.pathFault?_of_follow h.locate)] at hfollow
    rw [Files.locate_join_eq_walk files hname hpath, hfollow]
    rfl

/-- An empty part stays where it is. -/
theorem locate_inside_nil (h : Reaches files path behind location) (hhere : isHere path = false)
    (hpath : Files.pathFault? (inside path "") = none) :
    files.locate (inside path "") = .ok location := by
  have hne : path.toList ≠ [] := by simpa using h.ne_empty
  rw [inside, hhere, if_neg Bool.false_ne_true] at hpath ⊢
  refine Files.locate_of_follow ?_ h.directory
  have hfollow := Files.follow_of_locate h.locate
  rw [Files.follow_of_pathFault_none files (Files.pathFault?_of_follow h.locate)] at hfollow
  have hempty : "".toList = [] := rfl
  rw [Files.follow_of_pathFault_none files hpath, Files.origin, Files.toList_join, hempty,
    (Path.joinChars_nil hne).1, (Path.joinChars_nil hne).2]
  exact hfollow

theorem isDirectory (h : Reaches files path behind location) : files.isDirectory path = true :=
  Files.isDirectory_iff.2 ⟨location, h.locate, h.directory⟩

theorem leads_yields {following : String} {behind' : List Char}
    (h : Reaches files path behind location) (hnext : Reaches files following behind' next)
    (name : String) : Yields (leads path following name) t date files true files := by
  rw [leads]
  split_ifs
  · have hdirectory : Yields (Host.isDirectory path) t date files _ files :=
      .isDirectory path files
    rwa [h.isDirectory] at hdirectory
  · have hexists : files.exists? following = true := by
      have hdirectory := hnext.isDirectory
      rw [Files.isDirectory] at hdirectory
      rw [Files.exists?]
      split at hdirectory
      · next hfind => rw [hfind]; rfl
      · cases hdirectory
    have hasked : Yields (Host.exists? following) t date files _ files := .exists? following files
    rwa [hexists] at hasked

end Reaches

/-- Whether no empty part comes right after the points that parts begin with. -/
def noGap : List (List Char) → Bool
  | [] => true
  | part :: others => if part = ['.'] then noGap others else !part.isEmpty

/-- A walk to a directory starts from a directory. -/
theorem directory_of_walk {parts : List (List Char)} (hwalk : files.walk location parts = .ok goal)
    (hgoal : files.occupancy goal = .directory) : files.occupancy location = .directory := by
  cases parts with
  | nil =>
    obtain rfl := Except.ok.inj hwalk
    exact hgoal
  | cons part others =>
    obtain ⟨next, hstep, -⟩ := Files.walk_cons_eq_ok.1 hwalk
    exact (Files.step_eq_ok.1 hstep).1

namespace Reaches

theorem inside_ne_empty (h : Reaches files path behind location)
    (hpart : isHere path = true → part ≠ []) : inside path (String.ofList part) ≠ "" := by
  rw [inside]
  split_ifs with hhere
  · simpa using hpart hhere
  · have hne : path.toList ≠ [] := by simpa using h.ne_empty
    rw [Path.join, Path.joinChars, String.toList_ofList]
    split_ifs with habsolute
    · rintro hempty
      obtain rfl : part = [] := by simpa using hempty
      simp_all [Path.isAbsolute]
    · simp [h.ne_empty]
    · simp

/-- The first of several parts leads on: an empty one stays in the directory. -/
theorem locate_next {others : List (List Char)} (h : Reaches files path behind location)
    (hsingle : Path.separator ∉ part) (hpart : isHere path = true → part ≠ [])
    (hwalk : files.walk location ((part :: others).filter (!·.isEmpty)) = .ok goal)
    (hpath : Files.pathFault? (inside path (String.ofList part)) = none) :
    ∃ next, files.locate (inside path (String.ofList part)) = .ok next ∧
      files.walk next (others.filter (!·.isEmpty)) = .ok goal := by
  by_cases hempty : part = []
  · subst hempty
    have hhere : isHere path = false := Bool.eq_false_iff.2 fun hstart => hpart hstart rfl
    rw [List.filter_cons_of_neg (by simp)] at hwalk
    exact ⟨location, h.locate_inside_nil hhere hpath, hwalk⟩
  · rw [List.filter_cons_of_pos (by simpa using hempty)] at hwalk
    obtain ⟨next, hstep, hothers⟩ := Files.walk_cons_eq_ok.1 hwalk
    have hname : Path.IsName (String.ofList part).toList := by
      rw [String.toList_ofList]
      exact ⟨hempty, hsingle⟩
    refine ⟨next, ?_, hothers⟩
    rw [h.locate_inside hname hpath, String.toList_ofList, hstep]

/-- A path that stands for the start after one more part did so before, and the part is a point. -/
theorem point_of_isHere_inside (h : Reaches files path behind location)
    (hsingle : Path.separator ∉ part) (hpart : isHere path = true → part ≠ [])
    (hhere : isHere (inside path (String.ofList part)) = true) :
    isHere path = true ∧ part = ['.'] := by
  rw [inside] at hhere
  split_ifs at hhere with hstart
  · have hname : Path.IsName part := ⟨hpart hstart, hsingle⟩
    have hpoint := (isHere_iff.1 hhere).2.2
    rw [String.toList_ofList, Path.parts_of_isName hname] at hpoint
    exact ⟨hstart, hpoint part List.mem_cons_self⟩
  · rw [isHere_join (by simpa using hsingle) h.ne_empty (by simpa using hstart)] at hhere
    cases hhere

/-- One part further. -/
theorem step (h : Reaches files path behind location) (hsingle : Path.separator ∉ part)
    (hlocate : files.locate (inside path (String.ofList part)) = .ok next)
    (hnext : files.occupancy next = .directory) (hpart : isHere path = true → part ≠ []) :
    Reaches files (inside path (String.ofList part)) (behind ++ part ++ [Path.separator])
      next := by
  refine ⟨hlocate, hnext, fun hhere => ?_, fun name => ?_⟩
  · obtain ⟨hstart, rfl⟩ := h.point_of_isHere_inside hsingle hpart hhere
    rw [inside, if_pos hstart]
  · rw [inside]
    split_ifs
    · exact List.sublist_append_right _ _
    · have hjoin := Path.joinChars_sublist (inside path (String.ofList part)).toList name.toList
      have hpath := (h.short (String.ofList part)).append_right (Path.separator :: name.toList)
      rw [Files.toList_join]
      simpa using hjoin.trans hpath

end Reaches

/-- A pattern is followed along literal parts that lead to a directory. -/
theorem Reaches.follow {ahead : List (List Char)} (h : Reaches files path behind location)
    (hsingle : ∀ part ∈ ahead, Path.separator ∉ part)
    (hgap : isHere path = true → noGap ahead = true)
    (hwalk : files.walk location (ahead.filter (!·.isEmpty)) = .ok goal)
    (hgoal : files.occupancy goal = .directory)
    (hpath : ∀ shorter : String, shorter ≠ "" → (shorter.toList ++ [Path.separator]).Sublist
      (behind ++ ahead.flatMap (· ++ [Path.separator])) → Files.pathFault? shorter = none) :
    ∃ reached, Reaches files reached (behind ++ ahead.flatMap (· ++ [Path.separator])) goal ∧
      ∀ t date deeper last found, Yields (descend false deeper [last] reached) t date files found
        files → Yields (descend false deeper (ahead.map (·.map .char) ++ [last]) path) t date files
          found files := by
  induction ahead generalizing path behind location with
  | nil =>
    obtain rfl := Except.ok.inj hwalk
    exact ⟨path, by simpa using h, fun _ _ _ _ _ => id⟩
  | cons part others ih =>
    obtain ⟨hpart, hothers⟩ := List.forall_mem_cons.1 hsingle
    rw [List.flatMap_cons, ← List.append_assoc, ← List.append_assoc] at hpath ⊢
    have hne : isHere path = true → part ≠ [] := by
      rintro hstart rfl
      simpa [noGap] using hgap hstart
    have hfault : Files.pathFault? (inside path (String.ofList part)) = none := by
      refine hpath _ (h.inside_ne_empty hne) (List.Sublist.trans ?_ (List.sublist_append_left _ _))
      simpa using (h.short (String.ofList part)).append_right [Path.separator]
    obtain ⟨next, hlocate, hrest⟩ := h.locate_next hpart hne hwalk hfault
    have hnext := h.step hpart hlocate (directory_of_walk hrest hgoal) hne
    have hgap' : isHere (inside path (String.ofList part)) = true → noGap others = true := by
      intro hhere
      obtain ⟨hstart, rfl⟩ := h.point_of_isHere_inside hpart hne hhere
      simpa [noGap] using hgap hstart
    obtain ⟨reached, hreached, hfound⟩ := ih hnext hothers hgap' hrest hpath
    refine ⟨reached, hreached, fun t date deeper last found hlast => ?_⟩
    exact descend_leads_yields (literal?_map_char part) (h.leads_yields hnext _)
      (hfound t date deeper last found hlast)

/-- Where a pattern starts that begins with a path. -/
def startOf (folder : List Char) : String :=
  if Path.isAbsolute folder then String.singleton Path.separator else "."

theorem reaches_start {folder : String}
    (hdirectory : files.occupancy (files.origin folder) = .directory) :
    Reaches files (startOf folder.toList) (Pattern.front folder.toList)
      (files.origin folder) := by
  rw [Files.origin] at hdirectory ⊢
  rw [startOf, Pattern.front]
  split_ifs at hdirectory ⊢ with habsolute
  · refine ⟨rfl, rfl, fun hhere => ?_, fun name => ?_⟩
    · rw [isHere_root] at hhere
      cases hhere
    · rw [inside, isHere_root, if_neg Bool.false_ne_true, Files.toList_join, Path.joinChars]
      split_ifs
      · exact List.sublist_append_right _ _
      · exact List.Sublist.refl _
      · simp_all
  · refine ⟨?_, hdirectory, fun _ => rfl, fun name => ?_⟩
    · rw [Files.locate_eq, Files.follow_of_pathFault_none files (by decide)]
      change files.walk files.home [['.']] = _
      rw [Files.walk_singleton, Files.step_of_directory hdirectory]
      rfl
    · rw [inside, if_pos isHere_start]
      exact List.Sublist.refl _

/-- Whether a pattern that begins with a path can be followed along it: where paths start, no empty
part may come right after points. -/
def canFollow (folder : List Char) : Bool :=
  Path.isAbsolute folder || noGap (Pattern.texts folder)

/-- A pattern for the names with an ending in a folder finds what is in the folder. -/
theorem expand_ending_yields (t : Int) (date : String) {folder : String} {ending : List Char}
    {names : List String}
    (hliteral : IsLiteral folder.toList) (hfollow : canFollow folder.toList = true)
    (hending : IsLiteral ending) (hsingle : Path.separator ∉ ending)
    (hlocate : files.locate folder = .ok location)
    (hdirectory : files.occupancy location = .directory) (hlist : files.list folder = .ok names) :
    ∃ reached behind, Reaches files reached behind location ∧
      (∀ name, Path.IsName name → behind ++ name = Path.joinChars folder.toList name) ∧
      Yields (expand (Path.join folder (String.ofList ('*' :: ending)))) t date files
        (.ok (((names.mergeSort fun a b => decide (a ≤ b)).filter fun name =>
          «matches» (endingTokens ending) name.toList).map (inside reached))) files := by
  have hne : folder ≠ "" := by
    rintro rfl
    cases hlocate
  have hne' : folder.toList ≠ [] := by simpa using hne
  have hpath := Files.pathFault?_of_follow hlocate
  have hwalk := Files.follow_of_locate hlocate
  rw [Files.follow_of_pathFault_none files hpath, ← Pattern.filter_folderTexts hne'] at hwalk
  have hstart : Reaches files (startOf folder.toList) _ _ :=
    reaches_start (directory_of_walk hwalk hdirectory)
  have hgap : isHere (startOf folder.toList) = true →
      noGap (Pattern.folderTexts folder.toList) = true := by
    rw [canFollow, Bool.or_eq_true] at hfollow
    rw [startOf, Pattern.folderTexts]
    split_ifs with habsolute
    · intro hhere
      rw [isHere_root] at hhere
      cases hhere
    · exact fun _ => hfollow.resolve_left (by simpa using habsolute)
  have hshort : ∀ shorter : String, shorter ≠ "" → (shorter.toList ++ [Path.separator]).Sublist
      (Pattern.front folder.toList ++
        (Pattern.folderTexts folder.toList).flatMap (· ++ [Path.separator])) →
      Files.pathFault? shorter = none := by
    intro shorter hshorter hsublist
    obtain ⟨stretch, hstretch, -, -, -, hjoin⟩ := Pattern.exists_stretch hne'
    have hname : Path.IsName ['*'] := ⟨by simp, by decide⟩
    have hbehind := Pattern.front_append_texts hne' hname
    rw [hjoin _ hname, List.append_cons stretch, List.append_cancel_right_eq] at hbehind
    rw [hbehind, List.append_sublist_append_right] at hsublist
    exact Files.pathFault?_of_sublist hpath (hsublist.trans hstretch.sublist) hshorter
  obtain ⟨reached, hreached, hfound⟩ := hstart.follow
    (fun part hpart => Pattern.single_of_mem_folderTexts hne' hpart) hgap hwalk hdirectory hshort
  refine ⟨reached, _, hreached, fun name hname => Pattern.front_append_texts hne' hname, ?_⟩
  have hlist' : files.list reached = .ok names := by
    rw [← hlist, Files.list, Files.list, hreached.locate, hlocate]
  rw [expand, Pattern.parse_join hne hliteral hending hsingle]
  refine Yields.bind ?_ (.pure _ _)
  exact hfound _ _ (below false 4095) _ _
    (descend_names_yields rfl (by simp [endingTokens]) rfl hreached.isDirectory hlist')

end Glob
end ResponseTypes
