import Mathlib.Data.List.Basic
import Mathlib.Data.List.Flatten
import ResponseTypes.Path

/-!
# The parts of joined paths and of parents

A path that is joined to a name has the parts of the path and the name as the last one, and the
parent of a path has the components of the path except the last one.

## Main definitions

- `Path.IsName`: a text that is one part of a path.
- `Path.Ancestor`: a path, its parent, the parent of that, and so on.

## Main statements

- `Path.parts_joinChars`: the parts of a joined path.
- `Path.parts_parent`: the parts of a parent.
-/

namespace ResponseTypes
namespace Path

/-- A text that is one part of a path: it is not empty and has no separator. -/
structure IsName (name : List Char) : Prop where
  nonempty : name ≠ []
  single : separator ∉ name

/-! ## Splitting -/

theorem split_ne_nil (s : List Char) : split s ≠ [] := by
  cases s with
  | nil => simp [split]
  | cons c rest =>
    rw [split]
    split_ifs
    · simp
    · cases split rest <;> simp

theorem split_cons_separator (s : List Char) : split (separator :: s) = [] :: split s := by
  rw [split, if_pos rfl]

/-- Any other character goes to the front of the first part. -/
theorem split_cons_of_ne {c : Char} (hc : c ≠ separator) {s part : List Char}
    {others : List (List Char)} (hs : split s = part :: others) :
    split (c :: s) = (c :: part) :: others := by
  rw [split, if_neg hc, hs]

theorem split_append_separator (s t : List Char) :
    split (s ++ separator :: t) = split s ++ split t := by
  induction s with
  | nil => rw [List.nil_append, split_cons_separator]; rfl
  | cons c s ih =>
    by_cases hc : c = separator
    · rw [hc, List.cons_append, split_cons_separator, split_cons_separator, ih]
      rfl
    · obtain ⟨part, others, hs⟩ := List.exists_cons_of_ne_nil (split_ne_nil s)
      rw [hs] at ih
      rw [List.cons_append, split_cons_of_ne hc ih, split_cons_of_ne hc hs]
      rfl

theorem split_of_single {s : List Char} (hs : separator ∉ s) : split s = [s] := by
  induction s with
  | nil => rfl
  | cons c s ih =>
    obtain ⟨hc, hs⟩ := not_or.1 (mt List.mem_cons.2 hs)
    exact split_cons_of_ne (Ne.symm hc) (ih hs)

theorem single_of_mem_split {s part : List Char} (hpart : part ∈ split s) : separator ∉ part := by
  induction s generalizing part with
  | nil => simp_all [split]
  | cons c s ih =>
    by_cases hc : c = separator
    · rw [hc, split_cons_separator, List.mem_cons] at hpart
      rcases hpart with rfl | hpart
      · exact List.not_mem_nil
      · exact ih hpart
    · obtain ⟨first, others, hs⟩ := List.exists_cons_of_ne_nil (split_ne_nil s)
      rw [split_cons_of_ne hc hs, List.mem_cons] at hpart
      rw [hs] at ih
      rcases hpart with rfl | hpart
      · have hfirst := ih List.mem_cons_self
        simp [Ne.symm hc, hfirst]
      · exact ih (List.mem_cons_of_mem _ hpart)

/-! ## Parts -/

theorem parts_append_separator (s t : List Char) :
    parts (s ++ separator :: t) = parts s ++ parts t := by
  rw [parts, split_append_separator, List.filter_append]
  rfl

theorem parts_cons_separator (s : List Char) : parts (separator :: s) = parts s := by
  rw [parts, split_cons_separator]
  rfl

theorem parts_of_isName {name : List Char} (h : IsName name) : parts name = [name] := by
  rw [parts, split_of_single h.single]
  simp [h.nonempty]

theorem isName_of_mem_parts {s part : List Char} (h : part ∈ parts s) : IsName part := by
  obtain ⟨hsplit, hne⟩ := List.mem_filter.1 h
  exact ⟨by simpa using hne, single_of_mem_split hsplit⟩

/-- The last part of a path that does not end with a separator ends as the path does. -/
theorem parts_of_getLast? {s : List Char} {c : Char} (h : s.getLast? = some c)
    (hc : c ≠ separator) :
    ∃ others last, parts s = others ++ [last] ∧ IsName last ∧ last.getLast? = some c := by
  by_cases hsingle : separator ∈ s
  · obtain ⟨first, rest, rfl, -⟩ := List.eq_append_cons_of_mem hsingle
    rw [List.getLast?_append_cons] at h
    cases rest with
    | nil => exact absurd (Option.some.inj h).symm hc
    | cons d rest =>
      rw [List.getLast?_cons_cons] at h
      obtain ⟨others, last, hparts, hname, hlast⟩ := parts_of_getLast? h hc
      refine ⟨parts first ++ others, last, ?_, hname, hlast⟩
      rw [parts_append_separator, hparts, List.append_assoc]
  · have hne : s ≠ [] := by
      rintro rfl
      cases h
    have hname : IsName s := ⟨hne, hsingle⟩
    exact ⟨[], s, parts_of_isName hname, hname, h⟩
termination_by s.length

theorem components_sublist (s : List Char) : (components s).Sublist (parts s) := by
  rw [components]
  split
  · exact List.nil_sublist _
  · rename_i first rest hparts
    rw [hparts]
    split_ifs
    · exact List.filter_sublist
    · exact List.cons_sublist_cons.2 List.filter_sublist

theorem isName_of_mem_components {s part : List Char} (h : part ∈ components s) : IsName part :=
  isName_of_mem_parts ((components_sublist s).subset h)

theorem mem_of_mem_stem {name : List Char} {c : Char} (h : c ∈ stem name) : c ∈ name := by
  rw [stem] at h
  split at h
  · next mark before hdrop =>
    split_ifs at h
    · exact h
    · have hmem : c ∈ name.reverse.dropWhile (· ≠ '.') := by
        rw [hdrop]
        exact List.mem_cons_of_mem _ (List.mem_reverse.1 h)
      exact List.mem_reverse.1 ((List.dropWhile_sublist _).subset hmem)
  · exact h

/-- The name of a file without its extension is part of one part of a path. -/
theorem separator_not_mem_fileStem {path name : String} (h : fileStem? path = some name) :
    separator ∉ name.toList := by
  obtain ⟨file, hfile, rfl⟩ := Option.map_eq_some_iff.1 h
  rw [String.toList_ofList]
  rw [fileName?] at hfile
  split at hfile
  · next last hlast =>
    split_ifs at hfile
    obtain rfl := Option.some.inj hfile
    exact fun hmem => (isName_of_mem_components (List.mem_of_getLast? hlast)).single
      (mem_of_mem_stem hmem)
  · cases hfile

/-! ## Joined paths -/

theorem isAbsolute_of_isName {name : List Char} (h : IsName name) : isAbsolute name = false := by
  obtain ⟨c, s, rfl⟩ := List.exists_cons_of_ne_nil h.nonempty
  have hc : c ≠ separator := fun heq => h.single (heq ▸ List.mem_cons_self)
  simpa [isAbsolute] using hc

/-- The ways a name is joined to a directory: alone, after a separator that is there, or after one
that is put between. -/
theorem joinChars_cases (directory : List Char) {name : List Char} (h : IsName name) :
    (directory = [] ∧ joinChars directory name = name) ∨
    (∃ s, directory = s ++ [separator] ∧ joinChars directory name = s ++ separator :: name) ∨
    (directory ≠ [] ∧ joinChars directory name = directory ++ separator :: name) := by
  by_cases hempty : directory = []
  · exact .inl ⟨hempty, by simp [joinChars, hempty]⟩
  · by_cases hlast : directory.getLast? = some separator
    · obtain ⟨s, rfl⟩ := List.getLast?_eq_some_iff.1 hlast
      exact .inr (.inl ⟨s, rfl, by simp [joinChars, isAbsolute_of_isName h]⟩)
    · exact .inr (.inr ⟨hempty, by simp [joinChars, isAbsolute_of_isName h, hempty, hlast]⟩)

/-- A joined path has the parts of the directory, and then the name. -/
theorem parts_joinChars (directory : List Char) {name : List Char} (h : IsName name) :
    parts (joinChars directory name) = parts directory ++ [name] := by
  rcases joinChars_cases directory h with ⟨rfl, hjoin⟩ | ⟨s, rfl, hjoin⟩ | ⟨-, hjoin⟩
  · rw [hjoin, parts_of_isName h]; rfl
  · have hnil : parts [] = [] := rfl
    rw [hjoin, parts_append_separator, parts_append_separator, parts_of_isName h, hnil,
      List.append_nil]
  · rw [hjoin, parts_append_separator, parts_of_isName h]

theorem isAbsolute_joinChars (directory : List Char) {name : List Char} (h : IsName name) :
    isAbsolute (joinChars directory name) = isAbsolute directory := by
  rcases joinChars_cases directory h with ⟨rfl, hjoin⟩ | ⟨s, rfl, hjoin⟩ | ⟨hne, hjoin⟩
  · rw [hjoin, isAbsolute_of_isName h]; rfl
  · rw [hjoin]
    cases s <;> simp [isAbsolute]
  · rw [hjoin]
    obtain ⟨c, s, rfl⟩ := List.exists_cons_of_ne_nil hne
    rfl

/-- The name ends a joined path, so no separator does. -/
theorem getLast?_joinChars (directory : List Char) {name : List Char} (h : IsName name) :
    (joinChars directory name).getLast? ≠ some separator := by
  have hlast : ∀ s : List Char, (s ++ name).getLast? ≠ some separator := by
    intro s heq
    rw [List.getLast?_append_of_ne_nil _ h.nonempty] at heq
    exact h.single (List.mem_of_getLast? heq)
  rcases joinChars_cases directory h with ⟨-, hjoin⟩ | ⟨s, -, hjoin⟩ | ⟨-, hjoin⟩
  · rw [hjoin]; exact hlast []
  · rw [hjoin]; simpa using hlast (s ++ [separator])
  · rw [hjoin]; simpa using hlast (directory ++ [separator])

/-- A joined path begins with the directory. -/
theorem prefix_joinChars (directory : List Char) {name : List Char} (h : IsName name) :
    directory <+: joinChars directory name := by
  rcases joinChars_cases directory h with ⟨rfl, hjoin⟩ | ⟨s, rfl, hjoin⟩ | ⟨-, hjoin⟩
  · exact List.nil_prefix
  · rw [hjoin]; exact ⟨name, by simp⟩
  · rw [hjoin]; exact ⟨separator :: name, rfl⟩

/-- A path that has no parts is empty or starts at the root. -/
theorem parts_ne_nil {s : List Char} (hne : s ≠ []) (habsolute : isAbsolute s = false) :
    parts s ≠ [] := by
  obtain ⟨c, rest, rfl⟩ := List.exists_cons_of_ne_nil hne
  obtain ⟨part, others, hsplit⟩ := List.exists_cons_of_ne_nil (split_ne_nil rest)
  have hc : c ≠ separator := by simpa [isAbsolute] using habsolute
  rw [parts, split_cons_of_ne hc hsplit]
  simp

/-- Nothing joined to a path leaves its parts. -/
theorem joinChars_nil {s : List Char} (hne : s ≠ []) :
    parts (joinChars s []) = parts s ∧
      isAbsolute (joinChars s []) = isAbsolute s := by
  have hroot : isAbsolute [] = false := rfl
  rw [joinChars, hroot, Bool.false_or, if_neg (by simpa using hne)]
  split_ifs
  · rw [List.append_nil]
    exact ⟨rfl, rfl⟩
  · obtain ⟨c, rest, rfl⟩ := List.exists_cons_of_ne_nil hne
    refine ⟨?_, rfl⟩
    rw [parts_append_separator]
    exact List.append_nil _

/-- A joined path has no characters but those of the directory, a separator and the name. -/
theorem joinChars_sublist (s name : List Char) :
    (joinChars s name).Sublist (s ++ separator :: name) := by
  rw [joinChars]
  split_ifs
  · exact (List.sublist_cons_self _ _).trans (List.sublist_append_right _ _)
  · exact (List.sublist_cons_self _ _).append_left s
  · exact List.Sublist.refl _

/-! ## Parents -/

/-- The path itself, its parent, the parent of that, and so on. -/
inductive Ancestor (path : String) : String → Prop where
  | self : Ancestor path path
  | parent {above parent : String} : Ancestor path above → parent? above = some parent →
      Ancestor path parent

/-- An ancestor of the parent is one of the path. -/
theorem Ancestor.of_parent {path parent above : String} (hparent : parent? path = some parent)
    (h : Ancestor parent above) : Ancestor path above := by
  induction h with
  | self => exact .parent .self hparent
  | parent _ hstep ih => exact .parent ih hstep

/-- Writing parts out and taking them apart again. -/
theorem parts_ofParts {names : List (List Char)} (h : ∀ name ∈ names, IsName name)
    (absolute : Bool) : parts (ofParts absolute names) = names := by
  have htail : ∀ others : List (List Char), (∀ name ∈ others, IsName name) →
      ∀ first : List Char, parts (first ++ others.flatMap (separator :: ·)) =
        parts first ++ others := by
    intro others
    induction others with
    | nil => intro _ first; simp
    | cons name others ih =>
      intro hothers first
      have hname := hothers name List.mem_cons_self
      rw [List.flatMap_cons, List.cons_append, parts_append_separator,
        ih (fun other hmem => hothers other (List.mem_cons_of_mem _ hmem)), parts_of_isName hname]
      rfl
  cases names with
  | nil => cases absolute <;> rfl
  | cons first others =>
    have hfirst := h first List.mem_cons_self
    have hbody := htail others (fun name hmem => h name (List.mem_cons_of_mem _ hmem)) first
    rw [parts_of_isName hfirst] at hbody
    cases absolute with
    | false => simpa [ofParts] using hbody
    | true =>
      have hslash : ofParts true (first :: others) =
          separator :: (first ++ others.flatMap (separator :: ·)) := by simp [ofParts]
      rw [hslash, parts_cons_separator, hbody]
      rfl

/-- The texts between separators, each with a separator put before it. -/
theorem flatMap_split (s : List Char) : (split s).flatMap (separator :: ·) = separator :: s := by
  induction s with
  | nil => rfl
  | cons c s ih =>
    by_cases hc : c = separator
    · rw [hc, split_cons_separator, List.flatMap_cons, ih]
      rfl
    · obtain ⟨part, others, hs⟩ := List.exists_cons_of_ne_nil (split_ne_nil s)
      rw [hs, List.flatMap_cons, List.cons_append, List.cons_inj_right] at ih
      rw [split_cons_of_ne hc hs, List.flatMap_cons, ← ih]
      rfl

/-- Each text with a separator put after it. -/
theorem flatMap_split_append (s : List Char) :
    (split s).flatMap (· ++ [separator]) = s ++ [separator] := by
  induction s with
  | nil => rfl
  | cons c s ih =>
    by_cases hc : c = separator
    · rw [hc, split_cons_separator, List.flatMap_cons, ih]
      rfl
    · obtain ⟨part, others, hs⟩ := List.exists_cons_of_ne_nil (split_ne_nil s)
      rw [hs, List.flatMap_cons] at ih
      rw [split_cons_of_ne hc hs, List.flatMap_cons, List.cons_append, List.cons_append, ih]
      rfl

/-- Leaving out parts of a path leaves out characters of it. -/
theorem ofParts_sublist {s : List Char} {names : List (List Char)} (h : names.Sublist (parts s)) :
    (ofParts (isAbsolute s) names).Sublist s := by
  have hflat : (names.flatMap (separator :: ·)).Sublist (separator :: s) := by
    rw [← flatMap_split s]
    exact (h.trans List.filter_sublist).flatMap _
  cases habsolute : isAbsolute s with
  | false =>
    cases names with
    | nil => exact List.nil_sublist s
    | cons first others => exact List.cons_sublist_cons.1 hflat
  | true =>
    obtain ⟨rest, rfl⟩ : ∃ rest, s = separator :: rest := by
      cases s <;> simp_all [isAbsolute]
    cases names with
    | nil => exact List.cons_sublist_cons.2 (List.nil_sublist rest)
    | cons first others =>
      rw [← flatMap_split rest]
      rw [parts_cons_separator] at h
      exact (h.trans List.filter_sublist).flatMap _

theorem parent?_eq_some {path parent : String} (h : parent? path = some parent) :
    components path.toList ≠ [] ∧
      parent.toList = ofParts (isAbsolute path.toList) (components path.toList).dropLast := by
  rw [parent?] at h
  split at h
  · simp at h
  · next hnames => exact ⟨hnames, by rw [← Option.some.inj h, String.toList_ofList]⟩

theorem isName_of_mem_dropLast {s part : List Char} (h : part ∈ (components s).dropLast) :
    IsName part :=
  isName_of_mem_components ((List.dropLast_sublist _).subset h)

/-- The parts of a parent are the components of the path without the last one. -/
theorem parts_parent {path parent : String} (h : parent? path = some parent) :
    parts parent.toList = (components path.toList).dropLast := by
  rw [(parent?_eq_some h).2, parts_ofParts fun _ => isName_of_mem_dropLast]

theorem isAbsolute_ofParts {names : List (List Char)} (h : ∀ name ∈ names, IsName name)
    (absolute : Bool) : isAbsolute (ofParts absolute names) = absolute := by
  cases names with
  | nil => cases absolute <;> rfl
  | cons first others =>
    have hfirst := h first List.mem_cons_self
    cases absolute with
    | true => simp [ofParts, isAbsolute]
    | false =>
      have hhead := isAbsolute_of_isName hfirst
      obtain ⟨c, rest, rfl⟩ := List.exists_cons_of_ne_nil hfirst.nonempty
      simpa [ofParts, isAbsolute] using hhead

theorem isAbsolute_parent {path parent : String} (h : parent? path = some parent) :
    isAbsolute parent.toList = isAbsolute path.toList := by
  rw [(parent?_eq_some h).2, isAbsolute_ofParts fun _ => isName_of_mem_dropLast]

/-- A parent has fewer components. -/
theorem length_components_parent {path parent : String} (h : parent? path = some parent) :
    (components parent.toList).length < (components path.toList).length := by
  have hle := (components_sublist parent.toList).length_le
  have hne := List.length_pos_iff.2 (parent?_eq_some h).1
  rw [parts_parent h, List.length_dropLast] at hle
  omega

/-- A parent is written with some of the characters of the path. -/
theorem parent_sublist {path parent : String} (h : parent? path = some parent) :
    parent.toList.Sublist path.toList := by
  rw [(parent?_eq_some h).2]
  exact ofParts_sublist ((List.dropLast_sublist _).trans (components_sublist _))

/-- Leaving out characters leaves out bytes. -/
theorem utf8ByteSize_le_of_sublist {s t : List Char} (h : s.Sublist t) :
    (String.ofList s).utf8ByteSize ≤ (String.ofList t).utf8ByteSize := by
  have hcons : ∀ (c : Char) (rest : List Char), (String.ofList (c :: rest)).utf8ByteSize =
      (String.ofList [c]).utf8ByteSize + (String.ofList rest).utf8ByteSize := by
    intro c rest
    rw [← List.singleton_append, String.ofList_append, String.utf8ByteSize_append]
  induction h with
  | slnil => exact Nat.le_refl _
  | cons c _ ih => rw [hcons]; omega
  | @cons_cons s t c _ ih => rw [hcons c s, hcons c t]; omega

end Path
end ResponseTypes
