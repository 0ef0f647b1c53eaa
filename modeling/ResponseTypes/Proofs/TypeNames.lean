import ResponseTypes.Naming
import ResponseTypes.Proofs.FileWalks
import ResponseTypes.Settings

/-!
# Names of types as names of files

The name of a type is made of the parts of its source between separators, and capitals are never
separators, so what stands before the suffix has none of them.  The file of a type is therefore one
part of a path, which says neither to stay nor to go upwards.

## Main definitions

- `Settings.artifactName`: the name of the file of a type.

## Main statements

- `Naming.typeName_eq`: a type's name is a text without separators, and the suffix.
- `Settings.isPlain_artifactName`: a type's file is named in the output directory itself.
-/

namespace ResponseTypes

/-! ## Capitals -/

namespace Text

/-- The number of a character that was made from a number, unless it was made from none. -/
theorem toNat_ofNat_of_ne {n : Nat} (h : Char.ofNat n ≠ '\x00') : (Char.ofNat n).toNat = n := by
  by_cases hn : n.isValidChar
  · rw [Char.ofNat, dif_pos hn]
    rfl
  · exact absurd (by rw [Char.ofNat, dif_neg hn]; rfl) h

/-- A point, a slash, a hyphen and an underscore are the only characters with their numbers. -/
theorem isSeparator_ofNat {n : Nat} (h : Naming.isSeparator (Char.ofNat n) = true) :
    n = 0x2D ∨ n = 0x2E ∨ n = 0x2F ∨ n = 0x5F := by
  have hne : Char.ofNat n ≠ '\x00' := by
    intro hzero
    rw [hzero] at h
    exact absurd h (by decide)
  have hcode := toNat_ofNat_of_ne hne
  simp only [Naming.isSeparator, Bool.or_eq_true, beq_iff_eq] at h
  rcases h with ((heq | heq) | heq) | heq <;> rw [heq] at hcode <;> rw [← hcode] <;> decide

theorem toUpperSequence_images : ∀ entry ∈ CaseTable.toUpperSequence, ∀ n ∈ entry.2,
    0x2F < n ∧ n ≠ 0x5F := by
  decide +kernel

theorem toUpper_images : ∀ shift ∈ CaseTable.toUpper,
    (0x2F < shift.image ∧ shift.image + (shift.last - shift.first) < 0x5F) ∨
      0x5F < shift.image := by
  decide +kernel

/-- A capital is the character itself, or one from the part of the tables that has no
separators. -/
theorem mem_toUpper {c d : Char} (hd : d ∈ toUpper c) :
    d = c ∨ ∃ n, d = Char.ofNat n ∧ 0x2F < n ∧ n ≠ 0x5F := by
  rw [toUpper, mapCase] at hd
  split at hd
  · next images hlookup =>
    obtain ⟨n, hn, rfl⟩ := List.mem_map.1 hd
    obtain ⟨before, after, htable, -⟩ := List.lookup_eq_some_iff.1 hlookup
    have hentry : (c.toNat, images) ∈ CaseTable.toUpperSequence := by rw [htable]; simp
    exact .inr ⟨n, rfl, toUpperSequence_images _ hentry n hn⟩
  · split at hd
    · next shift hfind =>
      have hcontains := List.find?_some hfind
      have htable := toUpper_images shift (List.mem_of_find?_eq_some hfind)
      simp only [CaseTable.Range.contains, Bool.and_eq_true, decide_eq_true_eq] at hcontains
      refine .inr ⟨shift.apply c.toNat, List.mem_singleton.1 hd, ?_⟩
      rw [CaseTable.Shift.apply]
      omega
    · exact .inl (List.mem_singleton.1 hd)

/-- The capital of a character that is no separator has none. -/
theorem isSeparator_toUpper {c d : Char} (hc : Naming.isSeparator c = false)
    (hd : d ∈ toUpper c) : Naming.isSeparator d = false := by
  rcases mem_toUpper hd with rfl | ⟨n, rfl, himage⟩
  · exact hc
  · rw [Bool.eq_false_iff]
    intro hseparator
    have hcode := isSeparator_ofNat hseparator
    omega

/-- A capital is no line feed if its letter is none. -/
theorem newline_not_mem_toUpper {c : Char} (hc : c ≠ '\n') : '\n' ∉ toUpper c := by
  intro hd
  rcases mem_toUpper hd with heq | ⟨n, heq, himage⟩
  · exact hc heq.symm
  · have hcode := toNat_ofNat_of_ne (n := n) (by rw [← heq]; decide)
    rw [← heq] at hcode
    have hten : '\n'.toNat = 0x0A := rfl
    omega

end Text

/-! ## Names of types -/

namespace Naming

theorem isSeparator_of_mem_parts {s part : List Char} (hpart : part ∈ parts s) {c : Char}
    (hc : c ∈ part) : isSeparator c = false := by
  induction s generalizing part with
  | nil => simp_all [parts]
  | cons first s ih =>
    rw [parts] at hpart
    split_ifs at hpart with hfirst
    · rcases List.mem_cons.1 hpart with rfl | hpart
      · exact absurd hc List.not_mem_nil
      · exact ih hpart hc
    · split at hpart
      · simp_all
      · next head others hparts =>
        rw [hparts] at ih
        rcases List.mem_cons.1 hpart with rfl | hpart
        · rcases List.mem_cons.1 hc with rfl | hc
          · simpa using hfirst
          · exact ih List.mem_cons_self hc
        · exact ih (List.mem_cons_of_mem _ hpart) hc

theorem isSeparator_of_mem_capitalised {part : List Char}
    (hpart : ∀ c ∈ part, isSeparator c = false) {c : Char} (hc : c ∈ capitalised part) :
    isSeparator c = false := by
  cases part with
  | nil => exact absurd hc List.not_mem_nil
  | cons first rest =>
    rcases List.mem_append.1 hc with hc | hc
    · exact Text.isSeparator_toUpper (hpart first List.mem_cons_self) hc
    · exact hpart c (List.mem_cons_of_mem _ hc)

/-- A type's name is a text without separators, and the suffix. -/
theorem typeName_eq (source suffix : String) : ∃ own : List Char,
    (∀ c ∈ own, isSeparator c = false) ∧ typeName source suffix = String.ofList own ++ suffix := by
  refine ⟨((parts (coreName source.toList)).map capitalised).flatten, fun c hc => ?_, rfl⟩
  obtain ⟨_, hmem, hc⟩ := List.mem_flatten.1 hc
  obtain ⟨part, hpart, rfl⟩ := List.mem_map.1 hmem
  exact isSeparator_of_mem_capitalised (fun _ => isSeparator_of_mem_parts hpart) hc

theorem separator_not_mem_typeName (source : String) {suffix : String}
    (hsuffix : Path.separator ∉ suffix.toList) :
    Path.separator ∉ (typeName source suffix).toList := by
  obtain ⟨own, hown, heq⟩ := typeName_eq source suffix
  rw [heq, String.toList_append, String.toList_ofList, List.mem_append]
  rintro (hmem | hmem)
  · exact absurd (hown _ hmem) (by decide)
  · exact hsuffix hmem

/-! ## What is left of a source -/

theorem mem_of_mem_trim {s : List Char} {c : Char} (hc : c ∈ Text.trim s) : c ∈ s := by
  rw [Text.trim, Text.trimEnd, List.mem_reverse] at hc
  have hstart := List.mem_reverse.1 ((List.dropWhile_sublist _).subset hc)
  exact (List.dropWhile_sublist _).subset hstart

theorem mem_of_mem_afterLast {mark : Char} {s : List Char} {c : Char}
    (hc : c ∈ afterLast mark s) : c ∈ s := by
  rw [afterLast, List.mem_reverse] at hc
  exact List.mem_reverse.1 ((List.takeWhile_sublist _).subset hc)

theorem suffix_of_afterDoubleColon? {s tail : List Char}
    (h : afterDoubleColon? s = some tail) : tail <:+ s := by
  fun_induction afterDoubleColon? s with
  | case1 rest found hfound ih =>
    obtain rfl := Option.some.inj h
    exact (ih hfound).trans (List.suffix_cons _ _)
  | case2 rest hfound ih =>
    rw [← Option.some.inj h]
    exact (List.suffix_cons _ _).trans (List.suffix_cons _ _)
  | case3 first rest hne ih => exact (ih h).trans (List.suffix_cons _ _)
  | case4 => cases h

theorem suffix_of_dropStart? {start s rest : List Char} (h : dropStart? start s = some rest) :
    rest <:+ s := by
  fun_induction dropStart? start s with
  | case1 s =>
    obtain rfl := Option.some.inj h
    exact List.suffix_refl _
  | case2 => cases h
  | case3 first start s ih => exact (ih h).trans (List.suffix_cons _ _)
  | case4 => cases h

theorem prefix_of_dropEnd? {ending s rest : List Char} (h : dropEnd? ending s = some rest) :
    rest <+: s := by
  obtain ⟨reversed, hreversed, rfl⟩ := Option.map_eq_some_iff.1 h
  rw [← List.reverse_suffix, List.reverse_reverse]
  exact suffix_of_dropStart? hreversed

/-- Cutting a source down brings in no character. -/
theorem mem_of_mem_coreName {source : List Char} {c : Char} (hc : c ∈ coreName source) :
    c ∈ source := by
  have hbase : ∀ s : List Char, ∀ c ∈ baseName s, c ∈ s := by
    intro s c hc
    rw [baseName] at hc
    cases hcolon : afterDoubleColon? (afterLast '\\' s) with
    | none =>
      rw [hcolon] at hc
      exact mem_of_mem_afterLast hc
    | some tail =>
      rw [hcolon] at hc
      exact mem_of_mem_afterLast ((suffix_of_afterDoubleColon? hcolon).subset hc)
  have hroute : ∀ s : List Char, ∀ c ∈ (dropStart? "api.".toList s <|>
      dropStart? "api/".toList s).getD s, c ∈ s := by
    intro s c hc
    cases hpoint : dropStart? "api.".toList s with
    | some rest =>
      rw [hpoint] at hc
      exact (suffix_of_dropStart? hpoint).subset hc
    | none =>
      cases hslash : dropStart? "api/".toList s with
      | some rest =>
        rw [hpoint, hslash] at hc
        exact (suffix_of_dropStart? hslash).subset hc
      | none =>
        rw [hpoint, hslash] at hc
        exact hc
  have hclass : ∀ s : List Char, ∀ c ∈ (dropEnd? "Resource".toList s).getD s, c ∈ s := by
    intro s c hc
    cases hend : dropEnd? "Resource".toList s with
    | some rest =>
      rw [hend] at hc
      exact (prefix_of_dropEnd? hend).subset hc
    | none =>
      rw [hend] at hc
      exact hc
  exact mem_of_mem_trim (hbase _ c (hroute _ c (hclass _ c hc)))

theorem mem_of_mem_parts {s part : List Char} (hpart : part ∈ parts s) {c : Char}
    (hc : c ∈ part) : c ∈ s := by
  induction s generalizing part with
  | nil => simp_all [parts]
  | cons first s ih =>
    rw [parts] at hpart
    split_ifs at hpart with hfirst
    · rcases List.mem_cons.1 hpart with rfl | hpart
      · exact absurd hc List.not_mem_nil
      · exact List.mem_cons_of_mem _ (ih hpart hc)
    · split at hpart
      · simp_all
      · next head others hparts =>
        rw [hparts] at ih
        rcases List.mem_cons.1 hpart with rfl | hpart
        · rcases List.mem_cons.1 hc with rfl | hc
          · exact List.mem_cons_self
          · exact List.mem_cons_of_mem _ (ih List.mem_cons_self hc)
        · exact List.mem_cons_of_mem _ (ih (List.mem_cons_of_mem _ hpart) hc)

/-- A type's name breaks its line only if its source or the suffix does. -/
theorem newline_not_mem_typeName {source suffix : String} (hsource : '\n' ∉ source.toList)
    (hsuffix : '\n' ∉ suffix.toList) : '\n' ∉ (typeName source suffix).toList := by
  rw [typeName, String.toList_append, String.toList_ofList, List.mem_append]
  rintro (hmem | hmem)
  · obtain ⟨_, hcapital, hmem⟩ := List.mem_flatten.1 hmem
    obtain ⟨part, hpart, rfl⟩ := List.mem_map.1 hcapital
    have hcore : '\n' ∉ coreName source.toList := fun h => hsource (mem_of_mem_coreName h)
    have hnone : '\n' ∉ part := by
      intro h
      refine hcore (mem_of_mem_parts hpart ?_)
      exact h
    cases part with
    | nil => exact absurd hmem List.not_mem_nil
    | cons first rest =>
      obtain ⟨hfirst, hrest⟩ := not_or.1 (mt List.mem_cons.2 hnone)
      rw [capitalised, List.mem_append] at hmem
      rcases hmem with hmem | hmem
      · exact Text.newline_not_mem_toUpper (Ne.symm hfirst) hmem
      · exact hrest hmem
  · exact hsuffix hmem

end Naming

/-! ## Files of types -/

namespace Settings

/-- The name of the file of a type. -/
def artifactName (settings : Settings) (typeName : String) : String :=
  typeName ++ "." ++ settings.dialect.extension

theorem artifactPath_eq (settings : Settings) (typeName : String) :
    settings.artifactPath typeName =
      Path.join settings.outputPath (settings.artifactName typeName) := rfl

theorem toList_artifactName (settings : Settings) (typeName : String) :
    (settings.artifactName typeName).toList =
      typeName.toList ++ '.' :: settings.dialect.extension.toList := by
  rw [artifactName, String.toList_append, String.toList_append, List.append_assoc]
  rfl

theorem getLast?_artifactName (settings : Settings) (typeName : String) :
    (settings.artifactName typeName).toList.getLast? = some 's' := by
  rw [toList_artifactName]
  cases settings.dialect <;>
    simp [Dialect.extension, List.getLast?_append, List.getLast?_cons]

theorem getLast?_artifactPath (settings : Settings) (typeName : String) :
    (settings.artifactPath typeName).toList.getLast? = some 's' := by
  have hlast := settings.getLast?_artifactName typeName
  have hne : (settings.artifactName typeName).toList ≠ [] := by
    intro hnil
    rw [hnil] at hlast
    cases hlast
  rw [artifactPath_eq, Files.toList_join, Path.joinChars]
  split_ifs
  · exact hlast
  · rw [List.getLast?_append_of_ne_nil _ hne, hlast]
  · rw [List.getLast?_append_of_ne_nil _ (List.cons_ne_nil _ _), List.getLast?_cons, hlast]
    rfl

/-- The file of a type is in a directory, whatever the type is called. -/
theorem folder_of_locate_artifactPath (settings : Settings) {typeName : String} {files : Files}
    {location : Location} (h : files.locate (settings.artifactPath typeName) = .ok location) :
    files.occupancy location.dropLast = .directory := by
  have hend := settings.getLast?_artifactPath typeName
  obtain ⟨others, last, hparts, hname, hlast⟩ := Path.parts_of_getLast? hend (by decide)
  have hfollow := Files.follow_of_locate h
  rw [Files.follow_of_pathFault_none _ (Files.pathFault?_of_follow hfollow), hparts,
    Files.walk_append] at hfollow
  cases hwalk : files.walk (files.origin (settings.artifactPath typeName)) others with
  | error fault =>
    rw [hwalk] at hfollow
    cases hfollow
  | ok folder =>
    rw [hwalk] at hfollow
    obtain ⟨hdirectory, hmove⟩ :=
      Files.step_eq_ok.1 ((Files.walk_singleton _ _ _).symm.trans hfollow)
    rw [Files.move_of_isPlain (Files.isPlain_of_getLast? hname.single hlast (by decide)) hmove,
      List.dropLast_concat]
    exact hdirectory

/-- The file of a type is named by one part of a path, which leads somewhere. -/
theorem isPlain_artifactName (settings : Settings) {typeName : String}
    (h : Path.separator ∉ typeName.toList) :
    Files.IsPlain (settings.artifactName typeName).toList := by
  refine Files.isPlain_of_getLast? ?_ (settings.getLast?_artifactName typeName) (by decide)
  rw [toList_artifactName, List.mem_append]
  rintro (hmem | hmem)
  · exact h hmem
  · cases hdialect : settings.dialect <;> rw [hdialect] at hmem <;>
      exact absurd hmem (by decide)

end Settings
end ResponseTypes
