import ResponseTypes.Proofs.TypeNames

/-!
# The stages of a type's name

A type's name is found in stages.  Padding and namespaces are cut off the source, then a route's
beginning and a class's ending, and what is left is joined from its parts.  This module has one
equation for each stage and opens the definitions for it, so that what is said of names elsewhere
can be put together from the equations.

A stage either looks at the front of a text, or at its end, or at one separator.  So most of the
equations say what a stage does to a text with something behind it that the stage cannot take for
a mark of its own.

The tables of letter case cover all of Unicode.  Their first ranges are those of ASCII, and no
other range begins below 128, so for ASCII they agree with the functions on `Char`.

## Main definitions

- `Naming.routeName`, `Naming.className`: a name without a route's beginning, without a class's
  ending.
- `Naming.joined`: the parts of a name, each with a capital, as one text.

## Main statements

- `Text.toUpper_ascii`, `Text.toLower_ascii`, `Text.isUpper_ascii`, `Text.isLower_ascii`.
- `Text.trim_append`, `Naming.baseName_append`: padding and namespaces in front of an ending.
- `Naming.dropStart?_eq_some`, `Naming.dropEnd?_eq_some`: what is dropped, as an equation.
- `Naming.joined_append`: texts are joined on both sides of a separator.
-/

namespace ResponseTypes

namespace Text

/-! ## Letter case in ASCII -/

/-- A text of ASCII is looked up in the first range of a table alone. -/
theorem any_contains_ascii {ranges : List CaseTable.Range} {n : Nat} (hn : n < 128)
    (h : ∀ range ∈ ranges.drop 1, 128 ≤ range.first) :
    ranges.any (·.contains n) = (ranges.take 1).any (·.contains n) := by
  have hrest : (ranges.drop 1).any (·.contains n) = false := by
    rw [List.any_eq_false]
    intro range hrange
    have hfirst := h range hrange
    simp only [CaseTable.Range.contains, Bool.and_eq_true, decide_eq_true_eq]
    omega
  conv_lhs => rw [← List.take_append_drop 1 ranges]
  rw [List.any_append, hrest, Bool.or_false]

/-- A character of ASCII has no sequence, and is looked up in the first shift alone. -/
theorem mapCase_ascii {sequences : List (Nat × List Nat)} {shifts : List CaseTable.Shift} {c : Char}
    (hc : c.toNat < 128) (hsequences : ∀ entry ∈ sequences, 128 ≤ entry.1)
    (hshifts : ∀ shift ∈ shifts.drop 1, 128 ≤ shift.first) :
    mapCase sequences shifts c = mapCase [] (shifts.take 1) c := by
  have hlookup : sequences.lookup c.toNat = none := by
    rw [List.lookup_eq_none_iff]
    intro entry hentry
    have hkey := hsequences entry hentry
    simp only [bne_iff_ne, ne_eq]
    omega
  have hrest : (shifts.drop 1).find? (·.contains c.toNat) = none := by
    rw [List.find?_eq_none]
    intro shift hshift
    have hfirst := hshifts shift hshift
    simp only [CaseTable.Range.contains, Bool.and_eq_true, decide_eq_true_eq]
    omega
  have hfind : shifts.find? (·.contains c.toNat) =
      (shifts.take 1).find? (·.contains c.toNat) := by
    conv_lhs => rw [← List.take_append_drop 1 shifts]
    rw [List.find?_append, hrest, Option.or_none]
  rw [mapCase, mapCase, hlookup, hfind, List.lookup_nil]

/-- What can be checked of all characters of ASCII. -/
theorem of_all_ascii {P : Char → Prop} (h : ∀ n < 128, P (Char.ofNat n)) {c : Char}
    (hc : c.toNat < 128) : P c := by
  rw [← Char.ofNat_toNat c]
  exact h _ hc

/-- Only the first entries of the tables are about ASCII. -/
theorem tables_above_ascii :
    (∀ ranges ∈ [CaseTable.upper, CaseTable.lower], ∀ range ∈ ranges.drop 1, 128 ≤ range.first) ∧
    (∀ shifts ∈ [CaseTable.toUpper, CaseTable.toLower], ∀ shift ∈ shifts.drop 1,
      128 ≤ shift.first) ∧
    ∀ sequences ∈ [CaseTable.toUpperSequence, CaseTable.toLowerSequence], ∀ entry ∈ sequences,
      128 ≤ entry.1 := by
  decide +kernel

variable {c : Char}

theorem letterCase_ascii (hc : c.toNat < 128) :
    isUpper c = c.isUpper ∧ isLower c = c.isLower ∧ toUpper c = [c.toUpper] ∧
      toLower c = [c.toLower] := by
  obtain ⟨hranges, hshifts, hsequences⟩ := tables_above_ascii
  rw [isUpper, isLower, toUpper, toLower,
    any_contains_ascii hc (hranges CaseTable.upper (by simp)),
    any_contains_ascii hc (hranges CaseTable.lower (by simp)),
    mapCase_ascii hc (hsequences CaseTable.toUpperSequence (by simp))
      (hshifts CaseTable.toUpper (by simp)),
    mapCase_ascii hc (hsequences CaseTable.toLowerSequence (by simp))
      (hshifts CaseTable.toLower (by simp))]
  exact of_all_ascii (P := fun c =>
    (CaseTable.upper.take 1).any (·.contains c.toNat) = c.isUpper ∧
    (CaseTable.lower.take 1).any (·.contains c.toNat) = c.isLower ∧
    mapCase [] (CaseTable.toUpper.take 1) c = [c.toUpper] ∧
    mapCase [] (CaseTable.toLower.take 1) c = [c.toLower]) (by decide) hc

theorem isUpper_ascii (hc : c.toNat < 128) : isUpper c = c.isUpper :=
  (letterCase_ascii hc).1

theorem isLower_ascii (hc : c.toNat < 128) : isLower c = c.isLower :=
  (letterCase_ascii hc).2.1

theorem toUpper_ascii (hc : c.toNat < 128) : toUpper c = [c.toUpper] :=
  (letterCase_ascii hc).2.2.1

theorem toLower_ascii (hc : c.toNat < 128) : toLower c = [c.toLower] :=
  (letterCase_ascii hc).2.2.2

/-! ## Padding -/

/-- Padding is cut off the front of a text as if its end were not there, if the end has no
blanks. -/
theorem trim_append (s : List Char) {ending : List Char} (hne : ending ≠ [])
    (hblank : ∀ c ∈ ending, isBlank c = false) :
    trim (s ++ ending) = trimStart s ++ ending := by
  have hstart : trimStart (s ++ ending) = trimStart s ++ ending := by
    cases ending with
    | nil => exact absurd rfl hne
    | cons first rest =>
      have hfirst := hblank first List.mem_cons_self
      rw [trimStart, trimStart, List.dropWhile_append]
      split_ifs with hempty
      · rw [List.isEmpty_iff.1 hempty, List.dropWhile_cons_of_neg (by simp [hfirst]),
          List.nil_append]
      · rfl
  have hend : trimEnd (trimStart s ++ ending) = trimStart s ++ ending := by
    obtain ⟨front, last, rfl⟩ := (List.eq_nil_or_concat' ending).resolve_left hne
    have hlast := hblank last (by simp)
    rw [trimEnd, ← List.append_assoc, List.reverse_append, List.reverse_singleton,
      List.singleton_append, List.dropWhile_cons_of_neg (by simp [hlast])]
    simp
  rw [trim, hstart, hend]

/-! ## Numerals -/

theorem toList_toString (n : Nat) : (toString n).toList = Nat.toDigits 10 n := by
  rw [Nat.toString_eq_repr, Nat.toList_repr]

theorem isDigit_of_mem_toString {n : Nat} {c : Char} (hc : c ∈ (toString n).toList) :
    c.isDigit = true := by
  rw [toList_toString] at hc
  exact Nat.isDigit_of_mem_toDigits (Nat.succ_pos 9) (Nat.le_refl 10) hc

theorem toList_toString_ne_nil (n : Nat) : (toString n).toList ≠ [] := by
  rw [toList_toString]
  exact Nat.toDigits_ne_nil

end Text

namespace Naming

/-! ## Namespaces -/

theorem afterLast_append {mark : Char} (s : List Char) {ending : List Char}
    (hmark : mark ∉ ending) : afterLast mark (s ++ ending) = afterLast mark s ++ ending := by
  have hall : ∀ c ∈ ending.reverse, decide (c ≠ mark) = true := by
    intro c hc
    rw [decide_eq_true_eq]
    rintro rfl
    exact hmark (List.mem_reverse.1 hc)
  rw [afterLast, afterLast, List.reverse_append, List.takeWhile_append_of_pos hall,
    List.reverse_append, List.reverse_reverse]

/-- Two colons are only seen where both of them are. -/
theorem afterDoubleColon?_cons {first : Char} {rest : List Char}
    (h : first = ':' → rest.head? ≠ some ':') :
    afterDoubleColon? (first :: rest) = afterDoubleColon? rest := by
  rw [afterDoubleColon?.eq_def]
  split
  · next heq =>
    obtain ⟨rfl, rfl⟩ := List.cons.inj heq
    exact absurd rfl (h rfl)
  · next heq =>
    obtain ⟨-, rfl⟩ := List.cons.inj heq
    rfl
  · next heq => cases heq

theorem afterDoubleColon?_of_not_mem {s : List Char} (hcolon : ':' ∉ s) :
    afterDoubleColon? s = none := by
  induction s with
  | nil => rfl
  | cons first rest ih =>
    obtain ⟨hfirst, hrest⟩ := not_or.1 (mt List.mem_cons.2 hcolon)
    rw [afterDoubleColon?_cons fun heq => absurd heq.symm hfirst, ih hrest]

/-- An ending without colons is no part of a `::`. -/
theorem afterDoubleColon?_append (s : List Char) {ending : List Char} (hcolon : ':' ∉ ending) :
    afterDoubleColon? (s ++ ending) = (afterDoubleColon? s).map (· ++ ending) := by
  fun_induction afterDoubleColon? s with
  | case1 rest found hfound ih =>
    rw [hfound] at ih
    rw [List.cons_append, List.cons_append, afterDoubleColon?, ← List.cons_append, ih]
    rfl
  | case2 rest hfound ih =>
    rw [hfound] at ih
    rw [List.cons_append, List.cons_append, afterDoubleColon?, ← List.cons_append, ih]
    rfl
  | case3 first rest hne ih =>
    rw [List.cons_append, afterDoubleColon?_cons, ih]
    rintro rfl hhead
    cases rest with
    | nil => exact hcolon (List.mem_of_head? hhead)
    | cons second rest =>
      obtain rfl := Option.some.inj hhead
      exact hne rest rfl rfl
  | case4 => exact afterDoubleColon?_of_not_mem hcolon

/-- Namespaces are cut off the front of a name as if its end were not there, if the end has none of
their marks. -/
theorem baseName_append (s : List Char) {ending : List Char} (hslash : '\\' ∉ ending)
    (hcolon : ':' ∉ ending) : baseName (s ++ ending) = baseName s ++ ending := by
  rw [baseName, baseName, afterLast_append s hslash, afterDoubleColon?_append _ hcolon]
  cases afterDoubleColon? (afterLast '\\' s) <;> rfl

/-- There is nothing to cut off a name without the marks of namespaces. -/
theorem baseName_of_not_mem {s : List Char} (hslash : '\\' ∉ s) (hcolon : ':' ∉ s) :
    baseName s = s :=
  baseName_append [] hslash hcolon

/-! ## Routes and classes -/

theorem dropStart?_eq_some {start s rest : List Char} :
    dropStart? start s = some rest ↔ s = start ++ rest := by
  fun_induction dropStart? start s with
  | case1 s => simp
  | case2 => simp
  | case3 first start s ih => simp [ih]
  | case4 first start c s hne => simp [Ne.symm hne]

theorem dropEnd?_eq_some {ending s rest : List Char} :
    dropEnd? ending s = some rest ↔ s = rest ++ ending := by
  rw [dropEnd?, Option.map_eq_some_iff]
  constructor
  · rintro ⟨reversed, hreversed, rfl⟩
    rw [dropStart?_eq_some] at hreversed
    rw [← List.reverse_reverse s, hreversed, List.reverse_append, List.reverse_reverse]
  · rintro rfl
    refine ⟨rest.reverse, ?_, List.reverse_reverse rest⟩
    rw [dropStart?_eq_some, List.reverse_append]

/-- A name without the beginning of a route. -/
def routeName (base : List Char) : List Char :=
  (dropStart? "api.".toList base <|> dropStart? "api/".toList base).getD base

/-- A name without the ending of a class. -/
def className (base : List Char) : List Char :=
  (dropEnd? "Resource".toList base).getD base

theorem coreName_eq (source : List Char) :
    coreName source = className (routeName (baseName (Text.trim source))) := rfl

/-- The beginnings of routes. -/
def routeStarts : List (List Char) :=
  ["api.".toList, "api/".toList]

/-- One beginning of a route is dropped. -/
theorem routeName_of_mem {start : List Char} (hstart : start ∈ routeStarts) (rest : List Char) :
    routeName (start ++ rest) = rest := by
  have hmem : start = "api.".toList ∨ start = "api/".toList := by simpa [routeStarts] using hstart
  rcases hmem with rfl | rfl <;> rfl

/-- A name that begins like no route is kept. -/
theorem routeName_of_not_route {base : List Char} (h : ∀ start ∈ routeStarts, ¬ start <+: base) :
    routeName base = base := by
  have hnone : ∀ start ∈ routeStarts, dropStart? start base = none := by
    intro start hstart
    rw [Option.eq_none_iff_forall_ne_some]
    intro rest hrest
    exact h start hstart ⟨rest, (dropStart?_eq_some.1 hrest).symm⟩
  rw [routeName, hnone _ (by simp [routeStarts]), hnone _ (by simp [routeStarts])]
  rfl

/-- The beginnings of routes have no digits. -/
theorem prefix_of_prefix_append_digits {start name digits : List Char}
    (hstart : start ∈ routeStarts) (hdigits : ∀ c ∈ digits, c.isDigit = true)
    (h : start <+: name ++ digits) : start <+: name := by
  have hnone : ∀ start ∈ routeStarts, start.any Char.isDigit = false := by decide
  obtain ⟨rest, heq⟩ := h
  rcases List.append_eq_append_iff.1 heq with ⟨more, hname, -⟩ | ⟨more, rfl, hmore⟩
  · exact ⟨more, hname.symm⟩
  · cases more with
    | nil => exact ⟨[], by simp⟩
    | cons digit more =>
      exact absurd (hdigits digit (by simp [hmore]))
        (List.any_eq_false.1 (hnone _ hstart) digit (by simp))

/-- A name that does not end like a class is kept. -/
theorem className_of_not_suffix {base : List Char} (h : ¬ "Resource".toList <:+ base) :
    className base = base := by
  have hnone : dropEnd? "Resource".toList base = none := by
    rw [Option.eq_none_iff_forall_ne_some]
    intro rest hrest
    exact h ⟨rest, (dropEnd?_eq_some.1 hrest).symm⟩
  rw [className, hnone]
  rfl

/-- Of a name that ends like a class, what comes before is left. -/
theorem className_append (rest : List Char) : className (rest ++ "Resource".toList) = rest := by
  rw [className, dropEnd?_eq_some.2 rfl]
  rfl

/-! ## Parts -/

theorem parts_cons_separator {mark : Char} (hmark : isSeparator mark = true) (s : List Char) :
    parts (mark :: s) = [] :: parts s := by
  rw [parts, if_pos hmark]

/-- A name has a first part, which takes up the characters in front of it. -/
theorem exists_parts_cons {c : Char} (hc : isSeparator c = false) (s : List Char) :
    ∃ part others, parts s = part :: others ∧ parts (c :: s) = (c :: part) :: others := by
  induction s generalizing c with
  | nil => exact ⟨[], [], rfl, by simp [parts, hc]⟩
  | cons next s ih =>
    cases hnext : isSeparator next with
    | true =>
      refine ⟨[], parts s, parts_cons_separator hnext s, ?_⟩
      rw [parts, if_neg (by simp [hc]), parts_cons_separator hnext]
    | false =>
      obtain ⟨part, others, -, hparts⟩ := ih hnext
      refine ⟨next :: part, others, hparts, ?_⟩
      rw [parts, if_neg (by simp [hc]), hparts]

/-- A text in front of a separator has its parts to itself. -/
theorem parts_append {mark : Char} (hmark : isSeparator mark = true) (s rest : List Char) :
    parts (s ++ mark :: rest) = parts s ++ parts rest := by
  induction s with
  | nil => exact parts_cons_separator hmark rest
  | cons c s ih =>
    rw [List.cons_append]
    cases hc : isSeparator c with
    | true => rw [parts_cons_separator hc, parts_cons_separator hc, ih, List.cons_append]
    | false =>
      obtain ⟨part, others, hparts, hcons⟩ := exists_parts_cons hc s
      obtain ⟨part', others', hparts', hcons'⟩ := exists_parts_cons hc (s ++ mark :: rest)
      rw [ih, hparts, List.cons_append] at hparts'
      obtain ⟨rfl, rfl⟩ := List.cons.inj hparts'
      rw [hcons, hcons', List.cons_append]

/-- A text without separators is its only part. -/
theorem parts_of_not_separator {s : List Char} (h : ∀ c ∈ s, isSeparator c = false) :
    parts s = [s] := by
  induction s with
  | nil => rfl
  | cons c s ih =>
    obtain ⟨hc, hs⟩ := List.forall_mem_cons.1 h
    obtain ⟨part, others, hparts, hcons⟩ := exists_parts_cons hc s
    rw [ih hs] at hparts
    obtain ⟨rfl, rfl⟩ := List.cons.inj hparts
    exact hcons

/-- The parts of a name, each with a capital, as one text. -/
def joined (name : List Char) : List Char :=
  ((parts name).map capitalised).flatten

theorem typeName_eq_joined (source suffix : String) :
    typeName source suffix = String.ofList (joined (coreName source.toList)) ++ suffix := rfl

/-- Texts are joined on both sides of a separator. -/
theorem joined_append {mark : Char} (hmark : isSeparator mark = true) (s rest : List Char) :
    joined (s ++ mark :: rest) = joined s ++ joined rest := by
  rw [joined, parts_append hmark, List.map_append, List.flatten_append]
  rfl

theorem joined_of_not_separator {s : List Char} (h : ∀ c ∈ s, isSeparator c = false) :
    joined s = capitalised s := by
  rw [joined, parts_of_not_separator h, List.map_singleton, List.flatten_singleton]

/-- Separators in front of a name do not show. -/
theorem joined_marks_append {marks : List Char} (h : ∀ c ∈ marks, isSeparator c = true)
    (s : List Char) : joined (marks ++ s) = joined s := by
  induction marks with
  | nil => rfl
  | cons mark marks ih =>
    obtain ⟨hmark, hmarks⟩ := List.forall_mem_cons.1 h
    rw [List.cons_append, ← List.nil_append (mark :: _), joined_append hmark, ih hmarks]
    rfl

/-! ## Letters, digits and separators -/

/-- The characters that names of files and tables are made of. -/
def isNameChar (c : Char) : Bool :=
  c.isAlphanum || isSeparator c

section

variable {c : Char}

theorem isNameChar_of_isAlphanum (hc : c.isAlphanum = true) : isNameChar c = true := by
  rw [isNameChar, hc, Bool.true_or]

theorem lt_of_isNameChar (hc : isNameChar c = true) : c.toNat < 128 := by
  simp only [isNameChar, isSeparator, Bool.or_eq_true, beq_iff_eq] at hc
  rcases hc with hc | ((rfl | rfl) | rfl) | rfl
  · delta Char.isAlphanum Char.isAlpha Char.isUpper Char.isLower Char.isDigit at hc
    simp only [Bool.or_eq_true, Bool.and_eq_true, decide_eq_true_eq, UInt32.le_iff_toNat_le,
      ge_iff_le] at hc
    change ((65 ≤ c.toNat ∧ c.toNat ≤ 90) ∨ (97 ≤ c.toNat ∧ c.toNat ≤ 122)) ∨
      (48 ≤ c.toNat ∧ c.toNat ≤ 57) at hc
    omega
  all_goals decide

/-- Such characters are no padding, and no marks of namespaces. -/
theorem plain_of_isNameChar (hc : isNameChar c = true) :
    Text.isBlank c = false ∧ c ≠ '\\' ∧ c ≠ ':' :=
  Text.of_all_ascii (P := fun c => isNameChar c = true →
    Text.isBlank c = false ∧ c ≠ '\\' ∧ c ≠ ':') (by decide) (lt_of_isNameChar hc) hc

/-- Letters and digits are no separators, and neither are their capitals. -/
theorem isSeparator_of_isAlphanum (hc : c.isAlphanum = true) : isSeparator c = false := by
  rw [Bool.eq_false_iff]
  intro hseparator
  simp only [isSeparator, Bool.or_eq_true, beq_iff_eq] at hseparator
  obtain ((rfl | rfl) | rfl) | rfl := hseparator <;> exact absurd hc (by decide)

theorem isAlphanum_toUpper (hc : c.isAlphanum = true) : c.toUpper.isAlphanum = true :=
  Text.of_all_ascii (P := fun c => c.isAlphanum = true → c.toUpper.isAlphanum = true)
    (by decide) (lt_of_isNameChar (isNameChar_of_isAlphanum hc)) hc

theorem isAlphanum_of_isDigit (hc : c.isDigit = true) : c.isAlphanum = true := by
  rw [Char.isAlphanum, hc, Bool.or_true]

theorem isAlphanum_of_isNameChar (hc : isNameChar c = true) (hseparator : isSeparator c = false) :
    c.isAlphanum = true := by
  simpa [isNameChar, hseparator] using hc

end

/-- Nothing but letters and digits remains of a name. -/
theorem isAlphanum_of_mem_joined {name : List Char} (hname : ∀ c ∈ name, isNameChar c = true)
    {c : Char} (hc : c ∈ joined name) : c.isAlphanum = true := by
  obtain ⟨_, hmem, hc⟩ := List.mem_flatten.1 hc
  obtain ⟨part, hpart, rfl⟩ := List.mem_map.1 hmem
  have halphanum : ∀ d ∈ part, d.isAlphanum = true := fun d hd =>
    isAlphanum_of_isNameChar (hname d (mem_of_mem_parts hpart hd))
      (isSeparator_of_mem_parts hpart hd)
  cases part with
  | nil => exact absurd hc List.not_mem_nil
  | cons first rest =>
    have hfirst := halphanum first List.mem_cons_self
    rw [capitalised, Text.toUpper_ascii (lt_of_isNameChar (isNameChar_of_isAlphanum hfirst)),
      List.singleton_append] at hc
    rcases List.mem_cons.1 hc with rfl | hc
    · exact isAlphanum_toUpper hfirst
    · exact halphanum c (List.mem_cons_of_mem _ hc)

/-- A name with a point and a numeral behind it. -/
theorem toList_numbered (name : String) (n : Nat) :
    (name ++ "." ++ toString n).toList = name.toList ++ '.' :: (toString n).toList := by
  rw [String.toList_append, String.toList_append, List.append_assoc]
  rfl

theorem isNameChar_of_mem_numeral {n : Nat} {c : Char} (hc : c ∈ '.' :: (toString n).toList) :
    isNameChar c = true := by
  rcases List.mem_cons.1 hc with rfl | hc
  · decide
  · exact isNameChar_of_isAlphanum (isAlphanum_of_isDigit (Text.isDigit_of_mem_toString hc))

/-- Behind an ending of such characters there is no padding to be cut off, and there are no
namespaces in it. -/
theorem coreName_append (s : List Char) {ending : List Char} (hne : ending ≠ [])
    (hending : ∀ c ∈ ending, isNameChar c = true) :
    coreName (s ++ ending) = className (routeName (baseName (Text.trimStart s) ++ ending)) := by
  have hblank : ∀ c ∈ ending, Text.isBlank c = false := fun c hc =>
    (plain_of_isNameChar (hending c hc)).1
  have hslash : '\\' ∉ ending := fun hc => (plain_of_isNameChar (hending _ hc)).2.1 rfl
  have hcolon : ':' ∉ ending := fun hc => (plain_of_isNameChar (hending _ hc)).2.2 rfl
  rw [coreName_eq, Text.trim_append s hne hblank, baseName_append _ hslash hcolon]

/-- Of such characters alone, only a route's beginning and a class's ending can be dropped. -/
theorem coreName_of_isNameChar {source : List Char} (h : ∀ c ∈ source, isNameChar c = true) :
    coreName source = className (routeName source) := by
  cases source with
  | nil => rfl
  | cons first rest => exact coreName_append [] (List.cons_ne_nil first rest) h

end Naming
end ResponseTypes
