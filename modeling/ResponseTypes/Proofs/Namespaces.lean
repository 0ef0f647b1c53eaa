import ResponseTypes.Proofs.NameStages

/-!
# Namespaces

A class name may stand behind namespaces, which are set off by `\` or by `::`.  The two marks are
cut off one after the other, first everything up to the last `\` and then everything up to the last
`::` of the rest.  They may come in any order and any number, and colons in a row overlap, so it is
not plain that a name comes out alike whatever stands in front of it.

It does, and by the same argument for both marks: behind a mark there is either another one, and
then the first is out of sight, or there is none, and then the name is all that follows the mark.
The only trouble is a colon at the front of the name, with which a `::` before it makes a `::` of
its own; and a type is named after the trimmed source, so blanks at the front of the name are
padding only without a namespace before them.

## Main statements

- `Naming.baseName_backslash`, `Naming.baseName_doubleColon`: what is in front of a mark is cut off.
- `Text.trim_append_cons`: padding is cut off on both sides of a mark by itself.
- `Naming.names_behind_namespaces`: types and tables are named alike with namespaces and without.
-/

namespace ResponseTypes

namespace Text

/-! ## Padding around a mark -/

variable {c : Char}

theorem trimStart_append_cons (hc : isBlank c = false) (s rest : List Char) :
    trimStart (s ++ c :: rest) = trimStart s ++ c :: rest := by
  induction s with
  | nil => rw [List.nil_append, trimStart, List.dropWhile_cons_of_neg (by simp [hc])]; rfl
  | cons first s ih =>
    by_cases hfirst : isBlank first = true
    · rw [trimStart, trimStart] at ih
      rw [trimStart, trimStart, List.cons_append, List.dropWhile_cons_of_pos hfirst,
        List.dropWhile_cons_of_pos hfirst, ih]
    · rw [trimStart, trimStart, List.cons_append, List.dropWhile_cons_of_neg hfirst,
        List.dropWhile_cons_of_neg hfirst, List.cons_append]

theorem trimEnd_append_cons (hc : isBlank c = false) (s rest : List Char) :
    trimEnd (s ++ c :: rest) = s ++ c :: trimEnd rest := by
  have hreversed := trimStart_append_cons hc rest.reverse s.reverse
  rw [trimStart, trimStart] at hreversed
  rw [trimEnd, trimEnd, List.reverse_append, List.reverse_cons, List.append_assoc,
    List.singleton_append, hreversed]
  simp

theorem trimEnd_prefix (s : List Char) : trimEnd s <+: s := by
  rw [← List.reverse_suffix, trimEnd, List.reverse_reverse]
  exact List.dropWhile_suffix _

variable {s : List Char}

/-- A text that does not begin with a blank has no padding at its front. -/
theorem trim_of_head? (h : ∀ c ∈ s.head?, isBlank c = false) : trim s = trimEnd s := by
  cases s with
  | nil => rfl
  | cons first rest =>
    have hfirst : isBlank first = false := h first rfl
    rw [trim, trimStart, List.dropWhile_cons_of_neg (by simp [hfirst])]

theorem head?_trim (h : ∀ c ∈ s.head?, isBlank c = false) {c : Char}
    (hc : s.head? ≠ some c) : (trim s).head? ≠ some c := by
  intro hhead
  rw [trim_of_head? h] at hhead
  obtain ⟨rest, hrest⟩ := List.head?_eq_some_iff.1 hhead
  obtain ⟨more, hmore⟩ := trimEnd_prefix s
  rw [hrest, List.cons_append] at hmore
  exact hc (by rw [← hmore]; rfl)

/-- Padding is cut off in front of a mark and behind the text after it. -/
theorem trim_append_cons (hc : isBlank c = false) (front : List Char)
    (h : ∀ d ∈ s.head?, isBlank d = false) :
    trim (front ++ c :: s) = trimStart front ++ c :: trim s := by
  rw [trim, trimStart_append_cons hc, trimEnd_append_cons hc, trim_of_head? h]

end Text

namespace Naming

/-! ## In front of the last mark -/

theorem afterLast_append_cons (mark : Char) (s rest : List Char) :
    afterLast mark (s ++ mark :: rest) = afterLast mark rest := by
  have hstop : (mark :: s.reverse).takeWhile (· ≠ mark) = [] :=
    List.takeWhile_cons_of_neg (by simp)
  rw [afterLast, afterLast, List.reverse_append, List.reverse_cons, List.append_assoc,
    List.singleton_append, List.takeWhile_append, hstop, List.append_nil]
  split_ifs with hall
  · rw [(List.takeWhile_prefix _).eq_of_length hall]
  · rfl

/-- A text without the mark is all that comes after the last one. -/
theorem afterLast_of_not_mem {mark : Char} {s : List Char} (h : mark ∉ s) :
    afterLast mark s = s :=
  afterLast_append [] h

/-- Two colons before a text that does not go on with a colon are cut off with all before them. -/
theorem afterDoubleColon?_append_cons (s : List Char) {rest : List Char}
    (h : rest.head? ≠ some ':') :
    afterDoubleColon? (s ++ ':' :: ':' :: rest) = some ((afterDoubleColon? rest).getD rest) := by
  induction s with
  | nil =>
    rw [List.nil_append, afterDoubleColon?, afterDoubleColon?_cons fun _ => h]
    cases afterDoubleColon? rest <;> rfl
  | cons c s ih =>
    rw [List.cons_append]
    by_cases hcolons : c = ':' → (s ++ ':' :: ':' :: rest).head? ≠ some ':'
    · rw [afterDoubleColon?_cons hcolons, ih]
    · -- the first colon makes a pair with the next, and the last pair is further on all the same
      obtain ⟨rfl, hnext⟩ := Classical.not_imp.1 hcolons
      obtain ⟨more, hmore⟩ := List.head?_eq_some_iff.1 (not_not.1 hnext)
      rw [hmore] at ih ⊢
      rw [afterDoubleColon?, ih]

variable {m : List Char}

/-- What is in front of a `\` is cut off. -/
theorem baseName_backslash (front m : List Char) : baseName (front ++ '\\' :: m) = baseName m := by
  rw [baseName, baseName, afterLast_append_cons]

/-- What is in front of a `::` is cut off, whether there is a `\` behind it or not. -/
theorem baseName_doubleColon (front : List Char) (h : m.head? ≠ some ':') :
    baseName (front ++ ':' :: ':' :: m) = baseName m := by
  by_cases hslash : '\\' ∈ m
  · obtain ⟨before, behind, rfl⟩ := List.append_of_mem hslash
    have hbefore : front ++ ':' :: ':' :: (before ++ '\\' :: behind) =
        (front ++ ':' :: ':' :: before) ++ '\\' :: behind := by simp
    rw [hbefore, baseName_backslash, baseName_backslash]
  · have hending : '\\' ∉ ':' :: ':' :: m := by simp [hslash]
    rw [baseName, baseName, afterLast_append _ hending, afterLast_of_not_mem hslash,
      afterDoubleColon?_append_cons _ h, Option.getD_some]

/-! ## Names of types and tables -/

/-- A type is named alike if the trimmed source has the same name behind its namespaces. -/
theorem typeName_congr {source other : String}
    (h : baseName (Text.trim source.toList) = baseName (Text.trim other.toList)) (suffix : String) :
    typeName source suffix = typeName other suffix := by
  rw [typeName_eq_joined, typeName_eq_joined, coreName_eq, coreName_eq, h]

theorem tableName_congr {model other : String} (h : baseName model.toList = baseName other.toList) :
    tableName model = tableName other := by
  rw [tableName, tableName, h]

/-- Namespaces never matter.  A type is named alike with a namespace and without, if the name behind
it does not begin with a blank, and for a namespace that is set off by `::` not with a colon either.
A table is named alike too, behind a `\` for every name and behind `::` if the name does not begin
with a colon. -/
theorem names_behind_namespaces (ns m suffix : String) :
    ((∀ c ∈ m.toList.head?, Text.isBlank c = false) →
      typeName (ns ++ "\\" ++ m) suffix = typeName m suffix ∧
      (m.toList.head? ≠ some ':' → typeName (ns ++ "::" ++ m) suffix = typeName m suffix)) ∧
    tableName (ns ++ "\\" ++ m) = tableName m ∧
    (m.toList.head? ≠ some ':' → tableName (ns ++ "::" ++ m) = tableName m) := by
  have hslash : (ns ++ "\\" ++ m).toList = ns.toList ++ '\\' :: m.toList := by
    simp [String.toList_append]
  have hcolons : (ns ++ "::" ++ m).toList = ns.toList ++ ':' :: ':' :: m.toList := by
    simp [String.toList_append]
  refine ⟨fun hblank => ⟨typeName_congr ?_ suffix, fun hcolon => typeName_congr ?_ suffix⟩,
    tableName_congr ?_, fun hcolon => tableName_congr ?_⟩
  · rw [hslash, Text.trim_append_cons (by decide) _ hblank, baseName_backslash]
  · have hfront :
        ns.toList ++ ':' :: ':' :: m.toList = (ns.toList ++ [':']) ++ ':' :: m.toList := by
      simp
    rw [hcolons, hfront, Text.trim_append_cons (by decide) _ hblank,
      Text.trimStart_append_cons (by decide), List.append_assoc, List.singleton_append,
      baseName_doubleColon _ (Text.head?_trim hblank hcolon)]
  · rw [hslash, baseName_backslash]
  · rw [hcolons, baseName_doubleColon _ hcolon]

/-- Both marks before a name that has both of them, with padding outside. -/
theorem names_behind_namespaces_mixed :
    typeName (" App:::a\\b" ++ "::" ++ "c\\api.v1::UserResource ") "Type" = "UserType" ∧
      tableName ("App:::a\\b" ++ "\\" ++ "::BlogPost") = "blog_posts" := by
  obtain ⟨htype, -, -⟩ := names_behind_namespaces " App:::a\\b" "c\\api.v1::UserResource " "Type"
  obtain ⟨-, htable, -⟩ := names_behind_namespaces "App:::a\\b" "::BlogPost" "Type"
  have hblank : ∀ c ∈ "c\\api.v1::UserResource ".toList.head?, Text.isBlank c = false := by
    intro c hc
    obtain rfl : 'c' = c := Option.some.inj hc
    decide
  exact ⟨((htype hblank).2 (by decide)).trans (by decide), htable.trans (by decide)⟩

/-- A blank behind a namespace is no padding, and a third colon takes the place of the second. -/
example : typeName "a\\ b" "" ≠ typeName " b" "" ∧ tableName "a:::b" ≠ tableName ":b" := by
  decide

end Naming
end ResponseTypes
