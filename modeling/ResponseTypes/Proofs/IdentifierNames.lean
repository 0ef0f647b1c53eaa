import ResponseTypes.Proofs.NameStages
import ResponseTypes.Proofs.PropertyKey

/-!
# Names of types that can be declared

The name of a type stands in an `export interface`, where only an identifier can stand.  Of the
names of files and tables, which are made of letters, digits and separators, letters and digits are
what remains, so a name can only fail at its front, by a digit.  A digit comes to the front where
it stands right behind the beginning of a route, `api.` or `api/`, or behind separators that do.

This is about unit names too: a unit that is one of several has a numeral behind a point, so a
payload named `api` has units whose types cannot be declared.

## Main definitions

- `Naming.startsWithDigit`: the first character that is no separator is a digit.
- `Naming.IsRouteTo`: a route with a given part behind its beginning.

## Main statements

- `Naming.isIdentifier_joined_append`: which names become identifiers.
- `Naming.isIdentifier_typeName_iff`: which sources, and which units of theirs, have types that can
  be declared.
-/

namespace ResponseTypes
namespace Naming

open Declaration (isIdentifier isIdentifierStart isIdentifierRest)

/-! ## Characters of identifiers -/

section

variable {c : Char}

theorem isIdentifierRest_of_isAlphanum (hc : c.isAlphanum = true) :
    isIdentifierRest c = true :=
  Text.of_all_ascii (P := fun c => c.isAlphanum = true → isIdentifierRest c = true)
    (by decide) (lt_of_isNameChar (isNameChar_of_isAlphanum hc)) hc

/-- Of letters and digits, an identifier begins with any but digits, in either case. -/
theorem isIdentifierStart_toUpper (hc : c.isAlphanum = true) :
    isIdentifierStart c.toUpper = !c.isDigit :=
  Text.of_all_ascii (P := fun c => c.isAlphanum = true → isIdentifierStart c.toUpper = !c.isDigit)
    (by decide) (lt_of_isNameChar (isNameChar_of_isAlphanum hc)) hc

theorem isSeparator_of_isDigit (hc : c.isDigit = true) : isSeparator c = false :=
  isSeparator_of_isAlphanum (isAlphanum_of_isDigit hc)

end

/-! ## Names that start with a digit -/

/-- The first character of a name that is no separator. -/
def firstOwn? (name : List Char) : Option Char :=
  name.find? fun c => !isSeparator c

/-- The first character that is no separator is a digit. -/
def startsWithDigit (name : List Char) : Bool :=
  (firstOwn? name).any Char.isDigit

theorem firstOwn?_append (front back : List Char) :
    firstOwn? (front ++ back) = (firstOwn? front).or (firstOwn? back) :=
  List.find?_append

/-- A name is all separators, or it has a first character that is none. -/
theorem firstOwn?_cases (name : List Char) :
    firstOwn? name = none ∧ (∀ c ∈ name, isSeparator c = true) ∨
      ∃ marks c rest, firstOwn? name = some c ∧ (∀ mark ∈ marks, isSeparator mark = true) ∧
        isSeparator c = false ∧ name = marks ++ c :: rest := by
  cases hfirst : firstOwn? name with
  | none => exact .inl ⟨rfl, by simpa [firstOwn?] using hfirst⟩
  | some c =>
    obtain ⟨hc, marks, rest, rfl, hmarks⟩ := List.find?_eq_some_iff_append.1 hfirst
    exact .inr ⟨marks, c, rest, rfl, by simpa using hmarks, by simpa using hc, rfl⟩

/-- What is joined of a name is an identifier in front of one, unless the name starts with a
digit. -/
theorem isIdentifier_joined_append {name suffix : List Char}
    (hname : ∀ c ∈ name, isNameChar c = true) (hsuffix : isIdentifier suffix = true) :
    isIdentifier (joined name ++ suffix) = !startsWithDigit name := by
  rcases firstOwn?_cases name with ⟨hnone, hmarks⟩ | ⟨marks, c, rest, hfirst, hmarks, hc, rfl⟩
  · have hjoined : joined name = [] := by
      rw [← List.append_nil name, joined_marks_append hmarks]
      rfl
    rw [hjoined, List.nil_append, hsuffix, startsWithDigit, hnone]
    rfl
  · have halphanum : c.isAlphanum = true := isAlphanum_of_isNameChar (hname c (by simp)) hc
    obtain ⟨part, others, -, hparts⟩ := exists_parts_cons hc rest
    have hjoined : joined (marks ++ c :: rest) =
        c.toUpper :: (part ++ (others.map capitalised).flatten) := by
      rw [joined_marks_append hmarks, joined, hparts, List.map_cons, List.flatten_cons, capitalised,
        Text.toUpper_ascii (lt_of_isNameChar (isNameChar_of_isAlphanum halphanum))]
      rfl
    have hrest : ∀ d ∈ part ++ (others.map capitalised).flatten ++ suffix,
        isIdentifierRest d = true := by
      intro d hd
      rcases List.mem_append.1 hd with hd | hd
      · refine isIdentifierRest_of_isAlphanum (isAlphanum_of_mem_joined hname ?_)
        rw [hjoined]
        exact List.mem_cons_of_mem _ hd
      · exact Declaration.isIdentifierRest_of_mem hsuffix hd
    rw [hjoined, List.cons_append, isIdentifier, isIdentifierStart_toUpper halphanum,
      List.all_eq_true.2 hrest, Bool.and_true, startsWithDigit, hfirst]
    rfl

/-- The ending of a class does not tell what a name starts with. -/
theorem startsWithDigit_className (name : List Char) :
    startsWithDigit (className name) = startsWithDigit name := by
  by_cases hclass : "Resource".toList <:+ name
  · obtain ⟨rest, rfl⟩ := hclass
    rw [className_append, startsWithDigit, startsWithDigit, firstOwn?_append]
    cases firstOwn? rest <;> rfl
  · rw [className_of_not_suffix hclass]

/-! ## Routes that start with a digit -/

/-- A route whose own part, behind its beginning, is as told. -/
def IsRouteTo (own : List Char → Bool) (source : List Char) : Prop :=
  ∃ start ∈ routeStarts, ∃ rest, source = start ++ rest ∧ own rest = true

theorem isRouteTo_iff_any {own : List Char → Bool} {source : List Char} :
    IsRouteTo own source ↔
      routeStarts.any (fun start => (dropStart? start source).any own) = true := by
  simp only [IsRouteTo, List.any_eq_true, Option.any_eq_true, dropStart?_eq_some]

instance (own : List Char → Bool) (source : List Char) : Decidable (IsRouteTo own source) :=
  decidable_of_iff' _ isRouteTo_iff_any

theorem startsWithDigit_cons_of_isAlpha {first : Char} (hfirst : first.isAlpha = true)
    (rest : List Char) : startsWithDigit (first :: rest) = false := by
  have halphanum : first.isAlphanum = true := by rw [Char.isAlphanum, hfirst, Bool.true_or]
  have hdigit : first.isDigit = false :=
    Text.of_all_ascii (P := fun c => c.isAlpha = true → c.isDigit = false) (by decide)
      (lt_of_isNameChar (isNameChar_of_isAlphanum halphanum)) hfirst
  rw [startsWithDigit, firstOwn?,
    List.find?_cons_of_pos (by rw [isSeparator_of_isAlphanum halphanum]; rfl), Option.any_some,
    hdigit]

/-- What starts with a letter can only start with a digit once the beginning of a route is gone. -/
theorem startsWithDigit_routeName_iff {first : Char} (hfirst : first.isAlpha = true)
    (rest : List Char) : startsWithDigit (routeName (first :: rest)) = true ↔
      IsRouteTo startsWithDigit (first :: rest) := by
  constructor
  · intro hdigit
    by_cases hroute : ∃ start ∈ routeStarts, start <+: first :: rest
    · obtain ⟨start, hstart, own, heq⟩ := hroute
      rw [← heq, routeName_of_mem hstart] at hdigit
      exact ⟨start, hstart, own, heq.symm, hdigit⟩
    · rw [routeName_of_not_route fun start hstart h => hroute ⟨start, hstart, h⟩,
        startsWithDigit_cons_of_isAlpha hfirst] at hdigit
      exact absurd hdigit Bool.false_ne_true
  · rintro ⟨start, hstart, own, heq, hdigit⟩
    rwa [heq, routeName_of_mem hstart]

section

variable {digits : List Char}

/-- In front of digits, either a name starts with a digit itself, or there are only separators. -/
theorem startsWithDigit_append_digits (name : List Char) (hne : digits ≠ [])
    (hdigits : ∀ c ∈ digits, c.isDigit = true) :
    startsWithDigit (name ++ digits) = (startsWithDigit name || name.all isSeparator) := by
  have hlast : (firstOwn? digits).any Char.isDigit = true := by
    cases digits with
    | nil => exact absurd rfl hne
    | cons digit rest =>
      have hdigit := hdigits digit List.mem_cons_self
      rw [firstOwn?, List.find?_cons_of_pos (by rw [isSeparator_of_isDigit hdigit]; rfl)]
      exact hdigit
  rw [startsWithDigit, startsWithDigit, firstOwn?_append]
  rcases firstOwn?_cases name with ⟨hnone, hmarks⟩ | ⟨marks, c, rest, hfirst, -, hc, rfl⟩
  · rw [hnone, Option.none_or, hlast, List.all_eq_true.2 hmarks, Bool.or_true]
  · have hall : (marks ++ c :: rest).all isSeparator = false := by simp [hc]
    rw [hfirst, Option.some_or, hall, Bool.or_false]

/-- A numeral behind a point makes a route start with a digit only if there was nothing in
between. -/
theorem isRouteTo_append_digits_iff (source : List Char) (hne : digits ≠ [])
    (hdigits : ∀ c ∈ digits, c.isDigit = true) :
    IsRouteTo startsWithDigit (source ++ '.' :: digits) ↔
      IsRouteTo startsWithDigit source ∨ IsRouteTo (·.all isSeparator) (source ++ ['.']) := by
  have hsplit : source ++ '.' :: digits = (source ++ ['.']) ++ digits := by simp
  constructor
  · rintro ⟨start, hstart, rest, heq, hrest⟩
    rw [hsplit] at heq
    obtain ⟨own, hown⟩ := prefix_of_prefix_append_digits hstart hdigits ⟨rest, heq.symm⟩
    rw [← hown, List.append_assoc, List.append_cancel_left_eq] at heq
    rw [← heq, startsWithDigit_append_digits own hne hdigits, Bool.or_eq_true] at hrest
    rcases hrest with hdigit | hmarks
    · rcases List.eq_nil_or_concat' own with rfl | ⟨front, last, rfl⟩
      · exact absurd hdigit (by decide)
      · rw [← List.append_assoc] at hown
        obtain ⟨rfl, hlast⟩ := List.append_inj' hown rfl
        obtain rfl := List.singleton_inj.1 hlast
        have hpoint : firstOwn? ['.'] = none := rfl
        refine .inl ⟨start, hstart, front, rfl, ?_⟩
        rwa [startsWithDigit, firstOwn?_append, hpoint, Option.or_none] at hdigit
    · exact .inr ⟨start, hstart, own, hown.symm, hmarks⟩
  · rintro (⟨start, hstart, rest, rfl, hrest⟩ | ⟨start, hstart, marks, heq, hmarks⟩)
    · refine ⟨start, hstart, rest ++ '.' :: digits, List.append_assoc _ _ _, ?_⟩
      obtain ⟨c, hc, hdigit⟩ := (Option.any_eq_true _ _).1 hrest
      rw [startsWithDigit, firstOwn?_append, hc, Option.some_or, Option.any_some, hdigit]
    · refine ⟨start, hstart, marks ++ digits, by rw [hsplit, heq, List.append_assoc], ?_⟩
      rw [startsWithDigit_append_digits marks hne hdigits, Bool.or_eq_true]
      exact .inr hmarks

end

/-! ## Types that can be declared -/

variable {source suffix : String}

/-- The type of a source is named by an identifier, unless the source is a route to something that
starts with a digit. -/
theorem isIdentifier_typeName {first : Char} {rest : List Char}
    (hsource : source.toList = first :: rest) (hfirst : first.isAlpha = true)
    (hchars : ∀ c ∈ source.toList, isNameChar c = true)
    (hsuffix : isIdentifier suffix.toList = true) :
    isIdentifier (typeName source suffix).toList = true ↔
      ¬ IsRouteTo startsWithDigit source.toList := by
  have hcore : ∀ c ∈ coreName source.toList, isNameChar c = true := fun c hc =>
    hchars c (mem_of_mem_coreName hc)
  rw [typeName_eq_joined, String.toList_append, String.toList_ofList,
    isIdentifier_joined_append hcore hsuffix, coreName_of_isNameChar hchars,
    startsWithDigit_className, hsource, ← startsWithDigit_routeName_iff hfirst,
    Bool.not_eq_true', Bool.not_eq_true]

/-- Of the sources that are made of letters, digits and separators and start with a letter, all have
types that can be declared but the routes to something that starts with a digit.  A unit that is
one of several is such a route in one more case: if there is nothing between the beginning of the
route and the unit's numeral but separators. -/
theorem isIdentifier_typeName_iff (source suffix : String)
    (hchars : ∀ c ∈ source.toList, isNameChar c = true)
    (hfirst : ∃ first rest, source.toList = first :: rest ∧ first.isAlpha = true)
    (hsuffix : isIdentifier suffix.toList = true) :
    (isIdentifier (typeName source suffix).toList = true ↔
        ¬ IsRouteTo startsWithDigit source.toList) ∧
      ∀ n : Nat, isIdentifier (typeName (source ++ "." ++ toString n) suffix).toList = true ↔
        ¬ (IsRouteTo startsWithDigit source.toList ∨
          IsRouteTo (·.all isSeparator) (source.toList ++ ['.'])) := by
  obtain ⟨first, rest, hsource, hfirst⟩ := hfirst
  refine ⟨isIdentifier_typeName hsource hfirst hchars hsuffix, fun n => ?_⟩
  have hunitChars : ∀ c ∈ (source ++ "." ++ toString n).toList, isNameChar c = true := by
    rw [toList_numbered]
    exact List.forall_mem_append.2 ⟨hchars, fun _ => isNameChar_of_mem_numeral⟩
  rw [isIdentifier_typeName (by rw [toList_numbered, hsource]; rfl) hfirst hunitChars hsuffix,
    toList_numbered, isRouteTo_append_digits_iff _ (Text.toList_toString_ne_nil n) fun _ =>
      Text.isDigit_of_mem_toString]

/-- A table and a route have types that can be declared, and so has each of several units.  The
units of a payload named `api` have not. -/
theorem isIdentifier_typeName_iff_routes :
    isIdentifier (typeName "api/users-index" "Resource").toList = true ∧
      (∀ n : Nat, isIdentifier (typeName ("blog_posts" ++ "." ++ toString n) "$").toList = true) ∧
      ∀ n : Nat, isIdentifier (typeName ("api" ++ "." ++ toString n) "Type").toList = false := by
  have hindex := (isIdentifier_typeName_iff "api/users-index" "Resource"
    (List.all_eq_true.1 (by decide)) ⟨'a', _, rfl, by decide⟩ (by decide)).1
  have hposts := (isIdentifier_typeName_iff "blog_posts" "$"
    (List.all_eq_true.1 (by decide)) ⟨'b', _, rfl, by decide⟩ (by decide)).2
  have hapi := (isIdentifier_typeName_iff "api" "Type"
    (List.all_eq_true.1 (by decide)) ⟨'a', _, rfl, by decide⟩ (by decide)).2
  exact ⟨hindex.2 (by decide), fun n => (hposts n).2 (by decide),
    fun n => Bool.eq_false_iff.2 fun h => (hapi n).1 h (by decide)⟩

/-- A route to something that starts with a digit has a type that cannot be declared. -/
theorem isIdentifier_typeName_fails : ¬ ∀ source suffix : String,
    (∀ c ∈ source.toList, isNameChar c = true) →
    (∃ first rest, source.toList = first :: rest ∧ first.isAlpha = true) →
    isIdentifier suffix.toList = true → isIdentifier (typeName source suffix).toList = true := by
  intro h
  have hroute := h "api.1" "Type" (List.all_eq_true.1 (by decide)) ⟨'a', _, rfl, by decide⟩
    (by decide)
  exact absurd hroute (by decide)

end Naming
end ResponseTypes
