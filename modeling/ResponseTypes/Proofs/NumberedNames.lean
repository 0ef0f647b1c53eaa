import Mathlib.Logic.Function.Basic
import ResponseTypes.Proofs.NameStages

/-!
# Names with numerals

The units of a payload with several documents are named by the payload, a point and a numeral.  A
payload can have any name, with padding, namespaces, the beginning of a route or the ending of a
class in it, and none of this is taken from the numeral: padding and namespaces are cut off in front
of it, a class does not end in a digit, and if the beginning of a route takes up the point, then it
ends there.  So what a type is named by ends with the numeral, and what comes before the numeral is
told by the payload alone.

## Main statements

- `Naming.exists_front`: a type's name is made of a front, the numeral and the suffix.
- `Naming.typeName_numbered_injective`: types with other numerals have other names.
-/

namespace ResponseTypes
namespace Naming

/-- What ends with a digit does not end like a class. -/
theorem className_append_digits (name : List Char) {digits : List Char} (hne : digits ≠ [])
    (hdigits : ∀ c ∈ digits, c.isDigit = true) : className (name ++ digits) = name ++ digits := by
  refine className_of_not_suffix ?_
  rintro ⟨rest, heq⟩
  obtain ⟨front, last, rfl⟩ := (List.eq_nil_or_concat' digits).resolve_left hne
  have hlast : 'e' = last := by
    rw [← List.append_assoc] at heq
    have hends := congrArg List.getLast? heq
    simpa [List.getLast?_append] using hends
  have hdigit := hdigits last (by simp)
  rw [← hlast] at hdigit
  exact absurd hdigit (by decide)

section

variable {digits : List Char} (hdigits : ∀ c ∈ digits, c.isDigit = true)
include hdigits

/-- Digits have no capitals. -/
theorem joined_digits : joined digits = digits := by
  have halphanum : ∀ c ∈ digits, c.isAlphanum = true := fun c hc =>
    isAlphanum_of_isDigit (hdigits c hc)
  rw [joined_of_not_separator fun c hc => isSeparator_of_isAlphanum (halphanum c hc)]
  cases digits with
  | nil => rfl
  | cons digit rest =>
    have hlt := lt_of_isNameChar (isNameChar_of_isAlphanum (halphanum digit List.mem_cons_self))
    have hupper : digit.toUpper = digit :=
      Text.of_all_ascii (P := fun c => c.isDigit = true → c.toUpper = c) (by decide) hlt
        (hdigits digit List.mem_cons_self)
    rw [capitalised, Text.toUpper_ascii hlt, hupper]
    rfl

theorem joined_append_digits (name : List Char) :
    joined (name ++ '.' :: digits) = joined name ++ digits := by
  rw [joined_append (by decide), joined_digits hdigits]

end

/-- The beginning of a route and the ending of a class are dropped in front of a numeral as if the
numeral were not there. -/
theorem exists_front_className (base : List Char) : ∃ front : List Char, ∀ digits : List Char,
    digits ≠ [] → (∀ c ∈ digits, c.isDigit = true) →
      joined (className (routeName (base ++ '.' :: digits))) = front ++ digits := by
  have hsplit : ∀ digits, base ++ '.' :: digits = (base ++ ['.']) ++ digits := by simp
  by_cases hroute : ∃ start ∈ routeStarts, start <+: base ++ ['.']
  · obtain ⟨start, hstart, own, hown⟩ := hroute
    have hrest : ∀ digits, routeName (base ++ '.' :: digits) = own ++ digits := fun digits => by
      rw [hsplit, ← hown, List.append_assoc, routeName_of_mem hstart]
    rcases List.eq_nil_or_concat' own with rfl | ⟨name, last, rfl⟩
    · refine ⟨[], fun digits hne hdigits => ?_⟩
      rw [hrest, className_append_digits [] hne hdigits, List.nil_append, joined_digits hdigits]
    · rw [← List.append_assoc] at hown
      obtain rfl := List.singleton_inj.1 (List.append_inj' hown rfl).2
      refine ⟨joined name, fun digits hne hdigits => ?_⟩
      rw [hrest, className_append_digits _ hne hdigits, List.append_assoc, List.singleton_append,
        joined_append_digits hdigits]
  · refine ⟨joined base, fun digits hne hdigits => ?_⟩
    have hkept : ∀ start ∈ routeStarts, ¬ start <+: base ++ '.' :: digits := by
      intro start hstart hstarts
      rw [hsplit] at hstarts
      exact hroute ⟨start, hstart, prefix_of_prefix_append_digits hstart hdigits hstarts⟩
    rw [routeName_of_not_route hkept, hsplit, className_append_digits _ hne hdigits, ← hsplit,
      joined_append_digits hdigits]

/-- A type that is named after a payload and a numeral has a name with three parts: a front that is
told by the payload, the numeral, and the suffix. -/
theorem exists_front (stem : String) : ∃ front : String, ∀ (n : Nat) (suffix : String),
    typeName (stem ++ "." ++ toString n) suffix = front ++ toString n ++ suffix := by
  obtain ⟨front, hfront⟩ := exists_front_className (baseName (Text.trimStart stem.toList))
  refine ⟨String.ofList front, fun n suffix => ?_⟩
  rw [typeName_eq_joined, toList_numbered,
    coreName_append _ (List.cons_ne_nil _ _) fun _ => isNameChar_of_mem_numeral,
    hfront _ (Text.toList_toString_ne_nil n) fun _ => Text.isDigit_of_mem_toString,
    String.ofList_append, String.ofList_toList]

/-- Types of one payload with other numerals have other names. -/
theorem typeName_numbered_injective (stem suffix : String) :
    Function.Injective fun n : Nat => typeName (stem ++ "." ++ toString n) suffix := by
  intro n m heq
  obtain ⟨front, hfront⟩ := exists_front stem
  dsimp only at heq
  rw [hfront, hfront, ← String.toList_inj] at heq
  simp only [String.toList_append, List.append_cancel_right_eq, List.append_cancel_left_eq,
    Text.toList_toString] at heq
  have hread := congrArg (Nat.ofDigitChars 10 · 0) heq
  simpa using hread

end Naming
end ResponseTypes
