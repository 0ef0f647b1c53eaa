import ResponseTypes.Json.Number
import ResponseTypes.Regex.Machine
import ResponseTypes.Regex.Reader

/-!
# The shapes of date strings

A string of a payload is annotated as a date when one of three patterns matches it.  The patterns
hold for whole strings only, and only the shape counts, so a thirteenth month is accepted; digits
are ASCII digits.

Most strings are no dates.  So the bytes of a string are looked at before any pattern is tried: a
string that has fewer bytes than the shortest date, or does not begin with a digit, is turned away.

## Main definitions

- `DateShape.Pattern`: a pattern, with the expression that its text is read as.
- `DateShape.date`, `DateShape.dateTime`, `DateShape.instant`: the three patterns.
- `DateShape.isDate`: whether a string is a date.
-/

namespace ResponseTypes
namespace DateShape

/-- The ASCII digits. -/
def isDigit (c : Char) : Bool :=
  '0' ≤ c && c ≤ '9'

/-! ## Patterns -/

/-- A pattern: its text, and the expression and the number of groups that it is read as. -/
structure Pattern where
  text : String
  expression : Regex
  groups : Nat
  reads : Regex.parse? {} text.toList = some (expression, groups, [])

/-- Whether a pattern matches anywhere in a string. -/
def Pattern.isMatch (pattern : Pattern) (s : String) : Bool :=
  (Regex.Machine.ofRegex pattern.expression pattern.groups).isMatch s.toList

/-- The expression of `n` digits. -/
def digits (n : Nat) : Regex :=
  .many ⟨n, some n, true⟩ (.oneOf .digits)

/-- The expression of one given character. -/
def mark (c : Char) : Regex :=
  .oneOf (.single c)

/-- The expression of something that may be left out. -/
def optional (r : Regex) : Regex :=
  .many ⟨0, some 1, true⟩ r

/-- The expressions of a day. -/
def day : List Regex :=
  [digits 4, mark '-', digits 2, mark '-', digits 2]

/-- The expressions of a time of day. -/
def clock : List Regex :=
  [digits 2, mark ':', digits 2, mark ':', digits 2]

/-- The expression of a point and the digits after it. -/
def fraction : Regex :=
  .sequence [mark '.', .many ⟨1, some 9, true⟩ (.oneOf .digits)]

/-- The expression of a time zone: a letter, or a sign and a time. -/
def zone : Regex :=
  .choice [mark 'Z',
    .sequence [.oneOf ((CharSet.single '+').union (.single '-')), digits 2, mark ':', digits 2]]

/-- The expression that matches whole texts only, made of these parts. -/
def whole (parts : List Regex) : Regex :=
  .sequence (.anchor .textStart :: parts ++ [.anchor .textEnd])

/-- The pattern of a day. -/
def date : Pattern where
  text := "^[0-9]{4}-[0-9]{2}-[0-9]{2}$"
  expression := whole day
  groups := 0
  reads := by decide +kernel

/-- The pattern of a day and a time after a space. -/
def dateTime : Pattern where
  text := "^[0-9]{4}-[0-9]{2}-[0-9]{2} [0-9]{2}:[0-9]{2}:[0-9]{2}$"
  expression := whole (day ++ mark ' ' :: clock)
  groups := 0
  reads := by decide +kernel

/-- The pattern of a day and a time after `T`, perhaps with a fraction and a zone. -/
def instant : Pattern where
  text := "^[0-9]{4}-[0-9]{2}-[0-9]{2}T[0-9]{2}:[0-9]{2}:[0-9]{2}" ++
    "(\\.[0-9]{1,9})?(Z|[+-][0-9]{2}:[0-9]{2})?$"
  expression := whole (day ++ mark 'T' :: clock ++
    [optional (.group 1 fraction), optional (.group 2 zone)])
  groups := 2
  reads := by decide +kernel

/-! ## Dates -/

/-- Whether a string is turned away by its bytes: there are fewer than ten of them, or the first is
no digit.  There is no answer if the first byte is asked for and is not there. -/
def isTurnedAway? (s : String) : Option Bool :=
  let bytes := s.toUTF8
  if bytes.size < 10 then some true
  else bytes[0]?.map fun b => !Json.isDigit b

/-- Whether a string is a date, if its bytes can be looked at. -/
def isDate? (s : String) : Option Bool := do
  if ← isTurnedAway? s then return false
  return date.isMatch s || dateTime.isMatch s || instant.isMatch s

/-- A string that one of the three patterns matches. -/
def isDate (s : String) : Bool :=
  (isDate? s).getD false

end DateShape
end ResponseTypes
