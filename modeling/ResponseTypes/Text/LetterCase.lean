import ResponseTypes.Text.CaseTable

/-!
# Letter case

Case of single characters after the Unicode standard, without regard to language or to the
characters around them.  A capital or a small letter may take several characters, so both maps
answer with a list.

## Main definitions

- `Text.isUpper`, `Text.isLower`: the properties Uppercase and Lowercase.
- `Text.toUpper`, `Text.toLower`: the full case maps of one character.
- `Text.asciiLower`: small letters for the capitals of ASCII alone.
-/

namespace ResponseTypes
namespace Text

/-- A letter that is written as a capital. -/
def isUpper (c : Char) : Bool :=
  CaseTable.upper.any (·.contains c.toNat)

/-- A letter that is written as a small letter. -/
def isLower (c : Char) : Bool :=
  CaseTable.lower.any (·.contains c.toNat)

/-- The image of a character under a table of sequences and a table of single shifts.  A character
in neither stays as it is. -/
def mapCase (sequences : List (Nat × List Nat)) (shifts : List CaseTable.Shift) (c : Char) :
    List Char :=
  match sequences.lookup c.toNat with
  | some images => images.map Char.ofNat
  | none =>
    match shifts.find? (·.contains c.toNat) with
    | some shift => [Char.ofNat (shift.apply c.toNat)]
    | none => [c]

/-- The capital of a character. -/
def toUpper (c : Char) : List Char :=
  mapCase CaseTable.toUpperSequence CaseTable.toUpper c

/-- The small letter of a character. -/
def toLower (c : Char) : List Char :=
  mapCase CaseTable.toLowerSequence CaseTable.toLower c

/-- The small letter of an ASCII capital; any other character is kept. -/
def asciiLower (c : Char) : Char :=
  if 'A' ≤ c ∧ c ≤ 'Z' then Char.ofNat (c.toNat + 32) else c

/-- The capital of an ASCII small letter; any other character is kept. -/
def asciiUpper (c : Char) : Char :=
  if 'a' ≤ c ∧ c ≤ 'z' then Char.ofNat (c.toNat - 32) else c

end Text
end ResponseTypes
