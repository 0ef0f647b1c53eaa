import ResponseTypes.Text.LetterTable

/-!
# Letters and numerals

Which characters are letters or numerals after the Unicode standard.

## Main definitions

- `Text.isLetter`: the property Alphabetic.
- `Text.isNumeral`: the general category Number.
-/

namespace ResponseTypes
namespace Text

/-- A character with the property Alphabetic. -/
def isLetter (c : Char) : Bool :=
  LetterTable.letters.any fun (first, last) => first ≤ c.toNat && c.toNat ≤ last

/-- A character of the category Number: a digit, or a letter or sign for a number. -/
def isNumeral (c : Char) : Bool :=
  LetterTable.numerals.any fun (first, last) => first ≤ c.toNat && c.toNat ≤ last

/-- Letters and numerals of ASCII are those that one expects. -/
example : isLetter 'a' ∧ isLetter 'Z' ∧ ¬ isLetter '0' ∧ isNumeral '0' ∧ ¬ isLetter '_' := by
  decide +kernel

end Text
end ResponseTypes
