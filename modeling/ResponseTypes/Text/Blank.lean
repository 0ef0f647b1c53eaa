/-!
# White space

The characters with the Unicode property White_Space, and cutting a text by them.
Text is a list of characters here, as in every rule of this library that looks at single
characters.

## Main definitions

- `Text.isBlank`: the property.
- `Text.trim`: a text without the blanks at its ends.
- `Text.firstWord`: the first run of characters that are not blank.
-/

namespace ResponseTypes
namespace Text

/-- The characters with the property White_Space. -/
def isBlank (c : Char) : Bool :=
  let n := c.toNat
  (0x9 ≤ n && n ≤ 0xD) || n == 0x20 || n == 0x85 || n == 0xA0 || n == 0x1680 ||
    (0x2000 ≤ n && n ≤ 0x200A) || n == 0x2028 || n == 0x2029 || n == 0x202F || n == 0x205F ||
    n == 0x3000

/-- A text without the blanks before its first other character. -/
def trimStart (s : List Char) : List Char :=
  s.dropWhile isBlank

/-- A text without the blanks after its last other character. -/
def trimEnd (s : List Char) : List Char :=
  (s.reverse.dropWhile isBlank).reverse

/-- A text without the blanks at its ends. -/
def trim (s : List Char) : List Char :=
  trimEnd (trimStart s)

/-- The first word of a text, or nothing when it is blank throughout. -/
def firstWord (s : List Char) : List Char :=
  (trimStart s).takeWhile (!isBlank ·)

end Text
end ResponseTypes
