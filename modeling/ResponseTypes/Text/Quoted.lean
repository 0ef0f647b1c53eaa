import ResponseTypes.Text.HiddenTable

/-!
# Quoted text for diagnostics

A diagnostic shows a text between double quotes so that every character of it can be seen: quotes
and backslashes are escaped, the common control characters have short names, and any other
character without a form of its own is written by its code point.

## Main definitions

- `Text.quoted`: the quoted form of a text.
-/

namespace ResponseTypes
namespace Text

/-- Characters that a reader could not see or would take for part of their neighbour. -/
def isHidden (c : Char) : Bool :=
  HiddenTable.ranges.any fun (first, last) => first ≤ c.toNat && c.toNat ≤ last

/-- A number in hexadecimal, with small letters and no leading zero. -/
def hexadecimal (n : Nat) : String :=
  String.ofList (Nat.toDigits 16 n)

/-- One character of a quoted text. -/
def quotedChar (c : Char) : String :=
  match c with
  | '"' => "\\\""
  | '\\' => "\\\\"
  | '\n' => "\\n"
  | '\r' => "\\r"
  | '\t' => "\\t"
  | c =>
    if c.toNat = 0 then "\\0"
    else if isHidden c then "\\u\x7b" ++ hexadecimal c.toNat ++ "\x7d"
    else c.toString

/-- A text between double quotes, with every character visible. -/
def quoted (s : String) : String :=
  "\"" ++ String.join (s.toList.map quotedChar) ++ "\""

end Text
end ResponseTypes
