/-!
# Strings of JSON

The written form of a string: between double quotes, with quotes, backslashes and control
characters escaped and every other character as it is.

## Main definitions

- `Json.quote`: the written form.
-/

namespace ResponseTypes
namespace Json

/-- One hexadecimal digit, in small letters. -/
def hexDigit (n : Nat) : Char :=
  if n < 10 then Char.ofNat (48 + n) else Char.ofNat (87 + n)

/-- One character of a written string.  A control character without a short escape is written by
its code point in four digits. -/
def quoteChar (c : Char) : List Char :=
  if c = '"' then ['\\', '"']
  else if c = '\\' then ['\\', '\\']
  else if c = '\x08' then ['\\', 'b']
  else if c = '\x0c' then ['\\', 'f']
  else if c = '\n' then ['\\', 'n']
  else if c = '\r' then ['\\', 'r']
  else if c = '\t' then ['\\', 't']
  else if c.toNat < 0x20 then
    ['\\', 'u', '0', '0', hexDigit (c.toNat / 16), hexDigit (c.toNat % 16)]
  else [c]

/-- The written form of a text, as characters. -/
def quoteChars (s : List Char) : List Char :=
  '"' :: s.flatMap quoteChar ++ ['"']

/-- The written form of a string. -/
def quote (s : String) : String :=
  String.ofList (quoteChars s.toList)

end Json
end ResponseTypes
