import Mathlib.Data.List.Basic
import ResponseTypes.Declaration

/-!
# Property keys read back

A field's name stands in a file bare when it is an identifier, and as a JSON string when it is
anything else.  Either way the name can be told from the key.  In TypeScript a key is followed by
its annotation, so it has to be clear where the key ends; in JSDoc the annotation comes first, so
it has to be clear where the key begins.  Annotations are arbitrary, so both are settled by the
rules of escaping alone: inside the quotes a quote always follows a backslash.

## Main definitions

- `Json.unquote?`: a written string read from its opening quote on.
- `Declaration.frontKey?`, `Declaration.backKey?`: a key at the front or at the back of a text,
  with the rest of the text.

## Main statements

- `Declaration.frontKey?_propertyKey`, `Declaration.backKey?_propertyKey`: both find the key.
- `Declaration.propertyKey_injective`, `Declaration.newline_not_mem_propertyKey`.
-/

namespace ResponseTypes

/-! ## Cutting at a mark -/

namespace Text

variable {mark : Char} {s : List Char}

/-- What stands before the first mark. -/
theorem takeWhile_ne_append (hs : mark ∉ s) (rest : List Char) :
    (s ++ mark :: rest).takeWhile (· ≠ mark) = s := by
  rw [List.takeWhile_append_of_pos (by grind)]
  simp

/-- The first mark and what follows it. -/
theorem dropWhile_ne_append (hs : mark ∉ s) (rest : List Char) :
    (s ++ mark :: rest).dropWhile (· ≠ mark) = mark :: rest := by
  rw [List.dropWhile_append_of_pos (by grind)]
  simp

end Text

namespace Json

/-! ## Reading a written string -/

/-- The number that a hexadecimal digit in small letters stands for. -/
def hexValue (digit : Char) : Nat :=
  if digit.toNat < 0x3A then digit.toNat - 48 else digit.toNat - 87

/-- The character that a short escape stands for. -/
def unescaped (mark : Char) : Char :=
  if mark = 'b' then '\x08'
  else if mark = 'f' then '\x0c'
  else if mark = 'n' then '\n'
  else if mark = 'r' then '\r'
  else if mark = 't' then '\t'
  else mark

/-- The text of a written string whose opening quote has been read, and what follows its closing
quote. -/
def unquote? : List Char → Option (List Char × List Char)
  | [] => none
  | '"' :: rest => some ([], rest)
  | '\\' :: 'u' :: '0' :: '0' :: high :: low :: rest =>
    (unquote? rest).map fun (s, after) =>
      (Char.ofNat (16 * hexValue high + hexValue low) :: s, after)
  | '\\' :: mark :: rest => (unquote? rest).map fun (s, after) => (unescaped mark :: s, after)
  | c :: rest => (unquote? rest).map fun (s, after) => (c :: s, after)

theorem hexValue_hexDigit : ∀ n < 16, hexValue (hexDigit n) = n := by decide

/-- A control character without a short escape is recovered from its four digits. -/
theorem unquote?_control {c : Char} (hc : c.toNat < 0x20) (rest : List Char) :
    unquote? ('\\' :: 'u' :: '0' :: '0' :: hexDigit (c.toNat / 16) :: hexDigit (c.toNat % 16) ::
      rest) = (unquote? rest).map fun (s, after) => (c :: s, after) := by
  have hhigh := hexValue_hexDigit (c.toNat / 16) (by omega)
  have hlow := hexValue_hexDigit (c.toNat % 16) (by omega)
  have hcode : 16 * (c.toNat / 16) + c.toNat % 16 = c.toNat := Nat.div_add_mod c.toNat 16
  rw [unquote?, hhigh, hlow, hcode, Char.ofNat_toNat]

/-- A character that is written as it is, is read as it is. -/
theorem unquote?_plain {c : Char} (hquote : c ≠ '"') (hslash : c ≠ '\\') (rest : List Char) :
    unquote? (c :: rest) = (unquote? rest).map fun (s, after) => (c :: s, after) := by
  rw [unquote?.eq_def]
  split <;> simp_all

theorem unquote?_quoteChar (c : Char) (rest : List Char) :
    unquote? (quoteChar c ++ rest) = (unquote? rest).map fun (s, after) => (c :: s, after) := by
  unfold quoteChar
  split_ifs with hquote hslash h8 hC hn hr ht hcontrol
  · rw [hquote]; rfl
  · rw [hslash]; rfl
  · rw [h8]; rfl
  · rw [hC]; rfl
  · rw [hn]; rfl
  · rw [hr]; rfl
  · rw [ht]; rfl
  · exact unquote?_control hcontrol rest
  · exact unquote?_plain hquote hslash rest

/-- Reading undoes writing, whatever follows the closing quote. -/
theorem unquote?_quoted (s rest : List Char) :
    unquote? (s.flatMap quoteChar ++ '"' :: rest) = some (s, rest) := by
  induction s with
  | nil => rfl
  | cons c s ih => rw [List.flatMap_cons, List.append_assoc, unquote?_quoteChar, ih]; rfl

/-! ## What a written string is made of -/

/-- Line feeds are escaped. -/
theorem newline_not_mem_quoteChar (c : Char) : '\n' ∉ quoteChar c := by
  by_cases hcontrol : c.toNat < 0x20
  · have hall : ∀ n < 0x20, '\n' ∉ quoteChar (Char.ofNat n) := by decide
    simpa using hall c.toNat hcontrol
  · have hne : '\n' ≠ c := by
      rintro rfl
      exact hcontrol (by decide)
    unfold quoteChar
    split_ifs <;> simp_all

theorem newline_not_mem_quote (s : String) : '\n' ∉ (quote s).toList := by
  simp [quote, quoteChars, newline_not_mem_quoteChar]

/-! ## Finding the opening quote from behind -/

/-- A text that is read backwards, cut where the first quote with a blank before it stands.  The
quote itself is dropped. -/
def untilOpening : List Char → List Char × List Char
  | [] => ([], [])
  | '"' :: ' ' :: rest => ([], ' ' :: rest)
  | c :: rest => (c :: (untilOpening rest).1, (untilOpening rest).2)

theorem untilOpening_plain {c : Char} (hc : c ≠ '"') (rest : List Char) :
    untilOpening (c :: rest) = (c :: (untilOpening rest).1, (untilOpening rest).2) := by
  rw [untilOpening.eq_def]
  split <;> simp_all

/-- Characters other than quotes are passed over. -/
theorem untilOpening_append {s : List Char} (hs : '"' ∉ s) (rest : List Char) :
    untilOpening (s ++ rest) = (s ++ (untilOpening rest).1, (untilOpening rest).2) := by
  induction s with
  | nil => rfl
  | cons c s ih =>
    obtain ⟨hc, hs⟩ := not_or.1 (mt List.mem_cons.2 hs)
    rw [List.cons_append, untilOpening_plain (Ne.symm hc), ih hs]
    rfl

/-- The only character that is written with a quote is the quote. -/
theorem quote_not_mem_quoteChar {c : Char} (hc : c ≠ '"') : '"' ∉ quoteChar c := by
  by_cases hcontrol : c.toNat < 0x20
  · have hall : ∀ n < 0x20, '"' ∉ quoteChar (Char.ofNat n) := by decide
    simpa using hall c.toNat hcontrol
  · unfold quoteChar
    split_ifs <;> simp_all [eq_comm]

/-- No written character has a quote with a blank before it, since a quote follows its
backslash. -/
theorem untilOpening_quoteChar (c : Char) (rest : List Char) :
    untilOpening ((quoteChar c).reverse ++ rest) =
      ((quoteChar c).reverse ++ (untilOpening rest).1, (untilOpening rest).2) := by
  by_cases hc : c = '"'
  · have hslash : untilOpening ('\\' :: rest) =
        ('\\' :: (untilOpening rest).1, (untilOpening rest).2) :=
      untilOpening_plain (by decide) rest
    rw [hc]
    change untilOpening ('"' :: '\\' :: rest) =
      ('"' :: '\\' :: (untilOpening rest).1, (untilOpening rest).2)
    rw [untilOpening, hslash]
    simp
  · exact untilOpening_append (by simpa using quote_not_mem_quoteChar hc) rest

/-- Written characters are passed over from behind, the last one first. -/
theorem untilOpening_quoted (s rest : List Char) :
    untilOpening ((s.flatMap quoteChar).reverse ++ rest) =
      ((s.flatMap quoteChar).reverse ++ (untilOpening rest).1, (untilOpening rest).2) := by
  induction s generalizing rest with
  | nil => rfl
  | cons c s ih =>
    rw [List.flatMap_cons, List.reverse_append, List.append_assoc, ih, untilOpening_quoteChar,
      List.append_assoc]

end Json

namespace Declaration

/-! ## Keys that are identifiers -/

theorem isIdentifierRest_of_mem {s : List Char} (hs : isIdentifier s) {c : Char} (hc : c ∈ s) :
    isIdentifierRest c := by
  cases s with
  | nil => cases hc
  | cons first rest =>
    rw [isIdentifier, Bool.and_eq_true, List.all_eq_true] at hs
    rcases List.mem_cons.1 hc with rfl | hc
    · simp [isIdentifierRest, hs.1]
    · exact hs.2 c hc

/-- A character that no identifier has is not in one. -/
theorem not_mem_of_isIdentifier {s : List Char} (hs : isIdentifier s) {c : Char}
    (hc : isIdentifierRest c = false) : c ∉ s := by
  intro hmem
  simp [isIdentifierRest_of_mem hs hmem] at hc

theorem propertyKey_of_isIdentifier {field : String} (h : isIdentifier field.toList) :
    propertyKey field = field := if_pos h

theorem propertyKey_of_not_isIdentifier {field : String} (h : ¬ isIdentifier field.toList) :
    propertyKey field = Json.quote field := if_neg h

/-- No key breaks its line, whatever the field is called. -/
theorem newline_not_mem_propertyKey (field : String) : '\n' ∉ (propertyKey field).toList := by
  by_cases h : isIdentifier field.toList
  · rw [propertyKey_of_isIdentifier h]
    exact not_mem_of_isIdentifier h (by decide)
  · rw [propertyKey_of_not_isIdentifier h]
    exact Json.newline_not_mem_quote field

/-! ## A key at the front -/

/-- The name of the field whose key stands at the front of a text, and what follows the key.  A
bare key ends before a colon. -/
def frontKey? (text : List Char) : Option (String × List Char) :=
  match text with
  | '"' :: rest => (Json.unquote? rest).map fun (s, after) => (String.ofList s, after)
  | _ => some (String.ofList (text.takeWhile (· ≠ ':')), text.dropWhile (· ≠ ':'))

/-- A text that does not begin with a quote begins with a bare key. -/
theorem frontKey?_bare {text : List Char} (h : text.head? ≠ some '"') :
    frontKey? text =
      some (String.ofList (text.takeWhile (· ≠ ':')), text.dropWhile (· ≠ ':')) := by
  unfold frontKey?
  split
  · simp at h
  · rfl

theorem frontKey?_propertyKey (field : String) (rest : List Char) :
    frontKey? ((propertyKey field).toList ++ ':' :: rest) = some (field, ':' :: rest) := by
  by_cases h : isIdentifier field.toList
  · have hcolon : ':' ∉ field.toList := not_mem_of_isIdentifier h (by decide)
    have hquote : '"' ∉ field.toList := not_mem_of_isIdentifier h (by decide)
    have hbare : (field.toList ++ ':' :: rest).head? ≠ some '"' := by
      cases hs : field.toList with
      | nil => simp
      | cons c s => grind
    rw [propertyKey_of_isIdentifier h, frontKey?_bare hbare, Text.takeWhile_ne_append hcolon,
      Text.dropWhile_ne_append hcolon, String.ofList_toList]
  · have hread := Json.unquote?_quoted field.toList (':' :: rest)
    rw [propertyKey_of_not_isIdentifier h, Json.quote, String.toList_ofList]
    simp [Json.quoteChars, frontKey?, hread]

/-- Different fields have different keys. -/
theorem propertyKey_injective : Function.Injective propertyKey := by
  intro field field' h
  have hfront := frontKey?_propertyKey field []
  rw [h, frontKey?_propertyKey field' []] at hfront
  simpa using hfront.symm

/-! ## A key at the back -/

/-- The name of the field whose key stands at the back of a text, and what precedes the key.  A
bare key begins after a blank, and a written one where its opening quote does. -/
def backKey? (text : List Char) : Option (String × List Char) :=
  match text.reverse with
  | '"' :: before =>
    match Json.unquote? ((Json.untilOpening before).1.reverse ++ ['"']) with
    | some (s, []) => some (String.ofList s, (Json.untilOpening before).2.reverse)
    | _ => none
  | before =>
    some (String.ofList (before.takeWhile (· ≠ ' ')).reverse, (before.dropWhile (· ≠ ' ')).reverse)

/-- A text that does not end with a quote ends with a bare key. -/
theorem backKey?_bare {text : List Char} (h : text.getLast? ≠ some '"') :
    backKey? text = some (String.ofList (text.reverse.takeWhile (· ≠ ' ')).reverse,
      (text.reverse.dropWhile (· ≠ ' ')).reverse) := by
  unfold backKey?
  split
  · rename_i before hbefore
    rw [← List.head?_reverse, hbefore] at h
    simp at h
  · rfl

theorem backKey?_propertyKey (field : String) (before : List Char) :
    backKey? (before ++ ' ' :: (propertyKey field).toList) = some (field, before ++ [' ']) := by
  by_cases h : isIdentifier field.toList
  · have hblank : ' ' ∉ field.toList.reverse := by
      simpa using not_mem_of_isIdentifier h (c := ' ') (by decide)
    have hquote : '"' ∉ field.toList := not_mem_of_isIdentifier h (by decide)
    have hbare : (before ++ ' ' :: field.toList).getLast? ≠ some '"' := by
      rw [List.getLast?_append, List.getLast?_cons]
      cases hs : field.toList.getLast? with
      | none => simp
      | some c =>
        have := List.mem_of_getLast? hs
        grind
    have hrev : (before ++ ' ' :: field.toList).reverse =
        field.toList.reverse ++ ' ' :: before.reverse := by simp
    rw [propertyKey_of_isIdentifier h, backKey?_bare hbare, hrev,
      Text.takeWhile_ne_append hblank, Text.dropWhile_ne_append hblank]
    simp
  · rw [propertyKey_of_not_isIdentifier h, Json.quote, String.toList_ofList]
    have hrev : (before ++ ' ' :: Json.quoteChars field.toList).reverse =
        '"' :: ((field.toList.flatMap Json.quoteChar).reverse ++ '"' :: ' ' :: before.reverse) := by
      simp [Json.quoteChars]
    have hcut := Json.untilOpening_quoted field.toList ('"' :: ' ' :: before.reverse)
    unfold backKey?
    rw [hrev]
    simp only [hcut, Json.untilOpening, List.append_nil, List.reverse_reverse,
      Json.unquote?_quoted, String.ofList_toList]
    simp

end Declaration
end ResponseTypes
