import Mathlib.Data.List.TakeWhile
import ResponseTypes.Json.Reader

/-!
# The written forms of words, numbers and strings

A grammar for the values of a JSON document that hold no others, and for each of their readers the
law that it takes exactly these written forms from the front of a text.  The grammar says which
bytes are a numeral or a string and which value they stand for; it does not say how far a reader
looks.

## The end of a numeral

A string ends with its quote and a word with its last letter, but a numeral ends where the next
byte cannot belong to it: `12` at the front of `123` is no number that a reader would take, and
neither is it at the front of `12.` or `12e`.  `goesOn` says when the bytes after a text would be
read as more of a numeral at its end, and `Numeral.goesOn_text` gives its meaning for numerals.

## Values

A numeral without point and exponent whose digits fit 64 bits is an integer.  The value of any other
one is `Json.scaled?` of the significand that fits 64 bits, where it has a value: one that would be
too large has none, and is no text of any value.  The content of a string is what its escapes stand
for, and has to be UTF-8 as a whole.

Main statements: `number_eq_ok` and `text_eq_ok`.
-/

namespace ResponseTypes
namespace Json

/-! ## Results -/

theorem bind_eq_ok {α β : Type} {result : Except Fault α} {next : α → Except Fault β} {b : β} :
    (result >>= next) = .ok b ↔ ∃ a, result = .ok a ∧ next a = .ok b := by
  cases result with
  | error fault => exact ⟨nofun, nofun⟩
  | ok a => exact ⟨fun h => ⟨a, rfl, h⟩, fun ⟨_, ha, h⟩ => Except.ok.inj ha ▸ h⟩

@[simp]
theorem stop_ne_ok {α : Type} {problem : Problem} {bytes : Bytes} {a : α} :
    stop problem bytes ≠ .ok a := nofun

@[simp]
theorem stopAfter_ne_ok {α : Type} {problem : Problem} {bytes : Bytes} {a : α} :
    stopAfter problem bytes ≠ .ok a := nofun

/-! ## White space -/

theorem isBlank_eq_true {b : UInt8} : isBlank b = true ↔ b = 32 ∨ b = 10 ∨ b = 9 ∨ b = 13 := by
  simp [isBlank, or_assoc]

/-- Nothing but white space. -/
def Blank (bytes : Bytes) : Prop := ∀ b ∈ bytes, isBlank b = true

theorem skipBlank_append {before : Bytes} (h : Blank before) (rest : Bytes) :
    skipBlank (before ++ rest) = skipBlank rest :=
  List.dropWhile_append_of_pos h

theorem skipBlank_cons {b : UInt8} (h : isBlank b = false) (rest : Bytes) :
    skipBlank (b :: rest) = b :: rest :=
  List.dropWhile_cons_of_neg (by simp [h])

theorem exists_blank_append (bytes : Bytes) :
    ∃ before, Blank before ∧ bytes = before ++ skipBlank bytes :=
  ⟨bytes.takeWhile isBlank, fun _ hb => List.mem_takeWhile_imp hb,
    List.takeWhile_append_dropWhile.symm⟩

theorem skipBlank_eq_nil {bytes : Bytes} : skipBlank bytes = [] ↔ Blank bytes :=
  List.dropWhile_eq_nil_iff

theorem skipBlank_eq_cons {bytes rest : Bytes} {b : UInt8} :
    skipBlank bytes = b :: rest ↔
      ∃ before, Blank before ∧ isBlank b = false ∧ bytes = before ++ b :: rest := by
  constructor
  · intro h
    obtain ⟨before, hbefore, hsplit⟩ := exists_blank_append bytes
    have hhead := List.head?_dropWhile_not isBlank bytes
    rw [← skipBlank, h] at hhead
    exact ⟨before, hbefore, by simpa using hhead, by rw [← h]; exact hsplit⟩
  · rintro ⟨before, hbefore, hb, rfl⟩
    rw [skipBlank_append hbefore, skipBlank_cons hb]

/-! ## Words -/

theorem toUInt8_ofUInt8 (b : UInt8) : (Char.ofUInt8 b).toUInt8 = b := by
  change b.toUInt32.toUInt8 = b
  simp

theorem eq_toUInt8 {b : UInt8} {c : Char} (h : Char.ofUInt8 b = c) : b = c.toUInt8 := by
  rw [← h, toUInt8_ofUInt8]

/-- The bytes of ASCII letters. -/
def ascii (letters : List Char) : Bytes := letters.map Char.toUInt8

/-- Whether each letter is the character of one byte. -/
def isAscii (letters : List Char) : Bool := letters.all fun c => Char.ofUInt8 c.toUInt8 == c

theorem word_eq_ok {letters : List Char} (h : isAscii letters = true) {input rest : Bytes} :
    word letters input = .ok rest ↔ input = ascii letters ++ rest := by
  induction letters generalizing input with
  | nil => simp [word, ascii]
  | cons c letters ih =>
    obtain ⟨hc, hletters⟩ : Char.ofUInt8 c.toUInt8 = c ∧ isAscii letters = true := by
      simpa [isAscii] using h
    cases input with
    | nil => simp [word, ascii]
    | cons b bytes =>
      rw [word]
      split_ifs with hb
      · subst hb
        simp [ih hletters, ascii, toUInt8_ofUInt8]
      · refine ⟨nofun, fun heq => ?_⟩
        obtain rfl : b = c.toUInt8 := (List.cons.inj heq).1
        exact absurd hc hb

/-! ## Numerals as they are written -/

/-- Digits, and at least one. -/
def Digits (bytes : Bytes) : Prop := bytes ≠ [] ∧ ∀ b ∈ bytes, isDigit b = true

/-- The letter that marks an exponent. -/
def isMark (b : UInt8) : Bool := b = 101 || b = 69

/-- An exponent as it is written. -/
structure Exponent where
  mark : UInt8
  sign : Bytes
  digits : Bytes

namespace Exponent

/-- The bytes of an exponent. -/
def text (e : Exponent) : Bytes := e.mark :: (e.sign ++ e.digits)

/-- Whether the exponent has a minus sign. -/
def isDown (e : Exponent) : Bool := e.sign == [45]

/-- A mark, a sign or none, and digits. -/
structure Valid (e : Exponent) : Prop where
  mark : isMark e.mark = true
  sign : e.sign = [] ∨ e.sign = [43] ∨ e.sign = [45]
  digits : Digits e.digits

end Exponent

/-- A number without its sign as it is written. -/
structure Numeral where
  /-- the digits before a point -/
  whole : Bytes
  /-- the digits after the point, if there is one -/
  fraction? : Option Bytes
  exponent? : Option Exponent

namespace Numeral

/-- The bytes of a numeral. -/
def text (n : Numeral) : Bytes :=
  n.whole ++ (n.fraction?.elim [] (46 :: ·) ++ n.exponent?.elim [] Exponent.text)

/-- Digits that start with a zero only when they are a zero alone, and digits after a point and
after the mark of an exponent. -/
structure Valid (n : Numeral) : Prop where
  whole : Digits n.whole
  noLeadingZero : n.whole.head? = some 48 → n.whole = [48]
  fraction : ∀ digits ∈ n.fraction?, Digits digits
  exponent : ∀ e ∈ n.exponent?, e.Valid

/-- Whether a numeral ends before the given bytes: they do not start with one that could follow in
it. -/
structure Ends (n : Numeral) (rest : Bytes) : Prop where
  digit : startsWithDigit rest = false
  mark : n.exponent? = none → rest.head?.any isMark = false
  point : n.exponent? = none → n.fraction? = none → rest.head? ≠ some 46

end Numeral

/-- A significand that is scaled by what the digits of its numeral have made of its exponent, and by
an exponent of its own.  An exponent that cannot be counted takes it to zero or beyond all
doubles. -/
def scaledBy? (negative : Bool) (significand : Nat) (exponent : Int) :
    Option Exponent → Option Json
  | none => (scaled? significand exponent).map fun x => .double (signed negative x)
  | some e =>
    if (takeExponent 0 e.digits).2.isEmpty then
      let k : Int := (takeExponent 0 e.digits).1
      (scaled? significand (exponent + if e.isDown then -k else k)).map fun x =>
        .double (signed negative x)
    else if significand != 0 && !e.isDown then none
    else some (.double (signed negative 0))

/-- The value of a numeral with a sign or without, unless it is too large.  The digits that the
significand has no room for count for the exponent alone. -/
def Numeral.value? (n : Numeral) (negative : Bool) : Option Json :=
  let (significand, _, beyond) := takeDigits 0 n.whole
  if n.fraction?.isNone && n.exponent?.isNone && beyond.isEmpty then
    some (integerOrDouble negative significand)
  else
    let (significand, places, _) := takeDigits significand (n.fraction?.getD [])
    scaledBy? negative significand (beyond.length - places) n.exponent?

/-! ## Runs of digits -/

theorem skipDigits_append {digits rest : Bytes} (h : ∀ b ∈ digits, isDigit b = true)
    (hrest : startsWithDigit rest = false) : skipDigits (digits ++ rest) = rest := by
  rw [skipDigits, List.dropWhile_append_of_pos h]
  cases rest with
  | nil => rfl
  | cons b rest => exact List.dropWhile_cons_of_neg (by simpa [startsWithDigit] using hrest)

/-- Bytes are a run of digits and what comes after it. -/
theorem exists_digits (bytes : Bytes) : ∃ digits rest, bytes = digits ++ rest ∧
    (∀ b ∈ digits, isDigit b = true) ∧ startsWithDigit rest = false := by
  refine ⟨bytes.takeWhile isDigit, bytes.dropWhile isDigit,
    List.takeWhile_append_dropWhile.symm, fun b hb => List.mem_takeWhile_imp hb, ?_⟩
  have hhead := List.head?_dropWhile_not isDigit bytes
  rw [startsWithDigit]
  cases h : (bytes.dropWhile isDigit).head? with
  | none => rfl
  | some b => rw [h] at hhead; simpa using hhead

theorem takeDigits_append (significand : Nat) (digits : Bytes) {rest : Bytes}
    (hrest : startsWithDigit rest = false) :
    takeDigits significand (digits ++ rest) =
      ((takeDigits significand digits).1, (takeDigits significand digits).2.1,
        (takeDigits significand digits).2.2 ++ rest) := by
  induction digits generalizing significand with
  | nil =>
    cases rest with
    | nil => rfl
    | cons b rest =>
      have hb : isDigit b = false := by simpa [startsWithDigit] using hrest
      simp [takeDigits, hb]
  | cons b digits ih =>
    rw [List.cons_append, takeDigits, takeDigits]
    split_ifs
    · rw [ih]
    · rfl

theorem takeDigits_suffix (significand : Nat) (digits : Bytes) :
    (takeDigits significand digits).2.2 <:+ digits := by
  induction digits generalizing significand with
  | nil => exact List.suffix_refl _
  | cons b digits ih =>
    rw [takeDigits]
    split_ifs
    · exact (ih _).trans (List.suffix_cons b digits)
    · exact List.suffix_refl _

theorem takeExponent_append (exponent : Nat) (digits : Bytes) {rest : Bytes}
    (hrest : startsWithDigit rest = false) :
    takeExponent exponent (digits ++ rest) =
      ((takeExponent exponent digits).1, (takeExponent exponent digits).2 ++ rest) := by
  induction digits generalizing exponent with
  | nil =>
    cases rest with
    | nil => rfl
    | cons b rest =>
      have hb : isDigit b = false := by simpa [startsWithDigit] using hrest
      simp [takeExponent, hb]
  | cons b digits ih =>
    rw [List.cons_append, takeExponent, takeExponent]
    split_ifs
    · rw [ih]
    · rfl

theorem takeExponent_suffix (exponent : Nat) (digits : Bytes) :
    (takeExponent exponent digits).2 <:+ digits := by
  induction digits generalizing exponent with
  | nil => exact List.suffix_refl _
  | cons b digits ih =>
    rw [takeExponent]
    split_ifs
    · exact (ih _).trans (List.suffix_cons b digits)
    · exact List.suffix_refl _

/-- What is left of digits starts with a digit, unless nothing is left. -/
theorem startsWithDigit_append {left rest : Bytes} (hleft : ∀ b ∈ left, isDigit b = true)
    (hrest : startsWithDigit rest = false) : startsWithDigit (left ++ rest) = !left.isEmpty := by
  cases left with
  | nil => simpa using hrest
  | cons b left => simp [startsWithDigit, hleft b List.mem_cons_self]

theorem digitValue_le {b : UInt8} (h : isDigit b = true) : digitValue b ≤ 9 := by
  simp only [isDigit, Bool.and_eq_true, decide_eq_true_eq, UInt8.le_iff_toNat_le] at h
  have hb : b.toNat ≤ 57 := h.2
  rw [digitValue]
  omega

/-- The first digit always fits, so it may be taken before the others. -/
theorem takeDigits_zero_cons {b : UInt8} (h : isDigit b = true) (rest : Bytes) :
    (takeDigits 0 (b :: rest)).1 = (takeDigits (digitValue b) rest).1 ∧
      (takeDigits 0 (b :: rest)).2.2 = (takeDigits (digitValue b) rest).2.2 := by
  have hvalue : shiftIn 0 b = digitValue b := by rw [shiftIn]; omega
  have hlt : digitValue b < 0x10000000000000000 := by
    have := digitValue_le h
    omega
  rw [takeDigits, hvalue, if_pos (by simp [h, hlt])]
  exact ⟨rfl, rfl⟩

theorem takeExponent_zero_cons {b : UInt8} (h : isDigit b = true) (rest : Bytes) :
    takeExponent 0 (b :: rest) = takeExponent (digitValue b) rest := by
  have hvalue : shiftIn 0 b = digitValue b := by rw [shiftIn]; omega
  have hle : digitValue b ≤ exponentLimit := by
    have := digitValue_le h
    rw [exponentLimit]
    omega
  rw [takeExponent, hvalue, if_pos (by simp [h, hle])]

/-! ## Reading numerals from their end to their start -/

theorem double?_eq_ok {negative : Bool} {significand : Nat} {exponent : Int} {input rest : Bytes}
    {v : Json} : double? negative significand exponent input = .ok (v, rest) ↔
      scaledBy? negative significand exponent none = some v ∧ input = rest := by
  rw [double?, scaledBy?]
  cases scaled? significand exponent with
  | none => simp
  | some x => simp

/-- A sign or none is taken off the front of bytes. -/
theorem exponentSign_split (input : Bytes) : ∃ sign,
    (sign = [] ∨ sign = [43] ∨ sign = [45]) ∧ input = sign ++ (exponentSign input).2 ∧
      (exponentSign input).1 = (sign == [45]) := by
  cases input with
  | nil => exact ⟨[], by simp [exponentSign]⟩
  | cons b rest =>
    rw [exponentSign]
    split
    · next h =>
      obtain rfl : b = 43 := eq_toUInt8 h
      exact ⟨[43], by simp⟩
    · next h =>
      obtain rfl : b = 45 := eq_toUInt8 h
      exact ⟨[45], by simp⟩
    · exact ⟨[], by simp⟩

theorem exponentSign_append {sign : Bytes} (hsign : sign = [] ∨ sign = [43] ∨ sign = [45])
    {b : UInt8} (hb : isDigit b = true) (rest : Bytes) :
    exponentSign (sign ++ b :: rest) = (sign == [45], b :: rest) := by
  obtain rfl | rfl | rfl := hsign
  · have hplus : Char.ofUInt8 b ≠ '+' := fun h => by
      obtain rfl : b = 43 := eq_toUInt8 h
      exact absurd hb (by decide)
    have hminus : Char.ofUInt8 b ≠ '-' := fun h => by
      obtain rfl : b = 45 := eq_toUInt8 h
      exact absurd hb (by decide)
    simp [exponentSign]
  · rfl
  · rfl

/-- An exponent that is there is read with all its digits. -/
theorem afterMark_append {negative : Bool} {significand : Nat} {exponent : Int} {e : Exponent}
    (he : e.Valid) {rest after : Bytes} {v : Json} (hrest : startsWithDigit rest = false) :
    afterMark negative significand exponent (e.sign ++ (e.digits ++ rest)) = .ok (v, after) ↔
      scaledBy? negative significand exponent (some e) = some v ∧ rest = after := by
  obtain ⟨hne, hdigits⟩ := he.digits
  obtain ⟨b, digits, hcons⟩ := List.exists_cons_of_ne_nil hne
  rw [hcons] at hdigits
  have hb := hdigits b List.mem_cons_self
  have hleft : ∀ c ∈ (takeExponent (digitValue b) digits).2, isDigit c = true := fun c hc =>
    hdigits c (List.mem_cons_of_mem b ((takeExponent_suffix _ _).subset hc))
  have hscaled := takeExponent_zero_cons hb digits
  rw [afterMark, hcons, List.cons_append, exponentSign_append he.sign hb]
  simp only [hb, if_true, takeExponent_append _ digits hrest, startsWithDigit_append hleft hrest,
    scaledBy?, hcons, hscaled]
  cases hempty : (takeExponent (digitValue b) digits).2.isEmpty with
  | true =>
    rw [List.isEmpty_iff.1 hempty]
    simp [double?_eq_ok, scaledBy?, Exponent.isDown]
  | false =>
    rw [skipDigits_append hleft hrest]
    rw [Exponent.isDown]
    cases significand != 0 && !(e.sign == [45]) with
    | true => simp
    | false => simp

theorem afterMark_eq_ok {negative : Bool} {significand : Nat} {exponent : Int} {mark : UInt8}
    (hmark : isMark mark = true) {input rest : Bytes} {v : Json} :
    afterMark negative significand exponent input = .ok (v, rest) ↔
      ∃ e : Exponent, e.Valid ∧ startsWithDigit rest = false ∧
        scaledBy? negative significand exponent (some e) = some v ∧
          mark :: input = e.text ++ rest := by
  constructor
  · intro h
    obtain ⟨sign, hsign, hinput, -⟩ := exponentSign_split input
    obtain ⟨digits, after, hsplit, hdigits, hafter⟩ := exists_digits (exponentSign input).2
    have hne : digits ≠ [] := by
      rintro rfl
      rw [afterMark] at h
      simp only [hsplit, List.nil_append] at h
      cases after with
      | nil => exact stop_ne_ok h
      | cons b after =>
        have hb : isDigit b = false := by simpa [startsWithDigit] using hafter
        simp [hb] at h
    have he : Exponent.Valid ⟨mark, sign, digits⟩ := ⟨hmark, hsign, hne, hdigits⟩
    rw [hinput, hsplit, afterMark_append he hafter] at h
    obtain ⟨hv, rfl⟩ := h
    exact ⟨_, he, hafter, hv, by rw [hinput, hsplit]; simp [Exponent.text]⟩
  · rintro ⟨e, he, hrest, hv, hinput⟩
    obtain ⟨rfl, rfl⟩ := List.cons.inj (hinput.trans (List.cons_append ..))
    rw [List.append_assoc, afterMark_append he hrest]
    exact ⟨hv, rfl⟩

/-- What may follow the digits of a number: an exponent, or the end of the number. -/
structure Tail (e? : Option Exponent) (rest : Bytes) : Prop where
  exponent : ∀ e ∈ e?, e.Valid
  digit : startsWithDigit rest = false
  mark : e? = none → rest.head?.any isMark = false

theorem afterDigits_eq_ok {negative : Bool} {significand : Nat} {exponent : Int}
    {input rest : Bytes} {v : Json} (hinput : startsWithDigit input = false) :
    afterDigits negative significand exponent input = .ok (v, rest) ↔
      ∃ e? : Option Exponent, Tail e? rest ∧
        scaledBy? negative significand exponent e? = some v ∧
          input = e?.elim [] Exponent.text ++ rest := by
  have hplain : input.head?.any isMark = false →
      (afterDigits negative significand exponent input = .ok (v, rest) ↔
        scaledBy? negative significand exponent none = some v ∧ input = rest) := by
    intro hmark
    rw [← double?_eq_ok]
    cases input with
    | nil => rw [afterDigits]
    | cons b input => rw [afterDigits, if_neg (by simpa [isMark] using hmark)]
  cases hmark : input.head?.any isMark with
  | false =>
    rw [hplain hmark]
    constructor
    · rintro ⟨hv, rfl⟩
      exact ⟨none, ⟨nofun, hinput, fun _ => hmark⟩, hv, rfl⟩
    · rintro ⟨e?, htail, hv, rfl⟩
      cases e? with
      | none => exact ⟨hv, rfl⟩
      | some e => exact absurd (htail.exponent e rfl).mark (by simpa [Exponent.text] using hmark)
  | true =>
    obtain ⟨b, input, rfl⟩ := List.exists_cons_of_ne_nil (l := input) (by rintro rfl; simp at hmark)
    have hb : isMark b = true := by simpa using hmark
    rw [afterDigits, if_pos (by simpa [isMark] using hb), afterMark_eq_ok hb]
    constructor
    · rintro ⟨e, he, hrest, hv, hsplit⟩
      exact ⟨some e, ⟨by rintro _ ⟨⟩; exact he, hrest, nofun⟩, hv, hsplit⟩
    · rintro ⟨e?, htail, hv, hsplit⟩
      cases e? with
      | none =>
        obtain rfl : b :: input = rest := hsplit
        exact absurd (htail.mark rfl) (by simpa using hb)
      | some e => exact ⟨e, htail.exponent e rfl, htail.digit, hv, hsplit⟩

theorem Tail.startsWithDigit {e? : Option Exponent} {rest : Bytes} (h : Tail e? rest) :
    startsWithDigit (e?.elim [] Exponent.text ++ rest) = false := by
  cases e? with
  | none => exact h.digit
  | some e =>
    have hmark := (h.exponent e rfl).mark
    rw [isMark, Bool.or_eq_true, decide_eq_true_iff, decide_eq_true_iff] at hmark
    change isDigit e.mark = false
    obtain hb | hb := hmark <;> rw [hb] <;> decide

theorem takeDigits_places_ne_zero {significand : Nat} {digits : Bytes} (h : Digits digits)
    (hleft : (takeDigits significand digits).2.2 = []) :
    (takeDigits significand digits).2.1 ≠ 0 := by
  obtain ⟨b, digits, rfl⟩ := List.exists_cons_of_ne_nil h.1
  rw [takeDigits] at hleft ⊢
  split_ifs at hleft ⊢
  exact Nat.succ_ne_zero _

/-- Digits after a point are read to their end. -/
theorem afterPoint_append {negative : Bool} {significand : Nat} {exponent : Int}
    {fraction rest after : Bytes} {v : Json} (hfraction : Digits fraction)
    (hrest : startsWithDigit rest = false) :
    afterPoint negative significand exponent (fraction ++ rest) = .ok (v, after) ↔
      afterDigits negative (takeDigits significand fraction).1
        (exponent - (takeDigits significand fraction).2.1) rest = .ok (v, after) := by
  have hleft : ∀ c ∈ (takeDigits significand fraction).2.2, isDigit c = true := fun c hc =>
    hfraction.2 c ((takeDigits_suffix _ _).subset hc)
  rw [afterPoint, takeDigits_append _ _ hrest]
  simp only [startsWithDigit_append hleft hrest, skipDigits_append hleft hrest]
  cases hempty : (takeDigits significand fraction).2.2.isEmpty with
  | false => simp
  | true =>
    have hnil := List.isEmpty_iff.1 hempty
    simp [takeDigits_places_ne_zero hfraction hnil, hnil]

theorem afterPoint_eq_ok {negative : Bool} {significand : Nat} {exponent : Int}
    {input rest : Bytes} {v : Json} :
    afterPoint negative significand exponent input = .ok (v, rest) ↔
      ∃ fraction, Digits fraction ∧ ∃ e? : Option Exponent, Tail e? rest ∧
        scaledBy? negative (takeDigits significand fraction).1
          (exponent - (takeDigits significand fraction).2.1) e? = some v ∧
          input = fraction ++ (e?.elim [] Exponent.text ++ rest) := by
  constructor
  · intro h
    obtain ⟨fraction, after, rfl, hdigits, hafter⟩ := exists_digits input
    have hne : fraction ≠ [] := by
      rintro rfl
      rw [List.nil_append, afterPoint, ← List.nil_append after, takeDigits_append _ _ hafter] at h
      simp [takeDigits, hafter] at h
    rw [afterPoint_append ⟨hne, hdigits⟩ hafter, afterDigits_eq_ok hafter] at h
    obtain ⟨e?, htail, hv, rfl⟩ := h
    exact ⟨fraction, ⟨hne, hdigits⟩, e?, htail, hv, rfl⟩
  · rintro ⟨fraction, hfraction, e?, htail, hv, rfl⟩
    rw [afterPoint_append hfraction htail.startsWithDigit, afterDigits_eq_ok htail.startsWithDigit]
    exact ⟨e?, htail, hv, rfl⟩

/-- The value of a numeral by what is known after the digits of its whole part. -/
def tailValue? (negative : Bool) (significand beyond : Nat) (overflow : Bool)
    (fraction? : Option Bytes) (e? : Option Exponent) : Option Json :=
  if fraction?.isNone && e?.isNone && !overflow then some (integerOrDouble negative significand)
  else
    let (significand, places, _) := takeDigits significand (fraction?.getD [])
    scaledBy? negative significand (beyond - places) e?

/-- A number that neither a point nor the mark of an exponent follows. -/
theorem afterWhole_plain {negative : Bool} {significand beyond : Nat} {overflow : Bool}
    {input rest : Bytes} {v : Json} (hpoint : input.head? ≠ some 46)
    (hmark : input.head?.any isMark = false) :
    afterWhole negative significand beyond overflow input = .ok (v, rest) ↔
      tailValue? negative significand beyond overflow none none = some v ∧ input = rest := by
  have hwhole : afterWhole negative significand beyond overflow input =
      if overflow then double? negative significand beyond input
      else .ok (integerOrDouble negative significand, input) := by
    cases input with
    | nil => rw [afterWhole]
    | cons b input =>
      rw [afterWhole, if_neg (by simpa using hpoint), if_neg (by simpa [isMark] using hmark)]
  rw [hwhole, tailValue?]
  cases overflow with
  | true => simp [double?_eq_ok, takeDigits]
  | false => simp

theorem afterWhole_eq_ok {negative : Bool} {significand beyond : Nat} {overflow : Bool}
    {input rest : Bytes} {v : Json} (hinput : startsWithDigit input = false) :
    afterWhole negative significand beyond overflow input = .ok (v, rest) ↔
      ∃ fraction? e?, (∀ digits ∈ fraction?, Digits digits) ∧ Tail e? rest ∧
        (e? = none → fraction? = none → rest.head? ≠ some 46) ∧
          tailValue? negative significand beyond overflow fraction? e? = some v ∧
            input = fraction?.elim [] (46 :: ·) ++ (e?.elim [] Exponent.text ++ rest) := by
  by_cases hpoint : input.head? = some 46
  · obtain ⟨input, rfl⟩ := List.head?_eq_some_iff.1 hpoint
    rw [afterWhole, if_pos rfl, afterPoint_eq_ok]
    constructor
    · rintro ⟨fraction, hfraction, e?, htail, hv, rfl⟩
      exact ⟨some fraction, e?, by rintro _ ⟨⟩; exact hfraction, htail, nofun,
        by simpa [tailValue?] using hv, rfl⟩
    · rintro ⟨_ | fraction, e?, hfraction, htail, hend, hv, hsplit⟩
      · cases e? with
        | none => exact absurd (by rw [← show _ = rest from hsplit]; rfl) (hend rfl rfl)
        | some e =>
          have hmark := (htail.exponent e rfl).mark
          rw [← (List.cons.inj hsplit).1] at hmark
          exact absurd hmark (by decide)
      · exact ⟨fraction, hfraction _ rfl, e?, htail, by simpa [tailValue?] using hv,
          (List.cons.inj hsplit).2⟩
  cases hmark : input.head?.any isMark with
  | true =>
    obtain ⟨b, input, rfl⟩ := List.exists_cons_of_ne_nil (l := input) (by rintro rfl; simp at hmark)
    have hb : isMark b = true := by simpa using hmark
    rw [afterWhole, if_neg (by simpa using hpoint), if_pos (by simpa [isMark] using hb),
      afterMark_eq_ok hb]
    constructor
    · rintro ⟨e, he, hrest, hv, hsplit⟩
      exact ⟨none, some e, nofun, ⟨by rintro _ ⟨⟩; exact he, hrest, nofun⟩, nofun,
        by simpa [tailValue?, takeDigits] using hv, hsplit⟩
    · rintro ⟨_ | fraction, e?, hfraction, htail, hend, hv, hsplit⟩
      · cases e? with
        | none =>
          obtain rfl : b :: input = rest := hsplit
          exact absurd (htail.mark rfl) (by simpa using hb)
        | some e =>
          exact ⟨e, htail.exponent e rfl, htail.digit, by simpa [tailValue?, takeDigits] using hv,
            hsplit⟩
      · obtain rfl : b = 46 := (List.cons.inj hsplit).1
        exact absurd rfl hpoint
  | false =>
    rw [afterWhole_plain hpoint hmark]
    constructor
    · rintro ⟨hv, rfl⟩
      exact ⟨none, none, nofun, ⟨nofun, hinput, fun _ => hmark⟩, fun _ _ => hpoint, hv, rfl⟩
    · rintro ⟨_ | fraction, e?, hfraction, htail, hend, hv, rfl⟩
      · cases e? with
        | none => exact ⟨hv, rfl⟩
        | some e => exact absurd (htail.exponent e rfl).mark (by simpa [Exponent.text] using hmark)
      · exact absurd rfl hpoint

theorem Numeral.value?_eq (n : Numeral) (negative : Bool) : n.value? negative =
    tailValue? negative (takeDigits 0 n.whole).1 (takeDigits 0 n.whole).2.2.length
      (!(takeDigits 0 n.whole).2.2.isEmpty) n.fraction? n.exponent? := by
  rw [Numeral.value?, tailValue?]
  simp

/-- The digits of a numeral's whole part are read to their end. -/
theorem number_append {negative : Bool} {whole rest : Bytes} (hwhole : Digits whole)
    (hzero : whole.head? = some 48 → whole = [48]) (hrest : startsWithDigit rest = false) :
    number negative (whole ++ rest) =
      afterWhole negative (takeDigits 0 whole).1 (takeDigits 0 whole).2.2.length
        (!(takeDigits 0 whole).2.2.isEmpty) rest := by
  obtain ⟨b, digits, rfl⟩ := List.exists_cons_of_ne_nil hwhole.1
  rw [List.cons_append, number]
  by_cases hb : b = 48
  · obtain rfl := hb
    obtain rfl : digits = [] := (List.cons.inj (hzero rfl)).2
    rw [if_pos rfl, List.nil_append, if_neg (by simp [hrest])]
    rfl
  · have hdigit := hwhole.2 b List.mem_cons_self
    obtain ⟨hvalue, hbeyond⟩ := takeDigits_zero_cons hdigit digits
    have hleft : ∀ c ∈ (takeDigits (digitValue b) digits).2.2, isDigit c = true := fun c hc =>
      hwhole.2 c (List.mem_cons_of_mem b ((takeDigits_suffix _ _).subset hc))
    rw [if_neg hb, if_pos hdigit, takeDigits_append _ _ hrest, hvalue, hbeyond]
    simp only [skipDigits_append hleft hrest, startsWithDigit_append hleft hrest,
      List.length_append, Nat.add_sub_cancel]

/-- The number at the front of bytes is a numeral that ends there. -/
theorem number_eq_ok {negative : Bool} {input rest : Bytes} {v : Json} :
    number negative input = .ok (v, rest) ↔
      ∃ n : Numeral, n.Valid ∧ n.Ends rest ∧ n.value? negative = some v ∧
        input = n.text ++ rest := by
  constructor
  · intro h
    obtain ⟨whole, after, rfl, hdigits, hafter⟩ := exists_digits input
    have hne : whole ≠ [] := by
      rintro rfl
      cases after with
      | nil => exact stop_ne_ok h
      | cons b after =>
        have hb : isDigit b = false := by simpa [startsWithDigit] using hafter
        have hb' : b ≠ 48 := by
          rintro rfl
          exact absurd hb (by decide)
        rw [List.nil_append, number, if_neg hb', if_neg (by simp [hb])] at h
        exact stop_ne_ok h
    have hzero : whole.head? = some 48 → whole = [48] := by
      intro hhead
      obtain ⟨digits, rfl⟩ := List.head?_eq_some_iff.1 hhead
      have hdigits' : ∀ c ∈ digits, isDigit c = true := fun c hc =>
        hdigits c (List.mem_cons_of_mem _ hc)
      rw [List.cons_append, number, if_pos rfl, startsWithDigit_append hdigits' hafter] at h
      cases digits with
      | nil => rfl
      | cons c digits => exact absurd h (by simp)
    rw [number_append ⟨hne, hdigits⟩ hzero hafter, afterWhole_eq_ok hafter] at h
    obtain ⟨fraction?, e?, hfraction, htail, hpoint, hv, rfl⟩ := h
    refine ⟨⟨whole, fraction?, e?⟩, ⟨⟨hne, hdigits⟩, hzero, hfraction, htail.exponent⟩,
      ⟨htail.digit, htail.mark, hpoint⟩, ?_, by simp [Numeral.text]⟩
    rw [Numeral.value?_eq]
    exact hv
  · rintro ⟨n, hn, hends, hv, rfl⟩
    have htail : Tail n.exponent? rest := ⟨hn.exponent, hends.digit, hends.mark⟩
    have hafter : startsWithDigit (n.fraction?.elim [] (46 :: ·) ++
        (n.exponent?.elim [] Exponent.text ++ rest)) = false := by
      cases n.fraction? with
      | none => exact htail.startsWithDigit
      | some fraction => rfl
    rw [Numeral.text, List.append_assoc, List.append_assoc,
      number_append hn.whole hn.noLeadingZero hafter, afterWhole_eq_ok hafter]
    exact ⟨n.fraction?, n.exponent?, hn.fraction, htail, hends.point,
      by rw [← Numeral.value?_eq]; exact hv, rfl⟩

/-! ## Where a numeral ends -/

/-- Whether the bytes after a text would be read as more of a numeral at its end: digits, the mark
of a first exponent, or a first point before any exponent. -/
def goesOn (text rest : Bytes) : Bool :=
  text.getLast?.any isDigit && rest.head?.any fun b =>
    isDigit b || !text.any isMark && (isMark b || b == 46 && !text.contains 46)

/-- A sign before a numeral does not matter. -/
theorem goesOn_minus_cons {text : Bytes} (h : text ≠ []) (rest : Bytes) :
    goesOn (45 :: text) rest = goesOn text rest := by
  obtain ⟨b, text, rfl⟩ := List.exists_cons_of_ne_nil h
  have hmark : isMark 45 = false := by decide
  simp [goesOn, hmark]

theorem isMark_eq_false {b : UInt8} (h : isDigit b = true) : isMark b = false := by
  by_contra hmark
  rw [isMark, Bool.not_eq_false, Bool.or_eq_true, decide_eq_true_iff, decide_eq_true_iff] at hmark
  obtain rfl | rfl := hmark <;> exact absurd h (by decide)

namespace Digits

variable {bytes : Bytes}

theorem getLast?_append (h : Digits bytes) (before : Bytes) :
    (before ++ bytes).getLast?.any isDigit = true := by
  rw [List.getLast?_append, List.getLast?_eq_some_getLast h.1, Option.some_or]
  exact h.2 _ (List.getLast_mem h.1)

theorem any_isMark (h : Digits bytes) : bytes.any isMark = false :=
  List.any_eq_false.2 fun b hb => by simp [isMark_eq_false (h.2 b hb)]

theorem point_notMem (h : Digits bytes) : 46 ∉ bytes := fun hmem =>
  absurd (h.2 46 hmem) (by decide)

end Digits

namespace Numeral

variable {n : Numeral}

theorem exists_text_eq_append_digits (h : n.Valid) :
    ∃ before digits, Digits digits ∧ n.text = before ++ digits := by
  obtain ⟨whole, fraction?, e?⟩ := n
  cases e? with
  | some e =>
    exact ⟨whole ++ fraction?.elim [] (46 :: ·) ++ e.mark :: e.sign, e.digits,
      (h.exponent e rfl).digits, by simp [text, Exponent.text]⟩
  | none =>
    cases fraction? with
    | some fraction => exact ⟨whole ++ [46], fraction, h.fraction fraction rfl, by simp [text]⟩
    | none => exact ⟨[], whole, h.whole, by simp [text]⟩

theorem exists_text_eq_cons (h : n.Valid) :
    ∃ b rest, n.text = b :: rest ∧ isDigit b = true := by
  obtain ⟨b, digits, hcons⟩ := List.exists_cons_of_ne_nil h.whole.1
  exact ⟨b, _, by rw [text, hcons]; rfl, h.whole.2 b (by rw [hcons]; exact List.mem_cons_self)⟩

theorem text_ne_nil (h : n.Valid) : n.text ≠ [] := by
  obtain ⟨b, rest, htext, -⟩ := exists_text_eq_cons h
  exact htext ▸ List.cons_ne_nil b rest

theorem getLast?_text (h : n.Valid) : n.text.getLast?.any isDigit = true := by
  obtain ⟨before, digits, hdigits, htext⟩ := exists_text_eq_append_digits h
  rw [htext]
  exact hdigits.getLast?_append before

theorem any_isMark_text (h : n.Valid) : n.text.any isMark = n.exponent?.isSome := by
  obtain ⟨whole, fraction?, e?⟩ := n
  have hpoint : isMark 46 = false := by decide
  have hfraction : (fraction?.elim [] (46 :: ·)).any isMark = false := by
    cases fraction? with
    | none => rfl
    | some fraction => simpa [hpoint] using (h.fraction fraction rfl).any_isMark
  have hexponent : (e?.elim [] Exponent.text).any isMark = e?.isSome := by
    cases e? with
    | none => rfl
    | some e => simp [Exponent.text, (h.exponent e rfl).mark]
  rw [text, List.any_append, List.any_append, h.whole.any_isMark, hfraction, hexponent]
  rfl

theorem contains_point_text (h : n.Valid) (hexponent : n.exponent? = none) :
    n.text.contains 46 = n.fraction?.isSome := by
  obtain ⟨whole, fraction?, e?⟩ := n
  obtain rfl : e? = none := hexponent
  cases fraction? with
  | none => simpa [text] using h.whole.point_notMem
  | some fraction => simp [text]

/-- A numeral ends before bytes exactly when they do not go on with it. -/
theorem goesOn_text (h : n.Valid) (rest : Bytes) : goesOn n.text rest = false ↔ n.Ends rest := by
  rw [goesOn, getLast?_text h, any_isMark_text h, Bool.true_and]
  cases rest with
  | nil => exact ⟨fun _ => ⟨rfl, fun _ => rfl, fun _ _ => nofun⟩, fun _ => rfl⟩
  | cons b rest =>
    have hends : n.Ends (b :: rest) ↔ isDigit b = false ∧ (n.exponent? = none →
        isMark b = false ∧ (n.fraction? = none → b ≠ 46)) :=
      ⟨fun ⟨hdigit, hmark, hpoint⟩ =>
        ⟨hdigit, fun he => ⟨hmark he, fun hf => by simpa using hpoint he hf⟩⟩,
      fun ⟨hdigit, hmore⟩ =>
        ⟨hdigit, fun he => (hmore he).1, fun he hf => by simpa using (hmore he).2 hf⟩⟩
    rw [hends]
    cases he : n.exponent? with
    | some e => simp
    | none =>
      have hpoint := contains_point_text h he
      cases hf : n.fraction? with
      | some fraction => simp_all
      | none => simp_all

end Numeral

/-! ## Strings as they are written -/

/-- Four hexadecimal digits and their value. -/
inductive Hex : Nat → Bytes → Prop
  | digits {a b c d : UInt8} {i j k l : Nat} :
      hexValue? a = some i → hexValue? b = some j → hexValue? c = some k → hexValue? d = some l →
      Hex (((i * 16 + j) * 16 + k) * 16 + l) [a, b, c, d]

/-- A code point that is no surrogate, or a leading and a trailing surrogate. -/
inductive CodePoint : Nat → Bytes → Prop
  | single {n : Nat} {written : Bytes} : Hex n written → n < 0xD800 ∨ 0xDFFF < n →
      CodePoint n written
  | pair {first second : Nat} {written more : Bytes} : Hex first written → Hex second more →
      0xD800 ≤ first ∧ first ≤ 0xDBFF → 0xDC00 ≤ second ∧ second ≤ 0xDFFF →
      CodePoint ((first - 0xD800) * 0x400 + (second - 0xDC00) + 0x10000)
        (written ++ 92 :: 117 :: more)

/-- What stands after a backslash, and the bytes it stands for. -/
inductive Escape : Bytes → Bytes → Prop
  | short {b byte : UInt8} : shortEscape? (Char.ofUInt8 b) = some byte → Escape [byte] [b]
  | codePoint {n : Nat} {written : Bytes} : CodePoint n written → Escape (utf8 n) (117 :: written)

/-- The bytes that the written ones before a closing quote stand for. -/
inductive Quoted : Bytes → Bytes → Prop
  | nil : Quoted [] []
  | byte {b : UInt8} {content written : Bytes} : b ≠ 34 → b ≠ 92 → ¬ b < 32 →
      Quoted content written → Quoted (b :: content) (b :: written)
  | escape {piece content escaped written : Bytes} : Escape piece escaped →
      Quoted content written → Quoted (piece ++ content) (92 :: (escaped ++ written))

/-- The text that written bytes between quotes stand for. -/
def StringText (s : String) (written : Bytes) : Prop :=
  ∃ content, Quoted content written ∧ textOf? content = some s

/-! ## Reading strings -/

theorem hexEscape_eq_ok {input rest : Bytes} {n : Nat} :
    hexEscape input = .ok (n, rest) ↔ ∃ written, Hex n written ∧ input = written ++ rest := by
  constructor
  · intro h
    rw [hexEscape.eq_def] at h
    split at h
    · next a b c d after =>
      split at h
      · next i j k l ha hb hc hd =>
        obtain ⟨rfl, rfl⟩ := Prod.mk.inj (Except.ok.inj h)
        exact ⟨_, .digits ha hb hc hd, rfl⟩
      · exact absurd h stop_ne_ok
    · exact absurd h stop_ne_ok
  · rintro ⟨_, ⟨ha, hb, hc, hd⟩, rfl⟩
    simp [hexEscape, ha, hb, hc, hd]

theorem pairLetter_eq_ok {letter : Char} (hletter : Char.ofUInt8 letter.toUInt8 = letter)
    {input rest : Bytes} :
    pairLetter letter input = .ok rest ↔ input = letter.toUInt8 :: rest := by
  cases input with
  | nil => simp [pairLetter]
  | cons b input =>
    rw [pairLetter]
    split_ifs with hb
    · subst hb
      simp [toUInt8_ofUInt8]
    · refine ⟨fun h => absurd h stop_ne_ok, fun h => ?_⟩
      obtain rfl : b = letter.toUInt8 := (List.cons.inj h).1
      exact absurd hletter hb

theorem codePoint_eq_ok {input rest : Bytes} {n : Nat} :
    codePoint input = .ok (n, rest) ↔ ∃ written, CodePoint n written ∧ input = written ++ rest := by
  rw [codePoint, bind_eq_ok]
  constructor
  · rintro ⟨⟨first, after⟩, hfirst, h⟩
    obtain ⟨written, hwritten, rfl⟩ := hexEscape_eq_ok.1 hfirst
    simp only at h
    split_ifs at h with htrail hsingle
    · exact absurd h stop_ne_ok
    · obtain ⟨rfl, rfl⟩ := Prod.mk.inj (Except.ok.inj h)
      exact ⟨_, .single hwritten (by omega), rfl⟩
    · obtain ⟨slash, hslash, h⟩ := bind_eq_ok.1 h
      obtain ⟨letter, hletter, h⟩ := bind_eq_ok.1 h
      obtain ⟨⟨second, last⟩, hsecond, hpair⟩ := bind_eq_ok.1 h
      obtain ⟨more, hmore, rfl⟩ := hexEscape_eq_ok.1 hsecond
      rw [pairLetter_eq_ok (by decide)] at hslash hletter
      simp only at hpair
      split_ifs at hpair with hrange
      · exact absurd hpair stop_ne_ok
      · obtain ⟨rfl, rfl⟩ := Prod.mk.inj (Except.ok.inj hpair)
        exact ⟨_, .pair hwritten hmore (by omega) (by omega), by simp [hslash, hletter]; decide⟩
  · rintro ⟨_, ⟨hwritten, hrange⟩ | ⟨hwritten, hmore, hfirst, hsecond⟩, rfl⟩
    · refine ⟨_, hexEscape_eq_ok.2 ⟨_, hwritten, rfl⟩, ?_⟩
      simp only
      rw [if_neg (by omega), if_pos (by omega)]
      rfl
    · refine ⟨_, hexEscape_eq_ok.2 ⟨_, hwritten, List.append_assoc ..⟩, ?_⟩
      simp only
      rw [if_neg (by omega), if_neg (by omega)]
      refine bind_eq_ok.2 ⟨_, (pairLetter_eq_ok (by decide)).2 rfl, ?_⟩
      refine bind_eq_ok.2 ⟨_, (pairLetter_eq_ok (by decide)).2 rfl, ?_⟩
      refine bind_eq_ok.2 ⟨_, hexEscape_eq_ok.2 ⟨_, hmore, rfl⟩, ?_⟩
      simp only
      rw [if_neg (by omega)]
      rfl

theorem escape_eq_ok {input rest piece : Bytes} :
    escape input = .ok (piece, rest) ↔
      ∃ escaped, Escape piece escaped ∧ input = escaped ++ rest := by
  constructor
  · intro h
    cases input with
    | nil => exact absurd h stop_ne_ok
    | cons b input =>
      rw [escape] at h
      split at h
      · next byte hbyte =>
        obtain ⟨rfl, rfl⟩ := Prod.mk.inj (Except.ok.inj h)
        exact ⟨[b], .short hbyte, rfl⟩
      · split_ifs at h with hu
        · obtain ⟨⟨n, after⟩, hcode, h⟩ := bind_eq_ok.1 h
          obtain ⟨rfl, rfl⟩ := Prod.mk.inj (Except.ok.inj h)
          obtain ⟨written, hwritten, rfl⟩ := codePoint_eq_ok.1 hcode
          obtain rfl : b = 117 := eq_toUInt8 hu
          exact ⟨_, .codePoint hwritten, rfl⟩
        · exact absurd h stop_ne_ok
  · rintro ⟨_, hshort | hcode, rfl⟩
    · simp [escape, hshort]
    · next n written =>
      have hu : Char.ofUInt8 117 = 'u' := by decide
      have hlong : shortEscape? 'u' = none := rfl
      rw [List.cons_append, escape, hu]
      simp only [hlong, if_true]
      exact bind_eq_ok.2 ⟨_, codePoint_eq_ok.2 ⟨written, hcode, rfl⟩, rfl⟩

/-- Whatever is read before a closing quote stands there as a string is written. -/
theorem stringBytes_sound {fuel : Nat} {input rest content : Bytes}
    (h : stringBytes fuel input = .ok (content, rest)) :
    ∃ written, Quoted content written ∧ input = written ++ 34 :: rest := by
  induction fuel generalizing input content with
  | zero => exact absurd h stop_ne_ok
  | succ fuel ih =>
    cases input with
    | nil => exact absurd h stop_ne_ok
    | cons b input =>
      rw [stringBytes] at h
      split_ifs at h with hquote hslash hcontrol
      · obtain ⟨rfl, rfl⟩ := Prod.mk.inj (Except.ok.inj h)
        exact ⟨[], .nil, by rw [hquote]; rfl⟩
      · obtain ⟨⟨piece, after⟩, hpiece, h⟩ := bind_eq_ok.1 h
        obtain ⟨⟨more, last⟩, hmore, h⟩ := bind_eq_ok.1 h
        obtain ⟨rfl, rfl⟩ := Prod.mk.inj (Except.ok.inj h)
        obtain ⟨escaped, hescaped, rfl⟩ := escape_eq_ok.1 hpiece
        obtain ⟨written, hwritten, rfl⟩ := ih hmore
        exact ⟨_, .escape hescaped hwritten, by simp [hslash]⟩
      · exact absurd h stop_ne_ok
      · obtain ⟨⟨more, last⟩, hmore, h⟩ := bind_eq_ok.1 h
        obtain ⟨rfl, rfl⟩ := Prod.mk.inj (Except.ok.inj h)
        obtain ⟨written, hwritten, rfl⟩ := ih hmore
        exact ⟨_, .byte hquote hslash hcontrol hwritten, rfl⟩

/-- A string is read up to its closing quote, if the fuel counts its bytes. -/
theorem stringBytes_complete {content written : Bytes} (h : Quoted content written) {fuel : Nat}
    (hfuel : written.length < fuel) (rest : Bytes) :
    stringBytes fuel (written ++ 34 :: rest) = .ok (content, rest) := by
  induction h generalizing fuel with
  | nil =>
    obtain ⟨fuel, rfl⟩ := Nat.exists_eq_succ_of_ne_zero (Nat.ne_of_gt hfuel)
    rfl
  | @byte b content written hquote hslash hcontrol _ ih =>
    obtain ⟨fuel, rfl⟩ := Nat.exists_eq_succ_of_ne_zero (Nat.ne_of_gt (Nat.zero_lt_of_lt hfuel))
    rw [List.cons_append, stringBytes, if_neg hquote, if_neg hslash, if_neg hcontrol,
      ih (by simpa using hfuel)]
    rfl
  | @escape piece content escaped written hescape _ ih =>
    obtain ⟨fuel, rfl⟩ := Nat.exists_eq_succ_of_ne_zero (Nat.ne_of_gt (Nat.zero_lt_of_lt hfuel))
    simp only [List.length_cons, List.length_append] at hfuel
    rw [List.cons_append, List.append_assoc, stringBytes, if_neg (by decide), if_pos rfl]
    refine bind_eq_ok.2 ⟨_, escape_eq_ok.2 ⟨escaped, hescape, rfl⟩, ?_⟩
    exact bind_eq_ok.2 ⟨_, ih (by omega), rfl⟩

/-- The string at the front of bytes is what is written there up to the closing quote. -/
theorem text_eq_ok {input rest : Bytes} {s : String} :
    text input = .ok (s, rest) ↔
      ∃ written, StringText s written ∧ input = written ++ 34 :: rest := by
  rw [text, bind_eq_ok]
  constructor
  · rintro ⟨⟨content, after⟩, hcontent, h⟩
    obtain ⟨written, hwritten, rfl⟩ := stringBytes_sound hcontent
    cases htext : textOf? content with
    | none => simp [htext] at h
    | some s' =>
      simp only [htext] at h
      obtain ⟨rfl, rfl⟩ := Prod.mk.inj (Except.ok.inj h)
      exact ⟨written, ⟨content, hwritten, htext⟩, rfl⟩
  · rintro ⟨written, ⟨content, hwritten, htext⟩, rfl⟩
    refine ⟨_, stringBytes_complete hwritten (by simp) rest, ?_⟩
    simp only [htext]
    rfl

end Json
end ResponseTypes
