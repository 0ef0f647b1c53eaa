import ResponseTypes.DateShape
import ResponseTypes.Proofs.MachineSearch

/-!
# Date strings

A string is taken for a date exactly if it has one of the documented shapes.  The shapes are stated
here on characters and without any machine: as templates in which `D` stands for a digit, with a
fraction and a zone that may be left out.

The look at the bytes comes before the patterns, and counts bytes where the patterns count
characters.  It turns away no string that a pattern matches: a date begins with ten ASCII
characters, and a character has at least one byte.

## Main definitions

- `DateShape.Fits`: a text fits a template.
- `DateShape.HasDateShape`: a text has one of the three shapes.

## Main statements

- `DateShape.isMatch_date_iff`, `DateShape.isMatch_dateTime_iff`, `DateShape.isMatch_instant_iff`:
  what the patterns match.
- `DateShape.isDate_exact`: dates are the strings of these shapes, and the look at the bytes
  turns none of them away.
-/

namespace ResponseTypes
namespace DateShape

open Regex (AllMatch Matches Spells)

/-! ## Shapes -/

/-- What a character of a template stands for: `D` for a digit, and any other for itself. -/
def StandsFor (c t : Char) : Prop :=
  if t = 'D' then isDigit c = true else c = t

/-- A text fits a template, character by character. -/
def Fits (template : String) (s : List Char) : Prop :=
  List.Forall₂ StandsFor s template.toList

/-- A point and one to nine digits. -/
def IsFraction (s : List Char) : Prop :=
  ∃ ds, s = '.' :: ds ∧ 1 ≤ ds.length ∧ ds.length ≤ 9 ∧ ∀ d ∈ ds, isDigit d = true

/-- `Z`, or a sign and a time. -/
def IsZone (s : List Char) : Prop :=
  s = ['Z'] ∨ ∃ sign time, s = sign :: time ∧ (sign = '+' ∨ sign = '-') ∧ Fits "DD:DD" time

/-- A text has one of the three shapes. -/
def HasDateShape (s : List Char) : Prop :=
  Fits "DDDD-DD-DD" s ∨ Fits "DDDD-DD-DD DD:DD:DD" s ∨
    ∃ time fraction zone, s = time ++ fraction ++ zone ∧ Fits "DDDD-DD-DDTDD:DD:DD" time ∧
      (fraction = [] ∨ IsFraction fraction) ∧ (zone = [] ∨ IsZone zone)

/-! ## Templates as languages -/

/-- The texts that fit a template. -/
def fitting (template : List Char) : Language Char :=
  {s | List.Forall₂ StandsFor s template}

theorem fitting_nil : fitting [] = 1 := by
  ext s
  exact List.forall₂_nil_right_iff

theorem fitting_append (template more : List Char) :
    fitting (template ++ more) = fitting template * fitting more := by
  ext s
  constructor
  · intro h
    rw [← List.take_append_drop template.length s]
    exact Language.append_mem_mul (List.forall₂_take_append _ _ _ h)
      (List.forall₂_drop_append _ _ _ h)
  · intro h
    obtain ⟨a, ha, b, hb, rfl⟩ := Language.mem_mul.1 h
    exact List.rel_append ha hb

theorem mem_fitting_digit {s : List Char} :
    s ∈ fitting ['D'] ↔ ∃ c, isDigit c = true ∧ s = [c] := by
  constructor
  · rintro (_ | ⟨hc, _ | _⟩)
    exact ⟨_, hc, rfl⟩
  · rintro ⟨c, hc, rfl⟩
    exact .cons hc .nil

theorem mem_fitting_mark {m : Char} (hm : m ≠ 'D') {s : List Char} : s ∈ fitting [m] ↔ s = [m] := by
  constructor
  · rintro (_ | ⟨hc, _ | _⟩)
    rw [StandsFor, if_neg hm] at hc
    rw [hc]
  · rintro rfl
    exact .cons (by rw [StandsFor, if_neg hm]) .nil

theorem fitting_replicate (n : Nat) : fitting (.replicate n 'D') = fitting ['D'] ^ n := by
  induction n with
  | zero => exact fitting_nil
  | succ n ih => rw [List.replicate_succ', fitting_append, ih, pow_succ]

theorem mem_fitting_replicate {n : Nat} {s : List Char} :
    s ∈ fitting (.replicate n 'D') ↔ s.length = n ∧ ∀ c ∈ s, isDigit c = true := by
  induction n generalizing s with
  | zero =>
    rw [List.replicate_zero, fitting_nil, Language.mem_one, List.length_eq_zero_iff]
    exact ⟨fun h => ⟨h, by simp [h]⟩, And.left⟩
  | succ n ih =>
    constructor
    · rintro (_ | ⟨hc, hrest⟩)
      obtain ⟨hlength, hdigits⟩ := ih.1 hrest
      exact ⟨congrArg Nat.succ hlength, List.forall_mem_cons.2 ⟨hc, hdigits⟩⟩
    · rintro ⟨hlength, hdigits⟩
      obtain ⟨c, rest, rfl⟩ := List.exists_cons_of_length_eq_add_one hlength
      obtain ⟨hc, hrest⟩ := List.forall_mem_cons.1 hdigits
      exact .cons hc (ih.2 ⟨Nat.succ.inj hlength, hrest⟩)

/-! ## The languages of the patterns -/

theorem contains_digits (c : Char) : CharSet.digits.contains c = isDigit c := by
  rw [CharSet.digits, CharSet.contains_between, isDigit, Bool.decide_and]
  rfl

theorem contains_single (m c : Char) : (CharSet.single m).contains c = decide (c = m) := by
  rw [CharSet.single, CharSet.contains_between, decide_eq_decide, ← le_antisymm_iff, Char.toNat_inj,
    eq_comm]

theorem spells_digit : Spells (Matches (.oneOf .digits)) (fitting ['D']) :=
  Regex.spells_oneOf fun s => by simp only [contains_digits, mem_fitting_digit]

theorem spells_digits (n : Nat) : Spells (Matches (digits n)) (fitting (.replicate n 'D')) := by
  rw [fitting_replicate]
  exact spells_digit.times n true

theorem spells_mark {m : Char} (hm : m ≠ 'D') : Spells (Matches (mark m)) (fitting [m]) :=
  Regex.spells_oneOf fun s => by
    simp only [contains_single, decide_eq_true_eq, mem_fitting_mark hm, exists_eq_left]

/-- `n` digits and twice two digits, with a mark before each two. -/
theorem spells_thrice {m : Char} (hm : m ≠ 'D') (n : Nat) :
    Spells (AllMatch [digits n, mark m, digits 2, mark m, digits 2])
      (fitting (.replicate n 'D' ++ ([m] ++ (.replicate 2 'D' ++ ([m] ++ .replicate 2 'D'))))) := by
  have h := (spells_digits n).comp <| (spells_mark hm).comp <| (spells_digits 2).comp <|
    (spells_mark hm).comp <| (spells_digits 2).comp Regex.spells_eq
  simp only [mul_one, ← fitting_append] at h
  exact h

theorem spells_day : Spells (AllMatch day) (fitting "DDDD-DD-DD".toList) :=
  spells_thrice (by decide) 4

theorem spells_clock : Spells (AllMatch clock) (fitting "DD:DD:DD".toList) :=
  spells_thrice (by decide) 2

/-- A day and a time after a character. -/
theorem spells_day_clock {m : Char} (hm : m ≠ 'D') :
    Spells (AllMatch (day ++ mark m :: clock))
      (fitting ("DDDD-DD-DD".toList ++ ([m] ++ "DD:DD:DD".toList))) := by
  rw [Regex.allMatch_append, AllMatch, fitting_append, fitting_append]
  exact spells_day.comp ((spells_mark hm).comp spells_clock)

/-- The texts of one to nine digits. -/
def shortRuns : Language Char :=
  {s | 1 ≤ s.length ∧ s.length ≤ 9 ∧ ∀ d ∈ s, isDigit d = true}

/-- The fractions. -/
def fractions : Language Char :=
  {s | IsFraction s}

/-- The zones. -/
def zones : Language Char :=
  {s | IsZone s}

theorem fractions_eq : fractions = fitting ['.'] * shortRuns := by
  ext s
  constructor
  · rintro ⟨ds, rfl, hds⟩
    exact Language.mem_mul.2 ⟨['.'], (mem_fitting_mark (by decide)).2 rfl, ds, hds, rfl⟩
  · intro h
    obtain ⟨_, hpoint, ds, hds, rfl⟩ := Language.mem_mul.1 h
    obtain rfl := (mem_fitting_mark (by decide)).1 hpoint
    exact ⟨ds, rfl, hds⟩

theorem zones_eq :
    zones = fitting ['Z'] + (fitting ['+'] + fitting ['-']) * fitting "DD:DD".toList := by
  ext s
  rw [Language.mem_add, Language.mem_mul, mem_fitting_mark (by decide)]
  refine or_congr_right ⟨?_, ?_⟩
  · rintro ⟨sign, time, rfl, hsign, htime⟩
    refine ⟨[sign], ?_, time, htime, rfl⟩
    rw [Language.mem_add, mem_fitting_mark (by decide), mem_fitting_mark (by decide)]
    simpa using hsign
  · rintro ⟨_, hsign, time, htime, rfl⟩
    rw [Language.mem_add, mem_fitting_mark (by decide), mem_fitting_mark (by decide)] at hsign
    obtain rfl | rfl := hsign
    · exact ⟨'+', time, rfl, .inl rfl, htime⟩
    · exact ⟨'-', time, rfl, .inr rfl, htime⟩

theorem spells_fraction : Spells (Matches fraction) fractions := by
  have hdigits : Spells (Matches (.many ⟨1, some 9, true⟩ (.oneOf .digits))) shortRuns := by
    refine spells_digit.many fun s => ?_
    simp only [Repetition.allows_between_iff (show 1 ≤ 9 by decide), ← fitting_replicate,
      mem_fitting_replicate, and_assoc]
    constructor
    · exact fun ⟨hleast, hmost, hdigits⟩ => ⟨s.length, hleast, hmost, rfl, hdigits⟩
    · rintro ⟨_, hleast, hmost, rfl, hdigits⟩
      exact ⟨hleast, hmost, hdigits⟩
  have h := (@spells_mark '.' (by decide)).comp (hdigits.comp Regex.spells_eq)
  rwa [mul_one, ← fractions_eq] at h

theorem spells_zone : Spells (Matches zone) zones := by
  have hsign : Spells (Matches (.oneOf ((CharSet.single '+').union (.single '-'))))
      (fitting ['+'] + fitting ['-']) := by
    refine Regex.spells_oneOf fun s => ?_
    simp only [CharSet.contains_union, contains_single, Bool.or_eq_true, decide_eq_true_eq,
      or_and_right, exists_or, exists_eq_left, Language.mem_add]
    rw [mem_fitting_mark (by decide), mem_fitting_mark (by decide)]
  have h := (@spells_mark 'Z' (by decide)).or <| hsign.comp <|
    (spells_digits 2).comp <| (@spells_mark ':' (by decide)).comp <|
      (spells_digits 2).comp Regex.spells_eq
  simp only [mul_one, ← fitting_append] at h
  rw [zones_eq]
  exact h

/-! ## What the patterns match -/

variable {s : String}

theorem isMatch_date_iff : date.isMatch s = true ↔ Fits "DDDD-DD-DD" s.toList :=
  (Regex.isMatch_ofRegex_iff _ _ _).trans (Regex.exists_matches_whole_iff spells_day _)

theorem isMatch_dateTime_iff : dateTime.isMatch s = true ↔ Fits "DDDD-DD-DD DD:DD:DD" s.toList :=
  (Regex.isMatch_ofRegex_iff _ _ _).trans
    (Regex.exists_matches_whole_iff (spells_day_clock (by decide)) _)

theorem isMatch_instant_iff :
    instant.isMatch s = true ↔ ∃ time fraction zone, s.toList = time ++ fraction ++ zone ∧
      Fits "DDDD-DD-DDTDD:DD:DD" time ∧ (fraction = [] ∨ IsFraction fraction) ∧
      (zone = [] ∨ IsZone zone) := by
  have hfraction : Spells (Matches (optional (.group 1 fraction))) (1 + fractions) :=
    Spells.optional (r := .group 1 fraction) spells_fraction true
  have hzone : Spells (Matches (optional (.group 2 zone))) (1 + zones) :=
    Spells.optional (r := .group 2 zone) spells_zone true
  have hparts := (@spells_day_clock 'T' (by decide)).comp
    (hfraction.comp (hzone.comp Regex.spells_eq))
  rw [← AllMatch, ← AllMatch, ← AllMatch, ← Regex.allMatch_append] at hparts
  refine (Regex.isMatch_ofRegex_iff _ _ _).trans
    ((Regex.exists_matches_whole_iff hparts _).trans ?_)
  rw [mul_one, Language.mem_mul]
  constructor
  · rintro ⟨time, htime, _, hrest, hs⟩
    obtain ⟨fraction, hfraction, zone, hzone, rfl⟩ := Language.mem_mul.1 hrest
    exact ⟨time, fraction, zone, by rw [← hs, List.append_assoc], htime, hfraction, hzone⟩
  · rintro ⟨time, fraction, zone, hs, htime, hfraction, hzone⟩
    exact ⟨time, htime, _, Language.append_mem_mul hfraction hzone, by rw [hs, List.append_assoc]⟩

/-! ## The look at the bytes -/

/-- A character has at least one byte. -/
theorem length_le_size_utf8Encode (l : List Char) : l.length ≤ l.utf8Encode.size := by
  induction l with
  | nil => exact Nat.zero_le _
  | cons c l ih =>
    have hpos := c.utf8Size_pos
    rw [List.utf8Encode_cons, ByteArray.size_append, List.utf8Encode_singleton,
      List.size_toByteArray, String.length_utf8EncodeChar, List.length_cons]
    omega

/-- A digit is a single byte, which is a digit as well. -/
theorem utf8EncodeChar_of_isDigit {c : Char} (hc : isDigit c = true) :
    ∃ b, Json.isDigit b = true ∧ String.utf8EncodeChar c = [b] := by
  obtain ⟨hleast, hmost⟩ : 48 ≤ c.toNat ∧ c.toNat ≤ 57 := by
    simpa [isDigit, Char.le_def, UInt32.le_iff_toNat_le] using hc
  refine ⟨c.val.toUInt8, ?_, String.utf8EncodeChar_eq_singleton ?_⟩
  · simp only [Json.isDigit, Bool.and_eq_true, decide_eq_true_eq, UInt8.le_iff_toNat_le,
      UInt32.toNat_toUInt8]
    simp
    omega
  · rw [Char.utf8Size, if_pos]
    rw [UInt32.le_iff_toNat_le]
    exact hmost.trans (by decide)

/-- The first byte is there whenever it is asked for. -/
theorem exists_isTurnedAway? (s : String) : ∃ turnedAway, isTurnedAway? s = some turnedAway := by
  rw [isTurnedAway?]
  split_ifs with hsize
  · exact ⟨true, rfl⟩
  · have hpos : 0 < s.toUTF8.size := by omega
    exact ⟨!Json.isDigit s.toUTF8[0], by rw [getElem?_pos s.toUTF8 0 hpos]; rfl⟩

/-- A day begins with a digit. -/
theorem day_eq_cons {front : List Char} (h : Fits "DDDD-DD-DD" front) :
    ∃ c others, front = c :: others ∧ isDigit c = true := by
  rw [Fits] at h
  cases h with
  | cons hc => exact ⟨_, _, rfl, hc⟩

/-- A string that begins with a day is not turned away. -/
theorem isTurnedAway?_of_fits {front rest : List Char} (hs : s.toList = front ++ rest)
    (h : Fits "DDDD-DD-DD" front) : isTurnedAway? s = some false := by
  have hlength : front.length = 10 := List.Forall₂.length_eq h
  obtain ⟨c, others, rfl, hc⟩ := day_eq_cons h
  obtain ⟨b, hb, hencode⟩ := utf8EncodeChar_of_isDigit hc
  have hbytes : s.toUTF8 = [b].toByteArray ++ (others ++ rest).utf8Encode := by
    rw [String.toUTF8_eq_toByteArray, ← String.utf8Encode_toList, hs, List.cons_append,
      List.utf8Encode_cons, List.utf8Encode_singleton, hencode]
  have hsize : ¬ s.toUTF8.size < 10 := by
    have hle := length_le_size_utf8Encode s.toList
    rw [String.utf8Encode_toList, hs, List.length_append, hlength] at hle
    rw [String.toUTF8_eq_toByteArray]
    omega
  have hfirst : s.toUTF8[0]? = some b := by
    have hpos : 0 < s.toUTF8.size := by omega
    rw [getElem?_pos s.toUTF8 0 hpos, Option.some.injEq]
    simp only [hbytes]
    rw [ByteArray.getElem_append_left (by simp)]
    simp
  rw [isTurnedAway?]
  simp only [if_neg hsize, hfirst, Option.map_some, hb, Bool.not_true]

/-! ## Dates -/

/-- Every shape begins with a day. -/
theorem HasDateShape.exists_day {l : List Char} (h : HasDateShape l) :
    ∃ front rest, l = front ++ rest ∧ Fits "DDDD-DD-DD" front := by
  have hlonger : ∀ {template} {l : List Char}, l ∈ fitting ("DDDD-DD-DD".toList ++ template) →
      ∃ front rest, l = front ++ rest ∧ Fits "DDDD-DD-DD" front := by
    intro template l hl
    rw [fitting_append] at hl
    obtain ⟨front, hfront, rest, -, rfl⟩ := Language.mem_mul.1 hl
    exact ⟨front, rest, rfl, hfront⟩
  obtain h | h | ⟨time, fraction, zone, rfl, htime, -, -⟩ := h
  · exact ⟨l, [], (List.append_nil l).symm, h⟩
  · exact @hlonger " DD:DD:DD".toList l h
  · obtain ⟨front, rest, rfl, hfront⟩ := @hlonger "TDD:DD:DD".toList time htime
    exact ⟨front, rest ++ fraction ++ zone, by simp only [List.append_assoc], hfront⟩

/-- The last character is a digit or `Z`. -/
def IsClosed (l : List Char) : Prop :=
  ∃ c ∈ l.getLast?, isDigit c = true ∨ c = 'Z'

theorem IsClosed.append {l : List Char} (h : IsClosed l) (front : List Char) :
    IsClosed (front ++ l) := by
  obtain ⟨c, hlast, hc⟩ := h
  exact ⟨c, by rw [List.getLast?_append, hlast]; rfl, hc⟩

theorem isClosed_of_digits {l : List Char} (hne : l ≠ []) (h : ∀ c ∈ l, isDigit c = true) :
    IsClosed l :=
  ⟨l.getLast hne, List.getLast?_eq_some_getLast hne, .inl (h _ (List.getLast_mem hne))⟩

theorem isClosed_of_fitting {template l : List Char} (h : l ∈ fitting (template ++ ['D'])) :
    IsClosed l := by
  rw [fitting_append] at h
  obtain ⟨front, -, last, hlast, rfl⟩ := Language.mem_mul.1 h
  obtain ⟨c, hc, rfl⟩ := mem_fitting_digit.1 hlast
  exact (isClosed_of_digits (List.cons_ne_nil c []) (by simpa using hc)).append front

/-- Every shape ends with a digit or `Z`. -/
theorem HasDateShape.isClosed {l : List Char} (h : HasDateShape l) : IsClosed l := by
  obtain h | h | ⟨time, fraction, zone, rfl, htime, hfraction, hzone⟩ := h
  · exact @isClosed_of_fitting "DDDD-DD-D".toList l h
  · exact @isClosed_of_fitting "DDDD-DD-DD DD:DD:D".toList l h
  · obtain rfl | rfl | ⟨sign, time', rfl, -, htime'⟩ := hzone
    · rw [List.append_nil]
      obtain rfl | ⟨ds, rfl, hleast, -, hds⟩ := hfraction
      · rw [List.append_nil]
        exact @isClosed_of_fitting "DDDD-DD-DDTDD:DD:D".toList time htime
      · have hclosed := isClosed_of_digits (List.length_pos_iff.1 hleast) hds
        exact (hclosed.append ['.']).append time
    · exact IsClosed.append ⟨'Z', rfl, .inr rfl⟩ _
    · have hclosed : IsClosed time' := @isClosed_of_fitting "DD:D".toList time' htime'
      exact (hclosed.append [sign]).append _

/-- Some pattern matches exactly the strings of the three shapes. -/
theorem exists_isMatch_iff (s : String) :
    (∃ pattern ∈ [date, dateTime, instant], pattern.isMatch s = true) ↔ HasDateShape s.toList := by
  simp only [List.exists_mem_cons_iff, List.not_mem_nil, false_and, exists_false, or_false,
    isMatch_date_iff, isMatch_dateTime_iff, isMatch_instant_iff, HasDateShape]

theorem isTurnedAway?_of_isMatch {pattern : Pattern}
    (hpattern : pattern ∈ [date, dateTime, instant]) (h : pattern.isMatch s = true) :
    isTurnedAway? s = some false := by
  obtain ⟨front, rest, hs, hday⟩ := ((exists_isMatch_iff s).1 ⟨pattern, hpattern, h⟩).exists_day
  exact isTurnedAway?_of_fits hs hday

/-- The answer is there, and is yes for a string that is not turned away and that some pattern
matches. -/
theorem isDate?_eq (s : String) : ∃ answer, isDate? s = some answer ∧
    (answer = true ↔ isTurnedAway? s = some false ∧
      ∃ pattern ∈ [date, dateTime, instant], pattern.isMatch s = true) := by
  obtain ⟨turnedAway, haway⟩ := exists_isTurnedAway? s
  rw [isDate?, haway]
  cases turnedAway with
  | true => exact ⟨false, rfl, by simp⟩
  | false => exact ⟨_, rfl, by simp [or_assoc]⟩

theorem isDate_iff (s : String) : isDate s = true ↔ HasDateShape s.toList := by
  obtain ⟨answer, hanswer, hiff⟩ := isDate?_eq s
  rw [isDate, hanswer, Option.getD_some, hiff, ← exists_isMatch_iff, and_iff_right_iff_imp]
  rintro ⟨pattern, hpattern, h⟩
  exact isTurnedAway?_of_isMatch hpattern h

-- only the shape counts
example : isDate "2025-13-45" = true := by decide +kernel

/-- Dates are exactly the strings of the three shapes.  The first byte is there whenever it is asked
for, and no string that a pattern matches is turned away by its bytes.  One character more in front
of a string or at its end is refused, unless it is one that a date can begin or end with. -/
theorem isDate_exact (s : String) :
    (isDate s = true ↔ HasDateShape s.toList) ∧
    isDate? s = some (isDate s) ∧
    (∀ pattern ∈ [date, dateTime, instant], pattern.isMatch s = true →
      isTurnedAway? s = some false) ∧
    (∀ c, isDigit c = false → isDate (String.singleton c ++ s) = false) ∧
    ∀ c, isDigit c = false → c ≠ 'Z' → isDate (s.push c) = false := by
  refine ⟨isDate_iff s, ?_, fun _ => isTurnedAway?_of_isMatch, fun c hc => ?_, fun c hc hZ => ?_⟩
  · obtain ⟨answer, hanswer, -⟩ := isDate?_eq s
    rw [isDate, hanswer, Option.getD_some]
  · rw [Bool.eq_false_iff, ne_eq, isDate_iff]
    intro h
    obtain ⟨front, rest, hs, hday⟩ := h.exists_day
    obtain ⟨first, others, rfl, hfirst⟩ := day_eq_cons hday
    rw [String.toList_append, String.toList_singleton] at hs
    obtain rfl : c = first := (List.cons_eq_cons.1 hs).1
    exact absurd (hc.symm.trans hfirst) nofun
  · rw [Bool.eq_false_iff, ne_eq, isDate_iff, String.toList_push]
    intro h
    obtain ⟨last, hlast, hclosed⟩ := h.isClosed
    obtain rfl : c = last := by simpa using hlast
    obtain hdigit | rfl := hclosed
    · exact absurd (hc.symm.trans hdigit) nofun
    · exact hZ rfl

end DateShape
end ResponseTypes
