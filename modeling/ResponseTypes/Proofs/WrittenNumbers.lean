import ResponseTypes.Decimal.Style
import ResponseTypes.Json.Shape
import ResponseTypes.Proofs.NameStages
import ResponseTypes.Proofs.ScaledSignificands
import ResponseTypes.Proofs.JsonScalars

/-!
# Written numbers

A decimal is written with a point in its place, or with a point after its first digit and an
exponent.  Either way the text is a numeral of JSON, and what the reader makes of it is a double: a
numeral with a point and no exponent cannot become too large, one with an exponent below zero
neither, and of any other the digits and the exponent together say what the reader scales to.  It
drops digits that its significand has no room for, so that this is the written decimal or less.

The zeros at the end of the digits are left out.  `Shortened` holds what is then known of the
digits, and the numeral is told from them alone.

## Main definitions

- `Json.Shortened`: digits without the zeros at their end.
- `Json.numeralOf`: the numeral that a decimal is written as.
- `Json.IsDouble`: a numeral that is read as a double.

## Main statements

- `Json.takeDigits_bounds`: what a significand takes and leaves.
- `Json.text_numeralOf`, `Json.valid_numeralOf`: a written decimal is the text of a numeral.
- `Json.isDouble_numeralOf`: which is read as a double, unless the decimal comes close to the
  greatest of them.
-/

namespace ResponseTypes
namespace Json

open Decimal (digitsOf dropZeros zeros positional)

/-! ## Runs of digits -/

theorem lt_of_isDigit {c : Char} (hc : c.isDigit = true) : c.toNat < 128 := by
  have hle : c.val ≤ 57 := by
    simp only [Char.isDigit, Bool.and_eq_true, decide_eq_true_eq] at hc
    exact hc.2
  exact Nat.lt_of_le_of_lt hle (by decide)

theorem isDigit_toUInt8 {c : Char} (hc : c.isDigit = true) :
    isDigit c.toUInt8 = true ∧ digitValue c.toUInt8 = c.toNat - 48 ∧
      (c.toUInt8 = 48 → c = '0') :=
  Text.of_all_ascii (P := fun c => c.isDigit = true →
    isDigit c.toUInt8 = true ∧ digitValue c.toUInt8 = c.toNat - 48 ∧
      (c.toUInt8 = 48 → c = '0')) (by decide) (lt_of_isDigit hc) hc

theorem isDigit_of_mem_ascii {letters : List Char} (h : ∀ c ∈ letters, c.isDigit = true) :
    ∀ b ∈ ascii letters, isDigit b = true :=
  List.forall_mem_map.2 fun c hc => (isDigit_toUInt8 (h c hc)).1

/-- The number of a run of digits, after a start. -/
theorem foldl_shiftIn_ascii {letters : List Char} (h : ∀ c ∈ letters, c.isDigit = true)
    (start : Nat) : (ascii letters).foldl shiftIn start = Nat.ofDigitChars 10 letters start := by
  induction letters generalizing start with
  | nil => rfl
  | cons c letters ih =>
    obtain ⟨hc, hletters⟩ := List.forall_mem_cons.1 h
    rw [ascii, List.map_cons, List.foldl_cons, Nat.ofDigitChars_cons, ← ih hletters, shiftIn,
      (isDigit_toUInt8 hc).2.1, Nat.mul_comm]
    rfl

theorem mul_pow_le_foldl_shiftIn (start : Nat) (digits : Bytes) :
    start * 10 ^ digits.length ≤ digits.foldl shiftIn start := by
  induction digits generalizing start with
  | nil => simp
  | cons b digits ih =>
    refine le_trans ?_ (ih (shiftIn start b))
    rw [List.length_cons, pow_succ, shiftIn]
    calc start * (10 ^ digits.length * 10) = start * 10 * 10 ^ digits.length := by ring
      _ ≤ (start * 10 + digitValue b) * 10 ^ digits.length := by gcongr; omega

theorem foldl_shiftIn_lt {digits : Bytes} (h : ∀ b ∈ digits, isDigit b = true) (start : Nat) :
    digits.foldl shiftIn start < (start + 1) * 10 ^ digits.length := by
  induction digits generalizing start with
  | nil => simp
  | cons b digits ih =>
    obtain ⟨hb, hdigits⟩ := List.forall_mem_cons.1 h
    have hle := digitValue_le hb
    refine lt_of_lt_of_le (ih hdigits (shiftIn start b)) ?_
    rw [List.length_cons, pow_succ, shiftIn]
    calc (start * 10 + digitValue b + 1) * 10 ^ digits.length
        ≤ (start + 1) * 10 * 10 ^ digits.length := by gcongr; omega
      _ = (start + 1) * (10 ^ digits.length * 10) := by ring

/-- A significand keeps within 64 bits, and what it leaves of the digits only makes their number
greater. -/
theorem takeDigits_bounds {start : Nat} (hstart : start < 2 ^ 64) {digits : Bytes} :
    (takeDigits start digits).1 < 2 ^ 64 ∧
      (takeDigits start digits).2.1 + (takeDigits start digits).2.2.length = digits.length ∧
      (takeDigits start digits).1 * 10 ^ (takeDigits start digits).2.2.length ≤
        digits.foldl shiftIn start := by
  induction digits generalizing start with
  | nil => simpa [takeDigits] using hstart
  | cons b digits ih =>
    rw [takeDigits]
    split_ifs with hfits
    · have hlt : shiftIn start b < 2 ^ 64 := by
        simp only [Bool.and_eq_true, decide_eq_true_eq] at hfits
        exact hfits.2
      obtain ⟨hbits, hlength, hle⟩ := ih hlt
      refine ⟨hbits, ?_, hle⟩
      change (takeDigits (shiftIn start b) digits).2.1 + 1 +
        (takeDigits (shiftIn start b) digits).2.2.length = digits.length + 1
      omega
    · exact ⟨hstart, by simp, mul_pow_le_foldl_shiftIn start (b :: digits)⟩

/-- All of the digits are taken if their number fits. -/
theorem takeDigits_of_lt {start : Nat} {digits : Bytes} (h : ∀ b ∈ digits, isDigit b = true)
    (hlt : digits.foldl shiftIn start < 2 ^ 64) :
    takeDigits start digits = (digits.foldl shiftIn start, digits.length, []) := by
  induction digits generalizing start with
  | nil => rfl
  | cons b digits ih =>
    obtain ⟨hb, hdigits⟩ := List.forall_mem_cons.1 h
    rw [List.foldl_cons] at hlt
    have hfits : shiftIn start b < 2 ^ 64 := by
      refine lt_of_le_of_lt ?_ hlt
      exact (Nat.le_mul_of_pos_right _ (by positivity)).trans
        (mul_pow_le_foldl_shiftIn (shiftIn start b) digits)
    rw [takeDigits, if_pos (by simpa [hb] using hfits), ih hdigits hlt]
    rfl

theorem takeExponent_of_le {start : Nat} {digits : Bytes} (h : ∀ b ∈ digits, isDigit b = true)
    (hle : digits.foldl shiftIn start ≤ exponentLimit) :
    takeExponent start digits = (digits.foldl shiftIn start, []) := by
  induction digits generalizing start with
  | nil => rfl
  | cons b digits ih =>
    obtain ⟨hb, hdigits⟩ := List.forall_mem_cons.1 h
    rw [List.foldl_cons] at hle
    have hfits : shiftIn start b ≤ exponentLimit := by
      refine le_trans ?_ hle
      exact (Nat.le_mul_of_pos_right _ (by positivity)).trans
        (mul_pow_le_foldl_shiftIn (shiftIn start b) digits)
    rw [takeExponent, if_pos (by simpa [hb] using hfits), ih hdigits hle]
    rfl

/-! ## Digits of a natural -/

theorem isDigit_of_mem_digitsOf {n : Nat} : ∀ c ∈ digitsOf n, c.isDigit = true :=
  fun _ hc => Nat.isDigit_of_mem_toDigits (by decide) (by decide) hc

theorem foldl_shiftIn_digitsOf (n : Nat) : (ascii (digitsOf n)).foldl shiftIn 0 = n := by
  rw [foldl_shiftIn_ascii isDigit_of_mem_digitsOf, digitsOf, Nat.ofDigitChars_ten_toDigits]

theorem digits_digitsOf (n : Nat) : Digits (ascii (digitsOf n)) :=
  ⟨by simp [ascii, digitsOf], isDigit_of_mem_ascii isDigit_of_mem_digitsOf⟩

/-- The digits of a natural other than zero do not begin with a zero. -/
theorem head?_digitsOf {n : Nat} (h : n ≠ 0) : (digitsOf n).head? ≠ some '0' := by
  induction n using Nat.strong_induction_on with
  | _ n ih =>
    rw [digitsOf]
    by_cases hn : n < 10
    · rw [Nat.toDigits_of_lt_base hn]
      have hdigit : ∀ n < 10, n ≠ 0 → n.digitChar ≠ '0' := by decide
      simpa using hdigit n hn h
    · rw [Nat.toDigits_of_base_le (by decide) (by omega),
        List.head?_append_of_ne_nil _ Nat.toDigits_ne_nil]
      exact ih (n / 10) (by omega) (by omega)

/-- Digits are those that are kept and then zeros. -/
theorem exists_dropZeros_append (s : List Char) : ∃ k, s = dropZeros s ++ List.replicate k '0' := by
  refine ⟨(s.reverse.takeWhile (· == '0')).length, ?_⟩
  have hzeros : s.reverse.takeWhile (· == '0') =
      List.replicate (s.reverse.takeWhile (· == '0')).length '0' :=
    List.eq_replicate_iff.2 ⟨rfl, fun c hc => by simpa using List.mem_takeWhile_imp hc⟩
  conv_lhs => rw [← List.reverse_reverse s,
    ← List.takeWhile_append_dropWhile (p := (· == '0')) (l := s.reverse), List.reverse_append]
  rw [dropZeros, hzeros, List.reverse_replicate]
  simp

/-- The digits of a decimal without the zeros at their end. -/
structure Shortened (n : Nat) (digits : List Char) (k : Nat) : Prop where
  eq_append : digitsOf n = digits ++ List.replicate k '0'
  isDigit : ∀ c ∈ digits, c.isDigit = true
  ne_nil : digits ≠ []
  head?_ne : digits.head? ≠ some '0'
  value : (ascii digits).foldl shiftIn 0 * 10 ^ k = n

theorem exists_shortened {n : Nat} (h : n ≠ 0) : ∃ k, Shortened n (dropZeros (digitsOf n)) k := by
  obtain ⟨k, happend⟩ := exists_dropZeros_append (digitsOf n)
  set digits := dropZeros (digitsOf n)
  have hdigit : ∀ c ∈ digits, c.isDigit = true := fun c hc =>
    isDigit_of_mem_digitsOf c (happend ▸ List.mem_append_left _ hc)
  have hvalue : (ascii digits).foldl shiftIn 0 * 10 ^ k = n := by
    have hall := foldl_shiftIn_digitsOf n
    rw [happend, foldl_shiftIn_ascii (happend ▸ isDigit_of_mem_digitsOf),
      Nat.ofDigitChars_append, Nat.ofDigitChars_replicate_zero] at hall
    rw [foldl_shiftIn_ascii hdigit, Nat.mul_comm]
    exact hall
  have hne : digits ≠ [] := by
    intro hnil
    rw [hnil] at hvalue
    exact h (by simpa [ascii] using hvalue.symm)
  refine ⟨k, happend, hdigit, hne, ?_, hvalue⟩
  have hhead := head?_digitsOf h
  rwa [happend, List.head?_append_of_ne_nil _ hne] at hhead

/-! ## The numeral of a decimal -/

/-- The exponent of the first digit of a decimal. -/
def leadingExponent (d : Decimal) : Int :=
  d.exponent + ((digitsOf d.digits).length - 1 : Nat)

/-- Digits with a point in their place, as a numeral. -/
def positionalNumeral (digits : List Char) : Int → Numeral
  | .ofNat e =>
    { whole := ascii ((digits ++ zeros (e + 1 - digits.length)).take (e + 1))
      fraction? := some (ascii
        (if (digits.drop (e + 1)).isEmpty then ['0'] else digits.drop (e + 1)))
      exponent? := none }
  | .negSucc e =>
    { whole := ascii ['0'], fraction? := some (ascii (zeros e ++ digits)), exponent? := none }

/-- Digits with a point after the first, and an exponent, as a numeral. -/
def scientificNumeral (digits : List Char) (exponent : Int) : Numeral where
  whole := ascii (digits.take 1)
  fraction? := if (digits.drop 1).isEmpty then none else some (ascii (digits.drop 1))
  exponent? := some
    { mark := 101
      sign := if exponent < 0 then [45] else [43]
      digits := ascii (digitsOf exponent.natAbs) }

/-- The numeral that a decimal is written as. -/
def numeralOf (d : Decimal) : Numeral :=
  if d.digits = 0 then { whole := ascii ['0'], fraction? := some (ascii ['0']), exponent? := none }
  else if -5 ≤ leadingExponent d ∧ leadingExponent d ≤ 15 then
    positionalNumeral (dropZeros (digitsOf d.digits)) (leadingExponent d)
  else scientificNumeral (dropZeros (digitsOf d.digits)) (leadingExponent d)

theorem ascii_append (s t : List Char) : ascii (s ++ t) = ascii s ++ ascii t :=
  List.map_append

theorem text_positionalNumeral (digits : List Char) (exponent : Int) :
    (positionalNumeral digits exponent).text = ascii (positional digits exponent) := by
  cases exponent with
  | ofNat e =>
    rw [positionalNumeral, positional, Numeral.text]
    simp only [Option.elim, List.append_nil, ascii_append]
    rfl
  | negSucc e =>
    rw [positionalNumeral, positional, Numeral.text]
    simp only [Option.elim, List.append_nil]
    rfl

theorem text_scientificNumeral {digits : List Char} (h : digits ≠ []) (exponent : Int) :
    (scientificNumeral digits exponent).text = ascii (doubleStyle.scientific digits exponent) := by
  have hexponent : ascii (doubleStyle.writeExponent exponent) = Exponent.text
      { mark := 101
        sign := if exponent < 0 then [45] else [43]
        digits := ascii (digitsOf exponent.natAbs) } := by
    have hplus : doubleStyle.plus = true := rfl
    rw [Decimal.Style.writeExponent, Exponent.text]
    simp only [hplus, if_true]
    split_ifs
    · rfl
    · rfl
  obtain ⟨first, rest, rfl⟩ := List.exists_cons_of_ne_nil h
  cases rest with
  | nil =>
    change _ = ascii ([first] ++ doubleStyle.writeExponent exponent)
    rw [ascii_append, hexponent]
    rfl
  | cons second rest =>
    change _ = ascii ((first :: '.' :: second :: rest) ++ doubleStyle.writeExponent exponent)
    rw [ascii_append, hexponent]
    rfl

/-- The text of the numeral is what is written. -/
theorem text_numeralOf (d : Decimal) :
    (numeralOf d).text = ascii (doubleStyle.writeDecimal d) := by
  rw [numeralOf, Decimal.Style.writeDecimal, leadingExponent]
  by_cases hzero : d.digits = 0
  · rw [if_pos hzero]
    simp only [hzero]
    rfl
  · obtain ⟨k, hdigits⟩ := exists_shortened hzero
    simp only [if_neg hzero]
    split_ifs with hrange hrange' hrange'
    · exact text_positionalNumeral _ _
    · exact absurd hrange hrange'
    · exact absurd hrange' hrange
    · exact text_scientificNumeral hdigits.ne_nil _

/-! ## The numeral is one -/

variable {digits : List Char}

theorem digits_ascii (h : ∀ c ∈ digits, c.isDigit = true) (hne : digits ≠ []) :
    Digits (ascii digits) :=
  ⟨by simpa [ascii] using hne, isDigit_of_mem_ascii h⟩

theorem digits_zero : Digits (ascii ['0']) :=
  digits_ascii (List.forall_mem_singleton.2 rfl) (List.cons_ne_nil _ _)

theorem head?_ascii {letters : List Char} (h : ∀ c ∈ letters, c.isDigit = true)
    (hhead : letters.head? ≠ some '0') : (ascii letters).head? ≠ some 48 := by
  cases letters with
  | nil => exact nofun
  | cons c letters =>
    intro heq
    have hc := (isDigit_toUInt8 (h c List.mem_cons_self)).2.2 (Option.some.inj heq)
    exact hhead (congrArg some hc)

theorem valid_positionalNumeral (h : ∀ c ∈ digits, c.isDigit = true) (hne : digits ≠ [])
    (hhead : digits.head? ≠ some '0') (exponent : Int) :
    (positionalNumeral digits exponent).Valid := by
  have hzeros : ∀ n, ∀ c ∈ zeros n, c.isDigit = true := by
    intro n c hc
    rw [List.eq_of_mem_replicate hc]
    rfl
  cases exponent with
  | ofNat e =>
    have hall : ∀ c ∈ (digits ++ zeros (e + 1 - digits.length)).take (e + 1), c.isDigit = true := by
      intro c hc
      rcases List.mem_append.1 (List.mem_of_mem_take hc) with hc | hc
      · exact h c hc
      · exact hzeros _ c hc
    have hwhole : (digits ++ zeros (e + 1 - digits.length)).take (e + 1) ≠ [] := by
      simp [hne]
    refine ⟨digits_ascii hall hwhole, fun hzero => ?_, ?_, nofun⟩
    · refine absurd hzero (head?_ascii hall ?_)
      rw [List.head?_take, if_neg (Nat.succ_ne_zero e), List.head?_append_of_ne_nil _ hne]
      exact hhead
    · rintro _ ⟨⟩
      split_ifs with hempty
      · exact digits_zero
      · exact digits_ascii (fun c hc => h c (List.mem_of_mem_drop hc)) (by simpa using hempty)
  | negSucc e =>
    refine ⟨digits_zero, fun _ => rfl, ?_, nofun⟩
    rintro _ ⟨⟩
    refine digits_ascii (fun c hc => ?_) (by simp [hne])
    rcases List.mem_append.1 hc with hc | hc
    · exact hzeros _ c hc
    · exact h c hc

theorem valid_scientificNumeral (h : ∀ c ∈ digits, c.isDigit = true) (hne : digits ≠ [])
    (exponent : Int) : (scientificNumeral digits exponent).Valid := by
  obtain ⟨first, rest, rfl⟩ := List.exists_cons_of_ne_nil hne
  refine ⟨digits_ascii (fun c hc => h c (List.mem_of_mem_take hc)) (by simp),
    fun hzero => ?_, ?_, ?_⟩
  · exact congrArg (· :: []) (Option.some.inj hzero)
  · intro fraction hfraction
    rw [scientificNumeral] at hfraction
    simp only [Option.mem_def] at hfraction
    split_ifs at hfraction with hempty
    obtain rfl := Option.some.inj hfraction
    exact digits_ascii (fun c hc => h c (List.mem_of_mem_drop hc)) (by simpa using hempty)
  · rintro _ ⟨⟩
    refine ⟨rfl, ?_, digits_digitsOf _⟩
    simp only
    split_ifs
    · exact .inr (.inr rfl)
    · exact .inr (.inl rfl)

theorem valid_numeralOf (d : Decimal) : (numeralOf d).Valid := by
  rw [numeralOf]
  split_ifs with hzero
  · refine ⟨digits_zero, fun _ => rfl, ?_, nofun⟩
    rintro _ ⟨⟩
    exact digits_zero
  · obtain ⟨k, hdigits⟩ := exists_shortened hzero
    exact valid_positionalNumeral hdigits.isDigit hdigits.ne_nil hdigits.head?_ne _
  · obtain ⟨k, hdigits⟩ := exists_shortened hzero
    exact valid_scientificNumeral hdigits.isDigit hdigits.ne_nil _

/-! ## The numeral is read as a double -/

open Double (slack greatest)

/-- A numeral that is read as a double, with a sign or without. -/
def IsDouble (n : Numeral) : Prop :=
  ∀ negative, ∃ x, n.value? negative = some (.double x)

theorem exists_double_of_isSome {negative : Bool} {significand : Nat} {exponent : Int}
    {e? : Option Exponent} (h : (scaledBy? negative significand exponent e?).isSome = true) :
    ∃ x, scaledBy? negative significand exponent e? = some (.double x) := by
  obtain ⟨v, hv⟩ := Option.isSome_iff_exists.1 h
  rw [hv]
  cases e? with
  | none =>
    rw [scaledBy?] at hv
    obtain ⟨x, -, rfl⟩ := Option.map_eq_some_iff.1 hv
    exact ⟨_, rfl⟩
  | some e =>
    rw [scaledBy?] at hv
    simp only at hv
    split_ifs at hv
    · obtain ⟨x, -, rfl⟩ := Option.map_eq_some_iff.1 hv
      exact ⟨_, rfl⟩
    · obtain ⟨x, -, rfl⟩ := Option.map_eq_some_iff.1 hv
      exact ⟨_, rfl⟩
    · exact ⟨_, hv.symm⟩

theorem lt_of_length_le {digits : Bytes} (h : ∀ b ∈ digits, isDigit b = true)
    (hlength : digits.length ≤ 19) : digits.foldl shiftIn 0 < 2 ^ 64 := by
  refine (foldl_shiftIn_lt h 0).trans ?_
  calc (0 + 1) * 10 ^ digits.length ≤ 1 * 10 ^ 19 :=
        Nat.mul_le_mul_left _ (Nat.pow_le_pow_right (by decide) hlength)
    _ < 2 ^ 64 := by decide

/-- The value of a numeral that has more than a whole part, when all of that part is taken. -/
theorem value?_of_length_le {n : Numeral} (hn : n.Valid) (hlength : n.whole.length ≤ 19)
    (hmore : n.fraction?.isSome ∨ n.exponent?.isSome) (negative : Bool) :
    n.value? negative =
      scaledBy? negative (takeDigits (n.whole.foldl shiftIn 0) (n.fraction?.getD [])).1
        (-((takeDigits (n.whole.foldl shiftIn 0) (n.fraction?.getD [])).2.1 : Int))
        n.exponent? := by
  have hpart : ¬ (n.fraction?.isNone && n.exponent?.isNone && true) = true := by
    rcases hmore with h | h <;> cases hf : n.fraction? <;> cases he : n.exponent? <;> simp_all
  rw [Numeral.value?, takeDigits_of_lt hn.whole.2 (lt_of_length_le hn.whole.2 hlength)]
  simp only [List.isEmpty_nil, if_neg hpart, List.length_nil, Nat.cast_zero, Int.zero_sub]

theorem isSome_scaled?_of_nonpos {significand : Nat} {exponent : Int} (hlt : significand < 2 ^ 64)
    (hexponent : exponent ≤ 0) : (scaled? significand exponent).isSome = true := by
  refine isSome_scaled? hlt ?_
  have hpower : (10 : ℚ) ^ exponent ≤ 1 := zpow_le_one_of_nonpos₀ (by norm_num) hexponent
  have hbits : (significand : ℚ) ≤ 2 ^ 64 := by exact_mod_cast hlt.le
  have hslack : slack ^ 2 ≤ 2 := by norm_num [slack]
  have hbelow : (2 ^ 65 : ℚ) < greatest := by
    exact_mod_cast Double.natCast_lt_greatest (n := 2 ^ 65) (by decide +kernel)
  calc (significand : ℚ) * 10 ^ exponent * slack ^ 2 ≤ 2 ^ 64 * 1 * 2 := by gcongr
    _ = 2 ^ 65 := by norm_num
    _ < greatest := hbelow

theorem isDouble_of_fraction {n : Numeral} (hn : n.Valid) (hlength : n.whole.length ≤ 19)
    (hfraction : n.fraction?.isSome) (hexponent : n.exponent? = none) : IsDouble n := by
  intro negative
  have hbits := lt_of_length_le hn.whole.2 hlength
  rw [value?_of_length_le hn hlength (.inl hfraction), hexponent]
  refine exists_double_of_isSome ?_
  rw [scaledBy?, Option.isSome_map]
  exact isSome_scaled?_of_nonpos (takeDigits_bounds hbits).1 (by omega)

theorem isDouble_of_down {n : Numeral} (hn : n.Valid) (hlength : n.whole.length ≤ 19)
    {e : Exponent} (hexponent : n.exponent? = some e) (hdown : e.isDown = true) : IsDouble n := by
  intro negative
  have hbits := lt_of_length_le hn.whole.2 hlength
  rw [value?_of_length_le hn hlength (.inr (by rw [hexponent]; rfl)), hexponent]
  refine exists_double_of_isSome ?_
  rw [scaledBy?]
  simp only [hdown, Bool.not_true, Bool.and_false, Bool.false_eq_true, if_true, if_false]
  split_ifs
  · rw [Option.isSome_map]
    exact isSome_scaled?_of_nonpos (takeDigits_bounds hbits).1 (by omega)
  · rfl

/-- All digits of a numeral as one number. -/
def Numeral.written (n : Numeral) : Nat :=
  (n.fraction?.getD []).foldl shiftIn (n.whole.foldl shiftIn 0)

theorem isDouble_of_lt {n : Numeral} (hn : n.Valid) (hlength : n.whole.length ≤ 19)
    {e : Exponent} (hexponent : n.exponent? = some e) (hup : e.isDown = false)
    (hcount : e.digits.foldl shiftIn 0 ≤ exponentLimit)
    (hbelow : (n.written : ℚ) *
      10 ^ ((e.digits.foldl shiftIn 0 : Nat) - (n.fraction?.getD []).length : Int) * slack ^ 2 <
        greatest) : IsDouble n := by
  intro negative
  have hbits := lt_of_length_le hn.whole.2 hlength
  obtain ⟨htaken, hplaces, hle⟩ := @takeDigits_bounds _ hbits (n.fraction?.getD [])
  have hdigits := (hn.exponent e hexponent).digits.2
  rw [value?_of_length_le hn hlength (.inr (by rw [hexponent]; rfl)), hexponent]
  refine exists_double_of_isSome ?_
  rw [scaledBy?, takeExponent_of_le hdigits hcount]
  simp only [hup, List.isEmpty_nil, Bool.false_eq_true, if_true, if_false, Option.isSome_map]
  refine isSome_scaled? htaken (lt_of_le_of_lt ?_ hbelow)
  set significand := (takeDigits (n.whole.foldl shiftIn 0) (n.fraction?.getD [])).1
  set places := (takeDigits (n.whole.foldl shiftIn 0) (n.fraction?.getD [])).2.1
  set beyond := (takeDigits (n.whole.foldl shiftIn 0) (n.fraction?.getD [])).2.2
  set x := e.digits.foldl shiftIn 0
  have hsplit : (-(places : Int) + (x : Int)) =
      (beyond.length : Int) + (x - (n.fraction?.getD []).length) := by omega
  have hleft : (significand : ℚ) * 10 ^ beyond.length ≤ n.written := by exact_mod_cast hle
  rw [hsplit, zpow_add₀ (by norm_num), zpow_natCast, ← mul_assoc]
  gcongr

/-! ### The numeral of a decimal -/

theorem pow_length_le {n : Nat} (h : n ≠ 0) : 10 ^ ((digitsOf n).length - 1) ≤ n := by
  by_cases hone : (digitsOf n).length - 1 = 0
  · rw [hone]
    exact Nat.pos_of_ne_zero h
  · by_contra! hlt
    have hlength := (Nat.length_toDigits_le_iff (by decide) (Nat.pos_of_ne_zero hone)).2 hlt
    change (digitsOf n).length ≤ _ at hlength
    omega

theorem leadingExponent_lt {d : Decimal} (hdigits : d.digits ≠ 0)
    (hbelow : d.digits * 10 ^ d.exponent * slack ^ 2 < greatest) : leadingExponent d < 309 := by
  have hten : greatest ≤ 10 ^ (309 : Int) := by
    rw [Double.greatest_eq]
    exact_mod_cast (by decide +kernel : (2 ^ 53 - 1) * 2 ^ 971 ≤ 10 ^ 309)
  have hslack : (1 : ℚ) ≤ slack ^ 2 := one_le_pow₀ (by norm_num [slack])
  have hfirst : (10 : ℚ) ^ ((digitsOf d.digits).length - 1) ≤ d.digits := by
    exact_mod_cast pow_length_le hdigits
  have hpower : (10 : ℚ) ^ leadingExponent d < 10 ^ (309 : Int) := by
    calc (10 : ℚ) ^ leadingExponent d
        = 10 ^ ((digitsOf d.digits).length - 1) * 10 ^ d.exponent * 1 := by
          rw [leadingExponent, zpow_add₀ (by norm_num), zpow_natCast]
          ring
      _ ≤ d.digits * 10 ^ d.exponent * slack ^ 2 := by gcongr
      _ < greatest := hbelow
      _ ≤ 10 ^ (309 : Int) := hten
  exact (zpow_lt_zpow_iff_right₀ (by norm_num)).1 hpower

theorem isDouble_positionalNumeral (hdigits : ∀ c ∈ digits, c.isDigit = true) (hne : digits ≠ [])
    (hhead : digits.head? ≠ some '0') {exponent : Int} (hle : exponent ≤ 15) :
    IsDouble (positionalNumeral digits exponent) := by
  refine isDouble_of_fraction (valid_positionalNumeral hdigits hne hhead exponent) ?_ ?_ ?_
  · cases exponent with
    | ofNat e =>
      have hwhole : ((digits ++ zeros (e + 1 - digits.length)).take (e + 1)).length ≤ e + 1 :=
        List.length_take_le _ _
      rw [positionalNumeral, ascii, List.length_map]
      have : e ≤ 15 := Int.ofNat_le.1 hle
      omega
    | negSucc e => exact (by decide : 1 ≤ 19)
  · cases exponent <;> rfl
  · cases exponent <;> rfl

theorem written_scientificNumeral (hne : digits ≠ []) (exponent : Int) :
    (scientificNumeral digits exponent).written = (ascii digits).foldl shiftIn 0 ∧
      ((scientificNumeral digits exponent).fraction?.getD []).length = digits.length - 1 := by
  obtain ⟨first, rest, rfl⟩ := List.exists_cons_of_ne_nil hne
  cases rest with
  | nil => exact ⟨rfl, rfl⟩
  | cons second rest => exact ⟨rfl, by simp [scientificNumeral, ascii]⟩

/-- A decimal is read as a double, unless it comes close to the greatest of them. -/
theorem isDouble_numeralOf {d : Decimal}
    (hbelow : d.digits * 10 ^ d.exponent * slack ^ 2 < greatest) : IsDouble (numeralOf d) := by
  have hvalid := valid_numeralOf d
  rw [numeralOf] at hvalid ⊢
  split_ifs at hvalid ⊢ with hzero hrange
  · exact isDouble_of_fraction hvalid (by decide) rfl rfl
  · obtain ⟨k, hshort⟩ := exists_shortened hzero
    exact isDouble_positionalNumeral hshort.isDigit hshort.ne_nil hshort.head?_ne hrange.2
  · obtain ⟨k, hshort⟩ := exists_shortened hzero
    have hwhole : (scientificNumeral (dropZeros (digitsOf d.digits))
        (leadingExponent d)).whole.length ≤ 19 := by
      rw [scientificNumeral, ascii, List.length_map]
      exact (List.length_take_le _ _).trans (by decide)
    by_cases hdown : leadingExponent d < 0
    · refine isDouble_of_down hvalid hwhole rfl ?_
      rw [Exponent.isDown, if_pos hdown]
      rfl
    · obtain ⟨hnumber, hplaces⟩ := written_scientificNumeral hshort.ne_nil (leadingExponent d)
      have hlt := leadingExponent_lt hzero hbelow
      refine isDouble_of_lt hvalid hwhole rfl ?_ ?_ ?_
      · rw [Exponent.isDown, if_neg hdown]
        rfl
      · rw [foldl_shiftIn_digitsOf, exponentLimit]
        omega
      · rw [foldl_shiftIn_digitsOf, hnumber, hplaces]
        have hlength : (digitsOf d.digits).length = (dropZeros (digitsOf d.digits)).length + k := by
          conv_lhs => rw [hshort.eq_append]
          rw [List.length_append, List.length_replicate]
        have hpos := List.length_pos_of_ne_nil hshort.ne_nil
        have hexponent : ((leadingExponent d).natAbs -
            ((dropZeros (digitsOf d.digits)).length - 1 : Nat) : Int) = k + d.exponent := by
          rw [leadingExponent] at hdown ⊢
          omega
        have hvalue : ((ascii (dropZeros (digitsOf d.digits))).foldl shiftIn 0 : Nat) *
            (10 : ℚ) ^ k = d.digits := by
          exact_mod_cast hshort.value
        rw [hexponent, zpow_add₀ (by norm_num), zpow_natCast, ← mul_assoc, hvalue]
        exact hbelow

end Json
end ResponseTypes
