import ResponseTypes.Proofs.JsonGrammar
import ResponseTypes.Proofs.Utf8Bytes
import ResponseTypes.Proofs.WrittenNumbers

/-!
# Written doubles

A finite double is written as its shortest decimal, which lies above it by half of its last bit at
most.  Reading may add the slack of two roundings to that, and still the result is finite for all
doubles but the greatest five; these are read one by one.  So a finite double is read back as a
double, though not always as the same.

Integers of 64 bits are written with all their digits, and read back as they are.

## Main definitions

- `Json.naturalNumeral`: the numeral that a natural is written as.

## Main statements

- `Binary.shortest_le`, `Binary.shortest_lt`: how far the shortest decimal is above its double.
- `Json.exists_textWith_write`: a finite double is written as a double.
- `Json.textWith_integer`: an integer is written as itself.
-/

namespace ResponseTypes

open Double (value slack greatest)

/-! ## Doubles as binary numbers -/

namespace Binary

/-- A power with a natural above the fraction bar and one below it. -/
theorem zpow_eq_div (a : ℚ) (n : Int) : a ^ n = a ^ n.toNat / a ^ (-n).toNat := by
  obtain ⟨k, rfl | rfl⟩ := n.eq_nat_or_neg
  · simp
  · simp

theorem le_of_contains {b : Binary} {n d : Nat} (h : b.interval.contains n d = true) :
    n * 2 ^ (2 - b.exponent).toNat ≤ (4 * b.significand + 2) * 2 ^ (b.exponent - 2).toNat * d := by
  rw [Interval.contains] at h
  split_ifs at h
  · exact (of_decide_eq_true (Bool.and_eq_true_iff.1 h).2)
  · exact (of_decide_eq_true (Bool.and_eq_true_iff.1 h).2).le

theorem contains_of_onGrid? {i : Interval} {exponent : Int} {d : Decimal}
    (h : i.onGrid? exponent = some d) : d.exponent = exponent ∧
      i.contains (d.digits * 10 ^ exponent.toNat) (10 ^ (-exponent).toNat) = true := by
  rw [Interval.onGrid?] at h
  split at h
  · rename_i hbelow habove
    split_ifs at h
    · obtain rfl := Option.some.inj h
      exact ⟨rfl, (Bool.and_eq_true_iff.1 hbelow).1⟩
    · obtain rfl := Option.some.inj h
      exact ⟨rfl, habove⟩
  · rename_i hbelow habove
    obtain rfl := Option.some.inj h
    exact ⟨rfl, (Bool.and_eq_true_iff.1 hbelow).1⟩
  · rename_i hbelow habove
    obtain rfl := Option.some.inj h
    exact ⟨rfl, habove⟩
  · cases h

theorem fromGrid_le (b : Binary) (n : Nat) :
    ((b.interval.fromGrid n).digits : ℚ) * 10 ^ (b.interval.fromGrid n).exponent ≤
      value (4 * b.significand + 2) (b.exponent - 2) := by
  induction n with
  | zero =>
    rw [Interval.fromGrid, Nat.cast_zero, zero_mul, value]
    positivity
  | succ n ih =>
    rw [Interval.fromGrid]
    split
    · rename_i d hd
      obtain ⟨hexponent, hcontains⟩ := contains_of_onGrid? hd
      have hle : (d.digits : ℚ) * 10 ^ d.exponent.toNat * 2 ^ (-(b.exponent - 2)).toNat ≤
          (4 * b.significand + 2 : Nat) * 2 ^ (b.exponent - 2).toNat *
            10 ^ (-d.exponent).toNat := by
        rw [Int.neg_sub, hexponent]
        exact_mod_cast le_of_contains hcontains
      rw [value, zpow_eq_div 10, zpow_eq_div 2, ← mul_div_assoc,
        ← mul_div_assoc, div_le_div_iff₀ (by positivity) (by positivity)]
      exact hle
    · exact ih

/-- The shortest decimal of a double is above it by half of its last bit at most. -/
theorem shortest_le (b : Binary) : (b.shortest.digits : ℚ) * 10 ^ b.shortest.exponent ≤
    value (4 * b.significand + 2) (b.exponent - 2) :=
  fromGrid_le b 660

/-- The shortest decimal of any other double than the greatest five stays below the greatest, even
after the slack of two roundings. -/
theorem shortest_lt {b : Binary} (hbits : b.significand < 2 ^ 53) (hexponent : b.exponent ≤ 971)
    (hlow : b.exponent = 971 → b.significand < 2 ^ 53 - 5) :
    b.shortest.digits * 10 ^ b.shortest.exponent * slack ^ 2 < greatest := by
  have hvalue : value (4 * b.significand + 2) (b.exponent - 2) ≤ value (2 ^ 55 - 22) 969 := by
    by_cases htop : b.exponent = 971
    · have hsignificand := hlow htop
      rw [htop]
      exact Double.value_mono (by omega) 969
    · have hpower : (2 : ℚ) ^ (b.exponent - 2) ≤ 2 ^ (968 : Int) :=
        zpow_le_zpow_right₀ (by norm_num) (by omega)
      calc value (4 * b.significand + 2) (b.exponent - 2)
          ≤ value (2 ^ 1 * 2 ^ 54) (b.exponent - 2) := Double.value_mono (by omega) _
        _ ≤ value (2 ^ 1 * 2 ^ 54) 968 := mul_le_mul_of_nonneg_left hpower (by positivity)
        _ = value (2 ^ 54) 969 := Double.value_two_pow_mul _ _ _
        _ ≤ value (2 ^ 55 - 22) 969 := Double.value_mono (by decide) 969
  have hbelow : value (2 ^ 55 - 22) 969 * slack ^ 2 < greatest := by
    have hgreatest : greatest = value (2 ^ 2 * (2 ^ 53 - 1)) 969 := by
      rw [Double.value_two_pow_mul]
      rfl
    rw [hgreatest, value, value, mul_right_comm]
    exact mul_lt_mul_of_pos_right (by norm_num [slack]) (by positivity)
  refine lt_of_le_of_lt ?_ hbelow
  gcongr
  exact (shortest_le b).trans hvalue

/-- A finite double has 53 bits and an exponent up to 971, and its neighbours are equally far away
unless it is a power of two. -/
theorem bounds_ofFloat {x : Float} (h : x.isFinite = true) :
    (ofFloat x).significand < 2 ^ 53 ∧ (ofFloat x).exponent ≤ 971 ∧
      ((ofFloat x).narrowBelow = true → (ofFloat x).significand = 2 ^ 52) := by
  have hne := Double.field_ne h
  have hfraction : x.toBits.toNat % 0x10000000000000 < 0x10000000000000 :=
    Nat.mod_lt _ (by decide)
  rw [ofFloat]
  split_ifs with hfield
  · exact ⟨hfraction.trans (by decide), (by decide : (-1074 : Int) ≤ 971), nofun⟩
  · dsimp only
    refine ⟨by omega, by omega, fun hnarrow => ?_⟩
    simp only [Bool.and_eq_true, beq_iff_eq] at hnarrow
    omega

end Binary

namespace Json

/-! ## Shortest decimals that are read -/

/-- Whether a numeral is read as a double. -/
def readsBack (n : Numeral) (negative : Bool) : Bool :=
  match n.value? negative with
  | some (.double _) => true
  | _ => false

/-- The greatest five doubles. -/
theorem readsBack_top : ∀ k < 5, ∀ negative,
    readsBack (numeralOf (Binary.shortest ⟨2 ^ 53 - 1 - k, 971, false⟩)) negative = true := by
  decide +kernel

theorem isDouble_of_readsBack {n : Numeral} (h : ∀ negative, readsBack n negative = true) :
    IsDouble n := by
  intro negative
  have hn := h negative
  rw [readsBack] at hn
  split at hn
  · exact ⟨_, ‹_›⟩
  · cases hn

/-- The shortest decimal of a finite double is read as a double. -/
theorem isDouble_shortest {b : Binary} (hbits : b.significand < 2 ^ 53)
    (hexponent : b.exponent ≤ 971) (hnarrow : b.narrowBelow = true → b.significand = 2 ^ 52) :
    IsDouble (numeralOf b.shortest) := by
  by_cases htop : b.exponent = 971 ∧ 2 ^ 53 - 5 ≤ b.significand
  · obtain ⟨hexponent, hlow⟩ := htop
    have hwide : b.narrowBelow = false := by
      by_contra hnot
      have := hnarrow (by simpa using hnot)
      omega
    have hb : b = ⟨2 ^ 53 - 1 - (2 ^ 53 - 1 - b.significand), 971, false⟩ := by
      cases b
      simp only at *
      subst hexponent hwide
      congr
      omega
    rw [hb]
    exact isDouble_of_readsBack (readsBack_top _ (by omega))
  · exact isDouble_numeralOf (Binary.shortest_lt hbits hexponent (by omega))

open Decimal (digitsOf)

/-! ## Doubles as they are written -/

/-- A finite double is written as a double. -/
theorem exists_textWith_write {x : Float} (h : x.isFinite = true) :
    ∃ y, ∀ inner, TextWith inner (.double y) (ascii (doubleStyle.write x)) := by
  set d : Decimal := if (Binary.ofFloat x).significand = 0 then ⟨0, 0⟩
    else (Binary.ofFloat x).shortest with hd
  have hdouble : IsDouble (numeralOf d) := by
    rw [hd]
    split_ifs
    · refine isDouble_numeralOf ?_
      simpa [slack] using Double.natCast_lt_greatest (n := 0) (by decide +kernel)
    · obtain ⟨hbits, hexponent, hnarrow⟩ := Binary.bounds_ofFloat h
      exact isDouble_shortest hbits hexponent hnarrow
  have hwrite : doubleStyle.write x =
      (if Decimal.Style.isNegative x then ['-'] else []) ++ doubleStyle.writeDecimal d := rfl
  rw [hwrite, ascii_append, ← text_numeralOf]
  split_ifs
  · obtain ⟨y, hy⟩ := hdouble true
    exact ⟨y, fun _ => .negative (valid_numeralOf d) hy⟩
  · obtain ⟨y, hy⟩ := hdouble false
    exact ⟨y, fun _ => .positive (valid_numeralOf d) hy⟩

/-! ### Characters -/

theorem zeros_ascii (n : Nat) : ∀ c ∈ Decimal.zeros n, c.toNat < 128 := by
  intro c hc
  rw [List.eq_of_mem_replicate hc]
  decide

theorem positional_ascii {digits : List Char} (h : ∀ c ∈ digits, c.toNat < 128) (exponent : Int) :
    ∀ c ∈ Decimal.positional digits exponent, c.toNat < 128 := by
  cases exponent with
  | ofNat e =>
    rw [Decimal.positional]
    simp only [List.forall_mem_append, List.forall_mem_cons]
    refine ⟨fun c hc => ?_, by decide, ?_⟩
    · rcases List.mem_append.1 (List.mem_of_mem_take hc) with hc | hc
      · exact h c hc
      · exact zeros_ascii _ c hc
    · split_ifs
      · exact forall_lt_of_all (by decide)
      · exact fun c hc => h c (List.mem_of_mem_drop hc)
  | negSucc e =>
    rw [Decimal.positional]
    simp only [List.forall_mem_append, List.forall_mem_cons]
    exact ⟨⟨by decide, by decide, zeros_ascii e⟩, h⟩

theorem scientific_ascii {digits : List Char} (h : ∀ c ∈ digits, c.toNat < 128) (exponent : Int) :
    ∀ c ∈ doubleStyle.scientific digits exponent, c.toNat < 128 := by
  have hexponent : ∀ c ∈ doubleStyle.writeExponent exponent, c.toNat < 128 := by
    rw [Decimal.Style.writeExponent]
    simp only [List.cons_append, List.forall_mem_append, List.forall_mem_cons]
    refine ⟨by decide, ?_, fun c hc => lt_of_isDigit (isDigit_of_mem_digitsOf c hc)⟩
    split_ifs <;> exact forall_lt_of_all (by decide)
  rw [Decimal.Style.scientific.eq_def, List.forall_mem_append]
  refine ⟨?_, hexponent⟩
  obtain _ | ⟨first, _ | ⟨second, rest⟩⟩ := digits
  · exact forall_lt_of_all (by decide)
  · exact h
  · obtain ⟨hfirst, hrest⟩ := List.forall_mem_cons.1 h
    exact List.forall_mem_cons.2 ⟨hfirst, List.forall_mem_cons.2 ⟨by decide, hrest⟩⟩

theorem writeDecimal_ascii (d : Decimal) :
    ∀ c ∈ doubleStyle.writeDecimal d, c.toNat < 128 := by
  have hdigits : ∀ c ∈ Decimal.dropZeros (Decimal.digitsOf d.digits), c.toNat < 128 := by
    intro c hc
    have hmem : c ∈ digitsOf d.digits :=
      List.mem_reverse.1 ((List.dropWhile_sublist _).subset (List.mem_reverse.1 hc))
    exact lt_of_isDigit (isDigit_of_mem_digitsOf c hmem)
  rw [Decimal.Style.writeDecimal]
  split_ifs
  · exact forall_lt_of_all (by decide)
  · exact positional_ascii hdigits _
  · exact scientific_ascii hdigits _

/-- The bytes of a written double. -/
theorem toList_toUTF8_write (x : Float) :
    (String.ofList (doubleStyle.write x)).toUTF8.toList = ascii (doubleStyle.write x) := by
  refine toList_toUTF8_ascii ?_
  rw [Decimal.Style.write, List.forall_mem_append]
  refine ⟨?_, writeDecimal_ascii _⟩
  split_ifs <;> exact forall_lt_of_all (by decide)

/-! ## Integers as they are written -/

/-- The numeral of a natural. -/
def naturalNumeral (n : Nat) : Numeral where
  whole := ascii (digitsOf n)
  fraction? := none
  exponent? := none

theorem valid_naturalNumeral (n : Nat) : (naturalNumeral n).Valid := by
  refine ⟨digits_digitsOf n, fun hzero => ?_, nofun, nofun⟩
  by_cases hn : n = 0
  · subst hn
    rfl
  · exact absurd hzero (head?_ascii isDigit_of_mem_digitsOf (head?_digitsOf hn))

theorem value?_naturalNumeral {n : Nat} (hlt : n < 2 ^ 64) (negative : Bool) :
    (naturalNumeral n).value? negative = some (integerOrDouble negative n) := by
  have hvalue := foldl_shiftIn_digitsOf n
  have htake := takeDigits_of_lt (isDigit_of_mem_ascii isDigit_of_mem_digitsOf)
    (hvalue.symm ▸ hlt)
  rw [Numeral.value?, naturalNumeral, htake, hvalue]
  rfl

theorem toList_toUTF8_repr (n : Nat) : n.repr.toUTF8.toList = ascii (digitsOf n) :=
  toList_toUTF8_ascii fun c hc => lt_of_isDigit (isDigit_of_mem_digitsOf c hc)

/-- An integer of 64 bits, with sign or without, is written as itself. -/
theorem textWith_integer {n : Int} (hlow : -(2 ^ 63) ≤ n) (hhigh : n < 2 ^ 64)
    (inner : Option (Json → Bytes → Prop)) :
    TextWith inner (.integer n) (toString n).toUTF8.toList := by
  cases n with
  | ofNat n =>
    have htext : (toString (Int.ofNat n)).toUTF8.toList = (naturalNumeral n).text := by
      rw [Numeral.text]
      simp only [naturalNumeral, Option.elim, List.append_nil]
      exact toList_toUTF8_repr n
    have hvalue := value?_naturalNumeral (n := n) (by simpa using hhigh) false
    rw [htext]
    exact .positive (valid_naturalNumeral n) hvalue
  | negSucc n =>
    have htext : (toString (Int.negSucc n)).toUTF8.toList =
        45 :: (naturalNumeral (n + 1)).text := by
      rw [Numeral.text]
      simp only [naturalNumeral, Option.elim, List.append_nil]
      have happend : toString (Int.negSucc n) = "-" ++ (n + 1).repr := rfl
      rw [happend, toList_toUTF8_append, toList_toUTF8_repr, toList_toUTF8_literal (by decide)]
      rfl
    have hle : n + 1 ≤ 2 ^ 63 := by omega
    have hvalue := value?_naturalNumeral (n := n + 1) (by omega) true
    have hinteger : integerOrDouble true (n + 1) = .integer (Int.negSucc n) := by
      rw [integerOrDouble]
      simp only [Bool.not_true, Bool.false_eq_true, if_false]
      rw [if_neg (by simp; omega)]
      rfl
    rw [htext]
    exact .negative (valid_naturalNumeral (n + 1)) (hinteger ▸ hvalue)

end Json
end ResponseTypes
