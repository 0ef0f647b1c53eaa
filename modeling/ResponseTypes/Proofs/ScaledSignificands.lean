import ResponseTypes.Json.Number
import ResponseTypes.Proofs.DoubleRange

/-!
# Scaled significands

A number of a JSON document is read as a significand of 64 bits and a power of ten, and the double
that it stands for is a product or a quotient of two doubles.  Both of them have 53 bits and are
above the exact numbers by the slack of a rounding at most, so the product is finite unless the
exact one comes close to the greatest double.  Quotients are always finite, since a significand has
a small exponent and no power of ten a negative one to speak of.

## Main statements

- `Json.exists_isValue_ofSignificand`, `Json.exists_isValue_powerOfTen`: the two doubles.
- `Json.isFinite_of_scaled?`: a scaled significand is finite if there is one.
- `Json.isSome_scaled?`: there is one unless it comes close to the greatest double.
-/

namespace ResponseTypes
namespace Json

open Double Float.Model Float.Model.UnpackedFloat

/-! ## The doubles of significands and of powers of ten -/

/-- A significand other than zero is a double of 53 bits that is above it by the slack at most. -/
theorem exists_isValue_ofSignificand {significand : Nat} (hpos : 0 < significand)
    (hlt : significand < 2 ^ 64) :
    ∃ m e, IsValue (unpacked (ofSignificand significand)) m e ∧ 2 ^ 52 ≤ m ∧ m < 2 ^ 53 ∧
      -52 ≤ e ∧ e ≤ 12 ∧ Double.value m e ≤ significand * slack := by
  have hne : significand ≠ 0 := Nat.ne_of_gt hpos
  have hlog : significand.log2 < 64 := (Nat.log2_lt hne).2 hlt
  set k := 52 - significand.log2 with hk
  have hunpacked : unpacked (ofSignificand significand) =
      repacked (roundWithAccuracy Format.binary64 .positive (significand * 2 ^ k) (-(k : Int))
        .exact) := by
    have hnat : (UInt64.ofNat significand).toNat = significand := by
      rw [UInt64.toNat_ofNat', Nat.mod_eq_of_lt hlt]
    change repacked (UnpackedFloat.normalize Format.binary64
      ((UInt64.ofNat significand).toNat : Int) 0 .positive) = _
    have hcompare : compare (significand : Int) 0 = .gt := by
      rw [Int.compare_eq_gt]
      exact Int.natCast_pos.2 hpos
    rw [hnat, UnpackedFloat.normalize, hcompare]
    simp only [UnpackedFloat.round, Int.toNat_natCast, targetExponent_eq, decreaseExponent]
    have hshift : (0 - grid significand 0).toNat = k := by
      rw [grid]
      omega
    rw [hshift, Nat.shiftLeft_eq, Int.zero_sub]
  have hvalue : Double.value (significand * 2 ^ k) (-(k : Int)) = significand := by
    rw [Nat.mul_comm, value_two_pow_mul, Int.add_left_neg, Double.value, zpow_zero, mul_one]
  have hfull : 2 ^ 52 ≤ significand * 2 ^ k := by
    calc 2 ^ 52 ≤ 2 ^ (significand.log2 + k) := Nat.pow_le_pow_right (by decide) (by omega)
      _ = 2 ^ significand.log2 * 2 ^ k := pow_add _ _ _
      _ ≤ significand * 2 ^ k := Nat.mul_le_mul_right _ (Nat.log2_self_le hne)
  have hbits : (significand * 2 ^ k).log2 = significand.log2 + k := log2_mul_two_pow hne k
  have hbelow : Double.value (significand * 2 ^ k) (-(k : Int)) < greatest := by
    rw [hvalue]
    exact natCast_lt_greatest (hlt.trans (by decide +kernel))
  obtain ⟨m, e, hm, hlow, hhigh, helow, hehigh, -, hle⟩ :=
    round_of_lt .positive .exact hfull (by omega) hbelow
  rw [hbits] at helow hehigh
  rw [hvalue] at hle
  exact ⟨m, e, hunpacked ▸ hm, hlow, hhigh, by omega, by omega, hle⟩

theorem unpacked_ofSignificand_zero : ∃ s, unpacked (ofSignificand 0) = .zero s :=
  repacked_zero .positive

theorem within_ofSignificand {significand : Nat} (h : significand < 2 ^ 64) :
    Within 12 (unpacked (ofSignificand significand)) := by
  rcases Nat.eq_zero_or_pos significand with rfl | hpos
  · obtain ⟨s, heq⟩ := unpacked_ofSignificand_zero
    exact heq ▸ .zero s
  · obtain ⟨m, e, ⟨s, hm, heq⟩, hlow, hhigh, helow, hehigh, -⟩ :=
      exists_isValue_ofSignificand hpos h
    exact heq ▸ .finite s hm hhigh (by omega) hehigh

/-- Whether a double holds a natural number exactly, with 53 bits. -/
def isExactly (x : Float) (n : Nat) : Bool :=
  match unpacked x with
  | .finite _ m e _ =>
    decide (2 ^ 52 ≤ m ∧ e = (n.log2 : Int) - 52 ∧ m * 2 ^ n.log2 = n * 2 ^ 52)
  | _ => false

theorem isExactly_powerOfTen : ∀ n < 23, isExactly (powerOfTen n) (10 ^ n) = true := by
  decide +kernel

theorem exists_isValue_of_isExactly {x : Float} {n : Nat} (h : isExactly x n = true) :
    ∃ m e, IsValue (unpacked x) m e ∧ 2 ^ 52 ≤ m ∧ (n.log2 : Int) - 52 ≤ e ∧
      Double.value m e = n := by
  rw [isExactly] at h
  split at h
  · rename_i s m e hm hunpacked
    obtain ⟨hlow, rfl, hexact⟩ := of_decide_eq_true h
    refine ⟨m, _, ⟨s, hm, hunpacked⟩, hlow, Int.le_refl _, ?_⟩
    have hrat : (m : ℚ) * 2 ^ n.log2 = n * 2 ^ 52 := by exact_mod_cast hexact
    rw [Double.value, zpow_sub₀ (by norm_num), zpow_natCast, ← mul_div_assoc, hrat]
    norm_num
  · cases h

/-- A power of ten that is a double has 53 bits and is above the exact one by the slack at most. -/
theorem exists_isValue_powerOfTen {n : Nat} (hn : n ≤ 308) :
    ∃ m e, IsValue (unpacked (powerOfTen n)) m e ∧ 2 ^ 52 ≤ m ∧
      ((10 ^ n).log2 : Int) - 52 ≤ e ∧ Double.value m e ≤ 10 ^ n * slack := by
  by_cases hsmall : n ≤ 22
  · obtain ⟨m, e, hm, hlow, helow, hvalue⟩ :=
      exists_isValue_of_isExactly (isExactly_powerOfTen n (Nat.lt_succ_of_le hsmall))
    refine ⟨m, e, hm, hlow, helow, ?_⟩
    rw [hvalue, slack]
    push_cast
    linarith [show (0 : ℚ) < 10 ^ n by positivity]
  · have hunpacked : unpacked (powerOfTen n) =
        repacked (roundWithAccuracy Format.binary64 .positive (2 ^ 53 * 10 ^ n) (-53) .exact) := by
      have hbits : Format.binary64.mantissaBits = 53 := by decide
      have hlarge : ¬ (1 < 2 ^ 53 ∧ n ≤ 22) := fun h => hsmall h.2
      have hover : ¬ (n : Int) > 2 ^ 11 := by omega
      have hunder : ¬ (n : Int) < -(2 ^ 11 + (Nat.log2 1 : Int)) := by omega
      rw [powerOfTen, Float.ofScientific, dif_neg hlarge]
      change repacked (UnpackedFloat.ofScientific Format.binary64 1 n) = _
      rw [UnpackedFloat.ofScientific, dif_neg one_ne_zero, if_neg hover, if_neg hunder,
        if_pos (Int.natCast_nonneg n)]
      simp only [UnpackedFloat.mul, Int.toNat_natCast, hbits]
      rfl
    have hvalue : Double.value (2 ^ 53 * 10 ^ n) (-53) = 10 ^ n := by
      rw [value_two_pow_mul]
      simp [Double.value]
    have hbits : (2 ^ 53 * 10 ^ n).log2 = (10 ^ n).log2 + 53 := by
      rw [Nat.mul_comm, log2_mul_two_pow (by positivity)]
    have hbelow : Double.value (2 ^ 53 * 10 ^ n) (-53) < greatest := by
      have hpow : 10 ^ n < (2 ^ 53 - 1) * 2 ^ 971 :=
        (Nat.pow_le_pow_right (by decide) hn).trans_lt (by decide +kernel)
      rw [hvalue]
      exact_mod_cast natCast_lt_greatest hpow
    obtain ⟨m, e, hm, hlow, -, helow, -, -, hle⟩ := round_of_lt .positive .exact
      ((by decide : 2 ^ 52 ≤ 2 ^ 53).trans (Nat.le_mul_of_pos_right _ (by positivity)))
      (by decide) hbelow
    rw [hbits] at helow
    push_cast at helow
    exact ⟨m, e, hunpacked ▸ hm, hlow, by omega, hvalue ▸ hle⟩

/-! ## Scaling -/

/-- A double within the bound that significands keep stays finite when it is scaled down. -/
theorem isFinite_scaleDown {x : Float} (n : Nat) (hx : Within 900 (unpacked x)) :
    (scaleDown x n).isFinite = true := by
  induction x, n using scaleDown.induct with
  | case1 x n hn =>
    obtain ⟨m, e, hm, -, helow, -⟩ := exists_isValue_powerOfTen hn
    rw [scaleDown, if_pos hn]
    have hdiv : Within 971 _ := (within_div hx hm).mono (by omega)
    change (unpacked (x / powerOfTen n)).isFinite = true
    rw [unpacked_div]
    exact (hdiv.repacked (by decide) (by decide)).isFinite
  | case2 x n hn hzero =>
    rw [scaleDown, if_neg hn, if_pos hzero]
    exact hx.isFinite
  | case3 x n hn hzero ih =>
    obtain ⟨m, e, hm, -, helow, -⟩ := exists_isValue_powerOfTen (Nat.le_refl 308)
    rw [scaleDown, if_neg hn, if_neg hzero]
    have hten : (10 ^ 308).log2 = 1023 := by decide +kernel
    rw [hten] at helow
    have hdiv : Within 900 _ := (within_div hx hm).mono (by omega)
    refine ih ?_
    rw [unpacked_div]
    exact hdiv.repacked (by decide) (by decide)

/-- What a significand is scaled to is finite. -/
theorem isFinite_of_scaled? {significand : Nat} {exponent : Int} {x : Float}
    (hlt : significand < 2 ^ 64) (h : scaled? significand exponent = some x) :
    x.isFinite = true := by
  have hwithin := within_ofSignificand hlt
  cases exponent with
  | negSucc e =>
    obtain rfl := Option.some.inj h
    exact isFinite_scaleDown _ (hwithin.mono (by decide))
  | ofNat e =>
    rw [scaled?.eq_def] at h
    simp only at h
    split_ifs at h with he hinf hzero
    · obtain rfl := Option.some.inj h
      obtain ⟨m, f, ⟨s, hm, heq⟩, -⟩ := exists_isValue_powerOfTen he
      have hpower : (powerOfTen e).isFinite = true := congrArg UnpackedFloat.isFinite heq
      exact isFinite_of_not (isNaN_mul hwithin.isFinite hpower) (by simpa using hinf)
    · obtain rfl := Option.some.inj h
      exact hwithin.isFinite

theorem isSome_scaled?_zero (exponent : Int) : (scaled? 0 exponent).isSome = true := by
  cases exponent with
  | negSucc e => rfl
  | ofNat e =>
    rw [scaled?.eq_def]
    simp only
    split_ifs with he hinf
    · obtain ⟨m, f, ⟨s, hm, heq⟩, -⟩ := exists_isValue_powerOfTen he
      obtain ⟨t, hzero⟩ := unpacked_ofSignificand_zero
      obtain ⟨u, hproduct⟩ := repacked_zero (t * s)
      have hunpacked : unpacked (ofSignificand 0 * powerOfTen e) = .zero u := by
        rw [unpacked_mul, hzero, heq]
        exact hproduct
      rw [Float.isInf] at hinf
      exact absurd hinf (by rw [Float.Model.isInf, ← unpacked, hunpacked]; exact Bool.false_ne_true)
    · rfl
    · rfl

/-- A significand can be scaled unless the result comes close to the greatest double. -/
theorem isSome_scaled? {significand : Nat} {exponent : Int} (hlt : significand < 2 ^ 64)
    (hbelow : significand * 10 ^ exponent * slack ^ 2 < greatest) :
    (scaled? significand exponent).isSome = true := by
  rcases Nat.eq_zero_or_pos significand with rfl | hpos
  · exact isSome_scaled?_zero exponent
  cases exponent with
  | negSucc e => rfl
  | ofNat e =>
    rw [Int.ofNat_eq_natCast, zpow_natCast] at hbelow
    have he : e ≤ 308 := by
      by_contra! hlarge
      have hten : greatest ≤ 10 ^ 309 := by
        rw [greatest_eq]
        exact_mod_cast (by decide +kernel : (2 ^ 53 - 1) * 2 ^ 971 ≤ 10 ^ 309)
      have hpower : (10 : ℚ) ^ 309 ≤ 10 ^ e := pow_le_pow_right₀ (by norm_num) hlarge
      have hone : (1 : ℚ) ≤ significand := by exact_mod_cast hpos
      have hslack : (1 : ℚ) ≤ slack ^ 2 := one_le_pow₀ (by norm_num [slack])
      have hgrown : (10 : ℚ) ^ e ≤ significand * 10 ^ e * slack ^ 2 := by
        calc (10 : ℚ) ^ e = 1 * 10 ^ e * 1 := by ring
          _ ≤ significand * 10 ^ e * slack ^ 2 := by gcongr
      exact absurd hbelow (not_lt.2 (hten.trans (hpower.trans hgrown)))
    obtain ⟨m, f, hm, hlow, -, helow, -, hle⟩ := exists_isValue_ofSignificand hpos hlt
    obtain ⟨n, k, hn, -, hklow, hle'⟩ := exists_isValue_powerOfTen he
    have hproduct : Double.value m f * Double.value n k < greatest := by
      calc Double.value m f * Double.value n k ≤ (significand * slack) * (10 ^ e * slack) :=
            mul_le_mul hle hle' (by rw [Double.value]; positivity) (by rw [slack]; positivity)
        _ = significand * 10 ^ e * slack ^ 2 := by ring
        _ < greatest := hbelow
    rw [scaled?.eq_def]
    simp only
    rw [if_pos he, isInf_mul hm hn hlow (by omega) hproduct]
    rfl

end Json
end ResponseTypes
