import Mathlib

/-!
# The range of double arithmetic

Each operation of doubles rounds the exact result to a mantissa of 53 bits.  What is told of it here
is how large a result can become.  Rounding first drops the bits of a mantissa that are too many and
then adds one at most, so a result is above the exact number by one part in `2 ^ 52` at most, and it
leaves the range of doubles only if the exact number is not below the greatest of them.

A quotient stays in range for another reason: its exponent is that of the dividend less that of the
divisor, up to one.

## Main definitions

- `Double.grid`, `Double.excess`: the exponent that a mantissa is rounded at, and the number of bits
  that it loses.
- `Double.IsValue`: an unpacked number by its mantissa and its exponent, up to its sign.
- `Double.Within`: zero, or a number of 53 bits with a bounded exponent.

## Main statements

- `Double.round_cases`, `Double.round_of_lt`: what rounding gives.
- `Double.isInf_mul`, `Double.within_div`: products and quotients in range.
-/

namespace ResponseTypes
namespace Double

open Float.Model Float.Model.UnpackedFloat

/-! ## Rounding -/

theorem mantissa_shiftRight (shifted : ExtendedMantissa) (n : Nat) :
    (shifted >>> n).mantissa = shifted.mantissa / 2 ^ n := by
  induction n with
  | zero => simp [HShiftRight.hShiftRight, Nat.repeat]
  | succ n ih =>
    change (shifted >>> n).mantissa / 2 = _
    rw [ih, Nat.div_div_eq_div_mul, pow_succ]

/-- Rounding adds one at most. -/
theorem roundedMantissa_bounds (shifted : ExtendedMantissa) :
    shifted.mantissa ≤ shifted.roundedMantissa ∧
      shifted.roundedMantissa ≤ shifted.mantissa + 1 := by
  have hmod : shifted.mantissa % 2 ≤ 1 := Nat.le_of_lt_succ (Nat.mod_lt _ (by decide))
  rw [ExtendedMantissa.roundedMantissa]
  cases shifted.accuracy with
  | exact => exact ⟨Nat.le_refl _, Nat.le_succ _⟩
  | inexact half =>
    cases half with
    | lt => exact ⟨Nat.le_refl _, Nat.le_succ _⟩
    | eq => exact ⟨Nat.le_add_right _ _, Nat.add_le_add_left hmod _⟩
    | gt => exact ⟨Nat.le_succ _, Nat.le_refl _⟩

@[simp]
theorem mantissa_ofMantissaAndAccuracy (m : Nat) (accuracy : Accuracy) :
    (ExtendedMantissa.ofMantissaAndAccuracy m accuracy).mantissa = m := by
  cases accuracy with
  | exact => rfl
  | inexact half => cases half <;> rfl

/-- The exponent at which `m · 2 ^ e` is rounded: the one that leaves 53 bits of the mantissa, but
not below that of the least double. -/
def grid (m : Nat) (e : Int) : Int :=
  max (m.log2 + e - 52) (-1074)

/-- The number of bits that a mantissa loses when it is rounded. -/
def excess (m : Nat) (e : Int) : Nat :=
  (grid m e - e).toNat

theorem targetExponent_eq (m : Nat) (e : Int) :
    Format.binary64.targetExponent (totalExponent m e) = grid m e := by
  have hmin : Format.binary64.minExponent = -1074 := by decide
  have hbits : Format.binary64.mantissaBits = 53 := by decide
  rw [Format.targetExponent, hmin, hbits, grid, totalExponent]
  congr 1
  push_cast
  ring

theorem shiftToTargetExponent_eq (m : Nat) (e : Int) (accuracy : Accuracy) :
    (shiftToTargetExponent Format.binary64 m e accuracy).1.mantissa = m / 2 ^ excess m e ∧
      (shiftToTargetExponent Format.binary64 m e accuracy).2 = e + excess m e := by
  rw [shiftToTargetExponent, shiftToExponent]
  simp only [targetExponent_eq]
  exact ⟨by rw [mantissa_shiftRight, mantissa_ofMantissaAndAccuracy]; rfl, rfl⟩

theorem shifted_lt (m : Nat) (e : Int) : m / 2 ^ excess m e < 2 ^ 53 := by
  have hbits : m.log2 + 1 ≤ 53 + excess m e := by rw [excess, grid]; omega
  rw [Nat.div_lt_iff_lt_mul (by positivity), ← pow_add]
  exact Nat.lt_of_lt_of_le Nat.lt_log2_self (Nat.pow_le_pow_right (by decide) hbits)

theorem add_excess (m : Nat) (e : Int) : e + excess m e = max e (grid m e) := by
  rw [excess]
  omega

theorem le_add_excess (m : Nat) (e : Int) : -1074 ≤ e + excess m e := by
  rw [add_excess]
  exact (le_max_right _ _).trans (le_max_right _ _)

theorem excess_of_lt {m : Nat} (hm : m < 2 ^ 53) {e : Int} (he : -1074 ≤ e) : excess m e = 0 := by
  have hlog : m.log2 ≤ 52 := by
    by_cases hzero : m = 0
    · rw [hzero]
      decide
    · exact Nat.le_of_lt_succ ((Nat.log2_lt hzero).2 hm)
  rw [excess, grid]
  omega

theorem excess_two_pow {e : Int} (he : -1074 ≤ e) : excess (2 ^ 53) e = 1 := by
  rw [excess, grid, Nat.log2_two_pow]
  omega

/-- Rounding gives zero, or a mantissa below `2 ^ 53` at the exponent of the grid, or half of a
mantissa of `2 ^ 53` at the next exponent. -/
theorem round_cases (s : Sign) (m : Nat) (e : Int) (accuracy : Accuracy) :
    ∃ r, m / 2 ^ excess m e ≤ r ∧ r ≤ m / 2 ^ excess m e + 1 ∧
      ((r = 0 ∧ roundWithAccuracy Format.binary64 s m e accuracy = .zero s) ∨
      (∃ h, r < 2 ^ 53 ∧
        roundWithAccuracy Format.binary64 s m e accuracy = .finite s r (e + excess m e) h) ∨
      (r = 2 ^ 53 ∧ roundWithAccuracy Format.binary64 s m e accuracy =
        .finite s (2 ^ 52) (e + excess m e + 1) (by decide))) := by
  obtain ⟨hmantissa, hexponent⟩ := shiftToTargetExponent_eq m e accuracy
  set shifted := shiftToTargetExponent Format.binary64 m e accuracy with hshifted
  obtain ⟨hfloor, hceil⟩ := roundedMantissa_bounds shifted.1
  rw [hmantissa] at hfloor hceil
  refine ⟨shifted.1.roundedMantissa, hfloor, hceil, ?_⟩
  set r := shifted.1.roundedMantissa with hr
  obtain ⟨hmantissa', hexponent'⟩ := shiftToTargetExponent_eq r shifted.2 .exact
  have hround : roundWithAccuracy Format.binary64 s m e accuracy =
      if h : r / 2 ^ excess r shifted.2 = 0 then .zero s
      else .finite s (r / 2 ^ excess r shifted.2) (shifted.2 + excess r shifted.2)
        (Nat.pos_of_ne_zero h) := by
    rw [roundWithAccuracy]
    simp only [← hshifted, ← hr, hmantissa', hexponent']
  have hle : r ≤ 2 ^ 53 := hceil.trans (shifted_lt m e)
  have hlow := le_add_excess m e
  rw [hexponent] at hround
  rcases Nat.lt_or_eq_of_le hle with hlt | heq
  · rw [excess_of_lt hlt hlow] at hround
    simp only [Nat.pow_zero, Nat.div_one, Nat.cast_zero, Int.add_zero] at hround
    by_cases hzero : r = 0
    · exact .inl ⟨hzero, by rw [hround, dif_pos hzero]⟩
    · exact .inr (.inl ⟨Nat.pos_of_ne_zero hzero, hlt, by rw [hround, dif_neg hzero]⟩)
  · refine .inr (.inr ⟨heq, ?_⟩)
    rw [hround]
    simp only [heq, excess_two_pow hlow]
    rfl

/-! ## Bit patterns -/

/-- An unpacked number is `m · 2 ^ e` up to its sign. -/
def IsValue (f : UnpackedFloat) (m : Nat) (e : Int) : Prop :=
  ∃ s h, f = .finite s m e h

/-- An unpacked number is zero, or has a mantissa of 53 bits at most and an exponent up to
`bound`. -/
inductive Within (bound : Int) : UnpackedFloat → Prop
  | zero (s : Sign) : Within bound (.zero s)
  | finite (s : Sign) {m : Nat} {e : Int} (h : 0 < m) (hm : m < 2 ^ 53) (hlow : -1074 ≤ e)
      (hhigh : e ≤ bound) : Within bound (.finite s m e h)

/-- The number that a double holds. -/
def unpacked (x : Float) : UnpackedFloat :=
  x.toModel.unpack

/-- The number that is left of an unpacked one when it is packed into a double. -/
def repacked (f : UnpackedFloat) : UnpackedFloat :=
  UnpackedFloat.unpack Format.binary64 (UnpackedFloat.pack Format.binary64 f)

theorem exponentBias_eq : (Format.binary64.exponentBias : Int) = 1023 := by
  decide

theorem Within.isFinite {bound : Int} {f : UnpackedFloat} (h : Within bound f) :
    f.isFinite = true := by
  cases h <;> rfl

theorem Within.mono {bound bound' : Int} (hle : bound ≤ bound') {f : UnpackedFloat}
    (h : Within bound f) : Within bound' f := by
  cases h with
  | zero s => exact .zero s
  | finite s h hm hlow hhigh => exact .finite s h hm hlow (hhigh.trans hle)

theorem within_unpack {b : BitVec 64}
    (h : (UnpackedFloat.unpack Format.binary64 b).isFinite = true) :
    Within 971 (UnpackedFloat.unpack Format.binary64 b) := by
  have hlt : (@unpackExponent Format.binary64 b).toNat < 2048 :=
    (@unpackExponent Format.binary64 b).isLt
  rw [UnpackedFloat.unpack] at h ⊢
  split_ifs at h ⊢ with hones hinfinite hzero hnothing
  · cases h
  · cases h
  · exact .zero _
  · refine .finite _ _ ?_ ?_ ?_
    · exact Nat.lt_trans (@unpackMantissa Format.binary64 b).isLt (by decide)
    · rw [hzero]
      decide
    · rw [hzero]
      decide
  · have hpos : (@unpackExponent Format.binary64 b).toNat ≠ 0 :=
      fun heq => hzero (BitVec.eq_of_toNat_eq heq)
    have hne : (@unpackExponent Format.binary64 b).toNat ≠ 2047 :=
      fun heq => hones (BitVec.eq_of_toNat_eq heq)
    refine .finite _ _ (1#1 ++ @unpackMantissa Format.binary64 b).isLt ?_ ?_
    · rw [exponentBias_eq]
      change -1074 ≤ _ - (1023 + (52 : Int))
      omega
    · rw [exponentBias_eq]
      change _ - (1023 + (52 : Int)) ≤ 971
      omega

/-- A finite double is zero or has 53 bits at most and an exponent up to 971. -/
theorem within_unpacked {x : Float} (h : x.isFinite = true) : Within 971 (unpacked x) :=
  within_unpack h

/-- The stored exponent of a finite double is not the one that stands for no number. -/
theorem field_ne {x : Float} (h : x.isFinite = true) :
    x.toBits.toNat / 0x10000000000000 % 0x800 ≠ 2047 := by
  intro hfield
  have hones : @unpackExponent Format.binary64 x.toModel.toBits.toBitVec = -1#11 := by
    refine BitVec.eq_of_toNat_eq ?_
    change x.toBits.toNat >>> 52 % 2 ^ 11 = 2047
    rw [Nat.shiftRight_eq_div_pow]
    exact hfield
  change (UnpackedFloat.unpack Format.binary64 x.toModel.toBits.toBitVec).isFinite = true at h
  rw [UnpackedFloat.unpack, if_pos hones] at h
  split_ifs at h
  · cases h
  · cases h

theorem toNat_one_append {m : Nat} (hlow : 2 ^ 52 ≤ m) (hm : m < 2 ^ 53) :
    (1#1 ++ BitVec.ofNat 52 m).toNat = m := by
  rw [BitVec.toNat_append, BitVec.toNat_ofNat, BitVec.toNat_ofNat,
    ← Nat.shiftLeft_add_eq_or_of_lt (Nat.mod_lt _ (by decide))]
  simp only [Nat.shiftLeft_eq]
  omega

theorem unpack_components_normal (s : Sign) {field : BitVec 11} (m : BitVec 52)
    (hzero : field ≠ 0#11) (hones : field ≠ -1#11) :
    IsValue (UnpackedFloat.unpack Format.binary64 (packComponents Format.binary64 s field m))
      (1#1 ++ m).toNat ((field.toNat : Int) - 1075) := by
  rw [UnpackedFloat.unpack]
  simp only [unpackExponent_packComponents, unpackMantissa_packComponents, exponentBias_eq]
  rw [if_neg hones, if_neg hzero]
  exact ⟨_, _, rfl⟩

theorem unpack_components_subnormal (s : Sign) {m : BitVec 52} (hm : 0 < m.toNat) :
    IsValue (UnpackedFloat.unpack Format.binary64 (packComponents Format.binary64 s 0#11 m))
      m.toNat (-1074) := by
  have hne : m ≠ 0#52 := by
    rintro rfl
    exact absurd hm (by decide)
  rw [UnpackedFloat.unpack]
  simp only [unpackExponent_packComponents, unpackMantissa_packComponents, exponentBias_eq]
  rw [if_neg (by decide), if_pos trivial, dif_neg hne]
  exact ⟨_, hm, rfl⟩

/-- The stored exponent of a number in range. -/
theorem storedExponent_eq (e : Int) :
    (e + Format.binary64.exponentBias + (52 : Nat)).toNat = (e + 1075).toNat := by
  rw [exponentBias_eq]
  omega

/-- A number of exactly 53 bits is stored as it is. -/
theorem repacked_normal (s : Sign) {m : Nat} {e : Int} (h : 0 < m) (hfull : 2 ^ 52 ≤ m)
    (hm : m < 2 ^ 53) (hlow : -1074 ≤ e) (hhigh : e ≤ 971) :
    IsValue (repacked (.finite s m e h)) m e := by
  have hlog : m.log2 + 1 = Format.binary64.mantissaBits := by
    rw [(Nat.log2_eq_iff (Nat.ne_of_gt h)).2 ⟨hfull, hm⟩]
    decide
  have hfield : (BitVec.ofNat 11 (e + 1075).toNat).toNat = (e + 1075).toNat := by
    rw [BitVec.toNat_ofNat, Nat.mod_eq_of_lt (by omega)]
  have hzero : BitVec.ofNat 11 (e + 1075).toNat ≠ 0#11 := by
    intro heq
    have hnat := congrArg BitVec.toNat heq
    rw [hfield] at hnat
    change _ = 0 at hnat
    omega
  have hones : BitVec.ofNat 11 (e + 1075).toNat ≠ -1#11 := by
    intro heq
    have hnat := congrArg BitVec.toNat heq
    rw [hfield] at hnat
    change _ = 2047 at hnat
    omega
  have hvalue := unpack_components_normal s (BitVec.ofNat 52 m) hzero hones
  rw [toNat_one_append hfull hm, hfield] at hvalue
  rw [repacked, UnpackedFloat.pack]
  simp only [storedExponent_eq]
  rw [if_neg (show ¬ 2 ^ 11 ≤ (e + 1075).toNat + 1 by omega), if_pos hlog]
  convert hvalue using 1
  omega

/-- A number of fewer bits is stored at the least exponent. -/
theorem repacked_subnormal (s : Sign) {m : Nat} {e : Int} (h : 0 < m) (hm : m < 2 ^ 52)
    (hhigh : e ≤ 971) : IsValue (repacked (.finite s m e h)) m (-1074) := by
  have hlog : ¬ m.log2 + 1 = Format.binary64.mantissaBits := by
    have hbits : m.log2 < 52 := (Nat.log2_lt (Nat.ne_of_gt h)).2 hm
    change ¬ m.log2 + 1 = 1 + 52
    omega
  have hmantissa : (BitVec.ofNat 52 m).toNat = m := by
    rw [BitVec.toNat_ofNat, Nat.mod_eq_of_lt hm]
  have hvalue := unpack_components_subnormal s (m := BitVec.ofNat 52 m) (by rwa [hmantissa])
  rw [hmantissa] at hvalue
  rw [repacked, UnpackedFloat.pack]
  simp only [storedExponent_eq]
  rw [if_neg (show ¬ 2 ^ 11 ≤ (e + 1075).toNat + 1 by omega), if_neg hlog]
  exact hvalue

theorem repacked_zero (s : Sign) : ∃ s', repacked (.zero s) = .zero s' := by
  rw [repacked, UnpackedFloat.pack, packedZero, UnpackedFloat.unpack]
  simp only [unpackExponent_packComponents, unpackMantissa_packComponents]
  exact ⟨_, rfl⟩

/-- Packing keeps a number in range. -/
theorem Within.repacked {bound : Int} (hlow : -1074 ≤ bound) (hhigh : bound ≤ 971)
    {f : UnpackedFloat} (h : Within bound f) : Within bound (repacked f) := by
  cases h with
  | zero s =>
    obtain ⟨s', heq⟩ := repacked_zero s
    exact heq ▸ .zero s'
  | @finite s m e h hm hle hbound =>
    by_cases hfull : 2 ^ 52 ≤ m
    · obtain ⟨s', h', heq⟩ := repacked_normal s h hfull hm hle (hbound.trans hhigh)
      exact heq ▸ .finite s' h' hm hle hbound
    · obtain ⟨s', h', heq⟩ := repacked_subnormal s h (Nat.lt_of_not_le hfull) (hbound.trans hhigh)
      exact heq ▸ .finite s' h' hm (by decide) hlow

/-! ## Exact numbers -/

/-- The number `m · 2 ^ e`. -/
def value (m : Nat) (e : Int) : ℚ :=
  m * 2 ^ e

/-- How much rounding can add to a number, as a factor. -/
def slack : ℚ :=
  1 + 1 / 2 ^ 52

/-- The greatest double. -/
def greatest : ℚ :=
  value (2 ^ 53 - 1) 971

theorem value_two_pow_mul (m k : Nat) (e : Int) : value (2 ^ k * m) e = value m (e + k) := by
  rw [value, value, zpow_add₀ (by norm_num), zpow_natCast]
  push_cast
  ring

theorem value_mono {m n : Nat} (h : m ≤ n) (e : Int) : value m e ≤ value n e :=
  mul_le_mul_of_nonneg_right (Nat.cast_le.2 h) (by positivity)

theorem exponent_lt_of_value_lt {m k : Nat} {e : Int} (hm : 2 ^ k ≤ m)
    (hlt : value m e < greatest) : e + k < 1024 := by
  have hone : value 1 (e + k) ≤ value m e := by
    rw [← value_two_pow_mul, mul_one]
    exact value_mono hm e
  have htop : greatest < value 1 1024 := by
    have hpow : (2 : ℚ) ^ (1024 : Int) = 2 ^ 53 * 2 ^ (971 : Int) := by
      rw [show (1024 : Int) = 53 + 971 by norm_num, zpow_add₀ (by norm_num)]
      norm_num
    rw [greatest, value, value, hpow, Nat.cast_one, one_mul]
    exact mul_lt_mul_of_pos_right (by norm_num) (by positivity)
  have hpow : (2 : ℚ) ^ (e + k) < 2 ^ (1024 : Int) := by
    simpa [value] using hone.trans_lt (hlt.trans htop)
  exact (zpow_lt_zpow_iff_right₀ (by norm_num)).1 hpow

theorem greatest_eq : greatest = (((2 ^ 53 - 1) * 2 ^ 971 : Nat) : ℚ) := by
  rw [greatest, value, Nat.cast_mul, Nat.cast_pow 2 971]
  rfl

theorem natCast_lt_greatest {n : Nat} (h : n < (2 ^ 53 - 1) * 2 ^ 971) : (n : ℚ) < greatest := by
  rw [greatest_eq]
  exact Nat.cast_lt.2 h

theorem log2_mul_two_pow {m : Nat} (h : m ≠ 0) (k : Nat) : (m * 2 ^ k).log2 = m.log2 + k := by
  induction k with
  | zero => rw [pow_zero, mul_one, Nat.add_zero]
  | succ k ih =>
    have hk : m * 2 ^ k ≠ 0 := Nat.mul_ne_zero h (by positivity)
    rw [pow_succ, ← Nat.mul_assoc, Nat.mul_comm _ 2, Nat.log2_two_mul hk, ih, Nat.add_assoc]

/-- Rounding of a number of 53 bits or more that is below the greatest double: the exponent grows
by the bits that are lost, or by one more, and the number by the slack at most. -/
theorem round_of_lt (s : Sign) {m : Nat} {e : Int} (accuracy : Accuracy) (hm : 2 ^ 52 ≤ m)
    (he : -1074 ≤ e) (hlt : value m e < greatest) :
    ∃ m' e', IsValue (repacked (roundWithAccuracy Format.binary64 s m e accuracy)) m' e' ∧
      2 ^ 52 ≤ m' ∧ m' < 2 ^ 53 ∧ e + m.log2 - 52 ≤ e' ∧ e' ≤ e + m.log2 - 51 ∧ e' ≤ 971 ∧
      value m' e' ≤ value m e * slack := by
  have hne : m ≠ 0 := Nat.ne_of_gt (Nat.lt_of_lt_of_le (by decide) hm)
  have hlog : 52 ≤ m.log2 := (Nat.le_log2 hne).2 hm
  have hexcess : (excess m e : Int) = m.log2 - 52 := by
    rw [excess, grid]
    omega
  have hleast := le_add_excess m e
  obtain ⟨r, hlow, hhigh, hcases⟩ := round_cases s m e accuracy
  generalize excess m e = k at *
  have hpow : 2 ^ 52 * 2 ^ k ≤ m := by
    rw [← pow_add, show 52 + k = m.log2 by omega]
    exact Nat.log2_self_le hne
  have hfloor : 2 ^ 52 ≤ m / 2 ^ k := (Nat.le_div_iff_mul_le (by positivity)).2 hpow
  have hgrown : value r (e + k) ≤ value m e * slack := by
    have hnat : 2 ^ k * r ≤ m + 2 ^ k := by
      calc 2 ^ k * r ≤ 2 ^ k * (m / 2 ^ k + 1) := Nat.mul_le_mul_left _ hhigh
        _ = 2 ^ k * (m / 2 ^ k) + 2 ^ k := by ring
        _ ≤ m + 2 ^ k := Nat.add_le_add_right (Nat.mul_div_le m (2 ^ k)) _
    have hrat : ((2 ^ k * r : Nat) : ℚ) ≤ m * slack := by
      have h1 : ((2 ^ k * r : Nat) : ℚ) ≤ m + 2 ^ k := by exact_mod_cast hnat
      have h2 : (2 ^ 52 * 2 ^ k : ℚ) ≤ m := by exact_mod_cast hpow
      rw [slack]
      linarith
    rw [← value_two_pow_mul, value, value]
    calc ((2 ^ k * r : Nat) : ℚ) * 2 ^ e ≤ m * slack * 2 ^ e :=
          mul_le_mul_of_nonneg_right hrat (by positivity)
      _ = m * 2 ^ e * slack := by ring
  have hexponent : e + k ≤ 971 := by
    have hbelow := exponent_lt_of_value_lt (m := m) (k := k + 52) (e := e)
      (by rw [pow_add, Nat.mul_comm]; exact hpow) hlt
    push_cast at hbelow
    omega
  rcases hcases with ⟨rfl, -⟩ | ⟨h, hr, heq⟩ | ⟨rfl, heq⟩
  · exact absurd (hfloor.trans hlow) (by decide)
  · refine ⟨r, e + k, ?_, hfloor.trans hlow, hr, by omega, by omega, hexponent, hgrown⟩
    rw [heq]
    exact repacked_normal s h (hfloor.trans hlow) hr hleast hexponent
  · have htop : e + k < 971 := by
      refine lt_of_le_of_ne hexponent fun htop => ?_
      have hmost : 2 ^ k * (2 ^ 53 - 1) ≤ m := by
        have hquotient : 2 ^ 53 - 1 ≤ m / 2 ^ k := by omega
        calc 2 ^ k * (2 ^ 53 - 1) ≤ 2 ^ k * (m / 2 ^ k) := Nat.mul_le_mul_left _ hquotient
          _ ≤ m := Nat.mul_div_le m (2 ^ k)
      have hge := value_mono hmost e
      rw [value_two_pow_mul, htop] at hge
      exact absurd hlt (not_lt.2 hge)
    have hvalue : value (2 ^ 52) (e + k + 1) = value (2 ^ 53) (e + k) := by
      have htwice := value_two_pow_mul (2 ^ 52) 1 (e + k)
      rw [← pow_add] at htwice
      exact htwice.symm
    refine ⟨2 ^ 52, e + k + 1, ?_, Nat.le_refl _, by decide, by omega, by omega, by omega, ?_⟩
    · rw [heq]
      exact repacked_normal s (by decide) (Nat.le_refl _) (by decide)
        (by omega) (by omega)
    · rw [hvalue]
      exact hgrown

/-! ## Operations of doubles -/

theorem unpacked_mul (x y : Float) :
    unpacked (x * y) = repacked ((unpacked x).mul Format.binary64 (unpacked y)) := rfl

theorem unpacked_div (x y : Float) :
    unpacked (x / y) = repacked ((unpacked x).div Format.binary64 (unpacked y)) := rfl

theorem unpacked_neg (x : Float) : unpacked (-x) = repacked (unpacked x).neg := rfl

theorem Within.neg {bound : Int} {f : UnpackedFloat} (h : Within bound f) : Within bound f.neg := by
  cases h with
  | zero s => exact .zero _
  | finite s h hm hlow hhigh => exact .finite _ h hm hlow hhigh

theorem isFinite_neg {x : Float} (h : x.isFinite = true) : (-x).isFinite = true := by
  change (unpacked (-x)).isFinite = true
  rw [unpacked_neg]
  exact ((within_unpacked h).neg.repacked (by decide) (by decide)).isFinite

theorem isFinite_of_not {x : Float} (hnan : x.isNaN = false) (hinf : x.isInf = false) :
    x.isFinite = true := by
  change (unpacked x).isNaN = false at hnan
  change (unpacked x).isInf = false at hinf
  change (unpacked x).isFinite = true
  cases h : unpacked x with
  | infinity s => rw [h] at hinf; cases hinf
  | notANumber => rw [h] at hnan; cases hnan
  | zero s => rfl
  | finite s m e h => rfl

/-! ### Multiplication -/

theorem isNaN_unpack_components (s : Sign) (field : BitVec 11) (m : BitVec 52)
    (h : field = -1#11 → m = 0#52) :
    (UnpackedFloat.unpack Format.binary64 (packComponents Format.binary64 s field m)).isNaN =
      false := by
  rw [UnpackedFloat.unpack]
  simp only [unpackExponent_packComponents, unpackMantissa_packComponents]
  split_ifs with hones hinfinite
  · rfl
  · exact absurd (h hones) hinfinite
  · rfl
  · rfl
  · rfl

/-- A finite number may become infinite when it is packed, but it stays a number. -/
theorem isNaN_repacked {f : UnpackedFloat} (h : f.isFinite = true) :
    (repacked f).isNaN = false := by
  cases f with
  | infinity s => cases h
  | notANumber => cases h
  | zero s => exact isNaN_unpack_components s _ _ fun _ => rfl
  | finite s m e hm =>
    rw [repacked, UnpackedFloat.pack]
    simp only
    split_ifs with hbeyond hfull
    · exact isNaN_unpack_components s _ _ fun _ => rfl
    · refine isNaN_unpack_components s _ _ fun hones => ?_
      have hnat := congrArg BitVec.toNat hones
      rw [BitVec.toNat_ofNat] at hnat
      change _ % 2 ^ 11 = 2047 at hnat
      change ¬ 2 ^ 11 ≤ _ + 1 at hbeyond
      rw [Nat.mod_eq_of_lt (by omega)] at hnat
      omega
    · exact isNaN_unpack_components s _ _ fun hones => absurd hones (by decide)

theorem isFinite_round (s : Sign) (m : Nat) (e : Int) (accuracy : Accuracy) :
    (roundWithAccuracy Format.binary64 s m e accuracy).isFinite = true := by
  obtain ⟨r, -, -, ⟨-, heq⟩ | ⟨h, -, heq⟩ | ⟨-, heq⟩⟩ := round_cases s m e accuracy <;>
    rw [heq] <;> rfl

theorem Within.isFinite_mul {bound bound' : Int} {f g : UnpackedFloat} (hf : Within bound f)
    (hg : Within bound' g) : (f.mul Format.binary64 g).isFinite = true := by
  cases hf with
  | zero s => cases hg <;> rfl
  | finite s h =>
    cases hg with
    | zero t => rfl
    | finite t h' => exact isFinite_round _ _ _ _

/-- The product of finite doubles is a number. -/
theorem isNaN_mul {x y : Float} (hx : x.isFinite = true) (hy : y.isFinite = true) :
    (x * y).isNaN = false :=
  isNaN_repacked ((within_unpacked hx).isFinite_mul (within_unpacked hy))

/-- A product is finite if the exact one is below the greatest double and a factor has 53 bits. -/
theorem isInf_mul {x y : Float} {m n : Nat} {e f : Int} (hx : IsValue (unpacked x) m e)
    (hy : IsValue (unpacked y) n f) (hm : 2 ^ 52 ≤ m) (he : -1074 ≤ e + f)
    (hlt : value m e * value n f < greatest) : (x * y).isInf = false := by
  obtain ⟨s, hs, hx⟩ := hx
  obtain ⟨t, ht, hy⟩ := hy
  have hproduct : value (m * n) (e + f) = value m e * value n f := by
    rw [value, value, value, zpow_add₀ (by norm_num)]
    push_cast
    ring
  have hmn : 2 ^ 52 ≤ m * n := hm.trans (Nat.le_mul_of_pos_right m ht)
  obtain ⟨m', e', ⟨s', h', heq⟩, -⟩ :=
    round_of_lt (s * t) .exact hmn he (hproduct ▸ hlt)
  change (unpacked (x * y)).isInf = false
  rw [unpacked_mul, hx, hy]
  exact congrArg UnpackedFloat.isInf heq

/-! ### Division -/

/-- Division by a finite double lowers the exponent by that of the divisor, up to one. -/
theorem within_div {f g : UnpackedFloat} {bound : Int} (hf : Within bound f) {n : Nat} {k : Int}
    (hg : IsValue g n k) : Within (max (bound - k) (-1074) + 1) (f.div Format.binary64 g) := by
  obtain ⟨t, ht, rfl⟩ := hg
  cases hf with
  | zero s => exact .zero _
  | @finite s m e h hm hlow hhigh =>
    rw [UnpackedFloat.div, divCore]
    simp only
    set target := min (e - k)
      (Format.binary64.targetExponent (totalExponent m e - totalExponent n k)) with htarget
    set q := m <<< (e - k - target).toNat / n with hq
    have hle : target ≤ e - k := min_le_left _ _
    have hlog : q.log2 + target ≤ 52 + (e - k) := by
      by_cases hzero : q = 0
      · rw [hzero, Nat.log2_zero]
        omega
      have hbits : q < 2 ^ (53 + (e - k - target).toNat) := by
        refine Nat.lt_of_le_of_lt (Nat.div_le_self _ _) ?_
        rw [Nat.shiftLeft_eq, pow_add]
        exact Nat.mul_lt_mul_of_pos_right hm (by positivity)
      have := (Nat.log2_lt hzero).2 hbits
      omega
    have hgrid : target + excess q target ≤ max (e - k) (-1074) := by
      rw [add_excess, grid]
      omega
    have hleast := le_add_excess q target
    obtain ⟨r, -, -, ⟨-, heq⟩ | ⟨hr, hlt, heq⟩ | ⟨-, heq⟩⟩ := round_cases (s / t) q target
      (accuracyOfFraction (m <<< (e - k - target).toNat % n) n)
    · rw [heq]
      exact .zero _
    · rw [heq]
      exact .finite _ hr hlt hleast (by omega)
    · rw [heq]
      exact .finite _ _ (by decide) (by omega) (by omega)

end Double

end ResponseTypes
