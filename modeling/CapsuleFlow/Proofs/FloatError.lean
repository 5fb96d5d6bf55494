import Mathlib
import CapsuleFlow.Proofs.FloatMagnitude

/-!
# Rounding errors of binary64 products and quotients

`Float` rounds an exact result in two shifts: the first brings the mantissa to the target
exponent of the format, keeping what was dropped as an accuracy, and the mantissa is rounded
to nearest; the second only undoes a carry into a 54th bit. The value that comes out is the
rounded mantissa at the first target exponent (`mag_roundWithAccuracy`), within one unit in
that place of the exact value (`rounded_bounds`). When the exact value has
its 53 bits, or sits at the bottom of the subnormal range, the result is in the canonical form
that packing keeps (`unpack_pack_rounded`).

From this: a product of values at least one gains or loses at most one part in `2^52`
(`mag_mul_normal_bounds`), so the powers of ten that scale a float to a number of places stay
within `(1 + 2^-52)^p` of `10^p` from above (`mag_powInt_ten_le`) and, unless they overflow,
within `(1 - 2^-52)^p` from below (`reaches_powInt_ten`); and a quotient of a normal value by
another stays within a few parts in `2^52` of the exact one (`div_normal_bounds`).
-/

open Float.Model Float.Model.UnpackedFloat

namespace CapsuleFlow

namespace Unpacked

/-- The magnitude of a value. An infinity counts as `2 ^ 1024`, the first power of two
past every finite value, so that overflow still satisfies an upper bound; NaN counts as
zero. -/
def mag : UnpackedFloat → ℚ
  | .finite _ m e _ => m * 2 ^ e
  | .infinity _ => 2 ^ 1024
  | _ => 0

@[simp] theorem mag_finite (s : Sign) (m : Nat) (e : Int) (h : 0 < m) :
    mag (.finite s m e h) = m * 2 ^ e := rfl

@[simp] theorem mag_zero (s : Sign) : mag (.zero s) = 0 := rfl

@[simp] theorem mag_infinity (s : Sign) : mag (.infinity s) = 2 ^ 1024 := rfl

theorem two_zpow_pos (e : Int) : (0 : ℚ) < 2 ^ e := zpow_pos (by norm_num) e

theorem mag_nonneg (u : UnpackedFloat) : 0 ≤ mag u := by
  cases u with
  | finite s m e h => exact mul_nonneg (Nat.cast_nonneg m) (two_zpow_pos e).le
  | infinity s => exact (pow_pos (by norm_num) 1024).le
  | _ => exact le_rfl

/-! ## The two shifts of rounding -/

theorem first_shift_bounds (m : Nat) (e : Int) :
    let k := (Format.binary64.targetExponent (totalExponent m e) - e).toNat
    (-1074 : Int) ≤ e + k ∧ m.log2 ≤ 52 + k := by
  simp only [targetExponent_binary64, totalExponent]
  omega

theorem first_mantissa (m : Nat) (e : Int) (acc : Accuracy) :
    (shiftToTargetExponent Format.binary64 m e acc).1.mantissa =
      m / 2 ^ (Format.binary64.targetExponent (totalExponent m e) - e).toNat :=
  (shiftToTargetExponent_spec Format.binary64 m e acc).1

theorem first_exponent (m : Nat) (e : Int) (acc : Accuracy) :
    (shiftToTargetExponent Format.binary64 m e acc).2 =
      e + (Format.binary64.targetExponent (totalExponent m e) - e).toNat :=
  (shiftToTargetExponent_spec Format.binary64 m e acc).2

theorem div_two_pow_lt {m k : Nat} (h : m.log2 ≤ 52 + k) : m / 2 ^ k < 2 ^ 53 := by
  rw [Nat.div_lt_iff_lt_mul (Nat.two_pow_pos k), ← Nat.pow_add]
  exact lt_of_lt_of_le Nat.lt_log2_self (Nat.pow_le_pow_right (by decide) (by omega))

theorem roundedMantissa_le_two_pow (m : Nat) (e : Int) (acc : Accuracy) :
    (shiftToTargetExponent Format.binary64 m e acc).1.roundedMantissa ≤ 2 ^ 53 := by
  have hr := roundedMantissa_le (shiftToTargetExponent Format.binary64 m e acc).1
  rw [first_mantissa] at hr
  have := div_two_pow_lt (first_shift_bounds m e).2
  omega

theorem shift_of_lt (m : Nat) (e : Int) (hm : m < 2 ^ 53) (he : -1074 ≤ e) :
    shiftToTargetExponent Format.binary64 m e .exact = (⟨m, false, false⟩, e) := by
  have hlog : m.log2 ≤ 52 := by
    rcases Nat.eq_zero_or_pos m with rfl | hpos
    · simp
    · exact Nat.le_of_lt_succ ((Nat.log2_lt (Nat.ne_of_gt hpos)).2 hm)
  have hk : (Format.binary64.targetExponent (totalExponent m e) - e).toNat = 0 := by
    simp only [targetExponent_binary64, totalExponent]
    omega
  simp [shiftToTargetExponent, shiftToExponent, hk, HShiftRight.hShiftRight, Nat.repeat,
    ExtendedMantissa.ofMantissaAndAccuracy]

theorem shift_of_carry (e : Int) (he : -1074 ≤ e) :
    shiftToTargetExponent Format.binary64 (2 ^ 53) e .exact = (⟨2 ^ 52, false, false⟩, e + 1) := by
  have hk : (Format.binary64.targetExponent (totalExponent (2 ^ 53) e) - e).toNat = 1 := by
    simp only [targetExponent_binary64, totalExponent, Nat.log2_two_pow]
    omega
  show (ExtendedMantissa.ofMantissaAndAccuracy (2 ^ 53) .exact >>>
      (Format.binary64.targetExponent (totalExponent (2 ^ 53) e) - e).toNat,
    e + ((Format.binary64.targetExponent (totalExponent (2 ^ 53) e) - e).toNat : Int)) = _
  rw [hk]
  rfl

theorem roundWithAccuracy_eq_rounded (s : Sign) (m : Nat) (e : Int) (acc : Accuracy) :
    roundWithAccuracy Format.binary64 s m e acc =
      if h : (shiftToTargetExponent Format.binary64 m e acc).1.roundedMantissa = 0 then
        (.zero s : UnpackedFloat)
      else if (shiftToTargetExponent Format.binary64 m e acc).1.roundedMantissa < 2 ^ 53 then
        .finite s _ (shiftToTargetExponent Format.binary64 m e acc).2 (Nat.pos_of_ne_zero h)
      else .finite s (2 ^ 52) ((shiftToTargetExponent Format.binary64 m e acc).2 + 1) (by decide) := by
  have hr := roundedMantissa_le_two_pow m e acc
  have he : -1074 ≤ (shiftToTargetExponent Format.binary64 m e acc).2 := by
    rw [first_exponent]
    exact (first_shift_bounds m e).1
  rw [roundWithAccuracy]
  generalize shiftToTargetExponent Format.binary64 m e acc = first at hr he ⊢
  rcases first with ⟨em, e₁⟩
  dsimp only at hr he ⊢
  by_cases hsmall : em.roundedMantissa < 2 ^ 53
  · rw [shift_of_lt _ _ hsmall he]
    by_cases hz : em.roundedMantissa = 0
    · simp [hz]
    · simpa [hz] using hsmall
  · have hcarry : em.roundedMantissa = 2 ^ 53 := by omega
    rw [hcarry, shift_of_carry _ he]
    simp

/-- The value rounding returns is the rounded mantissa at the first exponent. -/
theorem mag_roundWithAccuracy (s : Sign) (m : Nat) (e : Int) (acc : Accuracy) :
    mag (roundWithAccuracy Format.binary64 s m e acc) =
      ((shiftToTargetExponent Format.binary64 m e acc).1.roundedMantissa : ℚ) *
        2 ^ (shiftToTargetExponent Format.binary64 m e acc).2 := by
  have hr := roundedMantissa_le_two_pow m e acc
  rw [roundWithAccuracy_eq_rounded]
  generalize shiftToTargetExponent Format.binary64 m e acc = first at hr ⊢
  split
  · rename_i h
    simp [h]
  · split
    · rfl
    · have hcarry : first.1.roundedMantissa = 2 ^ 53 := by omega
      rw [mag_finite, hcarry, zpow_add₀ (by norm_num)]
      push_cast
      ring

/-! ## One unit in the place of the first shift -/

theorem floor_round_bounds {m k r : Nat} (hlo : m / 2 ^ k ≤ r) (hhi : r ≤ m / 2 ^ k + 1) :
    (m : ℚ) ≤ r * 2 ^ k + 2 ^ k ∧ (r : ℚ) * 2 ^ k ≤ m + 2 ^ k := by
  have hdiv := Nat.div_add_mod m (2 ^ k)
  have hmod := Nat.mod_lt m (Nat.two_pow_pos k)
  have hlo' := Nat.mul_le_mul_right (2 ^ k) hlo
  have hhi' := Nat.mul_le_mul_right (2 ^ k) hhi
  rw [Nat.add_mul, one_mul] at hhi'
  rw [Nat.mul_comm] at hdiv
  have h1 : m ≤ r * 2 ^ k + 2 ^ k := by omega
  have h2 : r * 2 ^ k ≤ m + 2 ^ k := by omega
  exact ⟨by exact_mod_cast h1, by exact_mod_cast h2⟩

theorem div_floor_bounds (a b : Nat) {u : ℚ} (hu : 0 ≤ u) :
    ((a / b : Nat) : ℚ) * u ≤ (a : ℚ) / b * u ∧ (a : ℚ) / b * u - u ≤ ((a / b : Nat) : ℚ) * u := by
  have hlo : ((a / b : Nat) : ℚ) ≤ (a : ℚ) / b := Nat.cast_div_le
  have hhi : (a : ℚ) / b - 1 < ((a / b : Nat) : ℚ) := by
    rw [← Nat.floor_div_eq_div (K := ℚ)]
    exact Nat.sub_one_lt_floor _
  constructor
  · exact mul_le_mul_of_nonneg_right hlo hu
  · nlinarith

/-- The rounded value is within one unit in the place of the first shift of the exact one,
from below and from above. -/
theorem rounded_bounds (m : Nat) (e : Int) (acc : Accuracy) :
    (m : ℚ) * 2 ^ e - 2 ^ (shiftToTargetExponent Format.binary64 m e acc).2 ≤
        ((shiftToTargetExponent Format.binary64 m e acc).1.roundedMantissa : ℚ) *
          2 ^ (shiftToTargetExponent Format.binary64 m e acc).2 ∧
      ((shiftToTargetExponent Format.binary64 m e acc).1.roundedMantissa : ℚ) *
          2 ^ (shiftToTargetExponent Format.binary64 m e acc).2 ≤
        m * 2 ^ e + 2 ^ (shiftToTargetExponent Format.binary64 m e acc).2 := by
  have hlo := mantissa_le_roundedMantissa (shiftToTargetExponent Format.binary64 m e acc).1
  have hhi := roundedMantissa_le (shiftToTargetExponent Format.binary64 m e acc).1
  rw [first_mantissa] at hlo hhi
  rw [first_exponent]
  generalize (shiftToTargetExponent Format.binary64 m e acc).1.roundedMantissa = r at hlo hhi ⊢
  generalize (Format.binary64.targetExponent (totalExponent m e) - e).toNat = k at hlo hhi ⊢
  obtain ⟨h1, h2⟩ := floor_round_bounds hlo hhi
  have hpos := two_zpow_pos e
  rw [zpow_add₀ (by norm_num), zpow_natCast]
  constructor <;> nlinarith

/-! ## Canonical results pack without change -/

theorem unpack_pack_zero (s : Sign) :
    UnpackedFloat.unpack Format.binary64 (UnpackedFloat.pack Format.binary64 (.zero s)) = .zero s := by
  cases s <;> rfl

theorem unpack_pack_subnormal (s : Sign) (m : Nat) (hm : 0 < m) (hm' : m < 2 ^ 52) :
    UnpackedFloat.unpack Format.binary64 (UnpackedFloat.pack Format.binary64 (.finite s m (-1074) hm)) =
      .finite s m (-1074) hm := by
  have hlog : m.log2 < 52 := (Nat.log2_lt (Nat.ne_of_gt hm)).2 hm'
  have hbias : (Format.binary64.exponentBias : Int) = 1023 := by decide
  have hne : BitVec.ofNat 52 m ≠ 0#52 := by
    intro h
    have := congrArg BitVec.toNat h
    simp only [BitVec.toNat_ofNat, Nat.mod_eq_of_lt hm'] at this
    omega
  simp only [UnpackedFloat.pack, hbias]
  rw [if_neg (by decide), if_neg (by simp [Format.mantissaBits]; omega)]
  simp only [UnpackedFloat.unpack, unpackExponent_packComponents, unpackMantissa_packComponents,
    unpackSign_packComponents, Sign.ofBitVec_toBitVec]
  rw [if_neg (by decide), if_pos trivial, dif_neg hne]
  simp only [BitVec.toNat_ofNat, Nat.mod_eq_of_lt hm', hbias]
  congr 1


theorem first_exponent_of_wide {m : Nat} {e : Int} (acc : Accuracy) (hc : 52 ≤ m.log2 ∨ e ≤ -1074) :
    (shiftToTargetExponent Format.binary64 m e acc).2 = max ((m.log2 : Int) + e - 52) (-1074) := by
  rw [first_exponent]
  simp only [targetExponent_binary64, totalExponent]
  omega

theorem rounded_wide {m : Nat} {e : Int} (acc : Accuracy) (hc : 52 ≤ m.log2 ∨ e ≤ -1074) :
    2 ^ 52 ≤ (shiftToTargetExponent Format.binary64 m e acc).1.roundedMantissa ∨
      (shiftToTargetExponent Format.binary64 m e acc).2 = -1074 := by
  rw [first_exponent_of_wide acc hc]
  by_cases hsub : (m.log2 : Int) + e - 52 ≤ -1074
  · exact .inr (by omega)
  · refine .inl (le_trans ?_ (mantissa_le_roundedMantissa _))
    rw [first_mantissa]
    have hk : (Format.binary64.targetExponent (totalExponent m e) - e).toNat = m.log2 - 52 := by
      simp only [targetExponent_binary64, totalExponent]
      omega
    have hm : m ≠ 0 := by
      rintro rfl
      simp only [Nat.log2_zero, Nat.cast_zero, zero_add] at hsub hc
      omega
    rw [hk, Nat.le_div_iff_mul_le (Nat.two_pow_pos _), ← Nat.pow_add,
      show 52 + (m.log2 - 52) = m.log2 by omega]
    exact Nat.log2_self_le hm

/-- A result rounded from 53 bits or more, or at the bottom of the subnormal range, is in
the canonical form packing keeps, unless it overflows to an infinity; it does not when the
first shift lands at 970 or below. -/
theorem unpack_pack_rounded (s : Sign) {m : Nat} {e : Int} (acc : Accuracy)
    (hc : 52 ≤ m.log2 ∨ e ≤ -1074) :
    (UnpackedFloat.unpack Format.binary64
        (UnpackedFloat.pack Format.binary64 (roundWithAccuracy Format.binary64 s m e acc)) =
      roundWithAccuracy Format.binary64 s m e acc ∨
      UnpackedFloat.unpack Format.binary64
        (UnpackedFloat.pack Format.binary64 (roundWithAccuracy Format.binary64 s m e acc)) =
      .infinity s) ∧
    ((shiftToTargetExponent Format.binary64 m e acc).2 ≤ 970 →
      UnpackedFloat.unpack Format.binary64
        (UnpackedFloat.pack Format.binary64 (roundWithAccuracy Format.binary64 s m e acc)) =
      roundWithAccuracy Format.binary64 s m e acc) := by
  have hwide := rounded_wide acc hc
  have hlow : -1074 ≤ (shiftToTargetExponent Format.binary64 m e acc).2 := by
    rw [first_exponent]
    exact (first_shift_bounds m e).1
  rw [roundWithAccuracy_eq_rounded]
  generalize shiftToTargetExponent Format.binary64 m e acc = first at hwide hlow ⊢
  split
  · exact ⟨.inl (unpack_pack_zero s), fun _ => unpack_pack_zero s⟩
  · rename_i hz
    split
    · rename_i hsmall
      by_cases hnorm : 2 ^ 52 ≤ first.1.roundedMantissa
      · have hlog : first.1.roundedMantissa.log2 = 52 :=
          (Nat.log2_eq_iff hz).2 ⟨hnorm, hsmall⟩
        by_cases hov : first.2 ≤ 971
        · have h := unpack_pack_normal s _ _ (Nat.pos_of_ne_zero hz) hlog hlow hov
          exact ⟨.inl h, fun _ => h⟩
        · exact ⟨.inr (unpack_pack_overflow s _ _ _ (by omega)), fun h => absurd h (by omega)⟩
      · have hbot : first.2 = -1074 := hwide.resolve_left hnorm
        have h : UnpackedFloat.unpack Format.binary64 (UnpackedFloat.pack Format.binary64
            (.finite s first.1.roundedMantissa first.2 (Nat.pos_of_ne_zero hz))) =
            .finite s first.1.roundedMantissa first.2 (Nat.pos_of_ne_zero hz) := by
          generalize Nat.pos_of_ne_zero hz = hpos
          revert hpos
          rw [hbot]
          exact fun hpos => unpack_pack_subnormal s _ hpos (by omega)
        exact ⟨.inl h, fun _ => h⟩
    · by_cases hov : first.2 + 1 ≤ 971
      · have h := unpack_pack_normal s (2 ^ 52) (first.2 + 1) (by decide) Nat.log2_two_pow
          (by omega) hov
        exact ⟨.inl h, fun _ => h⟩
      · exact ⟨.inr (unpack_pack_overflow s _ _ _ (by omega)), fun h => absurd h (by omega)⟩

theorem isFinite_roundWithAccuracy (s : Sign) (m : Nat) (e : Int) (acc : Accuracy) :
    (toBinaryValue (roundWithAccuracy Format.binary64 s m e acc)).isFinite = true := by
  rw [roundWithAccuracy_eq_rounded]
  split
  · rfl
  · split <;> rfl

theorem mag_eq_of_toBinaryValue {u : UnpackedFloat} {d : Dyadic} (h : toBinaryValue u = .finite d) :
    mag u = d.mant * 2 ^ d.exp := by
  cases u <;> simp only [toBinaryValue, BinaryValue.finite.injEq, reduceCtorEq] at h <;> subst h
  · simp
  · rfl

theorem eq_zero_of_toBinaryValue {u : UnpackedFloat} {d : Dyadic} (h : toBinaryValue u = .finite d)
    (hm : d.mant = 0) : ∃ s, u = .zero s := by
  cases u <;> simp only [toBinaryValue, BinaryValue.finite.injEq, reduceCtorEq] at h
  · exact ⟨_, rfl⟩
  · subst h
    simp only at hm
    omega

/-! ## Relative error -/

theorem two_zpow_first_le {m : Nat} {e : Int} (acc : Accuracy) (hc : 52 ≤ m.log2 ∨ e ≤ -1074) :
    (2 : ℚ) ^ (shiftToTargetExponent Format.binary64 m e acc).2 ≤
      max ((m : ℚ) * 2 ^ e / 2 ^ 52) (2 ^ (-1074 : Int)) := by
  rw [first_exponent_of_wide acc hc]
  rcases max_cases ((m.log2 : Int) + e - 52) (-1074) with ⟨h, -⟩ | ⟨h, -⟩
  · rw [h]
    have hm : m ≠ 0 := by
      rintro rfl
      simp only [Nat.log2_zero, Nat.cast_zero, zero_add] at h hc
      omega
    have hlog : (2 : ℚ) ^ m.log2 ≤ m := by exact_mod_cast Nat.log2_self_le hm
    refine le_max_of_le_left ?_
    rw [zpow_sub₀ (by norm_num), zpow_add₀ (by norm_num), zpow_natCast]
    exact div_le_div_of_nonneg_right (mul_le_mul_of_nonneg_right hlog (two_zpow_pos e).le)
      (by positivity)
  · rw [h]
    exact le_max_right _ _

theorem mag_roundWithAccuracy_bounds (s : Sign) {m : Nat} {e : Int} (acc : Accuracy)
    (hc : 52 ≤ m.log2 ∨ e ≤ -1074) :
    (m : ℚ) * 2 ^ e - max ((m : ℚ) * 2 ^ e / 2 ^ 52) (2 ^ (-1074 : Int)) ≤
        mag (roundWithAccuracy Format.binary64 s m e acc) ∧
      mag (roundWithAccuracy Format.binary64 s m e acc) ≤
        m * 2 ^ e + max ((m : ℚ) * 2 ^ e / 2 ^ 52) (2 ^ (-1074 : Int)) := by
  have hulp := two_zpow_first_le acc hc
  obtain ⟨hlo, hhi⟩ := rounded_bounds m e acc
  rw [mag_roundWithAccuracy]
  constructor <;> linarith

/-! ## Finite values of floats -/

theorem unpack_finite_shape {x : Float} {s : Sign} {m : Nat} {e : Int} {hm : 0 < m}
    (h : x.toModel.unpack = .finite s m e hm) :
    m < 2 ^ 53 ∧ e ≤ 971 ∧ (m.log2 = 52 ∨ e = -1074) := by
  have hv : BinaryFormat.binary64.decode x.toBits.toNat = .finite ⟨s == .negative, m, e⟩ := by
    rw [← Float.value, value_eq_toBinaryValue, h]
    rfl
  rw [binary64_decode] at hv
  split_ifs at hv with htop hfrac hzero <;>
    simp only [BinaryValue.finite.injEq, Dyadic.mk.injEq] at hv
  · obtain ⟨-, rfl, rfl⟩ := hv
    exact ⟨by omega, by omega, .inr rfl⟩
  · obtain ⟨-, rfl, rfl⟩ := hv
    exact ⟨by omega, by omega, .inl ((Nat.log2_eq_iff (by omega)).2 ⟨by omega, by omega⟩)⟩

theorem mag_unpack_lt {x : Float} {s : Sign} {m : Nat} {e : Int} {hm : 0 < m}
    (h : x.toModel.unpack = .finite s m e hm) : mag (.finite s m e hm) < 2 ^ 1024 := by
  obtain ⟨hm53, he, -⟩ := unpack_finite_shape h
  have hmq : (m : ℚ) < 2 ^ 53 := by exact_mod_cast hm53
  calc (m : ℚ) * 2 ^ e < 2 ^ 53 * 2 ^ e := by gcongr
    _ ≤ 2 ^ 53 * 2 ^ (971 : Int) := by gcongr; norm_num
    _ = 2 ^ 1024 := by rw [show (2 : ℚ) ^ (971 : Int) = 2 ^ (971 : Nat) from zpow_natCast 2 971, ← pow_add]

/-! ## Products of scale factors -/

/-- What one rounding can multiply a product of scale factors by. -/
def growth : ℚ := 1 + 1 / 2 ^ 52

/-- What one rounding can shrink a product of scale factors by. -/
def shrink : ℚ := 1 - 1 / 2 ^ 52

theorem one_le_growth : 1 ≤ growth := by norm_num [growth]

theorem shrink_pos : 0 < shrink := by norm_num [shrink]

theorem one_sub_le_shrink_pow (n : Nat) : 1 - (n : ℚ) / 2 ^ 52 ≤ shrink ^ n := by
  have := one_add_mul_le_pow (a := -(1 / 2 ^ 52 : ℚ)) (by norm_num) n
  rw [← sub_eq_add_neg] at this
  rw [shrink]
  linarith

theorem ScaleFactor.one_le_mag {u : UnpackedFloat} (h : ScaleFactor u) : 1 ≤ mag u := by
  rcases h with rfl | ⟨m, e, hm, rfl, hlog, he⟩
  · rw [mag_infinity]
    exact one_le_pow₀ (by norm_num)
  · have hm52 : (2 : ℚ) ^ 52 ≤ m := by
      exact_mod_cast (hlog ▸ Nat.log2_self_le (Nat.ne_of_gt hm))
    calc (1 : ℚ) = 2 ^ 52 * 2 ^ (-52 : Int) := by norm_num
      _ ≤ m * 2 ^ e := by
        gcongr
        norm_num

theorem ScaleFactor.mul_infinity_left {b : UnpackedFloat} (hb : ScaleFactor b) :
    UnpackedFloat.unpack Format.binary64 (UnpackedFloat.pack Format.binary64
      (UnpackedFloat.mul Format.binary64 (.infinity .positive) b)) = .infinity .positive := by
  rcases hb with rfl | ⟨m, e, h, rfl, -, -⟩ <;> exact unpack_packedInfinity _

theorem ScaleFactor.mul_infinity_right {a : UnpackedFloat} (ha : ScaleFactor a) :
    UnpackedFloat.unpack Format.binary64 (UnpackedFloat.pack Format.binary64
      (UnpackedFloat.mul Format.binary64 a (.infinity .positive))) = .infinity .positive := by
  rcases ha with rfl | ⟨m, e, h, rfl, -, -⟩ <;> exact unpack_packedInfinity _

/-- A product of normal values at least one is within one rounding of the exact product. -/
theorem mag_mul_normal_bounds {m₁ m₂ : Nat} {e₁ e₂ : Int} (h₁ : 0 < m₁) (h₂ : 0 < m₂)
    (hl₁ : m₁.log2 = 52) (hl₂ : m₂.log2 = 52) (he₁ : -52 ≤ e₁) (he₂ : -52 ≤ e₂) :
    mag (.finite .positive m₁ e₁ h₁) * mag (.finite .positive m₂ e₂ h₂) * shrink ≤
        mag (roundWithAccuracy Format.binary64 .positive (m₁ * m₂) (e₁ + e₂) .exact) ∧
      mag (roundWithAccuracy Format.binary64 .positive (m₁ * m₂) (e₁ + e₂) .exact) ≤
        mag (.finite .positive m₁ e₁ h₁) * mag (.finite .positive m₂ e₂ h₂) * growth := by
  have ha1 := ScaleFactor.one_le_mag (.inr ⟨m₁, e₁, h₁, rfl, hl₁, he₁⟩)
  have hb1 := ScaleFactor.one_le_mag (.inr ⟨m₂, e₂, h₂, rfl, hl₂, he₂⟩)
  have hl := log2_add_le_mul (Nat.ne_of_gt h₁) (Nat.ne_of_gt h₂)
  have hexact : ((m₁ * m₂ : Nat) : ℚ) * 2 ^ (e₁ + e₂) = mag (.finite .positive m₁ e₁ h₁) *
      mag (.finite .positive m₂ e₂ h₂) := by
    rw [mag_finite, mag_finite, zpow_add₀ (by norm_num : (2 : ℚ) ≠ 0)]
    push_cast
    ring
  have hunit : max (((m₁ * m₂ : Nat) : ℚ) * 2 ^ (e₁ + e₂) / 2 ^ 52) (2 ^ (-1074 : Int)) =
      ((m₁ * m₂ : Nat) : ℚ) * 2 ^ (e₁ + e₂) / 2 ^ 52 := by
    refine max_eq_left ?_
    rw [hexact]
    calc (2 : ℚ) ^ (-1074 : Int) ≤ 2 ^ (-52 : Int) := zpow_le_zpow_right₀ (by norm_num) (by norm_num)
      _ = 1 * 1 / 2 ^ 52 := by rw [zpow_neg]; norm_num
      _ ≤ _ := by gcongr
  have hc : 52 ≤ (m₁ * m₂).log2 := by omega
  obtain ⟨hlo, hhi⟩ := mag_roundWithAccuracy_bounds (e := e₁ + e₂) .positive .exact (.inl hc)
  rw [hunit, hexact] at hlo hhi
  rw [growth, shrink]
  constructor <;> linarith

theorem ScaleFactor.mag_mul_le {a b : UnpackedFloat} (ha : ScaleFactor a) (hb : ScaleFactor b) :
    mag (UnpackedFloat.unpack Format.binary64
        (UnpackedFloat.pack Format.binary64 (UnpackedFloat.mul Format.binary64 a b))) ≤
      mag a * mag b * growth := by
  have ha1 := ha.one_le_mag
  have hb1 := hb.one_le_mag
  have hg := one_le_growth
  rcases ha with rfl | ⟨m₁, e₁, h₁, rfl, hl₁, he₁⟩
  · rw [ScaleFactor.mul_infinity_left hb]
    calc mag (.infinity .positive) = mag (.infinity .positive) * 1 * 1 := by ring
      _ ≤ _ := by gcongr
  rcases hb with rfl | ⟨m₂, e₂, h₂, rfl, hl₂, he₂⟩
  · rw [ScaleFactor.mul_infinity_right (.inr ⟨m₁, e₁, h₁, rfl, hl₁, he₁⟩)]
    calc mag (.infinity .positive) = 1 * mag (.infinity .positive) * 1 := by ring
      _ ≤ _ := by gcongr
  have hgrowth := (mag_mul_normal_bounds h₁ h₂ hl₁ hl₂ he₁ he₂).2
  have hl := log2_add_le_mul (Nat.ne_of_gt h₁) (Nat.ne_of_gt h₂)
  show mag (UnpackedFloat.unpack Format.binary64 (UnpackedFloat.pack Format.binary64
    (roundWithAccuracy Format.binary64 .positive (m₁ * m₂) (e₁ + e₂) .exact))) ≤ _
  obtain ⟨mf, ef, hf, heq, hlog, hef⟩ := roundWithAccuracy_normal .positive (m₁ * m₂) (e₁ + e₂)
    .exact (by omega) (by simp only [totalExponent]; omega)
  rw [heq] at hgrowth ⊢
  by_cases hov : ef ≤ 971
  · rwa [unpack_pack_normal _ _ _ _ hlog (by simp only [totalExponent] at hef; omega) hov]
  · rw [unpack_pack_overflow _ _ _ _ (by omega)]
    refine le_trans ?_ hgrowth
    have hmf : (2 : ℚ) ^ 52 ≤ mf := by
      exact_mod_cast (hlog ▸ Nat.log2_self_le (Nat.ne_of_gt hf))
    calc mag (.infinity .positive) = 2 ^ 52 * 2 ^ (972 : Int) := by
          rw [mag_infinity, show (2 : ℚ) ^ (972 : Int) = 2 ^ (972 : Nat) from zpow_natCast 2 972,
            ← pow_add]
      _ ≤ mf * 2 ^ ef := by
        gcongr
        · norm_num
        · omega

/-- One multiplication of the loop, from above: the product gains one rounding, which the
bound on the square `a` has room for. -/
theorem mag_mul_pow_le {r a : Float} {β α : Nat} (hr : ScaleFactor r.toModel.unpack)
    (ha : ScaleFactor a.toModel.unpack) (hmr : mag r.toModel.unpack ≤ (10 * growth) ^ β)
    (hma : growth * mag a.toModel.unpack ≤ (10 * growth) ^ α) :
    mag (r * a).toModel.unpack ≤ (10 * growth) ^ (β + α) := by
  have hg := one_le_growth
  rw [pow_add]
  calc mag (r * a).toModel.unpack ≤ mag r.toModel.unpack * mag a.toModel.unpack * growth :=
        ScaleFactor.mag_mul_le hr ha
    _ = mag r.toModel.unpack * (growth * mag a.toModel.unpack) := by ring
    _ ≤ _ := mul_le_mul hmr hma (mul_nonneg (by linarith) (by linarith [ha.one_le_mag]))
      (by positivity)

theorem mag_sq_pow_le {a : Float} {α : Nat} (ha : ScaleFactor a.toModel.unpack)
    (hma : growth * mag a.toModel.unpack ≤ (10 * growth) ^ α) :
    growth * mag (a * a).toModel.unpack ≤ (10 * growth) ^ (2 * α) := by
  have hg := one_le_growth
  have hpos : 0 ≤ growth * mag a.toModel.unpack :=
    mul_nonneg (by linarith) (by linarith [ha.one_le_mag])
  calc growth * mag (a * a).toModel.unpack
      ≤ growth * (mag a.toModel.unpack * mag a.toModel.unpack * growth) := by
        gcongr
        exact ScaleFactor.mag_mul_le ha ha
    _ = (growth * mag a.toModel.unpack) ^ 2 := by ring
    _ ≤ ((10 * growth) ^ α) ^ 2 := by gcongr
    _ = (10 * growth) ^ (2 * α) := by ring

/-- The loop of `powBySquaring` on scale factors: with `a` within `growth ^ α` of `10 ^ α`
less one rounding, and `r` within `growth ^ β` of `10 ^ β`, the result is within
`growth ^ (β + α n)` of `10 ^ (β + α n)`. -/
theorem mag_powBySquaring_go_le (a r : Float) (n fuel α β : Nat) (hn : n ≤ fuel)
    (ha : ScaleFactor a.toModel.unpack) (hr : ScaleFactor r.toModel.unpack)
    (hma : growth * mag a.toModel.unpack ≤ (10 * growth) ^ α)
    (hmr : mag r.toModel.unpack ≤ (10 * growth) ^ β) :
    mag (Float.powBySquaring.go a n r fuel).toModel.unpack ≤ (10 * growth) ^ (β + α * n) :=
  (powBySquaring_go_invariant
    (fun a α => ScaleFactor a.toModel.unpack ∧ growth * mag a.toModel.unpack ≤ (10 * growth) ^ α)
    (fun r β => ScaleFactor r.toModel.unpack ∧ mag r.toModel.unpack ≤ (10 * growth) ^ β)
    (fun hr ha => ⟨scaleFactor_mul hr.1 ha.1, mag_mul_pow_le hr.1 ha.1 hr.2 ha.2⟩)
    (fun ha => ⟨scaleFactor_mul ha.1 ha.1, mag_sq_pow_le ha.1 ha.2⟩)
    a r n fuel α β hn ⟨ha, hma⟩ ⟨hr, hmr⟩).2

/-- The power of ten a count of places below `2 ^ 31` scales by is within `growth ^ d` of
`10 ^ d`, an overflow to `+∞` included. -/
theorem mag_powInt_ten_le {d : Nat} (hd : d < 2 ^ 31) :
    mag (Float.powInt 10.0 (decimalExponent d)).toModel.unpack ≤ (10 * growth) ^ d := by
  rw [powInt_ten_eq hd]
  simpa using mag_powBySquaring_go_le 10.0 1 d d 1 0 le_rfl
    (.inr ⟨_, _, by decide, ten_unpack, by decide, by decide⟩)
    (.inr ⟨_, _, by decide, one_unpack, by decide, by decide⟩)
    (by rw [ten_unpack, mag_finite, growth]; norm_num) (by rw [one_unpack, mag_finite]; norm_num)

theorem growth_pow_mul_le (n : Nat) : growth ^ n * (1 - n / 2 ^ 52) ≤ 1 := by
  calc growth ^ n * (1 - n / 2 ^ 52) ≤ growth ^ n * shrink ^ n := by
        gcongr
        · norm_num [growth]
        · exact one_sub_le_shrink_pow n
    _ = (1 - 1 / 2 ^ 104) ^ n := by rw [← mul_pow, growth, shrink]; norm_num
    _ ≤ 1 := pow_le_one₀ (by norm_num) (by norm_num)

/-! ## Products of scale factors, from below -/

/-- A value that is `+∞` or at least `q`. -/
def Reaches (u : UnpackedFloat) (q : ℚ) : Prop :=
  u = .infinity .positive ∨ q ≤ mag u

theorem Reaches.mono {u : UnpackedFloat} {p q : ℚ} (h : Reaches u q) (hpq : p ≤ q) :
    Reaches u p :=
  h.imp id hpq.trans

theorem Reaches.mul {a b : UnpackedFloat} {p q : ℚ} (ha : ScaleFactor a) (hb : ScaleFactor b)
    (hpa : Reaches a p) (hqb : Reaches b q) (hq : 0 ≤ q) :
    Reaches (UnpackedFloat.unpack Format.binary64
      (UnpackedFloat.pack Format.binary64 (UnpackedFloat.mul Format.binary64 a b))) (p * q * shrink) := by
  rcases ha with rfl | ⟨m₁, e₁, h₁, rfl, hl₁, he₁⟩
  · exact .inl (ScaleFactor.mul_infinity_left hb)
  rcases hb with rfl | ⟨m₂, e₂, h₂, rfl, hl₂, he₂⟩
  · exact .inl (ScaleFactor.mul_infinity_right (.inr ⟨m₁, e₁, h₁, rfl, hl₁, he₁⟩))
  replace hpa := hpa.resolve_left UnpackedFloat.noConfusion
  replace hqb := hqb.resolve_left UnpackedFloat.noConfusion
  have hl := log2_add_le_mul (Nat.ne_of_gt h₁) (Nat.ne_of_gt h₂)
  have hlow := (mag_mul_normal_bounds h₁ h₂ hl₁ hl₂ he₁ he₂).1
  show Reaches (UnpackedFloat.unpack Format.binary64 (UnpackedFloat.pack Format.binary64
    (roundWithAccuracy Format.binary64 .positive (m₁ * m₂) (e₁ + e₂) .exact))) _
  obtain ⟨mf, ef, hf, heq, hlog, hef⟩ := roundWithAccuracy_normal .positive (m₁ * m₂) (e₁ + e₂)
    .exact (by omega) (by simp only [totalExponent]; omega)
  rw [heq] at hlow ⊢
  by_cases hov : ef ≤ 971
  · rw [unpack_pack_normal _ _ _ _ hlog (by simp only [totalExponent] at hef; omega) hov]
    exact .inr (le_trans (mul_le_mul_of_nonneg_right (mul_le_mul hpa hqb hq (mag_nonneg _))
      shrink_pos.le) hlow)
  · exact .inl (unpack_pack_overflow _ _ _ _ (by omega))

/-- One multiplication of the loop, from below: the product loses one rounding, which the
bound on the square `a` has room for. -/
theorem Reaches.mul_pow {r a : Float} {β α : Nat} (hr : ScaleFactor r.toModel.unpack)
    (ha : ScaleFactor a.toModel.unpack) (hmr : Reaches r.toModel.unpack ((10 * shrink) ^ β))
    (hma : Reaches a.toModel.unpack ((10 * shrink) ^ α / shrink)) :
    Reaches (r * a).toModel.unpack ((10 * shrink) ^ (β + α)) := by
  have hs := shrink_pos
  have h := Reaches.mul hr ha hmr hma (div_nonneg (pow_nonneg (by linarith) _) hs.le)
  rwa [mul_assoc, div_mul_cancel₀ _ hs.ne', ← pow_add] at h

theorem Reaches.sq_pow {a : Float} {α : Nat} (ha : ScaleFactor a.toModel.unpack)
    (hma : Reaches a.toModel.unpack ((10 * shrink) ^ α / shrink)) :
    Reaches (a * a).toModel.unpack ((10 * shrink) ^ (2 * α) / shrink) := by
  have hs := shrink_pos
  have h := Reaches.mul ha ha hma hma (div_nonneg (pow_nonneg (by linarith) _) hs.le)
  have heq : (10 * shrink) ^ α / shrink * ((10 * shrink) ^ α / shrink) * shrink =
      (10 * shrink) ^ (2 * α) / shrink := by
    field_simp
    ring
  rwa [heq] at h

/-- The loop of `powBySquaring` on scale factors, from below: with `a` reaching `10 ^ α` less
`α - 1` roundings, `r` reaching `10 ^ β` less `β` roundings, and fuel for every bit of `n`, the
result reaches `10 ^ (β + α n)` less as many roundings. -/
theorem reaches_powBySquaring_go (a r : Float) (n fuel α β : Nat) (hn : n ≤ fuel)
    (ha : ScaleFactor a.toModel.unpack) (hr : ScaleFactor r.toModel.unpack)
    (hma : Reaches a.toModel.unpack ((10 * shrink) ^ α / shrink))
    (hmr : Reaches r.toModel.unpack ((10 * shrink) ^ β)) :
    Reaches (Float.powBySquaring.go a n r fuel).toModel.unpack ((10 * shrink) ^ (β + α * n)) :=
  (powBySquaring_go_invariant
    (fun a α => ScaleFactor a.toModel.unpack ∧ Reaches a.toModel.unpack ((10 * shrink) ^ α / shrink))
    (fun r β => ScaleFactor r.toModel.unpack ∧ Reaches r.toModel.unpack ((10 * shrink) ^ β))
    (fun hr ha => ⟨scaleFactor_mul hr.1 ha.1, Reaches.mul_pow hr.1 ha.1 hr.2 ha.2⟩)
    (fun ha => ⟨scaleFactor_mul ha.1 ha.1, Reaches.sq_pow ha.1 ha.2⟩)
    a r n fuel α β hn ⟨ha, hma⟩ ⟨hr, hmr⟩).2

/-- The power of ten a count of places below `2 ^ 31` scales by is `+∞` or at least `10 ^ d`
less `d` roundings. -/
theorem reaches_powInt_ten {d : Nat} (hd : d < 2 ^ 31) :
    Reaches (Float.powInt 10.0 (decimalExponent d)).toModel.unpack ((10 * shrink) ^ d) := by
  rw [powInt_ten_eq hd]
  simpa using reaches_powBySquaring_go 10.0 1 d d 1 0 le_rfl
    (.inr ⟨_, _, by decide, ten_unpack, by decide, by decide⟩)
    (.inr ⟨_, _, by decide, one_unpack, by decide, by decide⟩)
    (.inr (by rw [ten_unpack, mag_finite, pow_one, mul_div_assoc, div_self shrink_pos.ne',
      mul_one]; norm_num))
    (.inr (by rw [one_unpack, mag_finite]; norm_num))

theorem Reaches.not_finite {x : Float} (h : Reaches x.toModel.unpack (2 ^ 1024)) :
    x.value.isFinite = false := by
  rw [value_eq_toBinaryValue]
  rcases h with h | h
  · rw [h]
    rfl
  · cases hu : x.toModel.unpack with
    | finite s m e hm =>
      rw [hu] at h
      exact absurd h (not_le.mpr (mag_unpack_lt hu))
    | zero s =>
      rw [hu, mag_zero] at h
      exact absurd h (not_le.mpr (by positivity))
    | infinity s => rfl
    | notANumber => rfl

/-! ## Quotients -/

theorem divCore_normal {m₁ m₂ : Nat} (e₁ e₂ : Int) (hl₁ : m₁.log2 = 52) (hl₂ : m₂.log2 = 52) :
    ∃ t : Int, t ≤ e₁ - e₂ ∧ (t = e₁ - e₂ - 53 ∨ t ≤ -1074) ∧
      divCore Format.binary64 m₁ e₁ m₂ e₂ = (m₁ * 2 ^ (e₁ - e₂ - t).toNat / m₂, t,
        accuracyOfFraction (m₁ * 2 ^ (e₁ - e₂ - t).toNat % m₂) m₂) := by
  rw [divCore_eq]
  refine ⟨_, ?_, ?_, rfl⟩ <;> simp only [targetExponent_binary64, totalExponent, hl₁, hl₂] <;> omega

/-- A quotient of normal values is rounded from 53 bits or more, or at the bottom of the
range, and comes out within two units of the exact quotient: one for the digits division
drops, one for rounding. -/
theorem div_normal_bounds (s₁ s₂ : Sign) {m₁ m₂ : Nat} {e₁ e₂ : Int} (h₁ : 0 < m₁) (h₂ : 0 < m₂)
    (hl₁ : m₁.log2 = 52) (hl₂ : m₂.log2 = 52) :
    ∃ s m e acc, UnpackedFloat.div Format.binary64 (.finite s₁ m₁ e₁ h₁) (.finite s₂ m₂ e₂ h₂) =
        roundWithAccuracy Format.binary64 s m e acc ∧ (52 ≤ m.log2 ∨ e ≤ -1074) ∧
      mag (.finite s₁ m₁ e₁ h₁) / mag (.finite s₂ m₂ e₂ h₂) -
          2 * max (mag (.finite s₁ m₁ e₁ h₁) / mag (.finite s₂ m₂ e₂ h₂) / 2 ^ 52) (2 ^ (-1074 : Int)) ≤
        mag (roundWithAccuracy Format.binary64 s m e acc) := by
  obtain ⟨t, hte, ht, hdc⟩ := divCore_normal e₁ e₂ hl₁ hl₂
  simp only [UnpackedFloat.div, hdc]
  have hm₁ : 2 ^ 52 ≤ m₁ := hl₁ ▸ Nat.log2_self_le (Nat.ne_of_gt h₁)
  have hm₂ : m₂ < 2 ^ 53 := by simpa [hl₂] using Nat.lt_log2_self (n := m₂)
  generalize hk : (e₁ - e₂ - t).toNat = k
  have hkt : (k : Int) = e₁ - e₂ - t := by omega
  have hc : 52 ≤ (m₁ * 2 ^ k / m₂).log2 ∨ t ≤ -1074 := by
    rcases ht with rfl | hle
    · left
      have hk53 : k = 53 := by omega
      subst hk53
      have hq : 2 ^ 52 ≤ m₁ * 2 ^ 53 / m₂ := by
        rw [Nat.le_div_iff_mul_le h₂]
        calc 2 ^ 52 * m₂ ≤ 2 ^ 52 * 2 ^ 53 := Nat.mul_le_mul_left _ hm₂.le
          _ ≤ m₁ * 2 ^ 53 := Nat.mul_le_mul_right _ hm₁
      exact (Nat.le_log2 (by positivity)).2 hq
    · exact .inr hle
  refine ⟨_, _, _, _, rfl, hc, ?_⟩
  set Q := mag (.finite s₁ m₁ e₁ h₁) / mag (.finite s₂ m₂ e₂ h₂) with hQ
  have hm₂q : (0 : ℚ) < m₂ := by exact_mod_cast h₂
  have hm₁q : (2 : ℚ) ^ 52 ≤ m₁ := by exact_mod_cast hm₁
  have hm₂q' : (m₂ : ℚ) < 2 ^ 53 := by exact_mod_cast hm₂
  have hQt : Q = m₁ * 2 ^ k / m₂ * 2 ^ t := by
    rw [hQ, mag_finite, mag_finite, show e₁ = e₂ + ((k : Int) + t) by omega, zpow_add₀ two_ne_zero,
      zpow_add₀ two_ne_zero, zpow_natCast]
    field_simp
  have hfloor : ((m₁ * 2 ^ k / m₂ : Nat) : ℚ) * 2 ^ t ≤ Q ∧ Q - 2 ^ t ≤ ((m₁ * 2 ^ k / m₂ : Nat) : ℚ) * 2 ^ t := by
    have h := div_floor_bounds (m₁ * 2 ^ k) m₂ (two_zpow_pos t).le
    push_cast at h
    rw [hQt]
    exact h
  have hunit : (2 : ℚ) ^ t ≤ max (Q / 2 ^ 52) (2 ^ (-1074 : Int)) := by
    rcases ht with rfl | hle
    · refine le_max_of_le_left ?_
      have hk53 : k = 53 := by omega
      have hq : (2 : ℚ) ^ 52 ≤ m₁ * 2 ^ k / m₂ := by
        rw [hk53, le_div_iff₀ hm₂q]
        calc (2 : ℚ) ^ 52 * (m₂ : ℚ) ≤ 2 ^ 52 * 2 ^ 53 := by gcongr
          _ ≤ (m₁ : ℚ) * 2 ^ 53 := by gcongr
      calc (2 : ℚ) ^ (e₁ - e₂ - 53) = 2 ^ 52 * 2 ^ (e₁ - e₂ - 53) / 2 ^ 52 := by field_simp
        _ ≤ m₁ * 2 ^ k / m₂ * 2 ^ (e₁ - e₂ - 53) / 2 ^ 52 := by gcongr
        _ = Q / 2 ^ 52 := by rw [hQt]
    · exact le_max_of_le_right (zpow_le_zpow_right₀ (by norm_num) hle)
  have hround := (mag_roundWithAccuracy_bounds (e := t) (s₁ / s₂)
    (accuracyOfFraction (m₁ * 2 ^ k % m₂) m₂) hc).1
  have hmax : max (((m₁ * 2 ^ k / m₂ : Nat) : ℚ) * 2 ^ t / 2 ^ 52) (2 ^ (-1074 : Int)) ≤
      max (Q / 2 ^ 52) (2 ^ (-1074 : Int)) :=
    max_le_max (div_le_div_of_nonneg_right hfloor.1 (by positivity)) le_rfl
  linarith [hfloor.2]

end Unpacked

end CapsuleFlow
