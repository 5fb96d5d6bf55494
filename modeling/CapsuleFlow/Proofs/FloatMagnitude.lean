import Mathlib
import CapsuleFlow.Proofs.NumberText

/-!
# Magnitudes of rounded binary64 values

`Float` arithmetic is IEEE 754 binary64 arithmetic. Its logical model unpacks both
operands into a sign, a mantissa and an exponent, computes exactly, rounds with
`roundWithAccuracy` and packs the result, which overflows to an infinity when its
exponent is too large. This module bounds the magnitudes that come out: the leading
binary digit of a rounded result lies at most one place above that of the exact one,
a quotient's lies at most two places above the difference of its operands', and a
product of normal values at least one stays a normal value at least one or becomes
`+∞`. The bounds are what is needed to show that canonical float text never meets
an infinity or a NaN once the scaled value is finite.
-/

open Float.Model Float.Model.UnpackedFloat

namespace CapsuleFlow

/-! ## Binary logarithms -/

theorem log2_div_pow_add_le {n k : Nat} (h : n / 2 ^ k ≠ 0) : (n / 2 ^ k).log2 + k ≤ n.log2 := by
  have hn : n ≠ 0 := by rintro rfl; simp at h
  refine (Nat.le_log2 hn).2 ?_
  calc 2 ^ ((n / 2 ^ k).log2 + k) = 2 ^ (n / 2 ^ k).log2 * 2 ^ k := Nat.pow_add _ _ _
    _ ≤ n / 2 ^ k * 2 ^ k := Nat.mul_le_mul_right _ (Nat.log2_self_le h)
    _ ≤ n := Nat.div_mul_le_self _ _

theorem log2_le_of_le_succ {r n : Nat} (h : r ≤ n + 1) : r.log2 ≤ n.log2 + 1 := by
  rcases Nat.eq_zero_or_pos r with rfl | hr
  · simp
  refine Nat.le_of_lt_succ ((Nat.log2_lt (by omega)).2 ?_)
  have := Nat.lt_log2_self (n := n)
  rw [Nat.pow_succ]
  omega

theorem log2_mul_le {a b : Nat} (ha : a ≠ 0) (hb : b ≠ 0) :
    (a * b).log2 ≤ a.log2 + b.log2 + 1 := by
  refine Nat.le_of_lt_succ ((Nat.log2_lt (Nat.mul_ne_zero ha hb)).2 ?_)
  calc a * b < 2 ^ (a.log2 + 1) * 2 ^ (b.log2 + 1) :=
        Nat.mul_lt_mul'' Nat.lt_log2_self Nat.lt_log2_self
    _ = 2 ^ (a.log2 + b.log2 + 1 + 1) := by rw [← Nat.pow_add]; congr 1; omega

theorem log2_add_le_mul {a b : Nat} (ha : a ≠ 0) (hb : b ≠ 0) :
    a.log2 + b.log2 ≤ (a * b).log2 :=
  (Nat.le_log2 (Nat.mul_ne_zero ha hb)).2 <| by
    rw [Nat.pow_add]
    exact Nat.mul_le_mul (Nat.log2_self_le ha) (Nat.log2_self_le hb)

theorem log2_div_add_le {a b : Nat} (h : a / b ≠ 0) (hb : b ≠ 0) :
    (a / b).log2 + b.log2 ≤ a.log2 := by
  have ha : a ≠ 0 := by rintro rfl; simp at h
  refine (Nat.le_log2 ha).2 ?_
  calc 2 ^ ((a / b).log2 + b.log2) = 2 ^ (a / b).log2 * 2 ^ b.log2 := Nat.pow_add _ _ _
    _ ≤ a / b * b := Nat.mul_le_mul (Nat.log2_self_le h) (Nat.log2_self_le hb)
    _ ≤ a := Nat.div_mul_le_self _ _

theorem log2_mul_two_pow {n : Nat} (hn : n ≠ 0) (k : Nat) : (n * 2 ^ k).log2 = n.log2 + k := by
  refine (Nat.log2_eq_iff (by positivity)).2 ⟨?_, ?_⟩
  · rw [Nat.pow_add]
    exact Nat.mul_le_mul_right _ (Nat.log2_self_le hn)
  · rw [show n.log2 + k + 1 = (n.log2 + 1) + k by omega, Nat.pow_add]
    exact Nat.mul_lt_mul_of_pos_right Nat.lt_log2_self (by positivity)

theorem log2_div_two_pow {n k : Nat} (hn : n ≠ 0) (h : k ≤ n.log2) :
    (n / 2 ^ k).log2 = n.log2 - k := by
  have hq : 2 ^ (n.log2 - k) ≤ n / 2 ^ k := by
    rw [Nat.le_div_iff_mul_le (by positivity), ← Nat.pow_add, Nat.sub_add_cancel h]
    exact Nat.log2_self_le hn
  refine (Nat.log2_eq_iff (Nat.ne_of_gt (lt_of_lt_of_le (Nat.two_pow_pos _) hq))).2 ⟨hq, ?_⟩
  rw [Nat.div_lt_iff_lt_mul (by positivity), ← Nat.pow_add,
    show n.log2 - k + 1 + k = n.log2 + 1 by omega]
  exact Nat.lt_log2_self

namespace Unpacked

/-! ## Rounding -/

theorem targetExponent_binary64 (t : Int) :
    Format.binary64.targetExponent t = max (t - 53) (-1074) := by
  simp [Format.targetExponent, Format.mantissaBits, Format.minExponent]

theorem shift_mantissa (em : ExtendedMantissa) (k : Nat) :
    (em >>> k).mantissa = em.mantissa / 2 ^ k := by
  induction k generalizing em with
  | zero => simp [HShiftRight.hShiftRight, Nat.repeat]
  | succ k ih =>
    change ((em >>> k).mantissa / 2) = _
    rw [ih, Nat.div_div_eq_div_mul, Nat.pow_succ]

theorem roundedMantissa_le (em : ExtendedMantissa) : em.roundedMantissa ≤ em.mantissa + 1 := by
  rcases em with ⟨m, _ | _, _ | _⟩ <;>
    simp [ExtendedMantissa.roundedMantissa, ExtendedMantissa.accuracy, Accuracy.roundToNearestEven]
  omega

theorem mantissa_le_roundedMantissa (em : ExtendedMantissa) : em.mantissa ≤ em.roundedMantissa := by
  rcases em with ⟨m, _ | _, _ | _⟩ <;>
    simp [ExtendedMantissa.roundedMantissa, ExtendedMantissa.accuracy, Accuracy.roundToNearestEven]

theorem shiftToTargetExponent_spec (spec : Format) (m : Nat) (e : Int) (acc : Accuracy) :
    let k := (spec.targetExponent (totalExponent m e) - e).toNat
    (shiftToTargetExponent spec m e acc).1.mantissa = m / 2 ^ k ∧
      (shiftToTargetExponent spec m e acc).2 = e + k := by
  refine ⟨?_, rfl⟩
  simp only [shiftToTargetExponent, shiftToExponent, shift_mantissa]
  cases acc with
  | exact => rfl
  | inexact o => cases o <;> rfl

theorem roundWithAccuracy_eq (spec : Format) (s : Sign) (m : Nat) (e : Int) (acc : Accuracy) :
    let first := shiftToTargetExponent spec m e acc
    let final := shiftToTargetExponent spec first.1.roundedMantissa first.2 .exact
    roundWithAccuracy spec s m e acc =
      if h : final.1.mantissa = 0 then .zero s else .finite s final.1.mantissa final.2 (by omega) :=
  rfl

/-- A zero, or a finite value below `2 ^ n`: its leading binary digit has weight below
`2 ^ n`. Infinities and NaN are not below any bound. -/
def Below (n : Int) : UnpackedFloat → Prop
  | .zero _ => True
  | .finite _ m e _ => totalExponent m e ≤ n
  | _ => False

theorem Below.mono {n n' : Int} {u : UnpackedFloat} (h : Below n u) (hn : n ≤ n') : Below n' u := by
  cases u <;> simp only [Below] at h ⊢
  omega

theorem below_dite {n : Int} {s : Sign} {q : Nat} {e : Int}
    (h : q ≠ 0 → totalExponent q e ≤ n) :
    Below n (if h : q = 0 then .zero s else .finite s q e (by omega)) := by
  split
  · trivial
  · exact h ‹_›

theorem roundWithAccuracy_below (s : Sign) (m : Nat) (e : Int) (acc : Accuracy) :
    Below (max (totalExponent m e + 1) (-1073)) (roundWithAccuracy Format.binary64 s m e acc) := by
  rw [roundWithAccuracy_eq]
  refine below_dite fun hne => ?_
  obtain ⟨h1m, h1e⟩ := shiftToTargetExponent_spec Format.binary64 m e acc
  have hr := roundedMantissa_le (shiftToTargetExponent Format.binary64 m e acc).1
  generalize shiftToTargetExponent Format.binary64 m e acc = first at *
  obtain ⟨h2m, h2e⟩ :=
    shiftToTargetExponent_spec Format.binary64 first.1.roundedMantissa first.2 .exact
  generalize shiftToTargetExponent Format.binary64 first.1.roundedMantissa first.2 .exact = final at *
  generalize first.1.roundedMantissa = r at *
  generalize first.2 = e₁ at *
  generalize first.1.mantissa = q at *
  simp only [totalExponent, targetExponent_binary64] at *
  generalize hk₁ : (max ((m.log2 : Int) + 1 + e - 53) (-1074) - e).toNat = k₁ at *
  generalize (max ((r.log2 : Int) + 1 + e₁ - 53) (-1074) - e₁).toNat = k₂ at *
  subst h1m h1e
  have hlog := log2_div_pow_add_le (h2m ▸ hne)
  rw [h2m, h2e]
  rcases Nat.eq_zero_or_pos (m / 2 ^ k₁) with h0 | hpos
  · have : r.log2 = 0 := by
      rw [h0] at hr
      interval_cases r <;> rfl
    omega
  · have := log2_div_pow_add_le (Nat.ne_of_gt hpos)
    have := log2_le_of_le_succ hr
    omega

/-! ## Products and quotients -/

theorem mul_below {n₁ n₂ : Int} {a b : UnpackedFloat} (ha : Below n₁ a) (hb : Below n₂ b) :
    Below (max (n₁ + n₂ + 1) (-1073)) (UnpackedFloat.mul Format.binary64 a b) := by
  cases a <;> cases b <;> simp only [Below, UnpackedFloat.mul] at ha hb ⊢
  rename_i m₁ e₁ hm₁ _ m₂ e₂ hm₂
  refine (roundWithAccuracy_below _ _ _ _).mono ?_
  have := log2_mul_le (Nat.ne_of_gt hm₁) (Nat.ne_of_gt hm₂)
  simp only [totalExponent] at *
  omega

theorem divCore_eq (m₁ : Nat) (e₁ : Int) (m₂ : Nat) (e₂ : Int) :
    let t := min (e₁ - e₂) (Format.binary64.targetExponent (totalExponent m₁ e₁ - totalExponent m₂ e₂))
    divCore Format.binary64 m₁ e₁ m₂ e₂ =
      (m₁ * 2 ^ (e₁ - e₂ - t).toNat / m₂, t,
        accuracyOfFraction (m₁ * 2 ^ (e₁ - e₂ - t).toNat % m₂) m₂) := by
  simp only [divCore, Nat.shiftLeft_eq]

theorem div_below {n : Int} {a : UnpackedFloat} {s : Sign} {m : Nat} {e : Int} (hm : 0 < m)
    (ha : Below n a) :
    Below (max (n - totalExponent m e + 2) (-1072))
      (UnpackedFloat.div Format.binary64 a (.finite s m e hm)) := by
  cases a <;> simp only [Below, UnpackedFloat.div] at ha ⊢
  rename_i s₁ m₁ e₁ hm₁
  rw [divCore_eq]
  refine (roundWithAccuracy_below _ _ _ _).mono ?_
  simp only [totalExponent, targetExponent_binary64] at *
  generalize ht : min (e₁ - e) (max ((m₁.log2 : Int) + 1 + e₁ - (m.log2 + 1 + e) - 53) (-1074)) = t
  rcases Nat.eq_zero_or_pos (m₁ * 2 ^ (e₁ - e - t).toNat / m) with h0 | hpos
  · rw [h0]
    simp only [Nat.log2_zero]
    omega
  · have hq := log2_div_add_le (Nat.ne_of_gt hpos) (Nat.ne_of_gt hm)
    rw [log2_mul_two_pow (Nat.ne_of_gt hm₁)] at hq
    omega

/-! ## Packing -/

theorem unpack_packedInfinity (s : Sign) :
    UnpackedFloat.unpack Format.binary64 (packedInfinity Format.binary64 s) = .infinity s := by
  simp [UnpackedFloat.unpack, packedInfinity]

theorem below_unpack_subnormal (s : Sign) (M : BitVec 52) :
    Below (-1021) (UnpackedFloat.unpack Format.binary64 (packComponents Format.binary64 s 0#11 M)) := by
  simp only [UnpackedFloat.unpack, unpackExponent_packComponents, unpackMantissa_packComponents]
  rw [if_neg (by decide), if_pos trivial]
  split
  · trivial
  · rename_i hM
    have hlog : M.toNat.log2 < 52 :=
      (Nat.log2_lt (by simpa [BitVec.toNat_eq] using hM)).2 M.isLt
    have hbias : (Format.binary64.exponentBias : Int) = 1023 := by decide
    simp only [Below, totalExponent, hbias, BitVec.toNat_ofNat]
    omega

theorem unpack_pack_normal (s : Sign) (m : Nat) (e : Int) (hm : 0 < m) (hlog : m.log2 = 52)
    (he : -1074 ≤ e) (he' : e ≤ 971) :
    UnpackedFloat.unpack Format.binary64 (UnpackedFloat.pack Format.binary64 (.finite s m e hm)) =
      .finite s m e hm := by
  have hbias : (Format.binary64.exponentBias : Int) = 1023 := by decide
  have hb := (Nat.log2_eq_iff (Nat.ne_of_gt hm)).1 hlog
  simp only [UnpackedFloat.pack, hbias, hlog]
  rw [if_neg (by omega), if_pos (by rfl)]
  simp only [UnpackedFloat.unpack, unpackExponent_packComponents, unpackMantissa_packComponents,
    unpackSign_packComponents, Sign.ofBitVec_toBitVec, BitVec.toNat_eq, BitVec.toNat_ofNat]
  rw [if_neg (by simp; omega), if_neg (by simp; omega)]
  have hone : (1#1 ++ BitVec.ofNat 52 m).toNat = m := by
    rw [BitVec.toNat_append, ← Nat.shiftLeft_add_eq_or_of_lt (BitVec.ofNat 52 m).isLt,
      BitVec.toNat_ofNat]
    simp only [BitVec.toNat_ofNat]
    omega
  simp only [hone, hbias]
  congr 1
  omega

theorem unpack_pack_overflow (s : Sign) (m : Nat) (e : Int) (hm : 0 < m)
    (hov : 2047 ≤ (e + 1075).toNat) :
    UnpackedFloat.unpack Format.binary64 (UnpackedFloat.pack Format.binary64 (.finite s m e hm)) =
      .infinity s := by
  have hbias : (Format.binary64.exponentBias : Int) = 1023 := by decide
  simp only [UnpackedFloat.pack, hbias]
  rw [if_pos (by omega)]
  exact unpack_packedInfinity s

theorem unpack_pack_finite (s : Sign) (m : Nat) (e : Int) (hm : 0 < m)
    (hov : (e + 1075).toNat < 2047) :
    Below (max (totalExponent m e) (-1021))
      (UnpackedFloat.unpack Format.binary64 (UnpackedFloat.pack Format.binary64 (.finite s m e hm))) := by
  have hbias : (Format.binary64.exponentBias : Int) = 1023 := by decide
  by_cases hnorm : m.log2 = 52
  · by_cases he : -1074 ≤ e
    · rw [unpack_pack_normal s m e hm hnorm he (by omega)]
      exact le_max_left _ _
    · simp only [UnpackedFloat.pack, hbias, hnorm]
      rw [if_neg (by omega), if_pos (by rfl),
        show (e + 1023 + ((52 : Nat) : Int)).toNat = 0 by omega]
      exact (below_unpack_subnormal s _).mono (le_max_right _ _)
  · simp only [UnpackedFloat.pack, hbias]
    rw [if_neg (by omega), if_neg (by simp [Format.mantissaBits]; omega)]
    exact (below_unpack_subnormal s _).mono (le_max_right _ _)

theorem unpack_pack_below {n : Int} {u : UnpackedFloat} (h : Below n u) :
    (∃ s, UnpackedFloat.unpack Format.binary64 (UnpackedFloat.pack Format.binary64 u) = .infinity s) ∨
      Below (max n (-1021)) (UnpackedFloat.unpack Format.binary64 (UnpackedFloat.pack Format.binary64 u)) := by
  cases u with
  | zero s => exact .inr (by simp [UnpackedFloat.pack, Below])
  | finite s m e hm =>
    by_cases hov : 2047 ≤ (e + 1075).toNat
    · exact .inl ⟨s, unpack_pack_overflow s m e hm hov⟩
    · exact .inr ((unpack_pack_finite s m e hm (by omega)).mono (max_le_max_right _ h))
  | _ => exact h.elim

theorem unpack_pack_below_of_le {n : Int} {u : UnpackedFloat} (h : Below n u) (hn : n ≤ 972) :
    Below (max n (-1021)) (UnpackedFloat.unpack Format.binary64 (UnpackedFloat.pack Format.binary64 u)) := by
  cases u with
  | zero s => simp [UnpackedFloat.pack, Below]
  | finite s m e hm =>
    have hov : (e + 1075).toNat < 2047 := by
      simp only [Below, totalExponent] at h
      omega
    exact (unpack_pack_finite s m e hm hov).mono (max_le_max_right _ h)
  | _ => exact h.elim

/-! ## Reading bit patterns -/

theorem binary64_decode (bits : Nat) : BinaryFormat.binary64.decode bits =
    if bits / 2 ^ 52 % 2 ^ 11 = 2047 then
      (if bits % 2 ^ 52 = 0 then .infinite (bits / 2 ^ 63 % 2 == 1) else .nan)
    else if bits / 2 ^ 52 % 2 ^ 11 = 0 then .finite ⟨bits / 2 ^ 63 % 2 == 1, bits % 2 ^ 52, -1074⟩
    else .finite ⟨bits / 2 ^ 63 % 2 == 1, bits % 2 ^ 52 + 2 ^ 52, (bits / 2 ^ 52 % 2 ^ 11 : Nat) - 1075⟩ := by
  simp only [BinaryFormat.decode, BinaryFormat.binary64, BinaryFormat.fractionBits,
    BinaryFormat.topField, BinaryFormat.signWeight, BinaryFormat.leastExp, BinaryFormat.bias,
    beq_iff_eq, Nat.pow_eq]
  norm_num [sub_sub]

/-- What a decoded value is, read off the unpacked form. -/
def toBinaryValue : UnpackedFloat → BinaryValue
  | .infinity s => .infinite (s == .negative)
  | .notANumber => .nan
  | .zero s => .finite ⟨s == .negative, 0, -1074⟩
  | .finite s m e _ => .finite ⟨s == .negative, m, e⟩

theorem ofBitVec_eq_negative (x : BitVec 1) : (Sign.ofBitVec x == .negative) = (x.toNat == 1) := by
  have h := x.isLt
  simp only [Sign.ofBitVec, BitVec.toNat_eq]
  rcases (show x.toNat = 0 ∨ x.toNat = 1 by omega) with h | h <;> simp [h]

theorem decode_toNat (b : BitVec 64) :
    BinaryFormat.binary64.decode b.toNat = toBinaryValue (UnpackedFloat.unpack Format.binary64 b) := by
  have hM : (@unpackMantissa Format.binary64 b).toNat = b.toNat % 2 ^ 52 := by
    simp [unpackMantissa]
  have hE : (@unpackExponent Format.binary64 b).toNat = b.toNat / 2 ^ 52 % 2 ^ 11 := by
    simp [unpackExponent, Nat.shiftRight_eq_div_pow]
  have hS : (@unpackSign Format.binary64 b).toNat = b.toNat / 2 ^ 63 % 2 := by
    simp [unpackSign, Nat.shiftRight_eq_div_pow]
  have hone : (1#1 ++ @unpackMantissa Format.binary64 b).toNat = 2 ^ 52 + b.toNat % 2 ^ 52 := by
    rw [BitVec.toNat_append, ← Nat.shiftLeft_add_eq_or_of_lt (unpackMantissa _).isLt, hM]
    rfl
  have hbias : (Format.binary64.exponentBias : Int) = 1023 := by decide
  have hneg := ofBitVec_eq_negative (@unpackSign Format.binary64 b)
  rw [hS] at hneg
  rw [binary64_decode]
  simp only [UnpackedFloat.unpack, BitVec.toNat_eq, hM, hE, hone, hbias]
  split_ifs <;> simp_all [toBinaryValue]
  omega

theorem below_of_toBinaryValue {u : UnpackedFloat} {d : Dyadic} {n : Int}
    (h : toBinaryValue u = .finite d) (hn : d.mant ≠ 0 → totalExponent d.mant d.exp ≤ n) :
    Below n u := by
  cases u <;> simp only [toBinaryValue, BinaryValue.finite.injEq, reduceCtorEq] at h
  · trivial
  · subst h
    exact hn (Nat.ne_of_gt ‹_›)

theorem isFinite_toBinaryValue {n : Int} {u : UnpackedFloat} (h : Below n u) :
    (toBinaryValue u).isFinite = true := by
  cases u <;> first | rfl | exact h.elim

theorem toBinaryValue_eq_finite {u : UnpackedFloat} {d : Dyadic}
    (h : toBinaryValue u = .finite d) (hm : d.mant ≠ 0) :
    ∃ s h', u = .finite s d.mant d.exp h' := by
  cases u <;> simp only [toBinaryValue, BinaryValue.finite.injEq, reduceCtorEq] at h
  · subst h
    exact absurd rfl hm
  · subst h
    exact ⟨_, _, rfl⟩

theorem decode_mant_lt {bits : Nat} {d : Dyadic} (h : BinaryFormat.binary64.decode bits = .finite d) :
    d.mant < 2 ^ 53 := by
  rw [binary64_decode] at h
  split_ifs at h <;> cases h <;> dsimp only <;> omega

/-! ## Scale factors -/

theorem final_shift_normal (m : Nat) (e : Int) (acc : Accuracy)
    (hm : 52 ≤ m.log2) (hte : -1021 ≤ totalExponent m e - 53) :
    (shiftToTargetExponent Format.binary64
        (shiftToTargetExponent Format.binary64 m e acc).1.roundedMantissa
        (shiftToTargetExponent Format.binary64 m e acc).2 .exact).1.mantissa.log2 = 52 ∧
      totalExponent m e - 53 ≤ (shiftToTargetExponent Format.binary64
        (shiftToTargetExponent Format.binary64 m e acc).1.roundedMantissa
        (shiftToTargetExponent Format.binary64 m e acc).2 .exact).2 := by
  obtain ⟨h1m, h1e⟩ := shiftToTargetExponent_spec Format.binary64 m e acc
  have hlo := mantissa_le_roundedMantissa (shiftToTargetExponent Format.binary64 m e acc).1
  have hhi := roundedMantissa_le (shiftToTargetExponent Format.binary64 m e acc).1
  generalize shiftToTargetExponent Format.binary64 m e acc = first at *
  obtain ⟨h2m, h2e⟩ :=
    shiftToTargetExponent_spec Format.binary64 first.1.roundedMantissa first.2 .exact
  generalize shiftToTargetExponent Format.binary64 first.1.roundedMantissa first.2 .exact = final at *
  generalize first.1.roundedMantissa = r at *
  generalize first.2 = e₁ at *
  generalize first.1.mantissa = q at *
  simp only [totalExponent, targetExponent_binary64] at *
  have hk₁ : (max ((m.log2 : Int) + 1 + e - 53) (-1074) - e).toNat = m.log2 - 52 := by omega
  rw [hk₁] at h1m h1e
  have hm0 : m ≠ 0 := by rintro rfl; simp at hm
  have hq : q.log2 = 52 := by
    rw [h1m, log2_div_two_pow hm0 (by omega)]
    omega
  have hq0 : q ≠ 0 := by intro h; simp [h] at hq
  have hq52 := Nat.log2_self_le hq0
  rw [hq] at hq52
  have hr0 : r ≠ 0 := by omega
  have hr52 : 52 ≤ r.log2 := (Nat.le_log2 hr0).2 (by omega)
  have hr53 : r.log2 ≤ 53 := by
    have := log2_le_of_le_succ hhi
    omega
  have hk₂ : (max ((r.log2 : Int) + 1 + e₁ - 53) (-1074) - e₁).toNat = r.log2 - 52 := by omega
  rw [hk₂] at h2m h2e
  refine ⟨?_, by omega⟩
  rw [h2m, log2_div_two_pow hr0 (by omega)]
  omega

theorem roundWithAccuracy_normal (s : Sign) (m : Nat) (e : Int) (acc : Accuracy)
    (hm : 52 ≤ m.log2) (hte : -1021 ≤ totalExponent m e - 53) :
    ∃ mf ef hf, roundWithAccuracy Format.binary64 s m e acc = .finite s mf ef hf ∧
      mf.log2 = 52 ∧ totalExponent m e - 53 ≤ ef := by
  rw [roundWithAccuracy_eq]
  obtain ⟨hf, he⟩ := final_shift_normal m e acc hm hte
  have hf0 : (shiftToTargetExponent Format.binary64
      (shiftToTargetExponent Format.binary64 m e acc).1.roundedMantissa
      (shiftToTargetExponent Format.binary64 m e acc).2 .exact).1.mantissa ≠ 0 := by
    intro h
    simp [h] at hf
  exact ⟨_, _, Nat.pos_of_ne_zero hf0, dif_neg hf0, hf, he⟩

/-- A scale factor: `+∞`, or a positive normal value at least one. -/
def ScaleFactor (u : UnpackedFloat) : Prop :=
  u = .infinity .positive ∨ ∃ m e h, u = .finite .positive m e h ∧ m.log2 = 52 ∧ -52 ≤ e

theorem ScaleFactor.mul {a b : UnpackedFloat} (ha : ScaleFactor a) (hb : ScaleFactor b) :
    ScaleFactor (UnpackedFloat.unpack Format.binary64
      (UnpackedFloat.pack Format.binary64 (UnpackedFloat.mul Format.binary64 a b))) := by
  rcases ha with rfl | ⟨m₁, e₁, h₁, rfl, hl₁, he₁⟩
  · rcases hb with rfl | ⟨m₂, e₂, h₂, rfl, -, -⟩ <;> exact .inl (unpack_packedInfinity _)
  rcases hb with rfl | ⟨m₂, e₂, h₂, rfl, hl₂, he₂⟩
  · exact .inl (unpack_packedInfinity _)
  have hl := log2_add_le_mul (Nat.ne_of_gt h₁) (Nat.ne_of_gt h₂)
  obtain ⟨mf, ef, hf, heq, hlog, hef⟩ := roundWithAccuracy_normal .positive (m₁ * m₂) (e₁ + e₂)
    .exact (by omega) (by simp only [totalExponent]; omega)
  simp only [totalExponent] at hef
  show ScaleFactor (UnpackedFloat.unpack Format.binary64 (UnpackedFloat.pack Format.binary64
    (roundWithAccuracy Format.binary64 .positive (m₁ * m₂) (e₁ + e₂) .exact)))
  rw [heq]
  by_cases hov : ef ≤ 971
  · exact .inr ⟨mf, ef, hf, unpack_pack_normal _ _ _ _ hlog (by omega) hov, hlog, by omega⟩
  · exact .inl (unpack_pack_overflow _ _ _ _ (by omega))

end Unpacked


open Unpacked

/-! ## Floats -/

theorem value_eq_toBinaryValue (x : Float) : x.value = toBinaryValue x.toModel.unpack :=
  decode_toNat x.toModel.toBits.toBitVec

theorem mul_unpack (a b : Float) :
    (a * b).toModel.unpack = UnpackedFloat.unpack Format.binary64
      (UnpackedFloat.pack Format.binary64 (UnpackedFloat.mul Format.binary64 a.toModel.unpack b.toModel.unpack)) :=
  rfl

theorem div_unpack (a b : Float) :
    (a / b).toModel.unpack = UnpackedFloat.unpack Format.binary64
      (UnpackedFloat.pack Format.binary64 (UnpackedFloat.div Format.binary64 a.toModel.unpack b.toModel.unpack)) :=
  rfl

theorem below_of_not_whole {x : Float} {d : Dyadic} (hx : x.value = .finite d)
    (hw : d.isWhole = false) : Below 52 x.toModel.unpack := by
  have hmant := decode_mant_lt hx
  have hexp : d.exp < 0 := by
    simp only [Dyadic.isWhole, Bool.or_eq_false_iff, decide_eq_false_iff_not] at hw
    omega
  rw [value_eq_toBinaryValue] at hx
  refine below_of_toBinaryValue hx fun h0 => ?_
  have := (Nat.log2_lt h0).2 hmant
  simp only [totalExponent]
  omega

/-! ## Powers of ten -/

theorem scaleFactor_mul {a b : Float} (ha : ScaleFactor a.toModel.unpack)
    (hb : ScaleFactor b.toModel.unpack) : ScaleFactor (a * b).toModel.unpack :=
  ScaleFactor.mul ha hb

/-- The invariant rule of the square-and-multiply loop. A property `R r β` of the running
product at exponent `β`, kept by a multiplication with a square `a` of property `A a α`, and a
property of the squares kept by squaring, holds of the loop's result at exponent `β + α n`
when the fuel covers the bits of `n`. -/
theorem powBySquaring_go_invariant (A R : Float → Nat → Prop)
    (hmul : ∀ {r a β α}, R r β → A a α → R (r * a) (β + α))
    (hsq : ∀ {a α}, A a α → A (a * a) (2 * α)) (a r : Float) (n fuel α β : Nat)
    (hn : n ≤ fuel) (ha : A a α) (hr : R r β) :
    R (Float.powBySquaring.go a n r fuel) (β + α * n) := by
  induction fuel generalizing a n r α β with
  | zero =>
    obtain rfl : n = 0 := by omega
    simpa [Float.powBySquaring.go] using hr
  | succ fuel ih =>
    have hr' : R (if n % 2 == 1 then r * a else r) (β + α * (n % 2)) := by
      split
      · rename_i hbit
        rw [show n % 2 = 1 by simpa using hbit, Nat.mul_one]
        exact hmul hr ha
      · rename_i hbit
        rw [show n % 2 = 0 by simp at hbit; omega, Nat.mul_zero, Nat.add_zero]
        exact hr
    have hsplit : β + α * (n % 2) + 2 * α * (n / 2) = β + α * n := by
      calc β + α * (n % 2) + 2 * α * (n / 2) = β + α * (n % 2 + 2 * (n / 2)) := by ring
        _ = β + α * n := by rw [Nat.mod_add_div]
    simp only [Float.powBySquaring.go]
    split
    · rename_i hdone
      have hlast : α * (n % 2) = α * n := by rw [Nat.mod_eq_of_lt (by simp at hdone; omega)]
      rwa [hlast] at hr'
    · rw [← hsplit]
      exact ih (a * a) _ (n / 2) (2 * α) _ (by omega) (hsq ha) hr'

theorem ten_unpack :
    (10.0 : Float).toModel.unpack = .finite .positive 5629499534213120 (-49) (by decide) := rfl

theorem one_unpack :
    (1 : Float).toModel.unpack = .finite .positive 4503599627370496 (-52) (by decide) := rfl

theorem powInt_ten_eq {d : Nat} (hd : d < 2 ^ 31) :
    Float.powInt 10.0 (decimalExponent d) = Float.powBySquaring.go 10.0 d 1 d := by
  have hexp : decimalExponent d = d := by
    simp only [decimalExponent, Nat.pow_eq]
    rw [if_pos (by omega)]
    omega
  rw [hexp, Float.powInt, if_neg (by omega), Int.toNat_natCast]
  rfl

theorem scaleFactor_powInt_ten {d : Nat} (hd : d < 2 ^ 31) :
    ScaleFactor (Float.powInt 10.0 (decimalExponent d)).toModel.unpack := by
  rw [powInt_ten_eq hd]
  exact powBySquaring_go_invariant (fun a _ => ScaleFactor a.toModel.unpack)
    (fun r _ => ScaleFactor r.toModel.unpack) scaleFactor_mul (fun ha => scaleFactor_mul ha ha)
    10.0 1 d d 0 0 le_rfl (.inr ⟨_, _, by decide, ten_unpack, by decide, by decide⟩)
    (.inr ⟨_, _, by decide, one_unpack, by decide, by decide⟩)

/-! ## Rounding half away from zero -/

theorem roundHalfEven_one (n : Nat) : BinaryFormat.roundHalfEven n 1 = n := by
  simp [BinaryFormat.roundHalfEven, Nat.mod_one]

theorem floorLog2Ratio_one {k : Nat} (hk : k ≠ 0) : BinaryFormat.floorLog2Ratio k 1 = k.log2 := by
  have := Nat.log2_self_le hk
  have h1 : Nat.log2 1 = 0 := by decide
  simp [BinaryFormat.floorLog2Ratio, Nat.pow_eq, h1]
  omega

theorem roundRatio_whole (neg : Bool) {k : Nat} (hk : 0 < k) (hk' : k ≤ 2 ^ 52) :
    BinaryFormat.binary64.roundRatio neg k 1 =
      (if neg then 2 ^ 63 else 0) + (k.log2 + 1023) * 2 ^ 52 + (k * 2 ^ (52 - k.log2) - 2 ^ 52) := by
  have hlog : k.log2 ≤ 52 := Nat.le_of_lt_succ ((Nat.log2_lt (by omega)).2 (by omega))
  have hT : (if 52 ≤ k.log2 then
        BinaryFormat.roundHalfEven k (2 ^ (max ((k.log2 : Int) - 52) (-1074)).toNat)
      else BinaryFormat.roundHalfEven (k * 2 ^ (-max ((k.log2 : Int) - 52) (-1074)).toNat) 1) =
      k * 2 ^ (52 - k.log2) := by
    split
    · rw [show (max ((k.log2 : Int) - 52) (-1074)).toNat = 0 by omega, show 52 - k.log2 = 0 by omega]
      simp [roundHalfEven_one]
    · rw [roundHalfEven_one, show (-max ((k.log2 : Int) - 52) (-1074)).toNat = 52 - k.log2 by omega]
  have hTlog := (Nat.log2_eq_iff (by positivity)).1
    ((log2_mul_two_pow (Nat.ne_of_gt hk) (52 - k.log2)).trans (show k.log2 + (52 - k.log2) = 52 by omega))
  simp only [BinaryFormat.roundRatio, BinaryFormat.binary64, BinaryFormat.fractionBits,
    BinaryFormat.leastExp, BinaryFormat.bias, BinaryFormat.topField, BinaryFormat.signWeight,
    BinaryFormat.infinityBits, floorLog2Ratio_one (Nat.ne_of_gt hk), Nat.pow_eq]
  norm_num
  rw [if_neg (by omega), hT]
  generalize k * 2 ^ (52 - k.log2) = T at *
  rw [if_neg (show ¬ T = 9007199254740992 by omega), if_neg (by omega), if_neg (by omega)]
  cases neg <;> simp <;> omega

theorem decode_roundRatio_whole (neg : Bool) {k : Nat} (hk : 0 < k) (hk' : k ≤ 2 ^ 52) :
    BinaryFormat.binary64.decode (BinaryFormat.binary64.roundRatio neg k 1) =
      .finite ⟨neg, k * 2 ^ (52 - k.log2), (k.log2 : Int) - 52⟩ := by
  have hlog : k.log2 ≤ 52 := Nat.le_of_lt_succ ((Nat.log2_lt (by omega)).2 (by omega))
  have hTlog := (Nat.log2_eq_iff (by positivity)).1
    ((log2_mul_two_pow (Nat.ne_of_gt hk) (52 - k.log2)).trans (show k.log2 + (52 - k.log2) = 52 by omega))
  rw [roundRatio_whole neg hk hk']
  generalize k * 2 ^ (52 - k.log2) = T at *
  have hS : (if neg then 2 ^ 63 else 0) = (if neg then 1 else 0) * 2 ^ 63 := by cases neg <;> rfl
  rw [hS]
  have hb : (if neg then 1 else 0) ≤ 1 := by cases neg <;> decide
  generalize hbdef : (if neg then 1 else 0) = b at *
  generalize hbits : b * 2 ^ 63 + (k.log2 + 1023) * 2 ^ 52 + (T - 2 ^ 52) = bits
  have hF : bits / 2 ^ 52 % 2 ^ 11 = k.log2 + 1023 := by omega
  have hM : bits % 2 ^ 52 = T - 2 ^ 52 := by omega
  have hN : bits / 2 ^ 63 % 2 = b := by omega
  simp only [binary64_decode, hF, hM, hN]
  rw [if_neg (by omega), if_neg (by omega), BinaryValue.finite.injEq, Dyadic.mk.injEq]
  refine ⟨?_, by omega, by omega⟩
  subst hbdef
  cases neg <;> rfl

theorem roundHalfAway_of_neg {d : Dyadic} (hexp : d.exp < 0) :
    ∃ k, d.roundHalfAway = ⟨d.neg, k, 0⟩ ∧ k ≤ d.mant / 2 + 1 := by
  have hu : 2 ≤ Nat.pow 2 (-d.exp).toNat := by
    rw [Nat.pow_eq, show (-d.exp).toNat = ((-d.exp).toNat - 1) + 1 by omega, Nat.pow_succ]
    have := Nat.one_le_two_pow (n := (-d.exp).toNat - 1)
    omega
  have hdiv : d.mant / Nat.pow 2 (-d.exp).toNat ≤ d.mant / 2 := Nat.div_le_div_left hu (by norm_num)
  simp only [Dyadic.roundHalfAway, if_neg (show ¬ 0 ≤ d.exp by omega)]
  refine ⟨_, rfl, ?_⟩
  split <;> omega

theorem below_ofBits {w : UInt64} {d : Dyadic} {n : Int}
    (h : BinaryFormat.binary64.decode w.toNat = .finite d)
    (hd : d.mant ≠ 0 → totalExponent d.mant d.exp ≤ n) (hn : n ≤ 972) :
    Below (max n (-1021)) (Float.ofBits w).toModel.unpack :=
  unpack_pack_below_of_le (below_of_toBinaryValue ((decode_toNat w.toBitVec).symm.trans h) hd) hn

theorem roundDyadic_whole (neg : Bool) (k : Nat) :
    BinaryFormat.binary64.roundDyadic ⟨neg, k, 0⟩ = BinaryFormat.binary64.roundRatio neg k 1 := by
  simp [BinaryFormat.roundDyadic, Nat.pow_eq]

theorem ofDyadic_whole_unpack (neg : Bool) {k : Nat} (hk0 : 0 < k) (hk : k ≤ 2 ^ 52) :
    ∃ s h, (Float.ofDyadic ⟨neg, k, 0⟩).toModel.unpack =
      .finite s (k * 2 ^ (52 - k.log2)) ((k.log2 : Int) - 52) h := by
  have hlog : k.log2 ≤ 52 := Nat.le_of_lt_succ ((Nat.log2_lt (by omega)).2 (by omega))
  have hTlog : (k * 2 ^ (52 - k.log2)).log2 = 52 :=
    (log2_mul_two_pow (Nat.ne_of_gt hk0) (52 - k.log2)).trans (by omega)
  have hbits : BinaryFormat.binary64.roundRatio neg k 1 < 2 ^ 64 := by
    rw [roundRatio_whole neg hk0 hk]
    have : k * 2 ^ (52 - k.log2) - 2 ^ 52 < 2 ^ 52 := by
      have := (Nat.log2_eq_iff (by positivity)).1 hTlog
      omega
    cases neg <;> simp <;> omega
  have hdec : BinaryFormat.binary64.decode
      (UInt64.ofNat (BinaryFormat.binary64.roundDyadic ⟨neg, k, 0⟩)).toNat =
        .finite ⟨neg, k * 2 ^ (52 - k.log2), (k.log2 : Int) - 52⟩ := by
    rw [roundDyadic_whole, UInt64.toNat_ofNat', Nat.mod_eq_of_lt hbits,
      decode_roundRatio_whole neg hk0 hk]
  obtain ⟨s, h, hu⟩ : ∃ s h, UnpackedFloat.unpack Format.binary64
      (UInt64.ofNat (BinaryFormat.binary64.roundDyadic ⟨neg, k, 0⟩)).toBitVec =
        .finite s (k * 2 ^ (52 - k.log2)) ((k.log2 : Int) - 52) h :=
    toBinaryValue_eq_finite ((decode_toNat _).symm.trans hdec) (by positivity)
  refine ⟨s, h, ?_⟩
  show UnpackedFloat.unpack Format.binary64 (UnpackedFloat.pack Format.binary64
    (UnpackedFloat.unpack Format.binary64
      (UInt64.ofNat (BinaryFormat.binary64.roundDyadic ⟨neg, k, 0⟩)).toBitVec)) = _
  rw [hu]
  exact unpack_pack_normal s _ _ h hTlog (by omega) (by omega)

theorem below_ofDyadic_whole (neg : Bool) {k : Nat} (hk : k ≤ 2 ^ 52) :
    Below 53 (Float.ofDyadic ⟨neg, k, 0⟩).toModel.unpack := by
  rcases Nat.eq_zero_or_pos k with rfl | hk0
  · have hz : BinaryFormat.binary64.roundRatio neg 0 1 = if neg then 2 ^ 63 else 0 := by
      simp [BinaryFormat.roundRatio, BinaryFormat.binary64, BinaryFormat.signWeight,
        BinaryFormat.fractionBits, Nat.pow_eq]
    have hdec : BinaryFormat.binary64.decode (UInt64.ofNat (if neg then 2 ^ 63 else 0)).toNat =
        .finite ⟨neg, 0, -1074⟩ := by
      cases neg <;> decide
    show Below 53 (Float.ofBits (UInt64.ofNat (BinaryFormat.binary64.roundDyadic ⟨neg, 0, 0⟩))).toModel.unpack
    rw [roundDyadic_whole, hz]
    exact (below_ofBits (n := 53) hdec (fun h => (h rfl).elim) (by norm_num)).mono (by norm_num)
  · obtain ⟨s, h, hu⟩ := ofDyadic_whole_unpack neg hk0 hk
    rw [hu]
    show totalExponent _ _ ≤ 53
    have hlog : k.log2 ≤ 52 := Nat.le_of_lt_succ ((Nat.log2_lt (by omega)).2 (by omega))
    simp only [totalExponent]
    rw [log2_mul_two_pow (Nat.ne_of_gt hk0)]
    omega

/-- Rounding half away from zero moves the leading digit at most to the units place's
neighbour: a value that is not whole is below `2 ^ 52`, so its rounding is at most
`2 ^ 52`. -/
theorem below_roundHalfAway {n : Int} {x : Float} (hx : Below n x.toModel.unpack) :
    Below (max n 53) x.roundHalfAway.toModel.unpack := by
  unfold Float.roundHalfAway
  cases hv : x.value with
  | finite d =>
    dsimp only
    split
    · exact hx.mono (le_max_left _ _)
    · rename_i hw
      have hexp : d.exp < 0 := by
        simp only [Dyadic.isWhole, Bool.or_eq_true, decide_eq_true_eq, not_or] at hw
        omega
      have hmant := decode_mant_lt hv
      obtain ⟨k, hk, hkle⟩ := roundHalfAway_of_neg hexp
      rw [hk]
      exact (below_ofDyadic_whole d.neg (by omega)).mono (le_max_right _ _)
  | infinite => exact hx.mono (le_max_left _ _)
  | nan => exact hx.mono (le_max_left _ _)

/-! ## Canonical floats -/

theorem BinaryValue.exists_of_isFinite {v : BinaryValue} (h : v.isFinite = true) :
    ∃ d, v = .finite d := by
  cases v <;> simp_all [BinaryValue.isFinite]

theorem ScaleFactor.finite_of_mul {x f : Float} {dx : Dyadic} (hx : x.value = .finite dx)
    (hm : dx.mant ≠ 0) (hf : ScaleFactor f.toModel.unpack) (hs : (x * f).value.isFinite = true) :
    ∃ mf ef hmf, f.toModel.unpack = .finite .positive mf ef hmf ∧ mf.log2 = 52 ∧ -52 ≤ ef := by
  rcases hf with hinf | h
  · obtain ⟨sx, hmx, hxeq⟩ :=
      toBinaryValue_eq_finite ((value_eq_toBinaryValue x).symm.trans hx) hm
    rw [value_eq_toBinaryValue, mul_unpack, hxeq, hinf] at hs
    simp [UnpackedFloat.mul, UnpackedFloat.pack, unpack_packedInfinity, toBinaryValue,
      BinaryValue.isFinite] at hs
  · exact h

/-- Scaling a value that is not whole by a power of ten, rounding and scaling back gives a
finite value whenever the scaled one is finite: the factor is at least one, so the
quotient stays within a few binary places of the original. -/
theorem isFinite_rescaled {x : Float} {d : Dyadic} {places : Nat} (hp : places < 2 ^ 31)
    (hx : x.value = .finite d) (hw : d.isWhole = false)
    (hs : (x * Float.powInt 10.0 (decimalExponent places)).value.isFinite = true) :
    ((x * Float.powInt 10.0 (decimalExponent places)).roundHalfAway /
      Float.powInt 10.0 (decimalExponent places)).value.isFinite = true := by
  have hscale := scaleFactor_powInt_ten hp
  generalize Float.powInt 10.0 (decimalExponent places) = f at hs hscale ⊢
  have hxb := below_of_not_whole hx hw
  have hm : d.mant ≠ 0 := by
    rintro h0
    simp [Dyadic.isWhole, h0] at hw
  obtain ⟨mf, ef, hmf, hfeq, hlog, hef⟩ := ScaleFactor.finite_of_mul hx hm hscale hs
  have hte : 1 ≤ totalExponent mf ef := by
    simp only [totalExponent]
    omega
  have hfb : Below (totalExponent mf ef) f.toModel.unpack := by
    rw [hfeq]
    exact le_refl _
  rcases unpack_pack_below (mul_below hxb hfb) with ⟨s, hinf⟩ | hsb
  · rw [value_eq_toBinaryValue, mul_unpack, hinf] at hs
    simp [toBinaryValue, BinaryValue.isFinite] at hs
  · have hr := below_roundHalfAway (x := x * f) (by rw [mul_unpack]; exact hsb)
    have hq := div_below (s := .positive) (e := ef) hmf hr
    rw [value_eq_toBinaryValue, div_unpack, hfeq]
    refine isFinite_toBinaryValue (unpack_pack_below_of_le (n := 55) (hq.mono ?_) (by norm_num))
    omega

theorem maxPrecision_lt : maxPrecision < 2 ^ 31 := by
  unfold maxPrecision
  norm_num

theorem canonicalFloat_eq_ok {x : Float} {places : Nat} {t : String}
    (h : canonicalFloat x places = .ok t) :
    t = "0" ∨ ∃ y d, y.value = .finite d ∧ t = trimFraction (fixedText y places) := by
  rcases canonicalFloat_eq_ok_inv h with h0 | ⟨hprec, dx, hx, ⟨-, -, ht⟩ | ⟨hw, hs, -, ht⟩⟩
  · exact .inl h0
  · exact .inr ⟨x, dx, hx, ht⟩
  · obtain ⟨dy, hdy⟩ :=
      BinaryValue.exists_of_isFinite (isFinite_rescaled (hprec.trans_lt maxPrecision_lt) hx hw hs)
    exact .inr ⟨_, dy, hdy, ht⟩

end CapsuleFlow
