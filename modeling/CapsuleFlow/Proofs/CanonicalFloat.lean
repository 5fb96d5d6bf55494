import Mathlib
import CapsuleFlow.Proofs.FloatError
import CapsuleFlow.Proofs.CanonicalWellFormed

/-!
# Canonical float text: when it exists and how it reads

`canonicalFloat` fails on a finite value only when scaling by the power of ten
overflows, or past the places the formatter takes. A value that is not whole lies below
`2 ^ 52`, and the computed power `10 ^ d` is within `(1 + 2 ^ -52) ^ d` of the exact one
(`Unpacked.mag_powInt_ten_le`), so the scaled value stays finite up to `292` places
(`canonicalFloat_exists`). The bound is exact. The computed power is also at least `10 ^ d`
less `d` roundings (`Unpacked.reaches_powInt_ten`), so from `293` places on the largest value
below `2 ^ 52` with a fraction overflows (`canonicalFloat_overflows_at_293`), and from
`2 ^ 31` places on, where the formatter refuses, even `1` has no text
(`canonicalFloat_fails_past_292`).

The text is a plain decimal (`PlainDecimal`): an optional minus sign, a whole part
without leading zeros, and a fraction of at most `d` digits ending in a nonzero digit,
never a negative zero (`canonicalFloat_plain`). Trimming gives the last digit
(`trimFraction_fraction`). The sign never stands on a zero because the value written is
more than half a unit in the last place (`canonicalFloat_eq_ok_half`): a whole value is
at least one, and a scaled value rounded to a nonzero whole number and divided back by
the power of ten loses only a few units of `2 ^ -52` (`Unpacked.div_normal_bounds`).
-/

open Float.Model Float.Model.UnpackedFloat CapsuleFlow.Unpacked

namespace CapsuleFlow

open Json.Grammar

/-! ## Existence -/

/-- Up to `292` places the power of ten is a finite normal value below `2 ^ 971`: the
exact `10 ^ 292` is about `2 ^ 970.003`, and the roundings of the powers add less than a
part in `2 ^ 40`. -/
theorem powInt_ten_below {d : Nat} (hd : d ≤ 292) :
    ∃ m e h, (Float.powInt 10.0 (decimalExponent d)).toModel.unpack = .finite .positive m e h ∧
      m.log2 = 52 ∧ totalExponent m e ≤ 971 := by
  have hmag := mag_powInt_ten_le (d := d) (by omega)
  have hg := one_le_growth
  have hbound : (10 * growth) ^ d < 2 ^ 971 := by
    have hg292 : growth ^ 292 * (1 - 292 / 2 ^ 52) ≤ 1 := by
      simpa using growth_pow_mul_le 292
    have hnum : (10 : ℚ) ^ 292 * 2 ^ 52 + 2 ^ 971 * 292 < 2 ^ 971 * 2 ^ 52 := by
      exact_mod_cast (by decide +kernel : 10 ^ 292 * 2 ^ 52 + 2 ^ 971 * 292 < 2 ^ 971 * 2 ^ 52)
    have hApos : (0 : ℚ) < 10 ^ 292 := by positivity
    have hBpos : (0 : ℚ) < 2 ^ 971 := by positivity
    calc (10 * growth) ^ d ≤ (10 * growth) ^ 292 := pow_le_pow_right₀ (by linarith) hd
      _ = 10 ^ 292 * growth ^ 292 := mul_pow _ _ _
      _ < 2 ^ 971 := by
        generalize (10 : ℚ) ^ 292 = A at hnum hApos ⊢
        generalize (2 : ℚ) ^ 971 = B at hnum hBpos ⊢
        have hA : A < B * (1 - 292 / 2 ^ 52) := by linarith
        have hG : 0 < growth ^ 292 := by positivity
        calc A * growth ^ 292 < B * (1 - 292 / 2 ^ 52) * growth ^ 292 := by gcongr
          _ = B * (growth ^ 292 * (1 - 292 / 2 ^ 52)) := by ring
          _ ≤ B * 1 := by gcongr
          _ = B := mul_one B
  rcases scaleFactor_powInt_ten (d := d) (by omega) with hinf | ⟨m, e, h, heq, hlog, he⟩
  · rw [hinf, mag_infinity] at hmag
    have : (2 : ℚ) ^ 971 ≤ 2 ^ 1024 := pow_le_pow_right₀ (by norm_num) (by norm_num)
    exact absurd (lt_of_le_of_lt hmag hbound) (not_lt.2 this)
  · refine ⟨m, e, h, heq, hlog, ?_⟩
    rw [heq, mag_finite] at hmag
    have hlead : (2 : ℚ) ^ ((m.log2 : Int) + e) < 2 ^ (971 : Int) := by
      rw [zpow_add₀ (by norm_num), zpow_natCast]
      calc (2 : ℚ) ^ m.log2 * 2 ^ e ≤ m * 2 ^ e := by
            gcongr
            exact_mod_cast Nat.log2_self_le (Nat.ne_of_gt h)
        _ < _ := by
          rw [show (2 : ℚ) ^ (971 : Int) = 2 ^ (971 : Nat) from zpow_natCast 2 971]
          exact lt_of_le_of_lt hmag hbound
    have := (zpow_lt_zpow_iff_right₀ (by norm_num : (1 : ℚ) < 2)).1 hlead
    simp only [totalExponent]
    omega

/-- A value that is not whole, scaled by the power of ten for at most `292` places, is
finite: it lies below `2 ^ 52`, the factor below `2 ^ 971`, and the rounded product below
`2 ^ 1024`. -/
theorem scaled_isFinite {x : Float} {dx : Dyadic} (hx : x.value = .finite dx)
    (hw : dx.isWhole = false) {d : Nat} (hd : d ≤ 292) :
    (x * Float.powInt 10.0 (decimalExponent d)).value.isFinite = true := by
  obtain ⟨mf, ef, hf, hfeq, hlog, hte⟩ := powInt_ten_below hd
  have hxb := below_of_not_whole hx hw
  have hm : dx.mant ≠ 0 := by
    rintro h0
    simp [Dyadic.isWhole, h0] at hw
  obtain ⟨sx, hmx, hxeq⟩ :=
    toBinaryValue_eq_finite ((value_eq_toBinaryValue x).symm.trans hx) hm
  rw [hxeq] at hxb
  simp only [Below, totalExponent] at hxb hte
  rw [value_eq_toBinaryValue, mul_unpack, hxeq, hfeq]
  show (toBinaryValue (UnpackedFloat.unpack Format.binary64 (UnpackedFloat.pack Format.binary64
    (roundWithAccuracy Format.binary64 (sx * .positive) (dx.mant * mf) (dx.exp + ef) .exact)))).isFinite = true
  have hc : 52 ≤ (dx.mant * mf).log2 := by
    have := log2_add_le_mul hm (Nat.ne_of_gt hf)
    omega
  have hfirst : (shiftToTargetExponent Format.binary64 (dx.mant * mf) (dx.exp + ef) .exact).2 ≤ 970 := by
    rw [first_exponent_of_wide _ (.inl hc)]
    have := log2_mul_le hm (Nat.ne_of_gt hf)
    omega
  rw [(unpack_pack_rounded _ _ (.inl hc)).2 hfirst]
  exact isFinite_roundWithAccuracy _ _ _ _

theorem exists_bind_text {R : Except CanonError Float} {d : Nat} (hd : d ≤ maxPrecision)
    (h : ∃ y, R = .ok y) :
    ∃ t, R.bind (fun rounded =>
      if rounded == 0.0 then .ok "0"
      else if maxPrecision < d then .error (.precision d)
      else .ok (trimFraction (fixedText rounded d))) = .ok t := by
  obtain ⟨y, rfl⟩ := h
  by_cases h0 : (y == 0.0) = true
  · exact ⟨"0", by simp [Except.bind, h0]⟩
  · exact ⟨trimFraction (fixedText y d), by simp [Except.bind, h0, Nat.not_lt.mpr hd]⟩

/-- Every finite value has a canonical text to at most `292` places. -/
theorem canonicalFloat_exists {x : Float} (hx : x.value.isFinite = true) {d : Nat}
    (hd : d ≤ 292) : ∃ t, canonicalFloat x d = .ok t := by
  obtain ⟨dx, hdx⟩ := BinaryValue.exists_of_isFinite hx
  unfold canonicalFloat
  rw [hdx]
  dsimp only
  refine exists_bind_text (hd.trans (by unfold maxPrecision; norm_num)) ?_
  by_cases h0 : (dx.mant == 0) = true
  · rw [if_pos h0, if_pos isWhole_zero]
    exact ⟨_, rfl⟩
  rw [if_neg h0]
  by_cases hw : x.isWhole = true
  · exact ⟨_, if_pos hw⟩
  rw [if_neg hw]
  have hwd : dx.isWhole = false := by
    simpa [Float.isWhole, hdx] using hw
  obtain ⟨ds, hds⟩ := BinaryValue.exists_of_isFinite (scaled_isFinite hdx hwd hd)
  rw [hds]
  exact ⟨_, if_pos rfl⟩

/-- At `292` places even the largest value below `2 ^ 52` with a fraction has a text. -/
theorem canonicalFloat_exists_at_292 :
    (4503599627370495.5 : Float).value.isFinite = true ∧ (292 : Nat) ≤ 292 ∧
      ∃ t, canonicalFloat 4503599627370495.5 292 = .ok t :=
  ⟨by decide +kernel, le_rfl, canonicalFloat_exists (by decide +kernel) le_rfl⟩

/-- At `293` places the largest value below `2 ^ 52` with a fraction overflows when scaled,
so it has no canonical text. -/
theorem canonicalFloat_overflows_at_293 :
    (4503599627370495.5 : Float).value.isFinite = true ∧
      (canonicalFloat 4503599627370495.5 293).isOk = false := by
  decide +kernel

theorem largest_fraction_scaled_overflows {d : Nat} (h293 : 293 ≤ d) (hd : d < 2 ^ 31) :
    ((4503599627370495.5 : Float) * Float.powInt 10.0 (decimalExponent d)).value.isFinite =
      false := by
  have hx : (4503599627370495.5 : Float).toModel.unpack =
      .finite .positive 9007199254740991 (-1) (by decide) := rfl
  have hs := shrink_pos
  have hbase : 1 ≤ 10 * shrink := by rw [shrink]; norm_num
  have hpow : (10 : ℚ) ^ 293 * (1 - 293 / 2 ^ 52) ≤ (10 * shrink) ^ d :=
    calc (10 : ℚ) ^ 293 * (1 - 293 / 2 ^ 52) ≤ 10 ^ 293 * shrink ^ 293 := by
          gcongr
          exact_mod_cast one_sub_le_shrink_pow 293
      _ = (10 * shrink) ^ 293 := (mul_pow _ _ _).symm
      _ ≤ (10 * shrink) ^ d := pow_le_pow_right₀ hbase h293
  refine Reaches.not_finite (Reaches.mono (Reaches.mul (.inr ⟨_, _, by decide, hx, by decide,
    by decide⟩) (scaleFactor_powInt_ten hd) (.inr le_rfl) (reaches_powInt_ten hd)
    (by positivity)) ?_)
  rw [hx, mag_finite]
  calc (2 : ℚ) ^ 1024 = (2 ^ 128) ^ 8 := by rw [← pow_mul]
    _ ≤ 9007199254740991 * 2 ^ (-1 : Int) * ((10 ^ 100) ^ 2 * 10 ^ 93 * (1 - 293 / 2 ^ 52)) *
        shrink := by rw [shrink]; norm_num
    _ = 9007199254740991 * 2 ^ (-1 : Int) * (10 ^ 293 * (1 - 293 / 2 ^ 52)) * shrink := by
        rw [← pow_mul, ← pow_add]
    _ ≤ _ := mul_le_mul_of_nonneg_right (mul_le_mul_of_nonneg_left hpow (by positivity)) hs.le

/-- Past `292` places some finite value has no canonical text, so the bound of `292` places
is exact. Below `2 ^ 31` places the largest value under `2 ^ 52` with a fraction overflows
when scaled; from `2 ^ 31` places on, past what the formatter takes, even `1` fails. -/
theorem canonicalFloat_fails_past_292 {d : Nat} (hd : 292 < d) :
    ∃ x : Float, x.value.isFinite = true ∧ ∀ t, canonicalFloat x d ≠ .ok t := by
  by_cases hsmall : d < 2 ^ 31
  · refine ⟨4503599627370495.5, rfl, fun t h => ?_⟩
    rw [canonicalFloat_overflow rfl rfl (largest_fraction_scaled_overflows hd hsmall)] at h
    cases h
  · refine ⟨1, rfl, fun t h => ?_⟩
    rw [canonicalFloat_whole (d := ⟨false, 4503599627370496, -52⟩) (by decide) (by decide) (by decide)
      rfl,
      if_pos (by unfold maxPrecision; omega)] at h
    cases h

/-! ## Plain decimal text -/

/-- Plain decimal text with at most `places` digits after the point: an optional minus
sign, a whole part that is `0` or has no leading zero, and an optional point followed by
digits of which the last is not `0`; the minus sign never stands on `0`. Such text has no
exponent, no trailing zeros and no bare point. -/
def PlainDecimal (places : Nat) (cs : List Char) : Prop :=
  ∃ sign whole frac, cs = sign ++ whole ++ frac ∧ (sign = [] ∨ sign = ['-']) ∧ IntegerPart whole ∧
    (frac = [] ∨ ∃ ds, frac = '.' :: ds ∧ Digits ds ∧ ds.length ≤ places ∧ ds.getLast? ≠ some '0') ∧
    (sign = ['-'] → frac = [] → whole ≠ ['0'])

theorem plainDecimal_zero (places : Nat) : PlainDecimal places ['0'] :=
  ⟨[], ['0'], [], rfl, .inl rfl, .inl rfl, .inl rfl, fun h => absurd h (by simp)⟩

/-- Trimming a point and digits keeps a prefix of the digits that ends in a nonzero digit,
with the point, or drops the point when the digits are all zeros. -/
theorem trimFraction_fraction {pre frac : List Char} (hpre : ∀ c ∈ pre.getLast?, c ≠ '.')
    (hfrac : ∀ c ∈ frac, c.isDigit) :
    ∃ ds, ds <+: frac ∧ ds.getLast? ≠ some '0' ∧ (ds = [] → ∀ c ∈ frac, c = '0') ∧
      (trimFraction (String.ofList (pre ++ '.' :: frac))).toList =
        pre ++ (if ds = [] then [] else '.' :: ds) := by
  have hmem : '.' ∈ pre ++ '.' :: frac := by simp
  rw [trimFraction_toList, String.toList_ofList, if_pos hmem]
  have hrev : (pre ++ '.' :: frac).reverse = frac.reverse ++ '.' :: pre.reverse := by simp
  have hkeep : pre.reverse.dropWhile (· == '.') = pre.reverse := by
    cases hp : pre.reverse with
    | nil => rfl
    | cons c r =>
      have hc : c ∈ pre.getLast? := by rw [← List.head?_reverse, hp]; rfl
      simp [hpre c hc]
  refine ⟨(frac.reverse.dropWhile (· == '0')).reverse, ?_, ?_, ?_, ?_⟩
  · rw [← List.reverse_suffix, List.reverse_reverse]
    exact List.dropWhile_suffix _
  · rw [List.getLast?_reverse]
    intro h
    have := List.head?_dropWhile_not (· == '0') frac.reverse
    rw [h] at this
    simp at this
  · intro h c hc
    rw [List.reverse_eq_nil_iff, List.dropWhile_eq_nil_iff] at h
    simpa using h c (List.mem_reverse.2 hc)
  · rw [hrev, List.dropWhile_append]
    cases hR : frac.reverse.dropWhile (· == '0') with
    | nil => simp [hkeep]
    | cons c R =>
      have hc : c ∈ frac := by
        have : c ∈ frac.reverse.dropWhile (· == '0') := by rw [hR]; exact List.mem_cons_self
        exact List.mem_reverse.1 ((List.dropWhile_suffix _).subset this)
      have hcp : (c == '.') = false := by
        have := hfrac c hc
        revert this
        generalize c = c'
        intro h
        simp only [beq_eq_false_iff_ne]
        rintro rfl
        exact absurd h (by decide)
      simp [hcp]

theorem roundHalfEven_ne_zero {num den : Nat} (h : den < 2 * num) :
    BinaryFormat.roundHalfEven num den ≠ 0 := by
  simp only [BinaryFormat.roundHalfEven]
  split
  · exact Nat.succ_ne_zero _
  · rename_i hr
    intro ht
    have hmod : num % den = num := by
      have := Nat.div_add_mod num den
      rw [ht, Nat.mul_zero, Nat.zero_add] at this
      exact this
    simp only [Bool.or_eq_true, decide_eq_true_eq, Bool.and_eq_true, beq_iff_eq, not_or] at hr
    omega

theorem fixedScaled_ne_zero {d : Dyadic} {places : Nat}
    (hhalf : (1 : ℚ) / 2 < d.mant * 2 ^ d.exp * 10 ^ places) :
    Decimal.fixedScaled d (min places (if d.exp < 0 then (-d.exp).toNat else 0)) ≠ 0 := by
  have hm : d.mant ≠ 0 := by
    rintro h
    rw [h] at hhalf
    norm_num at hhalf
  unfold Decimal.fixedScaled
  simp only [Nat.pow_eq]
  split
  · exact Nat.mul_ne_zero (Nat.mul_ne_zero hm (by positivity)) (by positivity)
  · rename_i hexp
    rw [if_pos (by omega)]
    apply roundHalfEven_ne_zero
    by_cases hle : places ≤ (-d.exp).toNat
    · rw [Nat.min_eq_left hle]
      have h2 : (2 : ℚ) ^ d.exp = 1 / 2 ^ (-d.exp).toNat := by
        generalize hk : (-d.exp).toNat = k
        rw [show d.exp = -(k : Int) by omega, zpow_neg, zpow_natCast, one_div]
      rw [h2] at hhalf
      have hpos : (0 : ℚ) < 2 ^ (-d.exp).toNat := by positivity
      have : ((2 ^ (-d.exp).toNat : Nat) : ℚ) < ((2 * (d.mant * 10 ^ places) : Nat) : ℚ) := by
        push_cast
        rw [mul_one_div, div_mul_eq_mul_div, lt_div_iff₀ hpos] at hhalf
        linarith
      exact_mod_cast this
    · rw [Nat.min_eq_right (by omega)]
      have h1 : 2 ^ (-d.exp).toNat ≤ 10 ^ (-d.exp).toNat := Nat.pow_le_pow_left (by norm_num) _
      have h2 : 10 ^ (-d.exp).toNat ≤ d.mant * 10 ^ (-d.exp).toNat :=
        Nat.le_mul_of_pos_left _ (Nat.pos_of_ne_zero hm)
      have h3 : 0 < 10 ^ (-d.exp).toNat := by positivity
      omega

theorem plainDecimal_trimFraction_fixedText {y : Float} {d : Dyadic} (hy : y.value = .finite d)
    {places : Nat} (hhalf : (1 : ℚ) / 2 < d.mant * 2 ^ d.exp * 10 ^ places) :
    PlainDecimal places (trimFraction (fixedText y places)).toList := by
  obtain ⟨whole, frac, hne, hwhole, h0, hfrac, hlen, hnz, ht⟩ := fixedText_finite_toList hy places
  have hint : IntegerPart whole := h0.imp_right fun h => ⟨⟨hne, hwhole⟩, h⟩
  obtain ⟨c, hc, hc0⟩ := hnz (fixedScaled_ne_zero hhalf)
  have hsign : (if d.neg then ['-'] else []) = [] ∨ (if d.neg then ['-'] else []) = ['-'] := by
    cases d.neg <;> simp
  by_cases hp : places = 0
  · rw [if_pos hp, List.append_nil] at ht
    rw [trimFraction_of_not_mem (by rw [ht]; exact point_not_mem_signed d.neg hwhole), ht]
    have hfrac0 : frac = [] := List.eq_nil_of_length_eq_zero (hlen.trans hp)
    refine ⟨_, whole, [], by simp, hsign, hint, .inl rfl, fun _ _ hw0 => ?_⟩
    rw [hfrac0, List.append_nil, hw0, List.mem_singleton] at hc
    exact hc0 hc
  · rw [if_neg hp] at ht
    have hlast : ∀ c ∈ ((if d.neg then ['-'] else []) ++ whole).getLast?, c ≠ '.' := by
      rintro c hc rfl
      rw [List.getLast?_append_of_ne_nil _ hne] at hc
      exact absurd (hwhole '.' (List.mem_of_getLast? hc)) (by decide)
    obtain ⟨ds, hpre, hds0, hdsnil, htrim⟩ := trimFraction_fraction hlast hfrac
    have htext : fixedText y places =
        String.ofList (((if d.neg then ['-'] else []) ++ whole) ++ '.' :: frac) := by
      rw [← ht, String.ofList_toList]
    rw [htext, htrim]
    by_cases hdn : ds = []
    · rw [if_pos hdn]
      refine ⟨_, whole, [], by simp, hsign, hint, .inl rfl, fun _ _ hw0 => ?_⟩
      rcases List.mem_append.1 hc with hcw | hcf
      · rw [hw0, List.mem_singleton] at hcw
        exact hc0 hcw
      · exact hc0 (hdsnil hdn c hcf)
    · rw [if_neg hdn]
      refine ⟨_, whole, '.' :: ds, by simp, hsign, hint,
        .inr ⟨ds, rfl, ⟨hdn, fun c hc => hfrac c (hpre.subset hc)⟩, ?_, hds0⟩,
        fun _ h => absurd h (by simp)⟩
      exact hpre.length_le.trans hlen.le

/-! ## The value written is more than half a unit -/

theorem one_le_of_isWhole {d : Dyadic} (hw : d.isWhole = true) (hm : d.mant ≠ 0) :
    (1 : ℚ) ≤ d.mant * 2 ^ d.exp := by
  have hm1 : (1 : ℚ) ≤ d.mant := by exact_mod_cast Nat.one_le_iff_ne_zero.2 hm
  by_cases hexp : 0 ≤ d.exp
  · exact one_le_mul_of_one_le_of_one_le hm1 (one_le_zpow₀ (by norm_num) hexp)
  · have hdiv : d.mant % 2 ^ (-d.exp).toNat = 0 := by
      simpa [Dyadic.isWhole, hexp, Nat.pow_eq] using hw
    obtain ⟨j, hj⟩ := Nat.dvd_of_mod_eq_zero hdiv
    have hj1 : (1 : ℚ) ≤ j := by
      refine Nat.one_le_cast.2 (Nat.one_le_iff_ne_zero.2 ?_)
      rintro rfl
      exact hm (by simpa using hj)
    generalize hk : (-d.exp).toNat = k at hj
    rw [show d.exp = -(k : Int) by omega, hj, zpow_neg, zpow_natCast]
    push_cast
    have hpos : (0 : ℚ) < 2 ^ k := by positivity
    rw [mul_comm ((2 : ℚ) ^ k) j, mul_assoc, mul_inv_cancel₀ hpos.ne', mul_one]
    exact hj1

theorem roundHalfAway_unpack_cases {z : Float} (hz : z.value.isFinite = true) :
    (∃ s, z.roundHalfAway.toModel.unpack = .zero s) ∨
      ∃ s m e h, z.roundHalfAway.toModel.unpack = .finite s m e h ∧ 1 ≤ (m : ℚ) * 2 ^ e := by
  obtain ⟨dz, hdz⟩ := BinaryValue.exists_of_isFinite hz
  have hv := (value_eq_toBinaryValue z).symm.trans hdz
  unfold Float.roundHalfAway
  rw [hdz]
  dsimp only
  split
  · rename_i hw
    by_cases hm : dz.mant = 0
    · exact .inl (eq_zero_of_toBinaryValue hv hm)
    · obtain ⟨s, h, hu⟩ := toBinaryValue_eq_finite hv hm
      exact .inr ⟨s, _, _, h, hu, one_le_of_isWhole hw hm⟩
  · rename_i hw
    have hexp : dz.exp < 0 := by
      simp only [Dyadic.isWhole, Bool.or_eq_true, decide_eq_true_eq, not_or] at hw
      omega
    have hmant := decode_mant_lt hdz
    obtain ⟨k, hk, hkle⟩ := roundHalfAway_of_neg hexp
    rw [hk]
    rcases Nat.eq_zero_or_pos k with rfl | hk0
    · left
      generalize dz.neg = neg
      cases neg
      · exact ⟨.positive, rfl⟩
      · exact ⟨.negative, rfl⟩
    · obtain ⟨s, h, hu⟩ := ofDyadic_whole_unpack dz.neg hk0 (by omega)
      refine .inr ⟨s, _, _, h, hu, ?_⟩
      have hlog : k.log2 ≤ 52 := Nat.le_of_lt_succ ((Nat.log2_lt (by omega)).2 (by omega))
      have hval : ((k * 2 ^ (52 - k.log2) : Nat) : ℚ) * 2 ^ ((k.log2 : Int) - 52) = k := by
        rw [show (k.log2 : Int) - 52 = -((52 - k.log2 : Nat) : Int) by omega, zpow_neg,
          zpow_natCast]
        push_cast
        field_simp
      rw [hval]
      exact_mod_cast hk0

theorem unpack_ne_zero_of_beq {y : Float} (hy : ¬(y == 0.0) = true) (s : Sign) :
    y.toModel.unpack ≠ .zero s := by
  intro h
  apply hy
  have h0 : (0.0 : Float).toModel.unpack = .zero .positive := rfl
  show y.toModel.unpack.beq (0.0 : Float).toModel.unpack = true
  rw [h, h0]
  cases s <;> rfl

theorem half_lt_of_whole {y : Float} {d : Dyadic} (hy : y.value = .finite d)
    (hw : d.isWhole = true) (hy0 : ¬(y == 0.0) = true) (places : Nat) :
    (1 : ℚ) / 2 < d.mant * 2 ^ d.exp * 10 ^ places := by
  have hm : d.mant ≠ 0 := by
    intro h0
    obtain ⟨s, hs⟩ := eq_zero_of_toBinaryValue ((value_eq_toBinaryValue y).symm.trans hy) h0
    exact unpack_ne_zero_of_beq hy0 s hs
  have h1 := one_le_of_isWhole hw hm
  have h10 : (1 : ℚ) ≤ 10 ^ places := one_le_pow₀ (by norm_num)
  nlinarith

/-- The arithmetic of a rescaled quotient: a quotient `Y` of `K ≥ 1` by `F`, short of
`K / F` by at most two units of `2 ^ -52` and two of `E`, where `E F` is tiny, and a
factor `F` within `growth ^ p` of `10 ^ p`, give `Y 10 ^ p > 1 / 2`. -/
theorem half_lt_of_quotient {K F Y E : ℚ} {p : Nat} (hp : p < 2 ^ 31) (hK : 1 ≤ K) (hF0 : 0 < F)
    (hE0 : 0 ≤ E) (hEF : E * F ≤ 1 / 2 ^ 50) (hfp : F ≤ (10 * growth) ^ p)
    (hlow : K / F - 2 * max (K / F / 2 ^ 52) E ≤ Y) (hY0 : 0 ≤ Y) : 1 / 2 < Y * 10 ^ p := by
  have hYF : 1 - 1 / 2 ^ 48 ≤ Y * F := by
    have hKF : K / F * F = K := div_mul_cancel₀ K hF0.ne'
    have hmax : max (K / F / 2 ^ 52) E ≤ K / F / 2 ^ 52 + E :=
      max_le_add_of_nonneg (div_nonneg (div_nonneg (by linarith) hF0.le) (by positivity)) hE0
    have h1 : (K / F - 2 * (K / F / 2 ^ 52 + E)) * F ≤ Y * F :=
      mul_le_mul_of_nonneg_right (by linarith) hF0.le
    have h2 : (K / F - 2 * (K / F / 2 ^ 52 + E)) * F = K - 2 * K / 2 ^ 52 - 2 * (E * F) := by
      calc _ = K / F * F - 2 * (K / F * F) / 2 ^ 52 - 2 * (E * F) := by ring
        _ = _ := by rw [hKF]
    rw [h2] at h1
    linarith
  have hten : F * (1 - 1 / 2 ^ 21) ≤ 10 ^ p := by
    have hpq : (p : ℚ) / 2 ^ 52 ≤ 1 / 2 ^ 21 := by
      have : (p : ℚ) < 2 ^ 31 := by exact_mod_cast hp
      rw [div_le_div_iff₀ (by positivity) (by positivity)]
      linarith
    calc F * (1 - 1 / 2 ^ 21) ≤ F * (1 - p / 2 ^ 52) := by gcongr
      _ ≤ (10 * growth) ^ p * (1 - p / 2 ^ 52) := by
          gcongr
          linarith
      _ = 10 ^ p * (growth ^ p * (1 - p / 2 ^ 52)) := by rw [mul_pow]; ring
      _ ≤ 10 ^ p * 1 := by gcongr; exact growth_pow_mul_le p
      _ = 10 ^ p := mul_one _
  calc (1 : ℚ) / 2 < (1 - 1 / 2 ^ 48) * (1 - 1 / 2 ^ 21) := by norm_num
    _ ≤ Y * F * (1 - 1 / 2 ^ 21) := by gcongr
    _ = Y * (F * (1 - 1 / 2 ^ 21)) := by ring
    _ ≤ Y * 10 ^ p := by gcongr

theorem half_lt_div {k f : Float} {p : Nat} (hp : p < 2 ^ 31) {sk : Sign} {mk : Nat} {ek : Int}
    {hk0 : 0 < mk} (hk : k.toModel.unpack = .finite sk mk ek hk0) (hk1 : 1 ≤ (mk : ℚ) * 2 ^ ek)
    {mf : Nat} {ef : Int} {hf0 : 0 < mf} (hf : f.toModel.unpack = .finite .positive mf ef hf0)
    (hlog : mf.log2 = 52) (hfp : (mf : ℚ) * 2 ^ ef ≤ (10 * growth) ^ p)
    {dy : Dyadic} (hy : (k / f).value = .finite dy) :
    (1 : ℚ) / 2 < dy.mant * 2 ^ dy.exp * 10 ^ p := by
  have hklog : mk.log2 = 52 := by
    obtain ⟨hm53, -, hshape⟩ := unpack_finite_shape hk
    refine hshape.resolve_right fun h => ?_
    have hmq : (mk : ℚ) < 2 ^ 53 := by exact_mod_cast hm53
    rw [h] at hk1
    have hlt : (mk : ℚ) * 2 ^ (-1074 : Int) < 1 := by
      calc (mk : ℚ) * 2 ^ (-1074 : Int) < 2 ^ 53 * 2 ^ (-1074 : Int) := by gcongr
        _ = 2 ^ (-1021 : Int) := by
          rw [← zpow_natCast, ← zpow_add₀ two_ne_zero]
          norm_num
        _ ≤ 1 := zpow_le_one_of_nonpos₀ (by norm_num) (by norm_num)
    linarith
  obtain ⟨s, m, e, acc, hdiv, hc, hlow⟩ := div_normal_bounds sk .positive hk0 hf0 hklog hlog
  have hyu : (k / f).toModel.unpack = roundWithAccuracy Format.binary64 s m e acc := by
    rw [div_unpack, hk, hf, hdiv]
    rcases (unpack_pack_rounded s acc hc).1 with h | h
    · exact h
    · rw [value_eq_toBinaryValue, div_unpack, hk, hf, hdiv, h] at hy
      cases hy
  have hv : toBinaryValue (roundWithAccuracy Format.binary64 s m e acc) = .finite dy := by
    rw [← hyu, ← value_eq_toBinaryValue]
    exact hy
  have hFlt := mag_unpack_lt hf
  rw [mag_finite] at hFlt hlow
  rw [mag_finite] at hlow
  have hEF : (2 : ℚ) ^ (-1074 : Int) * (mf * 2 ^ ef) ≤ 1 / 2 ^ 50 := by
    calc (2 : ℚ) ^ (-1074 : Int) * (mf * 2 ^ ef) ≤ 2 ^ (-1074 : Int) * 2 ^ 1024 := by gcongr
      _ = 1 / 2 ^ 50 := by
        rw [← zpow_natCast, ← zpow_add₀ two_ne_zero]
        norm_num
  rw [← mag_eq_of_toBinaryValue hv]
  refine half_lt_of_quotient hp hk1 (mul_pos (by exact_mod_cast hf0) (two_zpow_pos ef))
    (by positivity) hEF hfp hlow (mag_nonneg _)

theorem half_lt_rescaled {x : Float} {dx : Dyadic} {places : Nat} (hp : places < 2 ^ 31)
    (hx : x.value = .finite dx) (hw : dx.isWhole = false)
    (hs : (x * Float.powInt 10.0 (decimalExponent places)).value.isFinite = true)
    (hy0 : ¬((x * Float.powInt 10.0 (decimalExponent places)).roundHalfAway /
      Float.powInt 10.0 (decimalExponent places) == 0.0) = true) :
    ∃ dy, ((x * Float.powInt 10.0 (decimalExponent places)).roundHalfAway /
        Float.powInt 10.0 (decimalExponent places)).value = .finite dy ∧
      (1 : ℚ) / 2 < dy.mant * 2 ^ dy.exp * 10 ^ places := by
  obtain ⟨dy, hdy⟩ := BinaryValue.exists_of_isFinite (isFinite_rescaled hp hx hw hs)
  refine ⟨dy, hdy, ?_⟩
  have hscale := scaleFactor_powInt_ten hp
  have hfp := mag_powInt_ten_le hp
  generalize Float.powInt 10.0 (decimalExponent places) = f at hs hscale hfp hdy hy0
  have hm : dx.mant ≠ 0 := by
    rintro h0
    simp [Dyadic.isWhole, h0] at hw
  obtain ⟨mf, ef, hmf, hfeq, hlog, -⟩ := ScaleFactor.finite_of_mul hx hm hscale hs
  rw [hfeq, mag_finite] at hfp
  rcases roundHalfAway_unpack_cases hs with ⟨s, hk⟩ | ⟨sk, mk, ek, hmk, hk, hk1⟩
  · exfalso
    apply unpack_ne_zero_of_beq hy0 (s / .positive)
    rw [div_unpack, hk, hfeq]
    exact unpack_pack_zero _
  · exact half_lt_div hp hk hk1 hfeq hlog hfp hdy

/-- A canonical float text is `0`, or a finite value of more than half a unit in the last
place, written to the places and trimmed. -/
theorem canonicalFloat_eq_ok_half {x : Float} {places : Nat} {t : String} (hp : places < 2 ^ 31)
    (h : canonicalFloat x places = .ok t) :
    t = "0" ∨ ∃ y d, y.value = .finite d ∧ (1 : ℚ) / 2 < d.mant * 2 ^ d.exp * 10 ^ places ∧
      t = trimFraction (fixedText y places) := by
  rcases canonicalFloat_eq_ok_inv h with h0 | ⟨-, dx, hx, ⟨hw, hy0, ht⟩ | ⟨hw, hs, hy0, ht⟩⟩
  · exact .inl h0
  · exact .inr ⟨x, dx, hx, half_lt_of_whole hx hw hy0 places, ht⟩
  · obtain ⟨dy, hdy, hhalf⟩ := half_lt_rescaled hp hx hw hs hy0
    exact .inr ⟨_, dy, hdy, hhalf, ht⟩

/-- Canonical float text is a plain decimal with at most `places` digits after the point:
no exponent, no leading zeros, no trailing zeros or bare point, and no negative zero. -/
theorem canonicalFloat_plain {x : Float} {places : Nat} {t : String}
    (h : canonicalFloat x places = .ok t) : PlainDecimal places t.toList := by
  rcases canonicalFloat_eq_ok_inv h with rfl | ⟨hprec, -⟩
  · exact plainDecimal_zero places
  rcases canonicalFloat_eq_ok_half (hprec.trans_lt maxPrecision_lt) h with rfl | ⟨y, d, hy, hhalf, rfl⟩
  · exact plainDecimal_zero places
  · exact plainDecimal_trimFraction_fixedText hy hhalf

/-- Minus five ten-thousandths to three places: the scaled value `-0.5` rounds away from
zero to `-1`, so the text is `-0.001`, not a negative zero. -/
theorem canonicalFloat_plain_of_negative_half :
    canonicalFloat (-0.0005) 3 = .ok (trimFraction (fixedText
        ((-0.0005 * Float.powInt 10.0 (decimalExponent 3)).roundHalfAway /
          Float.powInt 10.0 (decimalExponent 3)) 3)) ∧
      (trimFraction (fixedText ((-0.0005 * Float.powInt 10.0 (decimalExponent 3)).roundHalfAway /
          Float.powInt 10.0 (decimalExponent 3)) 3)).toList = ['-', '0', '.', '0', '0', '1'] ∧
      PlainDecimal 3 (trimFraction (fixedText
        ((-0.0005 * Float.powInt 10.0 (decimalExponent 3)).roundHalfAway /
          Float.powInt 10.0 (decimalExponent 3)) 3)).toList :=
  have h := canonicalFloat_rescaled (by decide) (by decide +kernel) (by decide +kernel)
    (by decide +kernel) (by decide +kernel)
  ⟨h, by rw [trimFraction_toList]; decide +kernel, canonicalFloat_plain h⟩

end CapsuleFlow
