import CapsuleFlow.Canonical

/-!
# The characters of canonical numbers

Canonical number text is a short token: an integer's digits after an optional minus sign,
or a float written to a fixed number of places with trailing zeros and a bare point
dropped, or `0`. A float whose scaled form is not a number writes as `NaN`, `inf` or
`-inf`.

The main result, `NumberToken.of_canonicalNumber`, says every such text is a
`NumberToken`: it starts with a digit, a minus sign, `N` or `i`, and holds nothing but
digits, signs, points and the letters of `NaN` and `inf`. So it never holds a comma, a
closing bracket or a quote, and no other kind of value starts the way it does; this is
what lets canonical text be read back.
-/

namespace CapsuleFlow

/-- A character canonical number text may hold. -/
def numberChar (c : Char) : Bool :=
  c.isDigit || c == '-' || c == '.' || c == 'N' || c == 'a' || c == 'i' || c == 'n' || c == 'f'

/-- A character canonical number text may start with. -/
def numberLead (c : Char) : Bool :=
  c.isDigit || c == '-' || c == 'N' || c == 'i'

theorem numberChar_of_isDigit {c : Char} (h : c.isDigit) : numberChar c := by
  simp [numberChar, h]

/-- The shape of canonical number text. -/
structure NumberToken (t : String) : Prop where
  lead : ∃ c cs, t.toList = c :: cs ∧ numberLead c
  chars : ∀ c ∈ t.toList, numberChar c

theorem NumberToken.of_between {t : String} {pre full : List Char} (hpre : pre.IsPrefix t.toList)
    (hfull : t.toList.IsPrefix full) (hlead : ∃ c cs, pre = c :: cs ∧ numberLead c)
    (hchars : ∀ c ∈ full, numberChar c) : NumberToken t where
  lead := by
    obtain ⟨c, cs, rfl, hc⟩ := hlead
    obtain ⟨u, hu⟩ := hpre
    exact ⟨c, cs ++ u, by rw [← hu]; rfl, hc⟩
  chars c hc := hchars c (hfull.subset hc)

theorem NumberToken.of_chars {t : String} {l : List Char} (ht : t.toList = l)
    (hlead : ∃ c cs, l = c :: cs ∧ numberLead c) (hchars : l.all numberChar) : NumberToken t :=
  .of_between (ht ▸ List.prefix_refl l) (ht ▸ List.prefix_refl l) hlead
    (List.all_eq_true.mp hchars)

/-! ## Signed digit runs -/

theorem toString_nat_toList (n : Nat) : (toString n).toList = Nat.toDigits 10 n := by
  simp [toString, Nat.repr]

theorem isDigit_of_mem_toString {n : Nat} {c : Char} (h : c ∈ (toString n).toList) :
    c.isDigit := by
  rw [toString_nat_toList] at h
  exact Nat.isDigit_of_mem_toDigits (by decide) (by decide) h

theorem toString_nat_ne_nil (n : Nat) : (toString n).toList ≠ [] := by
  rw [toString_nat_toList]
  exact Nat.toDigits_ne_nil

theorem toDigits_head_ne_zero : ∀ n : Nat, n ≠ 0 → (Nat.toDigits 10 n).head? ≠ some '0' := by
  intro n
  induction n using Nat.strongRecOn with
  | ind n ih =>
    intro hn
    by_cases hlt : n < 10
    · rw [Nat.toDigits_of_lt_base hlt]
      have : ∀ m < 10, m ≠ 0 → [Nat.digitChar m].head? ≠ some '0' := by decide
      exact this n hlt hn
    · rw [Nat.toDigits_of_base_le (by decide) (by omega)]
      obtain ⟨x, xs, hx⟩ := List.exists_cons_of_ne_nil (Nat.toDigits_ne_nil (b := 10) (n := n / 10))
      have := ih (n / 10) (by omega) (by omega)
      rw [hx] at this ⊢
      simpa using this

theorem lead_signed (neg : Bool) {digits : List Char} (hne : digits ≠ [])
    (hd : ∀ c ∈ digits, c.isDigit) :
    ∃ c cs, (if neg then ['-'] else []) ++ digits = c :: cs ∧ numberLead c := by
  cases neg with
  | true => exact ⟨'-', digits, rfl, rfl⟩
  | false =>
    obtain ⟨c, cs, rfl⟩ := List.exists_cons_of_ne_nil hne
    exact ⟨c, cs, rfl, by simp [numberLead, hd c (by simp)]⟩

theorem chars_signed (neg : Bool) {digits : List Char} (hd : ∀ c ∈ digits, c.isDigit) :
    ∀ c ∈ (if neg then ['-'] else []) ++ digits, numberChar c := by
  intro c hc
  cases neg with
  | true =>
    rcases List.mem_cons.mp hc with rfl | hc
    · rfl
    · exact numberChar_of_isDigit (hd c hc)
  | false => exact numberChar_of_isDigit (hd c (by simpa using hc))

theorem point_not_mem_signed (neg : Bool) {digits : List Char} (hd : ∀ c ∈ digits, c.isDigit) :
    '.' ∉ (if neg then ['-'] else []) ++ digits := by
  intro h
  cases neg <;> simp at h <;> simpa using hd '.' h

theorem NumberToken.of_signed {t : String} (neg : Bool) {digits : List Char}
    (ht : t.toList = (if neg then ['-'] else []) ++ digits) (hne : digits ≠ [])
    (hd : ∀ c ∈ digits, c.isDigit) : NumberToken t :=
  .of_between (List.prefix_refl _) (List.prefix_refl _) (ht ▸ lead_signed neg hne hd)
    (ht ▸ chars_signed neg hd)

theorem NumberToken.of_int (i : Int) : NumberToken (toString i) := by
  cases i with
  | ofNat n =>
    exact .of_signed false (show (toString n).toList = _ from rfl) (toString_nat_ne_nil n)
      fun _ => isDigit_of_mem_toString
  | negSucc n =>
    have ht : (toString (Int.negSucc n)).toList = ['-'] ++ (toString (n + 1)).toList := by
      rw [show toString (Int.negSucc n) = "-" ++ toString (n + 1) from rfl, String.toList_append]
      rfl
    exact .of_signed true ht (toString_nat_ne_nil _) fun _ => isDigit_of_mem_toString

/-! ## Fixed places and trimming -/

theorem exists_ne_zero_of_toString {n : Nat} (hn : n ≠ 0) : ∃ c ∈ (toString n).toList, c ≠ '0' := by
  have hhead := toDigits_head_ne_zero n hn
  rw [← toString_nat_toList] at hhead
  obtain ⟨c, cs, hcs⟩ := List.exists_cons_of_ne_nil (toString_nat_ne_nil n)
  rw [hcs] at hhead ⊢
  exact ⟨c, List.mem_cons_self, fun h => hhead (by rw [h]; rfl)⟩

/-- The text of a finite value to `places` places: a sign, a nonempty whole part that is
`0` or does not start with `0`, and when `places` is positive a point and a fraction of
exactly `places` digits. The digits are not all zeros when the rounded scaled value is
not zero. -/
theorem fixedText_finite_toList {x : Float} {d : Dyadic} (hx : x.value = .finite d)
    (places : Nat) :
    ∃ whole frac : List Char, whole ≠ [] ∧ (∀ c ∈ whole, c.isDigit) ∧
      (whole = ['0'] ∨ whole.head? ≠ some '0') ∧ (∀ c ∈ frac, c.isDigit) ∧
      frac.length = places ∧
      (Decimal.fixedScaled d (min places (if d.exp < 0 then (-d.exp).toNat else 0)) ≠ 0 →
        ∃ c ∈ whole ++ frac, c ≠ '0') ∧
      (fixedText x places).toList =
        (if d.neg then ['-'] else []) ++ whole ++ (if places = 0 then [] else '.' :: frac) := by
  simp only [fixedText, hx]
  have hused : min places (if d.exp < 0 then (-d.exp).toNat else 0) ≤ places := Nat.min_le_left _ _
  generalize min places (if d.exp < 0 then (-d.exp).toNat else 0) = used at hused ⊢
  have hdig : ∀ c ∈ (toString (Decimal.fixedScaled d used)).toList, c.isDigit :=
    fun c hc => isDigit_of_mem_toString hc
  have hlead : (toString (Decimal.fixedScaled d used)).toList = ['0'] ∨
      (toString (Decimal.fixedScaled d used)).toList.head? ≠ some '0' := by
    rw [toString_nat_toList]
    by_cases h0 : Decimal.fixedScaled d used = 0
    · exact .inl (by rw [h0]; rfl)
    · exact .inr (toDigits_head_ne_zero _ h0)
  have hnz : Decimal.fixedScaled d used ≠ 0 →
      ∃ c ∈ (toString (Decimal.fixedScaled d used)).toList, c ≠ '0' :=
    exists_ne_zero_of_toString
  generalize toString (Decimal.fixedScaled d used) = s at hdig hlead hnz ⊢
  obtain ⟨p, hp, hlen, hpd, hp0, hsub⟩ : ∃ p : String,
      (if s.length ≤ used then zeros (used + 1 - s.length) ++ s else s) = p ∧ used < p.length ∧
        (∀ c ∈ p.toList, c.isDigit) ∧
        (p.toList.take (p.length - used) = ['0'] ∨ p.toList.head? ≠ some '0') ∧
        (∀ c ∈ s.toList, c ∈ p.toList) := by
    split
    · refine ⟨_, rfl, ?_, ?_, .inl ?_, fun c hc => by simp [hc]⟩
      · simp [zeros]
        omega
      · intro c hc
        simp only [zeros, String.toList_append, String.toList_ofList, List.mem_append,
          List.mem_replicate] at hc
        rcases hc with ⟨-, rfl⟩ | hc
        · rfl
        · exact hdig c hc
      · obtain ⟨k, hk⟩ : ∃ k, used + 1 - s.length = k + 1 := ⟨used - s.length, by omega⟩
        have hcut : (zeros (used + 1 - s.length) ++ s).length - used = 1 := by
          simp [zeros]
          omega
        rw [hcut, hk]
        simp [zeros, List.replicate_succ]
    · refine ⟨s, rfl, by omega, hdig, ?_, fun c hc => hc⟩
      rcases hlead with h | h
      · have hs : s.length = 1 := by
          rw [← String.length_toList, h]
          rfl
        left
        rw [hs, h]
        cases used with
        | zero => rfl
        | succ u => omega
      · exact .inr h
  rw [hp]
  refine ⟨p.toList.take (p.length - used),
    p.toList.drop (p.length - used) ++ List.replicate (places - used) '0', ?_,
    fun c hc => hpd c (List.mem_of_mem_take hc), ?_, ?_, ?_, ?_, ?_⟩
  · have hne : p ≠ "" := by
      rintro rfl
      simp at hlen
    simp only [ne_eq, List.take_eq_nil_iff, String.toList_eq_nil_iff, hne, or_false]
    omega
  · rcases hp0 with h | h
    · exact .inl h
    · right
      rw [List.head?_take, if_neg (by omega)]
      exact h
  · intro c hc
    rcases List.mem_append.mp hc with hc | hc
    · exact hpd c (List.mem_of_mem_drop hc)
    · rw [(List.mem_replicate.mp hc).2]
      rfl
  · simp only [List.length_append, List.length_drop, String.length_toList, List.length_replicate]
    omega
  · intro h0
    obtain ⟨c, hc, hc0⟩ := hnz h0
    refine ⟨c, ?_, hc0⟩
    rw [← List.append_assoc, List.take_append_drop]
    exact List.mem_append_left _ (hsub c hc)
  · by_cases h0 : places = 0 <;> cases d.neg <;> simp [h0, zeros]

theorem suffix_dropWhile {p : Char → Bool} {X Y : List Char} (hY : ∀ c ∈ Y.head?, p c = false) :
    Y.IsSuffix ((X ++ Y).dropWhile p) := by
  rw [List.dropWhile_append]
  split
  · cases Y with
    | nil => exact List.nil_suffix
    | cons c Y =>
      have hc : p c = false := hY c rfl
      simp [hc]
  · exact List.suffix_append _ _

theorem trimFraction_of_not_mem {s : String} (h : '.' ∉ s.toList) : trimFraction s = s := by
  simp [trimFraction, String.contains, h]

theorem trimFraction_toList (s : String) :
    (trimFraction s).toList = if '.' ∈ s.toList then
      ((s.toList.reverse.dropWhile (· == '0')).dropWhile (· == '.')).reverse else s.toList := by
  unfold trimFraction
  by_cases h : '.' ∈ s.toList
  · have hc : s.contains '.' = true := by simpa [String.contains] using h
    simp [hc, h]
  · have hc : s.contains '.' = false := by simpa [String.contains] using h
    simp [hc, h]

theorem trimFraction_point (pre frac : List Char) (hpre : ∀ c ∈ pre.getLast?, c ≠ '.') :
    pre.IsPrefix (trimFraction (String.ofList (pre ++ '.' :: frac))).toList ∧
      (trimFraction (String.ofList (pre ++ '.' :: frac))).toList.IsPrefix (pre ++ '.' :: frac) := by
  have hmem : '.' ∈ pre ++ '.' :: frac := by simp
  rw [trimFraction_toList, String.toList_ofList, if_pos hmem]
  rw [← List.reverse_suffix, ← List.reverse_suffix, List.reverse_reverse]
  have hrev : (pre ++ '.' :: frac).reverse = frac.reverse ++ '.' :: pre.reverse := by simp
  rw [hrev]
  constructor
  · have h1 : ('.' :: pre.reverse).IsSuffix
        ((frac.reverse ++ '.' :: pre.reverse).dropWhile (· == '0')) :=
      suffix_dropWhile (by simp)
    obtain ⟨X, hX⟩ := (List.suffix_cons '.' pre.reverse).trans h1
    rw [← hX]
    apply suffix_dropWhile
    intro c hc
    have : c ∈ pre.getLast? := by simpa [List.head?_reverse] using hc
    simpa using hpre c this
  · exact (List.dropWhile_suffix _).trans (List.dropWhile_suffix _)

theorem NumberToken.of_trimFraction_fixedText (y : Float) (places : Nat) :
    NumberToken (trimFraction (fixedText y places)) := by
  cases hy : y.value with
  | nan =>
    rw [show fixedText y places = "NaN" by simp [fixedText, hy], trimFraction_of_not_mem (by decide)]
    exact .of_chars (l := ['N', 'a', 'N']) rfl ⟨'N', _, rfl, rfl⟩ (by decide)
  | infinite neg =>
    have hinf : fixedText y places = if neg then "-inf" else "inf" := by simp [fixedText, hy]
    cases neg with
    | true =>
      rw [hinf, if_pos rfl, trimFraction_of_not_mem (by decide)]
      exact .of_chars (l := ['-', 'i', 'n', 'f']) rfl ⟨'-', _, rfl, rfl⟩ (by decide)
    | false =>
      rw [hinf, if_neg (by decide), trimFraction_of_not_mem (by decide)]
      exact .of_chars (l := ['i', 'n', 'f']) rfl ⟨'i', _, rfl, rfl⟩ (by decide)
  | finite d =>
    obtain ⟨whole, frac, hne, hwhole, -, hfrac, -, -, ht⟩ := fixedText_finite_toList hy places
    have hpre := lead_signed d.neg hne hwhole
    have hnot := point_not_mem_signed d.neg hwhole
    by_cases h0 : places = 0
    · rw [if_pos h0, List.append_nil] at ht
      rw [trimFraction_of_not_mem (by rw [ht]; exact hnot)]
      exact .of_signed d.neg (by rw [ht]) hne hwhole
    · rw [if_neg h0] at ht
      have hlast : ∀ c ∈ ((if d.neg then ['-'] else []) ++ whole).getLast?, c ≠ '.' := by
        rintro c hc rfl
        exact hnot (List.mem_of_getLast? hc)
      have htext : fixedText y places =
          String.ofList (((if d.neg then ['-'] else []) ++ whole) ++ '.' :: frac) := by
        rw [← ht, String.ofList_toList]
      obtain ⟨h1, h2⟩ := trimFraction_point _ frac hlast
      rw [htext]
      refine .of_between h1 h2 hpre ?_
      intro c hc
      rcases List.mem_append.mp hc with hc | hc
      · exact chars_signed d.neg hwhole c hc
      · rcases List.mem_cons.mp hc with rfl | hc
        · rfl
        · exact numberChar_of_isDigit (hfrac c hc)

theorem except_bind_eq_ok_iff {ε α β : Type} (e : Except ε α) (f : α → Except ε β) (b : β) :
    e.bind f = .ok b ↔ ∃ a, e = .ok a ∧ f a = .ok b := by
  cases e <;> simp [Except.bind]

theorem isWhole_zero : (0.0 : Float).isWhole = true := by decide +kernel

/-- What a canonical float text can be: `0`; or, with no more places than the formatter
takes, a whole value other than zero, written to the places, or a value with a fraction whose
scaling by `10 ^ places` does not overflow, rounded, scaled back to something other than zero
and written. -/
theorem canonicalFloat_eq_ok_inv {x : Float} {places : Nat} {t : String}
    (h : canonicalFloat x places = .ok t) :
    t = "0" ∨ places ≤ maxPrecision ∧ ∃ dx, x.value = .finite dx ∧
      ((dx.isWhole = true ∧ ¬(x == 0.0) = true ∧ t = trimFraction (fixedText x places)) ∨
        (dx.isWhole = false ∧
          (x * Float.powInt 10.0 (decimalExponent places)).value.isFinite = true ∧
          ¬((x * Float.powInt 10.0 (decimalExponent places)).roundHalfAway /
            Float.powInt 10.0 (decimalExponent places) == 0.0) = true ∧
          t = trimFraction (fixedText ((x * Float.powInt 10.0 (decimalExponent places)).roundHalfAway /
            Float.powInt 10.0 (decimalExponent places)) places))) := by
  unfold canonicalFloat at h
  split at h
  · rename_i dx hx
    obtain ⟨y, hy, ht⟩ := (except_bind_eq_ok_iff _ _ _).mp h
    split at ht
    · injection ht with ht
      exact .inl ht.symm
    rename_i hy0
    split at ht
    · cases ht
    rename_i hprec
    injection ht with ht
    refine .inr ⟨Nat.le_of_not_lt hprec, dx, hx, ?_⟩
    have hmant : ¬(dx.mant == 0) = true := by
      intro hm
      rw [if_pos hm, if_pos isWhole_zero] at hy
      cases hy
      exact hy0 (by decide +kernel)
    rw [if_neg hmant] at hy
    have hwx : x.isWhole = dx.isWhole := by simp [Float.isWhole, hx]
    by_cases hw : dx.isWhole = true
    · rw [if_pos (hwx.trans hw)] at hy
      cases hy
      exact .inl ⟨hw, hy0, ht.symm⟩
    · rw [if_neg (by rw [hwx]; exact hw)] at hy
      dsimp only at hy
      split at hy
      · rename_i hcond
        cases hy
        refine .inr ⟨by simpa using hw, ?_, hy0, ht.symm⟩
        revert hcond
        generalize (x * Float.powInt 10.0 (decimalExponent places)).value = v
        cases v <;> simp [BinaryValue.isFinite]
      · cases hy
  · cases h

theorem canonicalFloat_cases {x : Float} {places : Nat} {t : String}
    (h : canonicalFloat x places = .ok t) : t = "0" ∨ ∃ y, t = trimFraction (fixedText y places) := by
  rcases canonicalFloat_eq_ok_inv h with h0 | ⟨-, -, -, ⟨-, -, ht⟩ | ⟨-, -, -, ht⟩⟩
  · exact .inl h0
  · exact .inr ⟨x, ht⟩
  · exact .inr ⟨_, ht⟩

theorem canonicalFloat_whole {x : Float} {d : Dyadic} {places : Nat} (hx : x.value = .finite d)
    (hm : d.mant ≠ 0) (hw : d.isWhole = true) (h0 : (x == 0.0) = false) :
    canonicalFloat x places = if maxPrecision < places then .error (.precision places)
      else .ok (trimFraction (fixedText x places)) := by
  have hxw : x.isWhole = true := by rw [Float.isWhole, hx]; exact hw
  unfold canonicalFloat
  rw [hx]
  simp [hm, hxw, h0, Except.bind]

/-- A value with a fraction is scaled by `10 ^ places`, rounded half away from zero and scaled
back: when the scaled value is finite and the result is not zero, its text, to places the
formatter takes, is the result's fixed text, trimmed. -/
theorem canonicalFloat_rescaled {x : Float} {places : Nat} (hp : places ≤ maxPrecision)
    (hx : x.value.isFinite = true) (hw : x.isWhole = false)
    (hs : (x * Float.powInt 10.0 (decimalExponent places)).value.isFinite = true)
    (hy : ((x * Float.powInt 10.0 (decimalExponent places)).roundHalfAway /
      Float.powInt 10.0 (decimalExponent places) == 0.0) = false) :
    canonicalFloat x places = .ok (trimFraction (fixedText
      ((x * Float.powInt 10.0 (decimalExponent places)).roundHalfAway /
        Float.powInt 10.0 (decimalExponent places)) places)) := by
  cases hdx : x.value with
  | finite dx =>
    have hm : (dx.mant == 0) = false := by
      simp only [Float.isWhole, hdx] at hw
      simp only [beq_eq_false_iff_ne]
      rintro h0
      simp [Dyadic.isWhole, h0] at hw
    cases hds : (x * Float.powInt 10.0 (decimalExponent places)).value with
    | finite ds =>
      unfold canonicalFloat
      rw [hdx]
      simp only [hm, Bool.false_eq_true, if_false, hw, hds, if_true]
      simp [Except.bind, hy, Nat.not_lt.mpr hp]
    | infinite neg => simp [hds, BinaryValue.isFinite] at hs
    | nan => simp [hds, BinaryValue.isFinite] at hs
  | infinite neg => simp [hdx, BinaryValue.isFinite] at hx
  | nan => simp [hdx, BinaryValue.isFinite] at hx

theorem canonicalFloat_overflow {x : Float} {places : Nat} (hx : x.value.isFinite = true)
    (hw : x.isWhole = false)
    (hs : (x * Float.powInt 10.0 (decimalExponent places)).value.isFinite = false) :
    canonicalFloat x places = .error (.nonFinite x) := by
  cases hdx : x.value with
  | finite dx =>
    have hm : (dx.mant == 0) = false := by
      simp only [Float.isWhole, hdx] at hw
      simp only [beq_eq_false_iff_ne]
      rintro h0
      simp [Dyadic.isWhole, h0] at hw
    unfold canonicalFloat
    rw [hdx]
    cases hds : (x * Float.powInt 10.0 (decimalExponent places)).value with
    | finite ds => simp [hds, BinaryValue.isFinite] at hs
    | infinite neg => simp [hm, hw, hds, Except.bind]
    | nan => simp [hm, hw, hds, Except.bind]
  | infinite neg => simp [hdx, BinaryValue.isFinite] at hx
  | nan => simp [hdx, BinaryValue.isFinite] at hx

/-- Every canonical number text is a number token. -/
theorem NumberToken.of_canonicalNumber {n : Json.Number} {places : Nat} {t : String}
    (h : canonicalNumber n places = .ok t) : NumberToken t := by
  cases n with
  | int i =>
    simp only [canonicalNumber, Except.ok.injEq] at h
    rw [← h]
    exact .of_int i
  | float x =>
    rcases canonicalFloat_cases h with rfl | ⟨y, rfl⟩
    · exact .of_chars (l := ['0']) rfl ⟨'0', _, rfl, rfl⟩ (by decide)
    · exact .of_trimFraction_fixedText y places

end CapsuleFlow
