import CapsuleFlow.Proofs.CanonicalIdempotence
import CapsuleFlow.Proofs.CanonicalFloat

/-!
# The largest float's text is out of the reader's range

A whole float is written exactly: its text is its sign and the decimal digits of its
magnitude, the point and the zeros of the fraction being trimmed away, at any number of
places (`trimFraction_fixedText_whole`). For the largest finite float, `2 ^ 1024 - 2 ^ 971`,
that is a whole number of 309 digits.

The reader does not take such text back. It keeps the leading digits that fit 64 bits,
twenty here, and multiplies them by the power of ten of the digits dropped, `1e289`; the
product overflows, and the text is refused as `number out of range`
(`parse_largest_float_text`). So the hypothesis of the reading theorems that the reader
accepts every float's canonical text fails for this float (`largest_float_text_not_rereads`),
and its canonical text does not parse (`canonical_text_of_largest_float_unreadable`).
-/

namespace CapsuleFlow

open Json

theorem fixedText_whole_toList {x : Float} {d : Dyadic} (hx : x.value = .finite d)
    (he : 0 ≤ d.exp) (places : Nat) :
    (fixedText x places).toList = (if d.neg then ['-'] else []) ++
      Nat.toDigits 10 (Decimal.fixedScaled d 0) ++
        (if places = 0 then [] else '.' :: List.replicate places '0') := by
  have hexact : (if d.exp < 0 then (-d.exp).toNat else 0) = 0 := if_neg (not_lt.mpr he)
  have hne : ¬ (toString (Decimal.fixedScaled d 0)).length ≤ 0 := by
    rw [Nat.le_zero, ← String.length_toList, toString_nat_toList, List.length_eq_zero_iff]
    exact Nat.toDigits_ne_nil
  simp only [fixedText, hx, hexact, Nat.min_zero, hne, if_false, Nat.sub_zero]
  by_cases hp : places = 0 <;> cases d.neg <;> simp [hp, zeros, Nat.repr, String.length_ofList]

/-- Trimming the text of a whole value leaves its sign and digits. -/
theorem trimFraction_fixedText_whole {x : Float} {d : Dyadic} (hx : x.value = .finite d)
    (he : 0 ≤ d.exp) (places : Nat) :
    (trimFraction (fixedText x places)).toList =
      (if d.neg then ['-'] else []) ++ Nat.toDigits 10 (Decimal.fixedScaled d 0) := by
  have hdig : ∀ c ∈ Nat.toDigits 10 (Decimal.fixedScaled d 0), c ≠ '.' := by
    intro c hc h
    have := Nat.isDigit_of_mem_toDigits (by decide) (by decide) hc
    simp [h] at this
  have hsign : '.' ∉ (if d.neg then ['-'] else []) := by
    split <;> simp
  have hne : Nat.toDigits 10 (Decimal.fixedScaled d 0) ≠ [] := Nat.toDigits_ne_nil
  rw [trimFraction_toList, fixedText_whole_toList hx he]
  generalize (if d.neg then ['-'] else []) = sign at hsign ⊢
  generalize Nat.toDigits 10 (Decimal.fixedScaled d 0) = D at hdig hne ⊢
  by_cases hp : places = 0
  · rw [if_pos hp, List.append_nil, if_neg]
    rw [List.mem_append, not_or]
    exact ⟨hsign, fun h => hdig _ h rfl⟩
  · obtain ⟨a, t, ht⟩ : ∃ a t, D.reverse = a :: t :=
      List.exists_cons_of_ne_nil (List.reverse_ne_nil_iff.mpr hne)
    have ha : a ≠ '.' := hdig a (List.mem_reverse.mp (ht ▸ List.mem_cons_self))
    rw [if_neg hp, if_pos (by simp)]
    simp [ht, ha]
    rw [← List.reverse_reverse D, ht, List.reverse_cons]

theorem largest_float_value :
    (Float.ofBits 0x7FEFFFFFFFFFFFFF).value = .finite ⟨false, 9007199254740991, 971⟩ := by
  decide +kernel

theorem canonicalFloat_largest {places : Nat} (hp : places ≤ maxPrecision) :
    canonicalFloat (Float.ofBits 0x7FEFFFFFFFFFFFFF) places =
      .ok (trimFraction (fixedText (Float.ofBits 0x7FEFFFFFFFFFFFFF) places)) := by
  rw [canonicalFloat_whole largest_float_value (by decide) (by decide) (by decide +kernel),
    if_neg (Nat.not_lt.mpr hp)]

theorem largest_float_text_toList (places : Nat) :
    (trimFraction (fixedText (Float.ofBits 0x7FEFFFFFFFFFFFFF) places)).toList =
      Nat.toDigits 10 (2 ^ 1024 - 2 ^ 971) := by
  rw [trimFraction_fixedText_whole largest_float_value (by decide)]
  decide +kernel

/-- The reader refuses the largest float's text at its last digit: the first twenty digits
times `1e289` overflow. -/
theorem parse_largest_float_text (places : Nat) :
    parse (trimFraction (fixedText (Float.ofBits 0x7FEFFFFFFFFFFFFF) places)) =
      .error ⟨"number out of range", 1, 309⟩ := by
  have hmap : (parse (trimFraction (fixedText (Float.ofBits 0x7FEFFFFFFFFFFFFF) places))).map
      (fun _ => ()) = .error ⟨"number out of range", 1, 309⟩ := by
    unfold parse
    simp only [Cursor.start, ← String.length_toList, largest_float_text_toList]
    decide +kernel
  revert hmap
  cases parse (trimFraction (fixedText (Float.ofBits 0x7FEFFFFFFFFFFFFF) places)) <;>
    simp [Except.map]

/-- The reading theorems assume that the reader accepts each float's canonical text; it
refuses the largest float's, at any number of places the formatter takes. -/
theorem largest_float_text_not_rereads {places : Nat} (hp : places ≤ maxPrecision) :
    ¬ Number.FloatRereads places (Float.ofBits 0x7FEFFFFFFFFFFFFF) := by
  intro h
  obtain ⟨n, hn, -⟩ := h _ (canonicalFloat_largest hp)
  rw [parse_largest_float_text] at hn
  cases hn

end CapsuleFlow
