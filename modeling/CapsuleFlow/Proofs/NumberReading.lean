import CapsuleFlow.Proofs.Readability

/-!
# Reading number texts back

Canonical text writes each number as a number token. This module shows what the reader
makes of such tokens.

* The decimal text of an integer in the 64-bit range reads back as that integer, wherever
  it stands before nothing, a comma or a closing bracket (`readValue_int`,
  `parse_toString_int`).
* A number text that parses on its own to a number is read as the same number in place,
  before anything that may follow a value (`readValue_of_parse_number`). The reader loops
  run on the remaining text with fuel, so the proof runs two readers in step (`Lock`): one
  at the text alone, one at the text followed by the rest, and shows that each loop of the
  number reader takes the same branches on both.
* A number text that parses on its own to an integer is the decimal text of that integer
  (`toString_of_parse_int`): fractions, exponents and overlong digit runs give floats, so an
  integer comes from a run of digits without a leading zero, after at most a minus sign.
-/

namespace CapsuleFlow

open Json

theorem Follows.peek {c : Cursor} (h : Follows c.rest) :
    c.peek = none ∨ c.peek = some ',' ∨ c.peek = some ']' ∨ c.peek = some '}' := by
  rw [Cursor.peek_eq]
  cases hc : c.rest.head? with
  | none => exact .inl rfl
  | some ch =>
    have hs := h ch (by simp [hc])
    simp only [isStop, Bool.or_eq_true, beq_iff_eq] at hs
    rcases hs with (rfl | rfl) | rfl <;> simp

end CapsuleFlow

namespace CapsuleFlow.Json

namespace Cursor

theorem skipBlank_of_peek {c : Cursor}
    (h : ∀ ch ∈ c.peek, ch ≠ ' ' ∧ ch ≠ '\n' ∧ ch ≠ '\t' ∧ ch ≠ '\r') : c.skipBlank = c := by
  unfold skipBlank
  cases c.limit with
  | zero => rfl
  | succ n =>
    simp only [skipBlank.go]
    cases hp : c.peek with
    | none => rfl
    | some ch =>
      obtain ⟨h1, h2, h3, h4⟩ := h ch hp
      split <;> simp_all

theorem rest_of_peek {c : Cursor} {d : Char} (hp : c.peek = some d) :
    c.rest = d :: c.next.rest := by
  rw [Cursor.peek_eq] at hp
  cases hc : c.rest with
  | nil => simp [hc] at hp
  | cons x u => simp_all

end Cursor

theorem readNumber_loop_digits (positive : Bool) {rest : List Char}
    (hrest : ∀ ch ∈ rest.head?, ch.isDigit = false) :
    ∀ (ds : List Char) (sig : Nat) (c : Cursor) (fuel : Nat), c.rest = ds ++ rest →
      (∀ d ∈ ds, d.isDigit) → ds.length ≤ fuel → Nat.ofDigitChars 10 ds sig ≤ u64Max →
      ∃ c', readNumber.loop positive sig c fuel =
        readAfterInteger positive (Nat.ofDigitChars 10 ds sig) c' ∧ c'.rest = rest ∧
        c'.limit = c.limit := by
  intro ds
  induction ds with
  | nil =>
    intro sig c fuel hc _ _ _
    refine ⟨c, ?_, by simpa using hc, rfl⟩
    cases fuel with
    | zero => rfl
    | succ n =>
      simp only [readNumber.loop, Nat.ofDigitChars_nil]
      cases hp : c.peek with
      | none => rfl
      | some d =>
        have : d.isDigit = false := hrest d (by simpa [Cursor.peek_eq, hc] using hp)
        simp [this]
  | cons d ds ih =>
    intro sig c fuel hc hds hlen hval
    obtain ⟨n, rfl⟩ : ∃ n, fuel = n + 1 := ⟨fuel - 1, by simp at hlen; omega⟩
    have hd : d.isDigit := hds d (by simp)
    have hstep :
        sig * 10 + digitValue d ≤ Nat.ofDigitChars 10 ds (10 * sig + (d.toNat - '0'.toNat)) := by
      rw [Nat.ofDigitChars_eq_ofDigitChars_zero]
      calc sig * 10 + digitValue d = 1 * (10 * sig + (d.toNat - '0'.toNat)) := by
            simp [digitValue, Nat.mul_comm]
        _ ≤ 10 ^ ds.length * (10 * sig + (d.toNat - '0'.toNat)) :=
            Nat.mul_le_mul_right _ (Nat.one_le_pow _ _ (by decide))
        _ ≤ _ := Nat.le_add_right _ _
    rw [Nat.ofDigitChars_cons] at hval
    obtain ⟨c', h1, h2, h3⟩ := ih (sig * 10 + digitValue d) c.next n (by simp [hc])
      (fun d' hd' => hds d' (by simp [hd'])) (by simpa using hlen)
      (by simpa [digitValue, Nat.mul_comm] using hval)
    refine ⟨c', ?_, h2, by simp [h3]⟩
    have hnot : ¬ sig * 10 + digitValue d > u64Max := by
      simp only [digitValue] at hstep ⊢
      omega
    have hsig : 10 * sig + (d.toNat - '0'.toNat) = sig * 10 + digitValue d := by
      simp [digitValue, Nat.mul_comm]
    rw [Nat.ofDigitChars_cons, hsig, ← h1]
    simp only [readNumber.loop, Cursor.peek_of_rest hc, hd, if_true, if_neg hnot]

theorem readAfterInteger_unsigned {c : Cursor} (h : Follows c.rest) (sig : Nat) :
    readAfterInteger true sig c = .ok (.unsigned sig, c) := by
  rcases h.peek with hp | hp | hp | hp <;> simp [readAfterInteger, hp]

theorem readAfterInteger_signed {c : Cursor} (h : Follows c.rest) {sig : Nat} (h0 : 0 < sig)
    (hle : sig ≤ Nat.pow 2 63) :
    readAfterInteger false sig c = .ok (.signed (-(sig : Int)), c) := by
  have hsig : (sig == 0 || decide (sig > Nat.pow 2 63)) = false := by
    simp only [Bool.or_eq_false_iff, beq_eq_false_iff_ne, decide_eq_false_iff_not]
    omega
  rcases h.peek with hp | hp | hp | hp <;> simp [readAfterInteger, hp, hsig]

theorem readNumber_toDigits (positive : Bool) {n : Nat} (hn : n ≤ u64Max) {c : Cursor}
    {rest : List Char} (hc : c.rest = Nat.toDigits 10 n ++ rest) (hstop : Follows rest)
    (hlim : c.rest.length ≤ c.limit) :
    ∃ c', readNumber positive c = readAfterInteger positive n c' ∧ c'.rest = rest ∧
      c'.limit = c.limit := by
  have hrest : ∀ ch ∈ rest.head?, ch.isDigit = false := by
    intro ch hch
    have hs := hstop ch hch
    simp only [isStop, Bool.or_eq_true, beq_iff_eq] at hs
    rcases hs with (rfl | rfl) | rfl <;> rfl
  obtain ⟨d, ds, hds⟩ : ∃ d ds, Nat.toDigits 10 n = d :: ds :=
    List.exists_cons_of_ne_nil Nat.toDigits_ne_nil
  have hdigit : ∀ x ∈ Nat.toDigits 10 n, x.isDigit := fun x hx =>
    Nat.isDigit_of_mem_toDigits (by decide) (by decide) hx
  rw [hds] at hc hdigit
  by_cases h0 : n = 0
  · subst h0
    obtain ⟨rfl, rfl⟩ : '0' = d ∧ ds = [] := by simpa [Nat.toDigits_zero] using hds
    refine ⟨c.next, ?_, by simp [hc], by simp⟩
    simp only [readNumber, Cursor.peek_of_rest hc, beq_self_eq_true, if_true]
    cases hp : c.next.peek with
    | none => rfl
    | some x =>
      have : x.isDigit = false := hrest x (by simpa [Cursor.peek_eq, hc] using hp)
      simp [this]
  · have hd0 : d ≠ '0' := fun h => toDigits_head_ne_zero n h0 (by simp [hds, h])
    have hd : d.isDigit := hdigit d (by simp)
    obtain ⟨c', h1, h2, h3⟩ := readNumber_loop_digits positive hrest ds (digitValue d) c.next
      c.next.limit (by simp [hc]) (fun x hx => hdigit x (by simp [hx]))
      (by simp [hc] at hlim ⊢; omega)
      (by rw [← Nat.ofDigitChars_ten_toDigits (n := n), hds, Nat.ofDigitChars_cons] at hn
          simpa [digitValue] using hn)
    refine ⟨c', ?_, h2, by simp [h3]⟩
    have hval : Nat.ofDigitChars 10 ds (digitValue d) = n := by
      rw [← Nat.ofDigitChars_ten_toDigits (n := n), hds, Nat.ofDigitChars_cons]
      simp [digitValue]
    rw [← hval, ← h1]
    simp [readNumber, Cursor.peek_of_rest hc, hd0, hd]

theorem not_blank_of_numberChar {ch : Char} (h : numberChar ch) :
    ch ≠ ' ' ∧ ch ≠ '\n' ∧ ch ≠ '\t' ∧ ch ≠ '\r' := by
  refine ⟨?_, ?_, ?_, ?_⟩ <;> (rintro rfl; revert h; decide)

theorem skipBlank_of_numberChar {c : Cursor} (h : ∀ ch ∈ c.peek, numberChar ch) :
    c.skipBlank = c :=
  Cursor.skipBlank_of_peek fun ch hch => not_blank_of_numberChar (h ch hch)

theorem readValue_digit {c : Cursor} {d : Char} (hp : c.peek = some d) (hd : d.isDigit)
    (depth fuel : Nat) :
    readValue depth c (fuel + 1) =
      (readNumber true c).map fun (n, c) => (.number n.toNumber, c) := by
  have hs : c.skipBlank = c := skipBlank_of_numberChar fun ch hch => by
    rw [hp, Option.mem_some_iff] at hch
    exact hch ▸ numberChar_of_isDigit hd
  have hn : d ≠ 'n' ∧ d ≠ 't' ∧ d ≠ 'f' ∧ d ≠ '-' ∧ d ≠ '"' ∧ d ≠ '[' ∧ d ≠ '{' := by
    refine ⟨?_, ?_, ?_, ?_, ?_, ?_, ?_⟩ <;> rintro rfl <;> revert hd <;> decide
  obtain ⟨h1, h2, h3, h4, h5, h6, h7⟩ := hn
  simp only [readValue, hs, hp]
  split <;> simp_all

theorem readValue_minus {c : Cursor} (hp : c.peek = some '-') (depth fuel : Nat) :
    readValue depth c (fuel + 1) =
      (readNumber false c.next).map fun (n, c) => (.number n.toNumber, c) := by
  have hs : c.skipBlank = c := Cursor.skipBlank_of_peek fun ch hch => by
    rw [hp, Option.mem_some_iff] at hch
    subst hch
    decide
  simp [readValue, hs, hp]

theorem toString_ofNat_toList (n : Nat) : (toString (Int.ofNat n)).toList = Nat.toDigits 10 n :=
  toString_nat_toList n

theorem toString_negSucc_toList (m : Nat) :
    (toString (Int.negSucc m)).toList = '-' :: Nat.toDigits 10 (m + 1) := by
  rw [show toString (Int.negSucc m) = "-" ++ toString (m + 1) from rfl, String.toList_append,
    toString_nat_toList]
  rfl

/-- The text of an integer in the 64-bit range reads back as that integer, up to a stop. -/
theorem readValue_int {i : Int} (hlo : -Int.pow 2 63 ≤ i) (hhi : i ≤ u64Max) (depth fuel : Nat)
    {c : Cursor} {rest : List Char} (hc : c.rest = (toString i).toList ++ rest)
    (hstop : Follows rest) (hlim : c.rest.length ≤ c.limit) :
    ∃ c', readValue depth c (fuel + 1) = .ok (.number (.int i), c') ∧ c'.rest = rest ∧
      c'.limit = c.limit := by
  cases i with
  | ofNat n =>
    rw [toString_ofNat_toList] at hc
    obtain ⟨d, ds, hds⟩ : ∃ d ds, Nat.toDigits 10 n = d :: ds :=
      List.exists_cons_of_ne_nil Nat.toDigits_ne_nil
    have hd : d.isDigit := Nat.isDigit_of_mem_toDigits (b := 10) (n := n) (by decide) (by decide)
      (by simp [hds])
    obtain ⟨c', h1, h2, h3⟩ := readNumber_toDigits true (n := n) (by simpa using hhi) hc hstop hlim
    refine ⟨c', ?_, h2, h3⟩
    rw [readValue_digit (Cursor.peek_of_rest (hc.trans (by rw [hds]; rfl))) hd, h1,
      readAfterInteger_unsigned (h2 ▸ hstop)]
    rfl
  | negSucc m =>
    rw [toString_negSucc_toList] at hc
    have hm : m + 1 ≤ Nat.pow 2 63 := by
      have : (-Int.pow 2 63 : Int) = -((Nat.pow 2 63 : Nat) : Int) := by decide
      rw [this, Int.negSucc_eq] at hlo
      omega
    have hc' : c.next.rest = Nat.toDigits 10 (m + 1) ++ rest := by simp [hc]
    obtain ⟨c', h1, h2, h3⟩ := readNumber_toDigits false (n := m + 1)
      (by simp only [u64Max]; simp only [Nat.pow_eq] at hm ⊢; omega) hc' hstop
      (by simp [hc] at hlim ⊢; omega)
    refine ⟨c', ?_, h2, by simp [h3]⟩
    rw [readValue_minus (Cursor.peek_of_rest (hc.trans rfl)), h1,
      readAfterInteger_signed (h2 ▸ hstop) (by omega) hm]
    rfl

theorem parse_of_readValue {s : String} {v : Value} {c' : Cursor}
    (h : readValue depthLimit (Cursor.start s) ((Cursor.start s).limit + 1) = .ok (v, c'))
    (hend : c'.rest = []) : parse s = .ok v := by
  have hs : c'.skipBlank = c' := Cursor.skipBlank_of_peek (by simp [Cursor.peek_eq, hend])
  unfold parse
  dsimp only
  rw [h]
  simp [bind, Except.bind, hs, Cursor.peek_eq, hend]
  rfl

/-- The text of an integer in the 64-bit range parses back to that integer. -/
theorem parse_toString_int {i : Int} (hlo : -Int.pow 2 63 ≤ i) (hhi : i ≤ u64Max) :
    parse (toString i) = .ok (.number (.int i)) := by
  obtain ⟨c', h1, h2, -⟩ := readValue_int hlo hhi depthLimit (Cursor.start (toString i)).limit
    (c := Cursor.start (toString i)) (by simp [Cursor.start]) follows_nil
    (by simp [Cursor.start, String.length_toList])
  exact parse_of_readValue h1 h2

/-! ## A token read alone and a token read before a stop -/

section Lockstep

variable {rest : List Char}

/-- Two cursors on the same number token: at `c₂` the token runs to the end of the text, at
`c₁` the stop `rest` follows it. Both have room to read what is left of the token. -/
structure Lock (rest : List Char) (c₁ c₂ : Cursor) : Prop where
  rest_eq : c₁.rest = c₂.rest ++ rest
  chars : ∀ ch ∈ c₂.rest, numberChar ch
  room₁ : c₁.rest.length ≤ c₁.limit
  room₂ : c₂.rest.length ≤ c₂.limit

theorem Lock.next {c₁ c₂ : Cursor} (h : Lock rest c₁ c₂) (hne : c₂.rest ≠ []) :
    Lock rest c₁.next c₂.next := by
  obtain ⟨ch, u, hu⟩ := List.exists_cons_of_ne_nil hne
  have h1 := h.room₁
  have h2 := h.room₂
  refine ⟨?_, ?_, ?_, ?_⟩
  · simp [h.rest_eq, hu]
  · intro x hx
    simp only [Cursor.rest_next, hu, List.tail_cons] at hx
    exact h.chars x (by simp [hu, hx])
  · simp [h.rest_eq, hu] at h1 ⊢
    omega
  · simp [hu] at h2 ⊢
    omega

theorem ne_exp_of_numberChar {ch : Char} (h : numberChar ch) : ch ≠ 'e' ∧ ch ≠ 'E' := by
  constructor <;> rintro rfl <;> revert h <;> decide

theorem Lock.peek_cases {c₁ c₂ : Cursor} (hstop : Follows rest) (h : Lock rest c₁ c₂) :
    (∃ ch u, c₂.rest = ch :: u ∧ c₁.peek = some ch ∧ c₂.peek = some ch) ∨
    (c₂.rest = [] ∧ c₂.peek = none ∧ (c₁.peek = none ∨ c₁.peek = some ',' ∨
      c₁.peek = some ']' ∨ c₁.peek = some '}')) := by
  cases hu : c₂.rest with
  | nil =>
    have hs : Follows c₁.rest := by rw [h.rest_eq, hu]; exact hstop
    exact .inr ⟨rfl, by simp [Cursor.peek_eq, hu], hs.peek⟩
  | cons ch u =>
    exact .inl ⟨ch, u, rfl, by simp [Cursor.peek_eq, h.rest_eq, hu], by simp [Cursor.peek_eq, hu]⟩

theorem Lock.not_exp {c₁ c₂ : Cursor} (hstop : Follows rest) (h : Lock rest c₁ c₂) :
    (∀ ch ∈ c₁.peek, ch ≠ 'e' ∧ ch ≠ 'E') ∧ (∀ ch ∈ c₂.peek, ch ≠ 'e' ∧ ch ≠ 'E') := by
  rcases h.peek_cases hstop with ⟨ch, u, hu, h1, h2⟩ | ⟨-, h2, h1⟩
  · have := ne_exp_of_numberChar (h.chars ch (by simp [hu]))
    exact ⟨fun x hx => by simp_all, fun x hx => by simp_all⟩
  · refine ⟨fun x hx => ?_, fun x hx => by simp_all⟩
    rcases h1 with h1 | h1 | h1 | h1 <;> rw [h1] at hx <;> cases hx <;> decide

theorem finishFloat_lock {c₁ c₂ : Cursor} (h : Lock rest c₁ c₂) {positive : Bool} {sig : Nat}
    {exp : Int} {r : ReadNumber} {c₂' : Cursor}
    (h₂ : finishFloat positive sig exp c₂ = .ok (r, c₂')) :
    ∃ c₁', finishFloat positive sig exp c₁ = .ok (r, c₁') ∧ Lock rest c₁' c₂' := by
  unfold finishFloat at h₂ ⊢
  cases hf : floatOfParts positive sig exp with
  | none => simp [hf] at h₂
  | some f =>
    simp only [hf, Except.ok.injEq, Prod.mk.injEq] at h₂
    obtain ⟨rfl, rfl⟩ := h₂
    exact ⟨c₁, rfl, h⟩

theorem skipDigits_go_lock (hstop : Follows rest) :
    ∀ (u : List Char) (c₁ c₂ : Cursor) (n₁ n₂ : Nat), c₂.rest = u → Lock rest c₁ c₂ →
      u.length ≤ n₁ → u.length ≤ n₂ → Lock rest (skipDigits.go c₁ n₁) (skipDigits.go c₂ n₂) := by
  intro u
  induction u with
  | nil =>
    intro c₁ c₂ n₁ n₂ hu h _ _
    have hp₂ : c₂.peek = none := by simp [Cursor.peek_eq, hu]
    have hg₂ : skipDigits.go c₂ n₂ = c₂ := by cases n₂ <;> simp [skipDigits.go, hp₂]
    have hg₁ : skipDigits.go c₁ n₁ = c₁ := by
      cases n₁ with
      | zero => rfl
      | succ n =>
        rcases (h.peek_cases hstop) with ⟨_, _, hu', -, -⟩ | ⟨-, -, hp | hp | hp | hp⟩
        · simp [hu] at hu'
        all_goals simp [skipDigits.go, hp]
    rw [hg₁, hg₂]
    exact h
  | cons ch u ih =>
    intro c₁ c₂ n₁ n₂ hu h h₁ h₂
    obtain ⟨k₁, rfl⟩ : ∃ k, n₁ = k + 1 := ⟨n₁ - 1, by simp at h₁; omega⟩
    obtain ⟨k₂, rfl⟩ : ∃ k, n₂ = k + 1 := ⟨n₂ - 1, by simp at h₂; omega⟩
    have hp₁ : c₁.peek = some ch := by simp [Cursor.peek_eq, h.rest_eq, hu]
    have hp₂ : c₂.peek = some ch := by simp [Cursor.peek_eq, hu]
    by_cases hd : ch.isDigit
    · simp only [skipDigits.go, hp₁, hp₂, hd, if_true]
      exact ih c₁.next c₂.next k₁ k₂ (by simp [hu]) (h.next (by simp [hu]))
        (by simp at h₁; omega) (by simp at h₂; omega)
    · simp only [skipDigits.go, hp₁, hp₂, hd]
      exact h

theorem skipDigits_lock (hstop : Follows rest) {c₁ c₂ : Cursor} (h : Lock rest c₁ c₂) :
    Lock rest (skipDigits c₁) (skipDigits c₂) := by
  have h1 := h.room₁
  rw [h.rest_eq, List.length_append] at h1
  exact skipDigits_go_lock hstop _ c₁ c₂ _ _ rfl h (by omega) h.room₂

theorem finishFraction_lock (hstop : Follows rest) {c₁ c₂ : Cursor} (h : Lock rest c₁ c₂)
    {positive : Bool} {sig after : Nat} {beforeExp : Int} {r : ReadNumber} {c₂' : Cursor}
    (h₂ : finishFraction positive sig beforeExp after c₂ = .ok (r, c₂')) :
    ∃ c₁', finishFraction positive sig beforeExp after c₁ = .ok (r, c₁') ∧ Lock rest c₁' c₂' := by
  obtain ⟨hx₁, hx₂⟩ := h.not_exp hstop
  unfold finishFraction at h₂ ⊢
  by_cases ha : after = 0
  · simp only [ha, beq_self_eq_true, if_true] at h₂
    split at h₂ <;> cases h₂
  · simp only [beq_iff_eq, ha, if_false] at h₂ ⊢
    have hf₂ : finishFloat positive sig (beforeExp - after) c₂ = .ok (r, c₂') := by
      split at h₂
      all_goals first | exact h₂ | (exfalso; simp_all)
    obtain ⟨c₁', h1, h1'⟩ := finishFloat_lock h hf₂
    refine ⟨c₁', ?_, h1'⟩
    split
    all_goals first | exact h1 | (exfalso; simp_all)

theorem Lock.stop_of_nil {c₁ c₂ : Cursor} (hstop : Follows rest) (h : Lock rest c₁ c₂)
    (hu : c₂.rest = []) : Follows c₁.rest := by
  simpa [h.rest_eq, hu] using hstop

theorem Lock.fuel {c₁ c₂ : Cursor} (h : Lock rest c₁ c₂) : c₂.rest.length ≤ c₁.limit := by
  have h1 := h.room₁
  rw [h.rest_eq, List.length_append] at h1
  omega

theorem readFraction_loop_stop {c : Cursor} (hc : Follows c.rest) (positive : Bool)
    (beforeExp : Int)
    (sig after : Nat) : ∀ n, readFraction.loop positive beforeExp sig after c n =
      finishFraction positive sig beforeExp after c
  | 0 => rfl
  | _ + 1 => by rcases hc.peek with hp | hp | hp | hp <;> simp [readFraction.loop, hp]

theorem readFraction_loop_lock (hstop : Follows rest) {positive : Bool} {beforeExp : Int}
    {r : ReadNumber} {c₂' : Cursor} :
    ∀ (u : List Char) (sig after : Nat) (c₁ c₂ : Cursor) (n₁ n₂ : Nat), c₂.rest = u →
      Lock rest c₁ c₂ → u.length ≤ n₁ → u.length ≤ n₂ →
      readFraction.loop positive beforeExp sig after c₂ n₂ = .ok (r, c₂') →
      ∃ c₁', readFraction.loop positive beforeExp sig after c₁ n₁ = .ok (r, c₁') ∧
        Lock rest c₁' c₂' := by
  intro u
  induction u with
  | nil =>
    intro sig after c₁ c₂ n₁ n₂ hu h _ _ hr
    rw [readFraction_loop_stop (by rw [hu]; exact follows_nil)] at hr
    rw [readFraction_loop_stop (h.stop_of_nil hstop hu)]
    exact finishFraction_lock hstop h hr
  | cons ch u ih =>
    intro sig after c₁ c₂ n₁ n₂ hu h h₁ h₂ hr
    obtain ⟨k₁, rfl⟩ : ∃ k, n₁ = k + 1 := ⟨n₁ - 1, by simp at h₁; omega⟩
    obtain ⟨k₂, rfl⟩ : ∃ k, n₂ = k + 1 := ⟨n₂ - 1, by simp at h₂; omega⟩
    have hp₁ : c₁.peek = some ch := by simp [Cursor.peek_eq, h.rest_eq, hu]
    have hp₂ : c₂.peek = some ch := by simp [Cursor.peek_eq, hu]
    by_cases hd : ch.isDigit
    · by_cases hov : sig * 10 + digitValue ch > u64Max
      · simp only [readFraction.loop, hp₁, hp₂, hd, hov, if_true] at hr ⊢
        have hs := skipDigits_lock hstop h
        obtain ⟨hx₁, hx₂⟩ := hs.not_exp hstop
        have hf₂ : finishFloat positive sig (beforeExp - after) (skipDigits c₂) = .ok (r, c₂') := by
          split at hr
          all_goals first | exact hr | (exfalso; simp_all)
        obtain ⟨c₁', h1, h1'⟩ := finishFloat_lock hs hf₂
        refine ⟨c₁', ?_, h1'⟩
        split
        all_goals first | exact h1 | (exfalso; simp_all)
      · simp only [readFraction.loop, hp₁, hp₂, hd, hov, if_true, if_false] at hr ⊢
        exact ih _ _ c₁.next c₂.next k₁ k₂ (by simp [hu]) (h.next (by simp [hu]))
          (by simp at h₁; omega) (by simp at h₂; omega) hr
    · simp [readFraction.loop, hp₁, hp₂, hd] at hr ⊢
      exact finishFraction_lock hstop h hr

theorem readFraction_lock (hstop : Follows rest) {c₁ c₂ : Cursor} (h : Lock rest c₁ c₂)
    (hne : c₂.rest ≠ []) {positive : Bool} {sig : Nat} {beforeExp : Int} {r : ReadNumber}
    {c₂' : Cursor} (hr : readFraction positive sig beforeExp c₂ = .ok (r, c₂')) :
    ∃ c₁', readFraction positive sig beforeExp c₁ = .ok (r, c₁') ∧ Lock rest c₁' c₂' := by
  have hn := h.next hne
  exact readFraction_loop_lock hstop _ sig 0 c₁.next c₂.next _ _ rfl hn hn.fuel hn.room₂ hr

theorem readLongInteger_go_stop {c : Cursor} (hc : Follows c.rest) (positive : Bool)
    (sig exp : Nat) :
    ∀ n, readLongInteger.go positive sig exp c n = finishFloat positive sig exp c
  | 0 => rfl
  | _ + 1 => by rcases hc.peek with hp | hp | hp | hp <;> simp [readLongInteger.go, hp]

theorem readLongInteger_go_lock (hstop : Follows rest) {positive : Bool} {sig : Nat}
    {r : ReadNumber} {c₂' : Cursor} :
    ∀ (u : List Char) (exp : Nat) (c₁ c₂ : Cursor) (n₁ n₂ : Nat), c₂.rest = u →
      Lock rest c₁ c₂ → u.length ≤ n₁ → u.length ≤ n₂ →
      readLongInteger.go positive sig exp c₂ n₂ = .ok (r, c₂') →
      ∃ c₁', readLongInteger.go positive sig exp c₁ n₁ = .ok (r, c₁') ∧ Lock rest c₁' c₂' := by
  intro u
  induction u with
  | nil =>
    intro exp c₁ c₂ n₁ n₂ hu h _ _ hr
    rw [readLongInteger_go_stop (by rw [hu]; exact follows_nil)] at hr
    rw [readLongInteger_go_stop (h.stop_of_nil hstop hu)]
    exact finishFloat_lock h hr
  | cons ch u ih =>
    intro exp c₁ c₂ n₁ n₂ hu h h₁ h₂ hr
    obtain ⟨k₁, rfl⟩ : ∃ k, n₁ = k + 1 := ⟨n₁ - 1, by simp at h₁; omega⟩
    obtain ⟨k₂, rfl⟩ : ∃ k, n₂ = k + 1 := ⟨n₂ - 1, by simp at h₂; omega⟩
    have hp₁ : c₁.peek = some ch := by simp [Cursor.peek_eq, h.rest_eq, hu]
    have hp₂ : c₂.peek = some ch := by simp [Cursor.peek_eq, hu]
    by_cases hd : ch.isDigit
    · simp only [readLongInteger.go, hp₁, hp₂, hd, if_true] at hr ⊢
      exact ih _ c₁.next c₂.next k₁ k₂ (by simp [hu]) (h.next (by simp [hu]))
        (by simp at h₁; omega) (by simp at h₂; omega) hr
    · by_cases hdot : ch = '.'
      · subst hdot
        simp [readLongInteger.go, hp₁, hp₂] at hr ⊢
        exact readFraction_lock hstop h (by simp [hu]) hr
      · obtain ⟨he, hE⟩ := ne_exp_of_numberChar (h.chars ch (by simp [hu]))
        simp [readLongInteger.go, hp₁, hp₂, hd, hdot, he, hE] at hr ⊢
        exact finishFloat_lock h hr

theorem readLongInteger_lock (hstop : Follows rest) {c₁ c₂ : Cursor} (h : Lock rest c₁ c₂)
    {positive : Bool} {sig : Nat} {r : ReadNumber} {c₂' : Cursor}
    (hr : readLongInteger positive sig c₂ = .ok (r, c₂')) :
    ∃ c₁', readLongInteger positive sig c₁ = .ok (r, c₁') ∧ Lock rest c₁' c₂' :=
  readLongInteger_go_lock hstop _ 0 c₁ c₂ _ _ rfl h h.fuel h.room₂ hr

theorem readAfterInteger_end (positive : Bool) (sig : Nat) :
    ∃ r, ∀ c : Cursor, (∀ ch ∈ c.peek, ch ≠ '.' ∧ ch ≠ 'e' ∧ ch ≠ 'E') →
      readAfterInteger positive sig c = .ok (r, c) := by
  refine ⟨if positive then .unsigned sig
    else if sig == 0 || sig > Nat.pow 2 63 then .float (-(UInt64.ofNat sig).toFloat)
    else .signed (-(sig : Int)), fun c hc => ?_⟩
  cases hp : c.peek with
  | none =>
    cases positive <;> simp [readAfterInteger, hp]
    split <;> rfl
  | some ch =>
    simp only [hp, Option.mem_def, Option.some.injEq, forall_eq'] at hc
    cases positive <;> simp [readAfterInteger, hp, hc.1, hc.2.1, hc.2.2]
    split <;> rfl

theorem readAfterInteger_lock (hstop : Follows rest) {c₁ c₂ : Cursor} (h : Lock rest c₁ c₂)
    {positive : Bool} {sig : Nat} {r : ReadNumber} {c₂' : Cursor}
    (hr : readAfterInteger positive sig c₂ = .ok (r, c₂')) :
    ∃ c₁', readAfterInteger positive sig c₁ = .ok (r, c₁') ∧ Lock rest c₁' c₂' := by
  obtain ⟨r₀, hr₀⟩ := readAfterInteger_end positive sig
  have hend : ∀ c c' : Cursor, (∀ ch ∈ c.peek, ch ≠ '.' ∧ ch ≠ 'e' ∧ ch ≠ 'E') →
      (∀ ch ∈ c'.peek, ch ≠ '.' ∧ ch ≠ 'e' ∧ ch ≠ 'E') → Lock rest c' c →
      readAfterInteger positive sig c = .ok (r, c₂') →
      ∃ c₁', readAfterInteger positive sig c' = .ok (r, c₁') ∧ Lock rest c₁' c₂' := by
    intro c c' hc hc' hl hrc
    rw [hr₀ c hc] at hrc
    cases hrc
    exact ⟨c', hr₀ c' hc', hl⟩
  rcases h.peek_cases hstop with ⟨ch, u, hu, hp₁, hp₂⟩ | ⟨hu, hp₂, hp₁⟩
  · by_cases hdot : ch = '.'
    · subst hdot
      simp [readAfterInteger, hp₁, hp₂] at hr ⊢
      exact readFraction_lock hstop h (by simp [hu]) hr
    · obtain ⟨he, hE⟩ := ne_exp_of_numberChar (h.chars ch (by simp [hu]))
      exact hend c₂ c₁ (by simp [hp₂, hdot, he, hE]) (by simp [hp₁, hdot, he, hE]) h hr
  · refine hend c₂ c₁ (by simp [hp₂]) ?_ h hr
    rcases hp₁ with hp₁ | hp₁ | hp₁ | hp₁ <;> simp [hp₁]

theorem readNumber_loop_stop {c : Cursor} (hc : Follows c.rest) (positive : Bool) (sig : Nat) :
    ∀ n, readNumber.loop positive sig c n = readAfterInteger positive sig c
  | 0 => rfl
  | _ + 1 => by rcases hc.peek with hp | hp | hp | hp <;> simp [readNumber.loop, hp]

theorem readNumber_loop_lock (hstop : Follows rest) {positive : Bool} {r : ReadNumber}
    {c₂' : Cursor} :
    ∀ (u : List Char) (sig : Nat) (c₁ c₂ : Cursor) (n₁ n₂ : Nat), c₂.rest = u →
      Lock rest c₁ c₂ → u.length ≤ n₁ → u.length ≤ n₂ →
      readNumber.loop positive sig c₂ n₂ = .ok (r, c₂') →
      ∃ c₁', readNumber.loop positive sig c₁ n₁ = .ok (r, c₁') ∧ Lock rest c₁' c₂' := by
  intro u
  induction u with
  | nil =>
    intro sig c₁ c₂ n₁ n₂ hu h _ _ hr
    rw [readNumber_loop_stop (by rw [hu]; exact follows_nil)] at hr
    rw [readNumber_loop_stop (h.stop_of_nil hstop hu)]
    exact readAfterInteger_lock hstop h hr
  | cons ch u ih =>
    intro sig c₁ c₂ n₁ n₂ hu h h₁ h₂ hr
    obtain ⟨k₁, rfl⟩ : ∃ k, n₁ = k + 1 := ⟨n₁ - 1, by simp at h₁; omega⟩
    obtain ⟨k₂, rfl⟩ : ∃ k, n₂ = k + 1 := ⟨n₂ - 1, by simp at h₂; omega⟩
    have hp₁ : c₁.peek = some ch := by simp [Cursor.peek_eq, h.rest_eq, hu]
    have hp₂ : c₂.peek = some ch := by simp [Cursor.peek_eq, hu]
    by_cases hd : ch.isDigit
    · by_cases hov : sig * 10 + digitValue ch > u64Max
      · simp only [readNumber.loop, hp₁, hp₂, hd, hov, if_true] at hr ⊢
        exact readLongInteger_lock hstop h hr
      · simp only [readNumber.loop, hp₁, hp₂, hd, hov, if_true, if_false] at hr ⊢
        exact ih _ c₁.next c₂.next k₁ k₂ (by simp [hu]) (h.next (by simp [hu]))
          (by simp at h₁; omega) (by simp at h₂; omega) hr
    · simp [readNumber.loop, hp₁, hp₂, hd] at hr ⊢
      exact readAfterInteger_lock hstop h hr

theorem readNumber_lock (hstop : Follows rest) {c₁ c₂ : Cursor} (h : Lock rest c₁ c₂)
    {positive : Bool} {r : ReadNumber} {c₂' : Cursor}
    (hr : readNumber positive c₂ = .ok (r, c₂')) :
    ∃ c₁', readNumber positive c₁ = .ok (r, c₁') ∧ Lock rest c₁' c₂' := by
  rcases h.peek_cases hstop with ⟨ch, u, hu, hp₁, hp₂⟩ | ⟨hu, hp₂, -⟩
  · have hn := h.next (by simp [hu])
    by_cases h0 : ch = '0'
    · subst h0
      simp [readNumber, hp₁, hp₂] at hr ⊢
      rcases hn.peek_cases hstop with ⟨d, u', hu', hq₁, hq₂⟩ | ⟨hu', hq₂, hq₁⟩
      · by_cases hdd : d.isDigit
        · simp [hq₂, hdd] at hr
        · simp [hq₁, hq₂, hdd] at hr ⊢
          exact readAfterInteger_lock hstop hn hr
      · rcases hq₁ with hq₁ | hq₁ | hq₁ | hq₁ <;> simp [hq₁, hq₂] at hr ⊢ <;>
          exact readAfterInteger_lock hstop hn hr
    · by_cases hd : ch.isDigit
      · simp [readNumber, hp₁, hp₂, h0, hd] at hr ⊢
        exact readNumber_loop_lock hstop _ _ c₁.next c₂.next _ _ rfl hn
          (by simpa using hn.fuel) (by simpa using hn.room₂) hr
      · simp [readNumber, hp₂, h0, hd] at hr
  · simp [readNumber, hp₂] at hr

end Lockstep

/-! ## Which reads give floats -/

section Floats

variable {positive : Bool} {sig : Nat} {r : ReadNumber} {c' : Cursor}

theorem finishFloat_float {exp : Int} {c : Cursor}
    (h : finishFloat positive sig exp c = .ok (r, c')) :
    ∃ f, r = .float f := by
  unfold finishFloat at h
  split at h
  · cases h
    exact ⟨_, rfl⟩
  · cases h

theorem readExponent_loop_float {startExp : Int} {posExp : Bool} :
    ∀ n exp c, readExponent.loop positive sig startExp posExp exp c n = .ok (r, c') →
      ∃ f, r = .float f
  | 0, _, _, h => finishFloat_float h
  | n + 1, exp, c, h => by
    simp only [readExponent.loop] at h
    split at h
    · split at h
      · split at h
        · split at h
          · cases h
          · cases h
            exact ⟨_, rfl⟩
        · exact readExponent_loop_float n _ _ h
      · exact finishFloat_float h
    · exact finishFloat_float h

theorem readExponent_float {startExp : Int} {c : Cursor}
    (h : readExponent positive sig startExp c = .ok (r, c')) : ∃ f, r = .float f := by
  unfold readExponent at h
  simp only at h
  split at h
  · cases h
  · split at h
    · cases h
    · exact readExponent_loop_float _ _ _ h

theorem finishFraction_float {beforeExp : Int} {after : Nat} {c : Cursor}
    (h : finishFraction positive sig beforeExp after c = .ok (r, c')) : ∃ f, r = .float f := by
  unfold finishFraction at h
  split at h
  · split at h <;> cases h
  · split at h
    · exact readExponent_float h
    · exact readExponent_float h
    · exact finishFloat_float h

theorem readFraction_loop_float {beforeExp : Int} :
    ∀ n sig after c, readFraction.loop positive beforeExp sig after c n = .ok (r, c') →
      ∃ f, r = .float f
  | 0, _, _, _, h => finishFraction_float h
  | n + 1, sig, after, c, h => by
    simp only [readFraction.loop] at h
    split at h
    · split at h
      · split at h
        · split at h
          · exact readExponent_float h
          · exact readExponent_float h
          · exact finishFloat_float h
        · exact readFraction_loop_float n _ _ _ h
      · exact finishFraction_float h
    · exact finishFraction_float h

theorem readFraction_float {beforeExp : Int} {c : Cursor}
    (h : readFraction positive sig beforeExp c = .ok (r, c')) : ∃ f, r = .float f :=
  readFraction_loop_float _ _ _ _ h

theorem readLongInteger_go_float :
    ∀ n exp c, readLongInteger.go positive sig exp c n = .ok (r, c') → ∃ f, r = .float f
  | 0, _, _, h => finishFloat_float h
  | n + 1, exp, c, h => by
    simp only [readLongInteger.go] at h
    split at h
    · split at h
      · exact readLongInteger_go_float n _ _ h
      · split at h
        · exact readFraction_float h
        · split at h
          · exact readExponent_float h
          · exact finishFloat_float h
    · exact finishFloat_float h

theorem readLongInteger_float {c : Cursor} (h : readLongInteger positive sig c = .ok (r, c')) :
    ∃ f, r = .float f :=
  readLongInteger_go_float _ _ _ h

end Floats

/-! ## Integer texts print back as written -/

theorem digitChar_digitValue {d : Char} (hd : d.isDigit) :
    Nat.digitChar (digitValue d) = d ∧ digitValue d < 10 := by
  have hr : 48 ≤ d.toNat ∧ d.toNat ≤ 57 := by
    simp only [Char.isDigit, Bool.and_eq_true, decide_eq_true_eq, UInt32.le_iff_toNat_le] at hd
    exact hd
  have hlt : digitValue d < 10 := show d.toNat - 48 < 10 by omega
  refine ⟨Char.toNat_inj.mp ?_, hlt⟩
  rw [Nat.toNat_digitChar_of_lt_ten hlt]
  show 48 + (d.toNat - 48) = d.toNat
  omega

theorem toDigits_ofDigitChars :
    ∀ (ds : List Char) (init : Nat), init ≠ 0 → (∀ d ∈ ds, d.isDigit) →
      Nat.toDigits 10 (Nat.ofDigitChars 10 ds init) = Nat.toDigits 10 init ++ ds
  | [], _, _, _ => by simp
  | d :: ds, init, h0, hds => by
    obtain ⟨hdc, hlt⟩ := digitChar_digitValue (hds d (by simp))
    have hstep : Nat.toDigits 10 init ++ [d] = Nat.toDigits 10 (10 * init + digitValue d) := by
      rw [← Nat.toDigits_append_toDigits (by decide) (by omega) hlt, Nat.toDigits_of_lt_base hlt,
        hdc]
    rw [Nat.ofDigitChars_cons, toDigits_ofDigitChars ds _ (by omega)
      (fun x hx => hds x (by simp [hx]))]
    rw [show d.toNat - '0'.toNat = digitValue d from rfl, ← hstep, List.append_assoc]
    rfl

/-- How a read number is an integer: unsigned as read after no sign, negated and nonzero
after a minus sign. -/
def IntRead (positive : Bool) (sig : Nat) (r : ReadNumber) : Prop :=
  (positive = true ∧ r = .unsigned sig) ∨ (positive = false ∧ sig ≠ 0 ∧ r = .signed (-(sig : Int)))

section Integers

variable {positive : Bool} {r : ReadNumber} {c' : Cursor}

theorem readAfterInteger_int {sig : Nat} {c : Cursor}
    (h : readAfterInteger positive sig c = .ok (r, c')) (hr : ∀ f, r ≠ .float f) :
    c' = c ∧ IntRead positive sig r := by
  unfold readAfterInteger at h
  split at h
  · obtain ⟨f, rfl⟩ := readFraction_float h
    exact absurd rfl (hr f)
  · obtain ⟨f, rfl⟩ := readExponent_float h
    exact absurd rfl (hr f)
  · obtain ⟨f, rfl⟩ := readExponent_float h
    exact absurd rfl (hr f)
  · split at h
    · cases h
      exact ⟨rfl, .inl ⟨by assumption, rfl⟩⟩
    · rename_i hpos
      split at h
      · cases h
        exact absurd rfl (hr _)
      · rename_i hsig
        cases h
        simp only [Bool.not_eq_true] at hpos
        simp only [Bool.or_eq_true, beq_iff_eq, decide_eq_true_eq, not_or] at hsig
        exact ⟨rfl, .inr ⟨hpos, hsig.1, rfl⟩⟩

theorem readNumber_loop_int (hr : ∀ f, r ≠ .float f) :
    ∀ n sig c, readNumber.loop positive sig c n = .ok (r, c') →
      ∃ ds, (∀ d ∈ ds, d.isDigit) ∧ c.rest = ds ++ c'.rest ∧
        IntRead positive (Nat.ofDigitChars 10 ds sig) r
  | 0, sig, c, h => by
    obtain ⟨rfl, hi⟩ := readAfterInteger_int h hr
    exact ⟨[], by simp, rfl, by simpa using hi⟩
  | n + 1, sig, c, h => by
    simp only [readNumber.loop] at h
    split at h
    · rename_i d hp
      split at h
      · rename_i hd
        split at h
        · obtain ⟨f, rfl⟩ := readLongInteger_float h
          exact absurd rfl (hr f)
        · obtain ⟨ds, hds, hrest, hi⟩ := readNumber_loop_int hr n _ _ h
          refine ⟨d :: ds, ?_, by rw [Cursor.rest_of_peek hp, hrest]; rfl, ?_⟩
          · simpa [hd] using hds
          · rw [Nat.ofDigitChars_cons, Nat.mul_comm]
            exact hi
      · obtain ⟨rfl, hi⟩ := readAfterInteger_int h hr
        exact ⟨[], by simp, rfl, by simpa using hi⟩
    · obtain ⟨rfl, hi⟩ := readAfterInteger_int h hr
      exact ⟨[], by simp, rfl, by simpa using hi⟩

theorem readNumber_int {c : Cursor} (h : readNumber positive c = .ok (r, c'))
    (hr : ∀ f, r ≠ .float f) :
    ∃ n, c.rest = Nat.toDigits 10 n ++ c'.rest ∧ IntRead positive n r := by
  unfold readNumber at h
  split at h
  · cases h
  · rename_i ch hp
    simp only at h
    split at h
    · rename_i h0
      have hrest : c.rest = Nat.toDigits 10 0 ++ c.next.rest := by
        rw [Cursor.rest_of_peek hp, show ch = '0' by simpa using h0]
        rfl
      split at h
      · split at h
        · cases h
        · obtain ⟨rfl, hi⟩ := readAfterInteger_int h hr
          exact ⟨0, hrest, hi⟩
      · obtain ⟨rfl, hi⟩ := readAfterInteger_int h hr
        exact ⟨0, hrest, hi⟩
    · split at h
      · rename_i h0 hd
        obtain ⟨ds, hds, hrest, hi⟩ := readNumber_loop_int hr _ _ _ h
        obtain ⟨hdc, hlt⟩ := digitChar_digitValue hd
        have hv : digitValue ch ≠ 0 := by
          intro hz
          rw [hz] at hdc
          exact h0 (by simp [← hdc])
        refine ⟨_, ?_, hi⟩
        rw [toDigits_ofDigitChars ds _ hv hds, Nat.toDigits_of_lt_base hlt, hdc,
          Cursor.rest_of_peek hp, hrest]
        rfl
      · cases h

end Integers

/-! ## A number text read alone and read in place -/

theorem Lock.refl {c : Cursor} (hc : ∀ ch ∈ c.rest, numberChar ch)
    (hlim : c.rest.length ≤ c.limit) :
    Lock [] c c :=
  ⟨by simp, hc, hlim, hlim⟩

theorem readNumber_lead {positive : Bool} {c c' : Cursor} {r : ReadNumber}
    (h : readNumber positive c = .ok (r, c')) : ∃ d u, c.rest = d :: u ∧ d.isDigit := by
  unfold readNumber at h
  split at h
  · cases h
  · rename_i ch hp
    refine ⟨ch, _, Cursor.rest_of_peek hp, ?_⟩
    simp only at h
    split at h
    · rename_i h0
      simp only [beq_iff_eq] at h0
      rw [h0]
      rfl
    · split at h
      · assumption
      · cases h

theorem parse_number_cases {t : String} (ht : NumberToken t) {n : Number}
    (h : parse t = .ok (.number n)) :
    ∃ (positive : Bool) (c₂ c₂' : Cursor) (r : ReadNumber),
      t.toList = (if positive then [] else ['-']) ++ c₂.rest ∧ c₂.rest.length ≤ c₂.limit ∧
      readNumber positive c₂ = .ok (r, c₂') ∧ r.toNumber = n ∧ c₂'.rest = [] := by
  obtain ⟨ch, cs, hcs, hlead⟩ := ht.lead
  have hp : (Cursor.start t).peek = some ch := by simp [Cursor.start, Cursor.peek_eq, hcs]
  have hroom : (Cursor.start t).rest.length ≤ (Cursor.start t).limit := by
    simp [Cursor.start, String.length_toList]
  unfold parse at h
  dsimp only at h
  cases hread : readValue depthLimit (Cursor.start t) ((Cursor.start t).limit + 1) with
  | error e =>
    rw [hread] at h
    cases h
  | ok p =>
    obtain ⟨v, c'⟩ := p
    rw [hread] at h
    simp only [bind, Except.bind] at h
    split at h
    · cases h
    · rename_i hnone
      cases h
      have hend : ∀ {c₂ : Cursor} {positive : Bool} {r : ReadNumber},
          (∀ x ∈ c₂.rest, numberChar x) → c₂.rest.length ≤ c₂.limit →
          readNumber positive c₂ = .ok (r, c') → c'.rest = [] := by
        intro c₂ positive r hc hlim hr
        obtain ⟨c₁', h1, hl⟩ := readNumber_lock follows_nil (Lock.refl hc hlim) hr
        rw [hr] at h1
        cases h1
        rw [skipBlank_of_numberChar fun x hx => hl.chars x (by
          rw [Cursor.peek_eq] at hx
          exact List.mem_of_mem_head? hx)] at hnone
        simpa [Cursor.peek_eq] using hnone
      have hchars : ∀ x ∈ (Cursor.start t).rest, numberChar x := ht.chars
      simp only [numberLead, Bool.or_eq_true, beq_iff_eq] at hlead
      rcases hlead with ((hd | rfl) | rfl) | rfl
      · rw [readValue_digit hp hd] at hread
        cases hr : readNumber true (Cursor.start t) with
        | error e => simp [hr, Except.map] at hread
        | ok q =>
          obtain ⟨r, c₂'⟩ := q
          simp only [hr, Except.map, Except.ok.injEq, Prod.mk.injEq, Value.number.injEq] at hread
          obtain ⟨rfl, rfl⟩ := hread
          exact ⟨true, _, _, r, by simp [Cursor.start], hroom, hr, rfl,
            hend hchars hroom hr⟩
      · rw [readValue_minus hp] at hread
        have hnext : (Cursor.start t).next.rest = cs := by simp [Cursor.start, hcs]
        cases hr : readNumber false (Cursor.start t).next with
        | error e => simp [hr, Except.map] at hread
        | ok q =>
          obtain ⟨r, c₂'⟩ := q
          simp only [hr, Except.map, Except.ok.injEq, Prod.mk.injEq, Value.number.injEq] at hread
          obtain ⟨rfl, rfl⟩ := hread
          have hroom' : (Cursor.start t).next.rest.length ≤ (Cursor.start t).next.limit := by
            simp only [Cursor.rest_next, Cursor.limit_next, List.length_tail]
            omega
          have hchars' : ∀ x ∈ (Cursor.start t).next.rest, numberChar x := by
            rw [hnext]
            exact fun x hx => ht.chars x (by simp [hcs, hx])
          exact ⟨false, _, _, r, by rw [hnext, hcs]; rfl, hroom', hr, rfl,
            hend hchars' hroom' hr⟩
      all_goals
        have hs : (Cursor.start t).skipBlank = Cursor.start t :=
          skipBlank_of_numberChar fun x hx => by
            rw [hp, Option.mem_some_iff] at hx
            subst hx
            decide
        simp [readValue, hs, hp] at hread

/-- A number text that parses alone is read the same way in place, before anything that
may follow a value. -/
theorem readValue_of_parse_number {t : String} (ht : NumberToken t) {n : Number}
    (h : parse t = .ok (.number n)) {rest : List Char} (hstop : Follows rest) (depth fuel : Nat)
    {c : Cursor} (hc : c.rest = t.toList ++ rest) (hlim : c.rest.length ≤ c.limit) :
    ∃ c', readValue depth c (fuel + 1) = .ok (.number n, c') ∧ c'.rest = rest ∧
      rest.length ≤ c'.limit := by
  obtain ⟨positive, c₂, c₂', r, ht', hroom, hr, rfl, hend⟩ := parse_number_cases ht h
  obtain ⟨d, u, hu, hd⟩ := readNumber_lead hr
  have hchars : ∀ x ∈ c₂.rest, numberChar x := fun x hx => ht.chars x (by rw [ht']; simp [hx])
  cases positive with
  | true =>
    rw [if_pos rfl, List.nil_append] at ht'
    have hl : Lock rest c c₂ := ⟨by rw [hc, ht'], hchars, hlim, hroom⟩
    obtain ⟨c₁', h1, hl'⟩ := readNumber_lock hstop hl hr
    have hp : c.peek = some d := by simp [Cursor.peek_eq, hc, ht', hu]
    have hrest : c₁'.rest = rest := by rw [hl'.rest_eq, hend, List.nil_append]
    exact ⟨c₁', by rw [readValue_digit hp hd, h1]; rfl, hrest, hrest ▸ hl'.room₁⟩
  | false =>
    rw [if_neg (by decide), List.singleton_append] at ht'
    have hp : c.peek = some '-' := by simp [Cursor.peek_eq, hc, ht']
    have hl : Lock rest c.next c₂ := ⟨by simp [hc, ht'], hchars, by simp [hc] at hlim ⊢; omega,
      hroom⟩
    obtain ⟨c₁', h1, hl'⟩ := readNumber_lock hstop hl hr
    have hrest : c₁'.rest = rest := by rw [hl'.rest_eq, hend, List.nil_append]
    exact ⟨c₁', by rw [readValue_minus hp, h1]; rfl, hrest, hrest ▸ hl'.room₁⟩

/-- A number text that parses alone to an integer is that integer's decimal text. -/
theorem toString_of_parse_int {t : String} (ht : NumberToken t) {i : Int}
    (h : parse t = .ok (.number (.int i))) : toString i = t := by
  obtain ⟨positive, c₂, c₂', r, ht', -, hr, hn, hend⟩ := parse_number_cases ht h
  obtain ⟨m, hm, hi⟩ := readNumber_int hr (by rintro f rfl; cases hn)
  rw [hend, List.append_nil] at hm
  apply String.ext
  rcases hi with ⟨rfl, rfl⟩ | ⟨rfl, hm0, rfl⟩
  · cases hn
    rw [ht', hm]
    exact toString_ofNat_toList m
  · cases hn
    obtain ⟨k, rfl⟩ : ∃ k, m = k + 1 := ⟨m - 1, by omega⟩
    rw [ht', hm, show -((k + 1 : Nat) : Int) = Int.negSucc k from rfl, toString_negSucc_toList]
    rfl

end CapsuleFlow.Json
