import Mathlib.Data.String.Basic
import Mathlib.Tactic.IntervalCases
import CapsuleFlow.Digest

/-!
# The hex codec of digests

A digest is written as lowercase hex, two digits a byte, the high digit first; it is read
back from hex that is nonempty, of even length and lowercase. The two are inverse
(`digest_codecs_inverse`). The hex of a digest of at least one byte reads back as that
digest on its own, from the digest's wire record, and behind either role prefix; a wire
record that reads at all is the record of the digest it reads as. Reading never goes
wrong: a text that is not lowercase hex of even length gets the length error, and one that
is has a single byte for each character, so cutting it into pairs of bytes never splits a
character.
-/

namespace CapsuleFlow

/-- A lowercase hex digit, as `isLowerHex` asks of every character. -/
def isLowerHexDigit (c : Char) : Bool := c.isDigit || ('a' ≤ c && c ≤ 'f')

theorem isLowerHex_eq (s : String) :
    isLowerHex s = (!s.isEmpty && s.toList.all isLowerHexDigit) := by
  rw [isLowerHex, String.all_bool_eq]
  rfl

theorem toNat_lt_of_isLowerHexDigit {c : Char} (h : isLowerHexDigit c = true) : c.toNat < 128 := by
  simp only [isLowerHexDigit, Char.isDigit, Bool.or_eq_true, Bool.and_eq_true, decide_eq_true_eq,
    Char.le_def, UInt32.le_iff_toNat_le] at h
  have h9 : ('9' : Char).val.toNat = 57 := rfl
  have hf : ('f' : Char).val.toNat = 102 := rfl
  change c.val.toNat < 128
  omega

theorem utf8Size_of_isLowerHexDigit {c : Char} (h : isLowerHexDigit c = true) : c.utf8Size = 1 :=
  Char.utf8Size_eq_one_iff.mpr (UInt32.le_iff_toNat_le.mpr
    (Nat.le_of_lt_succ (toNat_lt_of_isLowerHexDigit h)))

theorem hexDigit_lowerHexValue {c : Char} (h : isLowerHexDigit c = true) :
    Hash.hexDigit (lowerHexValue c) = c ∧ lowerHexValue c < 16 := by
  have hascii : ∀ n < 128, isLowerHexDigit (Char.ofNat n) = true →
      Hash.hexDigit (lowerHexValue (Char.ofNat n)) = Char.ofNat n ∧
        lowerHexValue (Char.ofNat n) < 16 := by
    decide
  have hc := hascii c.toNat (toNat_lt_of_isLowerHexDigit h)
  rw [Char.ofNat_toNat] at hc
  exact hc h

theorem lowerHexValue_hexDigit : ∀ n < 16, lowerHexValue (Hash.hexDigit n) = n := by
  decide

theorem utf8ByteSize_of_isLowerHex {s : String} (h : isLowerHex s = true) :
    s.utf8ByteSize = s.length := by
  rw [isLowerHex_eq, Bool.and_eq_true, List.all_eq_true] at h
  have hlen : ∀ cs : List Char, (∀ c ∈ cs, isLowerHexDigit c = true) →
      String.utf8Len cs = cs.length := by
    intro cs hcs
    induction cs with
    | nil => rfl
    | cons c cs ih =>
      rw [String.utf8Len_cons, ih fun x hx => hcs x (List.mem_cons_of_mem c hx),
        utf8Size_of_isLowerHexDigit (hcs c List.mem_cons_self), List.length_cons]
  rw [← String.ofList_toList (s := s), String.utf8ByteSize_ofList, String.length_ofList]
  exact hlen _ h.2

namespace Hash

theorem hexDigit_lower {n : Nat} (h : n < 16) : isLowerHexDigit (hexDigit n) = true := by
  interval_cases n <;> decide

theorem toList_toHex (bytes : List UInt8) :
    (toHex bytes).toList =
      bytes.flatMap fun b => [hexDigit (b.toNat / 16), hexDigit (b.toNat % 16)] :=
  String.toList_ofList

theorem toList_toHex_cons (b : UInt8) (bytes : List UInt8) :
    (toHex (b :: bytes)).toList =
      hexDigit (b.toNat / 16) :: hexDigit (b.toNat % 16) :: (toHex bytes).toList := by
  simp [toList_toHex]

theorem length_toHex (bytes : List UInt8) : (toHex bytes).length = 2 * bytes.length := by
  rw [← String.length_toList]
  induction bytes with
  | nil => rfl
  | cons b bs ih =>
    rw [toList_toHex_cons, List.length_cons, List.length_cons, ih, List.length_cons]
    omega

theorem isLowerHex_toHex {bytes : List UInt8} (h : bytes ≠ []) : isLowerHex (toHex bytes) = true := by
  have hne : (toHex bytes).isEmpty = false := by
    rw [Bool.eq_false_iff, ne_eq, String.isEmpty_iff, ← String.length_eq_zero_iff, length_toHex]
    simpa using h
  rw [isLowerHex_eq, hne, toList_toHex, Bool.not_false, Bool.true_and, List.all_flatMap,
    List.all_eq_true]
  intro b _
  have hb := b.toNat_lt
  simp only [List.all_cons, List.all_nil, hexDigit_lower (show b.toNat / 16 < 16 by omega),
    hexDigit_lower (show b.toNat % 16 < 16 by omega), Bool.and_self]

end Hash

theorem hexBytes_toHex (bytes : List UInt8) : hexBytes (Hash.toHex bytes).toList = bytes := by
  induction bytes with
  | nil => rfl
  | cons b bs ih =>
    have hb := b.toNat_lt
    rw [Hash.toList_toHex_cons, hexBytes, ih, lowerHexValue_hexDigit _ (by omega),
      lowerHexValue_hexDigit _ (by omega), Nat.div_add_mod', Nat.toUInt8_eq, UInt8.ofNat_toNat]

theorem toList_toHex_hexBytes {cs : List Char} (hd : cs.all isLowerHexDigit = true)
    (he : cs.length % 2 = 0) : (Hash.toHex (hexBytes cs)).toList = cs := by
  fun_induction hexBytes cs with
  | case1 a b rest ih =>
    simp only [List.all_cons, Bool.and_eq_true] at hd
    obtain ⟨ha, hva⟩ := hexDigit_lowerHexValue hd.1
    obtain ⟨hb, hvb⟩ := hexDigit_lowerHexValue hd.2.1
    have hbyte : (lowerHexValue a * 16 + lowerHexValue b).toUInt8.toNat =
        lowerHexValue a * 16 + lowerHexValue b := by
      simp only [Nat.toUInt8_eq, UInt8.toNat_ofNat']
      omega
    rw [Hash.toList_toHex_cons, hbyte, ih hd.2.2 (by simp at he; omega),
      show (lowerHexValue a * 16 + lowerHexValue b) / 16 = lowerHexValue a by omega,
      show (lowerHexValue a * 16 + lowerHexValue b) % 16 = lowerHexValue b by omega, ha, hb]
  | case2 cs hpair =>
    match cs, hpair, he with
    | [], _, _ => rfl
    | [_], _, he => simp at he
    | a :: b :: rest, hpair, _ => exact (hpair a b rest rfl).elim

namespace ContentDigest

variable {d : ContentDigest}

theorem decodeHex_hex (h : d.bytes ≠ []) : decodeHex d.hex = some d.bytes := by
  have hlower := Hash.isLowerHex_toHex h
  have hsize : (Hash.toHex d.bytes).utf8ByteSize % 2 = 0 := by
    rw [utf8ByteSize_of_isLowerHex hlower, Hash.length_toHex]
    omega
  simp [decodeHex, hex, hsize, hlower, hexBytes_toHex]

theorem fromHex_hex (h : d.bytes ≠ []) : fromHex d.algorithm d.hex = .ok d := by
  simp [fromHex, decodeHex_hex h]

theorem fromRecord_hex (h : d.bytes ≠ []) : fromRecord d.algorithm d.hex d.length = .ok d := by
  simp [fromRecord, fromHex_hex h, bind, Except.bind, pure, Except.pure]

theorem decodeHex_eq_some {s : String} {bytes : List UInt8} (h : decodeHex s = some bytes) :
    isLowerHex s = true ∧ s.length % 2 = 0 ∧ Hash.toHex bytes = s := by
  simp only [decodeHex, bne_iff_ne, ne_eq, Bool.or_eq_true, Bool.not_eq_true',
    Option.ite_none_left_eq_some, not_or, Decidable.not_not, Bool.not_eq_false,
    Option.some.injEq] at h
  obtain ⟨⟨heven, hlower⟩, rfl⟩ := h
  have hlen : s.length % 2 = 0 := by rwa [← utf8ByteSize_of_isLowerHex hlower]
  refine ⟨hlower, hlen, String.toList_inj.mp (toList_toHex_hexBytes ?_ (by rwa [String.length_toList]))⟩
  rw [isLowerHex_eq, Bool.and_eq_true] at hlower
  exact hlower.2

theorem fromHex_eq_ok {alg : DigestAlgorithm} {s : String} (h : fromHex alg s = .ok d) :
    d.algorithm = alg ∧ decodeHex s = some d.bytes := by
  unfold fromHex at h
  split at h
  · cases h
    exact ⟨rfl, ‹_›⟩
  · cases h

theorem fromRecord_eq_ok {alg : DigestAlgorithm} {s : String} {n : Nat}
    (h : fromRecord alg s n = .ok d) : d.hex = s ∧ d.algorithm = alg ∧ d.length = n := by
  cases hd : fromHex alg s with
  | error e => simp [fromRecord, hd, bind, Except.bind] at h
  | ok d' =>
    simp only [fromRecord, hd, bind, Except.bind, bne_iff_ne, ne_eq, ite_not] at h
    split at h
    · cases h
      obtain ⟨halg, hdec⟩ := fromHex_eq_ok hd
      exact ⟨(decodeHex_eq_some hdec).2.2, halg, ‹_›⟩
    · cases h

end ContentDigest

theorem Role.idHex_prefixed (r : Role) (hex : String) : r.idHex (r.idPrefix ++ hex) = hex := by
  apply String.toList_inj.mp
  rw [Role.idHex, show ((r.idPrefix ++ hex).drop r.idPrefix.length).toString =
    ((r.idPrefix ++ hex).drop r.idPrefix.length).copy from rfl,
    String.toList_copy_drop, String.toList_append, ← String.length_toList, List.drop_left]

theorem Role.parseId_prefixed (r : Role) {hex : String} (h : isLowerHex hex = true) :
    r.parseId (r.idPrefix ++ hex) = some (r.idPrefix ++ hex) := by
  rw [Role.parseId, if_pos (String.startsWith_string_iff.mpr (by simp)),
    show ((r.idPrefix ++ hex).drop r.idPrefix.length).toString = hex from r.idHex_prefixed hex,
    if_pos h]

theorem ContentDigest.fromHex_cases (alg : DigestAlgorithm) (s : String) :
    (isLowerHex s = true ∧ s.length % 2 = 0 ∧ s.utf8ByteSize = s.length ∧
        ∃ d, fromHex alg s = .ok d ∧ d.hex = s) ∨
      (¬ (isLowerHex s = true ∧ s.length % 2 = 0) ∧
        fromHex alg s = .error (.invalidDigestLength alg.name s.utf8ByteSize
          "digest hex must be an even number of lowercase hex characters")) := by
  cases hdec : decodeHex s with
  | some bytes =>
    obtain ⟨hlower, heven, hhex⟩ := decodeHex_eq_some hdec
    exact .inl ⟨hlower, heven, utf8ByteSize_of_isLowerHex hlower, ⟨alg, bytes⟩,
      by simp [fromHex, hdec], hhex⟩
  | none =>
    refine .inr ⟨fun ⟨hlower, heven⟩ => ?_, by simp [fromHex, hdec]⟩
    have hsize : s.utf8ByteSize % 2 = 0 := by rwa [utf8ByteSize_of_isLowerHex hlower]
    simp [decodeHex, hsize, hlower] at hdec

/-- The digest codecs are inverse. The hex of a digest of at least one byte has two
lowercase digits a byte; it reads back as the digest from the digest's wire record, on its
own, and as the identifier of either role, whose hex it is. A wire record that reads is
the digest's own record, and reading hex always ends in a digest or the length error. -/
theorem digest_codecs_inverse :
    (∀ d : ContentDigest, d.bytes ≠ [] →
      d.hex.length = 2 * d.length ∧ isLowerHex d.hex = true ∧
      ContentDigest.fromRecord d.algorithm d.hex d.length = .ok d ∧
      (∀ r : Role, r.parseId (r.idOf d) = some (r.idOf d) ∧ r.idHex (r.idOf d) = d.hex) ∧
      ContentDigest.fromHex d.algorithm d.hex = .ok d) ∧
    (∀ alg s n d, ContentDigest.fromRecord alg s n = .ok d →
      d.hex = s ∧ d.algorithm = alg ∧ d.length = n) ∧
    (∀ alg s, (isLowerHex s = true ∧ s.length % 2 = 0 ∧ s.utf8ByteSize = s.length ∧
        ∃ d, ContentDigest.fromHex alg s = .ok d ∧ d.hex = s) ∨
      (¬ (isLowerHex s = true ∧ s.length % 2 = 0) ∧
        ContentDigest.fromHex alg s = .error (.invalidDigestLength alg.name s.utf8ByteSize
          "digest hex must be an even number of lowercase hex characters"))) := by
  refine ⟨fun d hd => ?_, fun _ _ _ _ h => ContentDigest.fromRecord_eq_ok h,
    ContentDigest.fromHex_cases⟩
  have hlower := Hash.isLowerHex_toHex hd
  exact ⟨Hash.length_toHex d.bytes, hlower, ContentDigest.fromRecord_hex hd,
    fun r => ⟨r.parseId_prefixed hlower, r.idHex_prefixed d.hex⟩, ContentDigest.fromHex_hex hd⟩

end CapsuleFlow
