import CapsuleFlow.Json.Print
import CapsuleFlow.Json.Reader

/-!
# String literals read back

The string reader reads back every literal the writer makes: `readString` on the body of
`quote s` followed by any text gives `s` and stops right after the closing quote. Every
character is covered: the two-character escapes, the `\u00xx` escapes of the other control
characters, and the characters written as they are.

Since a reader is a function, this makes literals self-delimiting: a literal followed by a
text determines both (`quote_append_inj`), so distinct strings have distinct literals.
-/

namespace CapsuleFlow.Json

namespace Cursor

theorem peek_eq (c : Cursor) : c.peek = c.rest.head? := rfl

@[simp] theorem rest_next (c : Cursor) : c.next.rest = c.rest.tail := by
  unfold Cursor.next
  split
  · next h => simp [h]
  · next ch t h =>
    rw [h]
    split <;> rfl

@[simp] theorem limit_next (c : Cursor) : c.next.limit = c.limit := by
  unfold Cursor.next
  split
  · rfl
  · split <;> rfl

theorem peek_of_rest {c : Cursor} {ch : Char} {t : List Char} (h : c.rest = ch :: t) :
    c.peek = some ch := by
  simp [peek_eq, h]

theorem skipBytes_go_zero (c : Cursor) (fuel : Nat) : skipBytes.go c 0 fuel = c := by
  cases fuel <;> simp [skipBytes.go]

theorem skipBytes_four {c : Cursor} {a b d e : Char} {t : List Char}
    (h : c.rest = a :: b :: d :: e :: t) (ha : a.utf8Size = 1) (hb : b.utf8Size = 1)
    (hd : d.utf8Size = 1) (he : e.utf8Size = 1) (hlim : c.rest.length ≤ c.limit) :
    (c.skipBytes 4).rest = t ∧ (c.skipBytes 4).limit = c.limit := by
  obtain ⟨fuel, hfuel⟩ : ∃ fuel, c.limit = fuel + 4 := ⟨c.limit - 4, by simp [h] at hlim; omega⟩
  simp [skipBytes, hfuel, skipBytes.go, h, ha, hb, hd, he, skipBytes_go_zero]

end Cursor

/-! ## Hex digits -/

theorem hexValue_hexDigit : ∀ n < 16, hexValue? (hexDigit n) = some n := by decide

theorem utf8Size_hexDigit : ∀ n < 16, (hexDigit n).utf8Size = 1 := by decide

/-! ## One escaped character -/

theorem readHex4_control {c : Cursor} {ch : Char} {t : List Char} (hch : ch.toNat < 0x20)
    (h : c.rest = '0' :: '0' :: hexDigit (ch.toNat / 16) :: hexDigit (ch.toNat % 16) :: t) :
    readHex4 c = .ok (ch.toNat, c.skipBytes 4) := by
  have hhi : ch.toNat / 16 < 16 := by omega
  have hlo : ch.toNat % 16 < 16 := Nat.mod_lt _ (by decide)
  have hzero : ('0' : Char).utf8Size = 1 := rfl
  have hzeroValue : hexValue? '0' = some 0 := rfl
  simp [readHex4, h, hzero, hzeroValue, utf8Size_hexDigit _ hhi, utf8Size_hexDigit _ hlo,
    hexValue_hexDigit _ hhi, hexValue_hexDigit _ hlo]
  omega

theorem readUnicodeEscape_control {c : Cursor} {ch : Char} {t : List Char} (hch : ch.toNat < 0x20)
    (h : c.rest = '0' :: '0' :: hexDigit (ch.toNat / 16) :: hexDigit (ch.toNat % 16) :: t)
    (hlim : c.rest.length ≤ c.limit) :
    ∃ c', readUnicodeEscape c = .ok (ch, c') ∧ c'.rest = t ∧ c'.limit = c.limit := by
  have hhi : ch.toNat / 16 < 16 := by omega
  have hlo : ch.toNat % 16 < 16 := Nat.mod_lt _ (by decide)
  obtain ⟨hskip, hskipLim⟩ := Cursor.skipBytes_four h rfl rfl (utf8Size_hexDigit _ hhi)
    (utf8Size_hexDigit _ hlo) hlim
  refine ⟨c.skipBytes 4, ?_, hskip, hskipLim⟩
  simp only [readUnicodeEscape, readHex4_control hch h, bind, Except.bind]
  simp [show ¬ 0xDC00 ≤ ch.toNat by omega, show ch.toNat < 0xD800 by omega, pure, Except.pure]

theorem readString_go_escapeChar (acc : List Char) (c : Cursor) (n : Nat) (ch : Char)
    (t : List Char) (h : c.rest = escapeChar ch ++ t) (hlim : c.rest.length ≤ c.limit) :
    ∃ c', readString.go acc c (n + 1) = readString.go (ch :: acc) c' n ∧ c'.rest = t ∧
      c'.limit = c.limit := by
  unfold escapeChar at h
  split at h
  · refine ⟨c.next.next, ?_, by simp [h], by simp⟩
    simp [readString.go, Cursor.peek_eq, h]
  · refine ⟨c.next.next, ?_, by simp [h], by simp⟩
    simp [readString.go, Cursor.peek_eq, h]
  · refine ⟨c.next.next, ?_, by simp [h], by simp⟩
    simp [readString.go, Cursor.peek_eq, h]
  · refine ⟨c.next.next, ?_, by simp [h], by simp⟩
    simp [readString.go, Cursor.peek_eq, h]
  · refine ⟨c.next.next, ?_, by simp [h], by simp⟩
    simp [readString.go, Cursor.peek_eq, h]
  · refine ⟨c.next.next, ?_, by simp [h], by simp⟩
    simp [readString.go, Cursor.peek_eq, h]
  · refine ⟨c.next.next, ?_, by simp [h], by simp⟩
    simp [readString.go, Cursor.peek_eq, h]
  · next ch' hq hb hbs hff hnl hcr htab =>
    split at h
    · next hctl =>
      have hrest : c.next.next.rest =
          '0' :: '0' :: hexDigit (ch.toNat / 16) :: hexDigit (ch.toNat % 16) :: t := by
        simp [h]
      have hlim' : c.next.next.rest.length ≤ c.next.next.limit := by
        simp [h] at hlim ⊢
        omega
      obtain ⟨c', hu, hrest', hlim''⟩ := readUnicodeEscape_control hctl hrest hlim'
      refine ⟨c', ?_, hrest', by simp [hlim'']⟩
      simp [readString.go, Cursor.peek_eq, h, hu]
    · next hctl =>
      refine ⟨c.next, ?_, by simp [h], by simp⟩
      simp [readString.go, Cursor.peek_eq, h, hctl]

theorem length_le_flatMap_escapeChar (l : List Char) : l.length ≤ (l.flatMap escapeChar).length := by
  induction l with
  | nil => simp
  | cons ch l ih =>
    have : 1 ≤ (escapeChar ch).length := by
      unfold escapeChar
      split <;> (try split) <;> simp
    simp only [List.flatMap_cons, List.length_append, List.length_cons]
    omega

/-! ## Whole literals -/

theorem readString_go_body (r : List Char) (l : List Char) :
    ∀ (acc : List Char) (c : Cursor) (n : Nat), c.rest = l.flatMap escapeChar ++ '"' :: r →
      c.rest.length ≤ c.limit → l.length < n →
      ∃ c', readString.go acc c n = .ok (String.ofList (acc.reverse ++ l), c') ∧
        c'.rest = r ∧ c'.limit = c.limit := by
  induction l with
  | nil =>
    intro acc c n h _ hn
    obtain ⟨m, rfl⟩ : ∃ m, n = m + 1 := ⟨n - 1, by simp at hn; omega⟩
    refine ⟨c.next, ?_, by simp [h], by simp⟩
    simp [readString.go, Cursor.peek_eq, h]
  | cons ch l ih =>
    intro acc c n h hlim hn
    obtain ⟨m, rfl⟩ : ∃ m, n = m + 1 := ⟨n - 1, by simp at hn; omega⟩
    rw [List.flatMap_cons, List.append_assoc] at h
    obtain ⟨c', hstep, hrest, hlim'⟩ := readString_go_escapeChar acc c m ch _ h hlim
    have hlen : c'.rest.length ≤ c'.limit := by
      rw [hlim', hrest]
      simp only [h, List.length_append] at hlim ⊢
      omega
    obtain ⟨c'', hgo, hrest'', hlim''⟩ := ih (ch :: acc) c' m hrest hlen (by simp at hn; omega)
    refine ⟨c'', ?_, hrest'', by rw [hlim'', hlim']⟩
    rw [hstep, hgo]
    simp

theorem readString_quote {s : String} {r : List Char} {c : Cursor}
    (h : c.rest = s.toList.flatMap escapeChar ++ '"' :: r) (hlim : c.rest.length ≤ c.limit) :
    ∃ c', readString c = .ok (s, c') ∧ c'.rest = r ∧ c'.limit = c.limit := by
  have hn : s.toList.length < c.limit := by
    have := length_le_flatMap_escapeChar s.toList
    simp only [h, List.length_append, List.length_cons] at hlim
    omega
  obtain ⟨c', hgo, hr, hl⟩ := readString_go_body r s.toList [] c c.limit h hlim hn
  exact ⟨c', by simpa [readString] using hgo, hr, hl⟩

theorem quote_toList (s : String) :
    (quote s).toList = '"' :: (s.toList.flatMap escapeChar ++ ['"']) := by
  simp [quote]

/-- A literal followed by any text determines both. -/
theorem quote_append_inj {s s' : String} {r r' : List Char}
    (h : (quote s).toList ++ r = (quote s').toList ++ r') : s = s' ∧ r = r' := by
  let c : Cursor := { rest := s.toList.flatMap escapeChar ++ '"' :: r,
                      limit := (s.toList.flatMap escapeChar ++ '"' :: r).length }
  have hlim : c.rest.length ≤ c.limit := Nat.le_refl _
  obtain ⟨c₁, h₁, hr₁, -⟩ := readString_quote (c := c) rfl hlim
  have hc : c.rest = s'.toList.flatMap escapeChar ++ '"' :: r' := by
    simpa [c, quote_toList] using h
  obtain ⟨c₂, h₂, hr₂, -⟩ := readString_quote hc hlim
  rw [h₁] at h₂
  simp only [Except.ok.injEq, Prod.mk.injEq] at h₂
  exact ⟨h₂.1, by rw [← hr₁, ← hr₂, h₂.2]⟩

end CapsuleFlow.Json
