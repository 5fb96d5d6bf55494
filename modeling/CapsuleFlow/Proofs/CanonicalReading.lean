import CapsuleFlow.Proofs.NumberReading

/-!
# The reader reads canonical text back

The JSON reader, given the text of a normal form, reads a value whose normal form is the one
it started from (`NormalForm.readsBack`), provided three things hold. The normal form is
*stable* (`NormalForm.Stable`): its strings and keys are left alone by the options' string
normalization, the keys of each object strictly increase, and each number text reads as a
number written again as the same text. It is tokenized, so its numbers are number texts and
each value's first character tells the reader where it ends. And it nests less deeply than
the reader's allowance (`NormalForm.depth`), since the reader refuses the bracket that would
exceed it.

The reader is a family of loops with fuel; the statement `NormalForm.ReadsBack` says what
one value gives at any cursor over its text followed by anything that may follow a value,
with fuel at least the length of the text. It is proved for each kind of value, the items
of an array and the members of an object by induction over the list, and put together by
induction on stability.
-/

namespace CapsuleFlow

open Json

namespace NormalForm

/-- How deeply arrays and objects nest: a scalar has depth zero, and a container one more
than its deepest element. -/
def depth : NormalForm → Nat
  | .array xs => itemsDepth xs + 1
  | .object ms => membersDepth ms + 1
  | _ => 0
where
  /-- The greatest depth of the elements. -/
  itemsDepth : List NormalForm → Nat
    | [] => 0
    | x :: xs => max x.depth (itemsDepth xs)
  /-- The greatest depth of the member values. -/
  membersDepth : List (String × NormalForm) → Nat
    | [] => 0
    | (_, x) :: ms => max x.depth (membersDepth ms)

theorem depth_le_itemsDepth {x : NormalForm} : ∀ {xs : List NormalForm}, x ∈ xs →
    x.depth ≤ depth.itemsDepth xs
  | y :: xs, h => by
    rcases List.mem_cons.mp h with rfl | h
    · exact le_max_left _ _
    · exact le_trans (depth_le_itemsDepth h) (le_max_right _ _)

theorem depth_le_membersDepth {m : String × NormalForm} :
    ∀ {ms : List (String × NormalForm)}, m ∈ ms → m.2.depth ≤ depth.membersDepth ms
  | (k, y) :: ms, h => by
    rcases List.mem_cons.mp h with rfl | h
    · exact le_max_left _ _
    · exact le_trans (depth_le_membersDepth h) (le_max_right _ _)

/-- What canonical text must be for the reader to give it back: strings and keys that the
options' normalization leaves alone, keys that strictly increase, and number texts that read
as numbers written again as the same text. -/
inductive Stable (o : CanonicalOptions) : NormalForm → Prop
  | null : Stable o .null
  | bool (b : Bool) : Stable o (.bool b)
  | number {t : String} {n : Number} (parse_eq : parse t = .ok (.number n))
      (canonical_eq : canonicalNumber n o.decimals = .ok t) : Stable o (.number (some t))
  | string {s : String} (fixed : o.text s = s) : Stable o (.string s)
  | array {xs : List NormalForm} (items : ∀ x ∈ xs, Stable o x) : Stable o (.array xs)
  | object {ms : List (String × NormalForm)} (increasing : Value.KeysIncreasing ms)
      (keys : ∀ m ∈ ms, o.text m.1 = m.1) (values : ∀ m ∈ ms, Stable o m.2) :
      Stable o (.object ms)

/-- The reader with nesting allowance `d`, at a cursor over the text of `x` followed by
anything that may follow a value, with fuel at least the length of the text, reads a value
whose normal form is `x` and stops where the text ends. -/
def ReadsBack (o : CanonicalOptions) (d : Nat) (x : NormalForm) : Prop :=
  ∀ (rest : List Char) (c : Cursor) (fuel : Nat), Follows rest → c.rest = x.chars ++ rest →
    c.rest.length ≤ c.limit → x.chars.length ≤ fuel →
    ∃ v c', readValue d c fuel = .ok (v, c') ∧ c'.rest = rest ∧ rest.length ≤ c'.limit ∧
      of o v = x

/-- A blank is no value's first character. -/
def Blank (ch : Char) : Prop := ch = ' ' ∨ ch = '\n' ∨ ch = '\t' ∨ ch = '\r'

theorem chars_lead_plain {x : NormalForm} (hx : x.Tokenized) :
    ∃ ch cs, x.chars = ch :: cs ∧ isStop ch = false ∧ ¬ Blank ch := by
  obtain ⟨ch, cs, hcs, hk⟩ := chars_lead hx
  obtain ⟨ch', cs', hcs', hstop⟩ := chars_lead_not_stop hx
  rw [hcs, List.cons.injEq] at hcs'
  obtain ⟨rfl, rfl⟩ := hcs'
  refine ⟨ch, cs, hcs, hstop, ?_⟩
  have h6 : leadKind ch ≠ 6 := by
    rw [hk]
    cases x <;> simp [kind]
  rintro (rfl | rfl | rfl | rfl) <;> exact h6 (by decide)

end NormalForm

namespace Json.Cursor

theorem skipBlank_of_rest {c : Cursor} {ch : Char} {t : List Char} (h : c.rest = ch :: t)
    (hb : ¬ NormalForm.Blank ch) : c.skipBlank = c := by
  refine skipBlank_of_peek fun ch' hch => ?_
  rw [peek_of_rest h, Option.mem_some_iff] at hch
  subst hch
  simp only [NormalForm.Blank, not_or] at hb
  exact hb

theorem room_next {c : Cursor} (hlim : c.rest.length ≤ c.limit) :
    c.next.rest.length ≤ c.next.limit := by
  simp only [rest_next, limit_next, List.length_tail]
  omega

end Json.Cursor

namespace Json

theorem readIdent_append {r : List Char} (w : List Char) :
    ∀ {c : Cursor}, c.rest = w ++ r →
      ∃ c', readIdent w c = .ok c' ∧ c'.rest = r ∧ c'.limit = c.limit := by
  induction w with
  | nil => exact fun {c} h => ⟨c, rfl, h, rfl⟩
  | cons ch w ih =>
    intro c h
    obtain ⟨c', h1, h2, h3⟩ := ih (c := c.next) (by simp [h])
    refine ⟨c', ?_, h2, by simp [h3]⟩
    rw [readIdent, Cursor.peek_of_rest h]
    simpa using h1

theorem readValue_quote (s : String) {r : List Char} {c : Cursor}
    (hc : c.rest = (quote s).toList ++ r) (hlim : c.rest.length ≤ c.limit) (d fuel : Nat) :
    ∃ c', readValue d c (fuel + 1) = .ok (.string s, c') ∧ c'.rest = r ∧ c'.limit = c.limit := by
  rw [quote_toList, List.cons_append, List.append_assoc, List.singleton_append] at hc
  have hs := Cursor.skipBlank_of_rest hc (by simp [NormalForm.Blank])
  obtain ⟨c', h1, h2, h3⟩ := readString_quote (s := s) (r := r) (c := c.next) (by simp [hc])
    (Cursor.room_next hlim)
  refine ⟨c', ?_, h2, by rw [h3, Cursor.limit_next]⟩
  simp [readValue, hs, Cursor.peek_of_rest hc, h1, Except.map]

end Json

namespace NormalForm

variable (o : CanonicalOptions) (d : Nat)

/-! ## Scalars -/

theorem room_rest {c : Cursor} {l rest : List Char} (hc : c.rest = l ++ rest)
    (hlim : c.rest.length ≤ c.limit) : rest.length ≤ c.limit := by
  rw [hc, List.length_append] at hlim
  omega

theorem readsBack_null : ReadsBack o d .null := by
  intro rest c fuel _ hc hlim hf
  obtain ⟨fuel, rfl⟩ : ∃ f, fuel = f + 1 := ⟨fuel - 1, by simp [chars] at hf; omega⟩
  have hc' : c.rest = 'n' :: (['u', 'l', 'l'] ++ rest) := hc
  have hs := Cursor.skipBlank_of_rest hc' (by simp [Blank])
  obtain ⟨c', h1, h2, h3⟩ := readIdent_append (r := rest) ['u', 'l', 'l'] (c := c.next) (by simp [hc'])
  refine ⟨.null, c', ?_, h2, by simpa [h3] using room_rest hc hlim, rfl⟩
  simp [readValue, hs, Cursor.peek_of_rest hc', h1, Except.map]

theorem readsBack_bool (b : Bool) : ReadsBack o d (.bool b) := by
  intro rest c fuel _ hc hlim hf
  obtain ⟨fuel, rfl⟩ : ∃ f, fuel = f + 1 := ⟨fuel - 1, by cases b <;> simp [chars] at hf <;> omega⟩
  cases b with
  | true =>
    have hc' : c.rest = 't' :: (['r', 'u', 'e'] ++ rest) := hc
    have hs := Cursor.skipBlank_of_rest hc' (by simp [Blank])
    obtain ⟨c', h1, h2, h3⟩ := readIdent_append (r := rest) ['r', 'u', 'e'] (c := c.next) (by simp [hc'])
    refine ⟨.bool true, c', ?_, h2, by simpa [h3] using room_rest hc hlim, rfl⟩
    simp [readValue, hs, Cursor.peek_of_rest hc', h1, Except.map]
  | false =>
    have hc' : c.rest = 'f' :: (['a', 'l', 's', 'e'] ++ rest) := hc
    have hs := Cursor.skipBlank_of_rest hc' (by simp [Blank])
    obtain ⟨c', h1, h2, h3⟩ := readIdent_append (r := rest) ['a', 'l', 's', 'e'] (c := c.next) (by simp [hc'])
    refine ⟨.bool false, c', ?_, h2, by simpa [h3] using room_rest hc hlim, rfl⟩
    simp [readValue, hs, Cursor.peek_of_rest hc', h1, Except.map]

theorem readsBack_number {t : String} {n : Number} (hparse : parse t = .ok (.number n))
    (hcanon : canonicalNumber n o.decimals = .ok t) (ht : (NormalForm.number (some t)).Tokenized) :
    ReadsBack o d (.number (some t)) := by
  intro rest c fuel hr hc hlim hf
  obtain ⟨s, hs, htok⟩ := ht (some t) (by simp [tokens])
  cases hs
  obtain ⟨ch, cs, hcs, -⟩ := htok.lead
  obtain ⟨fuel, rfl⟩ : ∃ f, fuel = f + 1 := ⟨fuel - 1, by simp [chars, hcs] at hf; omega⟩
  obtain ⟨c', h1, h2, h3⟩ := readValue_of_parse_number htok hparse hr d fuel hc hlim
  refine ⟨.number n, c', h1, h2, h3, ?_⟩
  simp only [of, hcanon]
  rfl

theorem readsBack_string {s : String} (hfixed : o.text s = s) : ReadsBack o d (.string s) := by
  intro rest c fuel _ hc hlim hf
  obtain ⟨fuel, rfl⟩ : ∃ f, fuel = f + 1 := ⟨fuel - 1, by simp [chars, quote_toList] at hf; omega⟩
  obtain ⟨c', h1, h2, h3⟩ := readValue_quote s hc hlim d fuel
  refine ⟨.string s, c', h1, h2, by rw [h3]; exact room_rest hc hlim, ?_⟩
  simp only [of, hfixed]

/-! ## Arrays -/

variable {o d}

theorem readItems_close {rest : List Char} {acc : List Value} {first : Bool} {c : Cursor}
    (hc : c.rest = ']' :: rest) (fuel : Nat) :
    readItems d acc first c (fuel + 1) = .ok (acc.reverse, c) := by
  have hs := Cursor.skipBlank_of_rest hc (by simp [Blank])
  simp [readItems, hs, Cursor.peek_of_rest hc]

theorem readItems_tail (rest : List Char) :
    ∀ {ys : List NormalForm}, (∀ y ∈ ys, y.ReadsBack o d ∧ y.Tokenized) →
    ∀ (acc : List Value) (c : Cursor) (fuel : Nat),
      c.rest = (ys.flatMap fun y => ',' :: y.chars) ++ ']' :: rest →
      c.rest.length ≤ c.limit → (ys.flatMap fun y => ',' :: y.chars).length < fuel →
      ∃ vs c', readItems d acc false c fuel = .ok (acc.reverse ++ vs, c') ∧
        c'.rest = ']' :: rest ∧ (']' :: rest).length ≤ c'.limit ∧ vs.map (of o) = ys
  | [], _, acc, c, fuel, hc, hlim, hf => by
    obtain ⟨fuel, rfl⟩ : ∃ f, fuel = f + 1 := ⟨fuel - 1, by omega⟩
    have hc' : c.rest = ']' :: rest := by simpa using hc
    exact ⟨[], c, by simpa using readItems_close hc' fuel, hc', hc' ▸ hlim, rfl⟩
  | y :: ys, hys, acc, c, fuel, hc, hlim, hf => by
    obtain ⟨hy, hyt⟩ := hys y List.mem_cons_self
    obtain ⟨ch, cs, hych, hstop, hblank⟩ := chars_lead_plain hyt
    have hc' : c.rest = ',' :: (y.chars ++ ((ys.flatMap fun y => ',' :: y.chars) ++ ']' :: rest)) := by
      simpa using hc
    have hnext : c.next.rest = ch :: (cs ++ ((ys.flatMap fun y => ',' :: y.chars) ++ ']' :: rest)) := by
      simp [hc', hych]
    have hlen : 1 + y.chars.length + (ys.flatMap fun y => ',' :: y.chars).length < fuel := by
      simpa [Nat.add_assoc, Nat.add_comm, Nat.add_left_comm] using hf
    obtain ⟨fuel, rfl⟩ : ∃ f, fuel = f + 1 := ⟨fuel - 1, by omega⟩
    have hs := Cursor.skipBlank_of_rest hc' (by simp [Blank])
    have hs' := Cursor.skipBlank_of_rest hnext hblank
    have hfollow : Follows ((ys.flatMap fun y => ',' :: y.chars) ++ ']' :: rest) :=
      follows_sepTail (by decide) ys rest
    obtain ⟨v, c₁, hv, hc₁, hlim₁, hof⟩ := hy _ c.next fuel hfollow (by simp [hc'])
      (Cursor.room_next hlim) (by omega)
    obtain ⟨vs, c', hvs, hc'', hlim', hmap⟩ := readItems_tail rest
      (fun z hz => hys z (List.mem_cons_of_mem _ hz)) (v :: acc) c₁ fuel hc₁ (hc₁ ▸ hlim₁)
      (by omega)
    refine ⟨v :: vs, c', ?_, hc'', hlim', by simp [hof, hmap]⟩
    rw [readItems]
    simp [hs, Cursor.peek_of_rest hc', hs', Cursor.peek_of_rest hnext, hv, bind, Except.bind, hvs]
    split
    · rename_i heq
      cases heq
      exact absurd hstop (by decide)
    · contradiction
    · rfl

theorem readItems_first (rest : List Char) {xs : List NormalForm}
    (hxs : ∀ x ∈ xs, x.ReadsBack o d ∧ x.Tokenized) (c : Cursor) (fuel : Nat)
    (hc : c.rest = [','].intercalate (xs.map chars) ++ ']' :: rest) (hlim : c.rest.length ≤ c.limit)
    (hf : ([','].intercalate (xs.map chars)).length < fuel) :
    ∃ vs c', readItems d [] true c fuel = .ok (vs, c') ∧
      c'.rest = ']' :: rest ∧ (']' :: rest).length ≤ c'.limit ∧ vs.map (of o) = xs := by
  obtain ⟨fuel, rfl⟩ : ∃ f, fuel = f + 1 := ⟨fuel - 1, by omega⟩
  cases xs with
  | nil =>
    have hc' : c.rest = ']' :: rest := by simpa using hc
    exact ⟨[], c, readItems_close hc' fuel, hc', hc' ▸ hlim, rfl⟩
  | cons y ys =>
    obtain ⟨hy, hyt⟩ := hxs y List.mem_cons_self
    obtain ⟨ch, cs, hych, hstop, hblank⟩ := chars_lead_plain hyt
    rw [intercalate_map_cons] at hc hf
    rw [List.append_assoc] at hc
    have hc' : c.rest = ch :: (cs ++ ((ys.flatMap fun y => ',' :: y.chars) ++ ']' :: rest)) := by
      rw [hc, hych, List.cons_append]
    have hs := Cursor.skipBlank_of_rest hc' hblank
    have hfollow : Follows ((ys.flatMap fun y => ',' :: y.chars) ++ ']' :: rest) :=
      follows_sepTail (by decide) ys rest
    have hlen : y.chars.length + (ys.flatMap fun y => ',' :: y.chars).length < fuel + 1 := by
      simpa using hf
    have hy1 : 1 ≤ y.chars.length := by simp [hych]
    obtain ⟨v, c₁, hv, hc₁, hlim₁, hof⟩ := hy _ c fuel hfollow hc hlim (by omega)
    obtain ⟨vs, c', hvs, hc'', hlim', hmap⟩ := readItems_tail rest
      (fun z hz => hxs z (List.mem_cons_of_mem _ hz)) [v] c₁ fuel hc₁ (hc₁ ▸ hlim₁) (by omega)
    refine ⟨v :: vs, c', ?_, hc'', hlim', by simp [hof, hmap]⟩
    rw [readItems]
    simp [hs, Cursor.peek_of_rest hc', hv, bind, Except.bind, hvs]
    split
    · rename_i heq
      cases heq
      exact absurd hstop (by decide)
    · contradiction
    · rename_i hne _
      split
      · rename_i heq
        cases heq
        exact absurd rfl hne
      · contradiction
      · rfl

theorem readsBack_array {xs : List NormalForm} (hxs : ∀ x ∈ xs, x.ReadsBack o (d - 1) ∧ x.Tokenized)
    (hd : 1 < d) : ReadsBack o d (.array xs) := by
  intro rest c fuel _ hc hlim hf
  simp only [chars, itemChars_eq_map, List.cons_append, List.append_assoc, List.nil_append]
    at hc hf
  obtain ⟨fuel, rfl⟩ : ∃ f, fuel = f + 1 := ⟨fuel - 1, by simp at hf; omega⟩
  have hs := Cursor.skipBlank_of_rest hc (by simp [Blank])
  obtain ⟨vs, c', h1, h2, h3, h4⟩ := readItems_first rest hxs c.next fuel (by simp [hc])
    (Cursor.room_next hlim)
    (by simp at hf; omega)
  refine ⟨.array vs, c'.next, ?_, by simp [h2], by simp at h3 ⊢; omega, ?_⟩
  · have hd' : ¬ d ≤ 1 := by omega
    simp [readValue, hs, Cursor.peek_of_rest hc, hd', h1, bind, Except.bind, pure, Except.pure]
  · simp [of, ofItems_eq_map, h4]

/-! ## Objects -/

theorem readMembers_close {rest : List Char} {acc : List (String × Value)} {first : Bool}
    {c : Cursor} (hc : c.rest = '}' :: rest) (fuel : Nat) :
    readMembers d acc first c (fuel + 1) = .ok (Value.membersOf acc.reverse, c) := by
  have hs := Cursor.skipBlank_of_rest hc (by simp [Blank])
  simp [readMembers, hs, Cursor.peek_of_rest hc]

theorem readMember {k : String} {y : NormalForm} (hy : y.ReadsBack o d) {tail : List Char}
    (hfollow : Follows tail) {c : Cursor}
    (hc : c.rest = '"' :: (k.toList.flatMap escapeChar ++ '"' :: ':' :: (y.chars ++ tail)))
    (hlim : c.rest.length ≤ c.limit) (fuel : Nat) (hf : y.chars.length ≤ fuel) :
    ∃ c₁ v c₂, readString c.next = .ok (k, c₁) ∧ c₁.rest = ':' :: (y.chars ++ tail) ∧
      readValue d c₁.next fuel = .ok (v, c₂) ∧ c₂.rest = tail ∧ tail.length ≤ c₂.limit ∧
      of o v = y := by
  obtain ⟨c₁, hk, hc₁, hl₁⟩ := readString_quote (s := k) (r := ':' :: (y.chars ++ tail))
    (c := c.next) (by simp [hc]) (Cursor.room_next hlim)
  have hroom : c₁.next.rest.length ≤ c₁.next.limit := by
    simp only [Cursor.rest_next, Cursor.limit_next, hl₁, hc₁, List.tail_cons]
    rw [hc] at hlim
    simp only [List.length_cons, List.length_append] at hlim ⊢
    omega
  obtain ⟨v, c₂, hv, hc₂, hlim₂, hof⟩ := hy tail c₁.next fuel hfollow (by simp [hc₁]) hroom hf
  exact ⟨c₁, v, c₂, hk, hc₁, hv, hc₂, hlim₂, hof⟩

theorem readMembers_tail (rest : List Char) :
    ∀ {ms : List (String × NormalForm)}, (∀ m ∈ ms, m.2.ReadsBack o d ∧ m.2.Tokenized) →
    ∀ (acc : List (String × Value)) (c : Cursor) (fuel : Nat),
      c.rest = (ms.flatMap fun m => ',' :: memberText m) ++ '}' :: rest →
      c.rest.length ≤ c.limit → (ms.flatMap fun m => ',' :: memberText m).length < fuel →
      ∃ ns c', readMembers d acc false c fuel = .ok (Value.membersOf (acc.reverse ++ ns), c') ∧
        c'.rest = '}' :: rest ∧ ('}' :: rest).length ≤ c'.limit ∧
        ns.map (fun n => (n.1, of o n.2)) = ms
  | [], _, acc, c, fuel, hc, hlim, hf => by
    obtain ⟨fuel, rfl⟩ : ∃ f, fuel = f + 1 := ⟨fuel - 1, by omega⟩
    have hc' : c.rest = '}' :: rest := by simpa using hc
    exact ⟨[], c, by simpa using readMembers_close hc' fuel, hc', hc' ▸ hlim, rfl⟩
  | (k, y) :: ms, hms, acc, c, fuel, hc, hlim, hf => by
    have hy : y.ReadsBack o d := (hms (k, y) List.mem_cons_self).1
    have hc' : c.rest = ',' :: '"' :: (k.toList.flatMap escapeChar ++ '"' :: ':' ::
        (y.chars ++ ((ms.flatMap fun m => ',' :: memberText m) ++ '}' :: rest))) := by
      simpa [quote_toList] using hc
    have hlen : 4 + (k.toList.flatMap escapeChar).length + y.chars.length +
        (ms.flatMap fun m => ',' :: memberText m).length < fuel := by
      have hm : (memberText (k, y)).length = (k.toList.flatMap escapeChar).length + 3 +
          y.chars.length := by
        simp [memberText, quote_toList]
        omega
      rw [List.flatMap_cons, List.length_append, List.length_cons, hm] at hf
      omega
    obtain ⟨fuel, rfl⟩ : ∃ f, fuel = f + 1 := ⟨fuel - 1, by omega⟩
    have hs := Cursor.skipBlank_of_rest hc' (by simp [Blank])
    have hnext : c.next.rest = '"' :: (k.toList.flatMap escapeChar ++ '"' :: ':' ::
        (y.chars ++ ((ms.flatMap fun m => ',' :: memberText m) ++ '}' :: rest))) := by
      simp [hc']
    have hs' := Cursor.skipBlank_of_rest hnext (by simp [Blank])
    have hfollow : Follows ((ms.flatMap fun m => ',' :: memberText m) ++ '}' :: rest) :=
      follows_sepTail (by decide) ms rest
    obtain ⟨c₁, v, c₂, hk, hc₁, hv, hc₂, hlim₂, hof⟩ :=
      readMember hy hfollow hnext (Cursor.room_next hlim) fuel (by omega)
    have hs₁ := Cursor.skipBlank_of_rest hc₁ (by simp [Blank])
    obtain ⟨ns, c', hns, hc'', hlim', hmap⟩ := readMembers_tail rest
      (fun m hm => hms m (List.mem_cons_of_mem _ hm)) ((k, v) :: acc) c₂ fuel hc₂ (hc₂ ▸ hlim₂)
      (by omega)
    refine ⟨(k, v) :: ns, c', ?_, hc'', hlim', by simp [hof, hmap]⟩
    rw [readMembers]
    simp [hs, Cursor.peek_of_rest hc', hs', Cursor.peek_of_rest hnext, hk, hs₁,
      Cursor.peek_of_rest hc₁, hv, bind, Except.bind, hns]

theorem readMembers_first (rest : List Char) {ms : List (String × NormalForm)}
    (hms : ∀ m ∈ ms, m.2.ReadsBack o d ∧ m.2.Tokenized) (c : Cursor) (fuel : Nat)
    (hc : c.rest = [','].intercalate (ms.map memberText) ++ '}' :: rest)
    (hlim : c.rest.length ≤ c.limit) (hf : ([','].intercalate (ms.map memberText)).length < fuel) :
    ∃ ns c', readMembers d [] true c fuel = .ok (Value.membersOf ns, c') ∧
      c'.rest = '}' :: rest ∧ ('}' :: rest).length ≤ c'.limit ∧
      ns.map (fun n => (n.1, of o n.2)) = ms := by
  obtain ⟨fuel, rfl⟩ : ∃ f, fuel = f + 1 := ⟨fuel - 1, by omega⟩
  cases ms with
  | nil =>
    have hc' : c.rest = '}' :: rest := by simpa using hc
    exact ⟨[], c, readMembers_close hc' fuel, hc', hc' ▸ hlim, rfl⟩
  | cons m ms =>
    obtain ⟨k, y⟩ := m
    have hy : y.ReadsBack o d := (hms (k, y) List.mem_cons_self).1
    rw [intercalate_map_cons] at hc hf
    have hc' : c.rest = '"' :: (k.toList.flatMap escapeChar ++ '"' :: ':' ::
        (y.chars ++ ((ms.flatMap fun m => ',' :: memberText m) ++ '}' :: rest))) := by
      simpa [quote_toList] using hc
    have hlen : 3 + (k.toList.flatMap escapeChar).length + y.chars.length +
        (ms.flatMap fun m => ',' :: memberText m).length < fuel + 1 := by
      have hm : (memberText (k, y)).length = (k.toList.flatMap escapeChar).length + 3 +
          y.chars.length := by
        simp [memberText, quote_toList]
        omega
      rw [List.length_append, hm] at hf
      omega
    have hs := Cursor.skipBlank_of_rest hc' (by simp [Blank])
    have hfollow : Follows ((ms.flatMap fun m => ',' :: memberText m) ++ '}' :: rest) :=
      follows_sepTail (by decide) ms rest
    obtain ⟨c₁, v, c₂, hk, hc₁, hv, hc₂, hlim₂, hof⟩ :=
      readMember hy hfollow hc' (hc' ▸ hlim) fuel (by omega)
    have hs₁ := Cursor.skipBlank_of_rest hc₁ (by simp [Blank])
    obtain ⟨ns, c', hns, hc'', hlim', hmap⟩ := readMembers_tail rest
      (fun m hm => hms m (List.mem_cons_of_mem _ hm)) [(k, v)] c₂ fuel hc₂ (hc₂ ▸ hlim₂)
      (by omega)
    refine ⟨(k, v) :: ns, c', ?_, hc'', hlim', by simp [hof, hmap]⟩
    rw [readMembers]
    simp [hs, Cursor.peek_of_rest hc', hk, hs₁, Cursor.peek_of_rest hc₁, hv, bind, Except.bind, hns]

theorem keysIncreasing_of_map {ns : List (String × Value)} {ms : List (String × NormalForm)}
    (hmap : ns.map (fun n => (n.1, of o n.2)) = ms) (hms : Value.KeysIncreasing ms) :
    Value.KeysIncreasing ns := by
  rw [← hmap] at hms
  unfold Value.KeysIncreasing at hms ⊢
  rw [List.pairwise_map] at hms
  exact hms

theorem readsBack_object {ms : List (String × NormalForm)} (hinc : Value.KeysIncreasing ms)
    (hkeys : ∀ m ∈ ms, o.text m.1 = m.1)
    (hms : ∀ m ∈ ms, m.2.ReadsBack o (d - 1) ∧ m.2.Tokenized) (hd : 1 < d) :
    ReadsBack o d (.object ms) := by
  intro rest c fuel _ hc hlim hf
  simp only [chars, memberChars_eq_map, List.cons_append, List.append_assoc, List.nil_append]
    at hc hf
  have hmt : (ms.map fun e => (quote e.1).toList ++ ':' :: e.2.chars) = ms.map memberText := rfl
  rw [hmt] at hc hf
  obtain ⟨fuel, rfl⟩ : ∃ f, fuel = f + 1 := ⟨fuel - 1, by simp at hf; omega⟩
  have hs := Cursor.skipBlank_of_rest hc (by simp [Blank])
  obtain ⟨ns, c', h1, h2, h3, h4⟩ := readMembers_first rest hms c.next fuel (by simp [hc])
    (Cursor.room_next hlim)
    (by simp at hf; omega)
  have hns : Value.membersOf ns = ns :=
    Value.keyedOf_of_increasing (keysIncreasing_of_map h4 hinc)
  refine ⟨.object ns, c'.next, ?_, by simp [h2], by simp at h3 ⊢; omega, ?_⟩
  · have hd' : ¬ d ≤ 1 := by omega
    simp [readValue, hs, Cursor.peek_of_rest hc, hd', h1, hns, bind, Except.bind, pure, Except.pure]
  · have hfix : ns.map (fun e => (o.text e.1, e.2)) = ns := by
      refine (List.map_congr_left fun e he => ?_).trans (List.map_id ns)
      have hm : (e.1, of o e.2) ∈ ms := h4 ▸ List.mem_map_of_mem he
      simp [hkeys _ hm]
    have hk : Value.keyedOf ns = ns := hns
    rw [of_object, hfix, hk, h4]

/-! ## Every stable normal form -/

/-- A stable, tokenized normal form nesting less deeply than the allowance reads back. -/
theorem readsBack {x : NormalForm} (hs : x.Stable o) (ht : x.Tokenized) {d : Nat}
    (hd : x.depth < d) : x.ReadsBack o d := by
  induction hs generalizing d with
  | null => exact readsBack_null o d
  | bool b => exact readsBack_bool o d b
  | number hparse hcanon => exact readsBack_number o d hparse hcanon ht
  | string hfixed => exact readsBack_string o d hfixed
  | @array xs _ ih =>
    rw [tokenized_array] at ht
    simp only [depth] at hd
    refine readsBack_array (fun x hx => ⟨ih x hx (ht x hx) ?_, ht x hx⟩) (by omega)
    have := depth_le_itemsDepth hx
    omega
  | @object ms hinc hkeys _ ih =>
    rw [tokenized_object] at ht
    simp only [depth] at hd
    refine readsBack_object hinc hkeys (fun m hm => ⟨ih m hm (ht m hm) ?_, ht m hm⟩) (by omega)
    have := depth_le_membersDepth hm
    omega

end NormalForm

end CapsuleFlow
