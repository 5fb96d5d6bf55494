import CapsuleFlow.Proofs.NormalForm
import CapsuleFlow.Proofs.NumberText

/-!
# Canonical text can be read back

Written normal forms are uniquely readable: when every number is written as a number
token, the text of a normal form, followed by anything a value can be followed by inside
canonical text (nothing, a comma or a closing bracket), determines the normal form and
what follows (`chars_append_inj`). In particular two such normal forms with the same
text are equal (`text_inj`).

The argument follows the text. The first character gives the kind of value. A number
token runs up to the first comma or closing bracket, since it holds neither. A string
literal ends at its closing quote (`quote_append_inj`). Arrays and objects are
sequences of elements separated by commas and ended by a closing bracket, and each
element is read back by induction.
-/

namespace CapsuleFlow

open Json

/-- A character that may follow a value in canonical text. -/
def isStop (c : Char) : Bool := c == ',' || c == ']' || c == '}'

/-- What may follow a value's text in canonical text: nothing, or a stop character. -/
def Follows (r : List Char) : Prop := ∀ c ∈ r.head?, isStop c

theorem follows_nil : Follows [] := by
  intro c hc
  simp at hc

theorem follows_cons {c : Char} {r : List Char} (hc : isStop c) : Follows (c :: r) := by
  intro c' hc'
  simp only [List.head?_cons, Option.mem_some_iff] at hc'
  exact hc' ▸ hc

theorem isStop_of_numberChar {c : Char} (h : numberChar c) : isStop c = false := by
  simp only [isStop, Bool.or_eq_false_iff, beq_eq_false_iff_ne]
  refine ⟨⟨?_, ?_⟩, ?_⟩ <;> (rintro rfl; revert h; decide)

theorem token_append_inj {t t' r r' : List Char} (ht : ∀ c ∈ t, numberChar c)
    (ht' : ∀ c ∈ t', numberChar c) (hr : Follows r) (hr' : Follows r') (h : t ++ r = t' ++ r') :
    t = t' ∧ r = r' := by
  induction t generalizing t' with
  | nil =>
    cases t' with
    | nil => exact ⟨rfl, h⟩
    | cons c t' =>
      have hc := hr c (by rw [List.nil_append] at h; simp [h])
      rw [isStop_of_numberChar (ht' c (by simp))] at hc
      cases hc
  | cons c t ih =>
    cases t' with
    | nil =>
      have hc := hr' c (by rw [List.nil_append] at h; simp [← h])
      rw [isStop_of_numberChar (ht c (by simp))] at hc
      cases hc
    | cons c' t' =>
      simp only [List.cons_append, List.cons.injEq] at h
      obtain ⟨rfl, h⟩ := h
      obtain ⟨rfl, rfl⟩ := ih (fun d hd => ht d (by simp [hd])) (fun d hd => ht' d (by simp [hd])) h
      exact ⟨rfl, rfl⟩

/-! ## Sequences separated by commas -/

section Sequences

variable {α : Type} (enc : α → List Char)

theorem intercalate_map_cons (a : α) (l : List α) :
    [','].intercalate ((a :: l).map enc) = enc a ++ l.flatMap fun b => ',' :: enc b := by
  induction l generalizing a with
  | nil => simp
  | cons b l ih =>
    rw [List.map_cons, List.map_cons, List.intercalate_cons_cons, ← List.map_cons, ih]
    simp

/-- Elements each told apart from the elements of another list by their encodings. -/
def Separable (xs ys : List α) : Prop :=
  ∀ a ∈ xs, ∀ b ∈ ys, ∀ u u', Follows u → Follows u' → enc a ++ u = enc b ++ u' → a = b ∧ u = u'

variable {enc} {close : Char}

theorem follows_sepTail (hstop : isStop close) (l : List α) (r : List Char) :
    Follows ((l.flatMap fun a => ',' :: enc a) ++ close :: r) := by
  cases l with
  | nil => exact follows_cons hstop
  | cons c l => exact follows_cons (by decide)

theorem sepTail_inj (hclose : close ≠ ',') (hstop : isStop close) :
    ∀ {xs ys : List α} {r r' : List Char}, Separable enc xs ys →
      (xs.flatMap fun a => ',' :: enc a) ++ close :: r =
        (ys.flatMap fun b => ',' :: enc b) ++ close :: r' → xs = ys ∧ r = r'
  | [], [], r, r', _, h => ⟨rfl, by simpa using h⟩
  | [], b :: ys, r, r', _, h => by
    simp only [List.flatMap_nil, List.nil_append, List.flatMap_cons, List.cons_append,
      List.cons.injEq] at h
    exact absurd h.1 hclose
  | a :: xs, [], r, r', _, h => by
    simp only [List.flatMap_nil, List.nil_append, List.flatMap_cons, List.cons_append,
      List.cons.injEq] at h
    exact absurd h.1.symm hclose
  | a :: xs, b :: ys, r, r', hsep, h => by
    simp only [List.flatMap_cons, List.cons_append, List.cons.injEq, List.append_assoc] at h
    obtain ⟨rfl, htail⟩ := hsep a (by simp) b (by simp) _ _ (follows_sepTail hstop xs r)
      (follows_sepTail hstop ys r') h.2
    have hsep' : Separable enc xs ys := fun a ha b hb => hsep a (by simp [ha]) b (by simp [hb])
    obtain ⟨rfl, rfl⟩ := sepTail_inj hclose hstop hsep' htail
    exact ⟨rfl, rfl⟩

theorem intercalate_append_inj (hclose : close ≠ ',') (hstop : isStop close) {xs ys : List α}
    {r r' : List Char} (hsep : Separable enc xs ys)
    (hlead : ∀ a ∈ xs ++ ys, ∃ c cs, enc a = c :: cs ∧ c ≠ close)
    (h : [','].intercalate (xs.map enc) ++ close :: r =
      [','].intercalate (ys.map enc) ++ close :: r') : xs = ys ∧ r = r' := by
  cases xs with
  | nil =>
    cases ys with
    | nil => exact ⟨rfl, by simpa using h⟩
    | cons b ys =>
      obtain ⟨c, cs, hb, hc⟩ := hlead b (by simp)
      rw [intercalate_map_cons, hb] at h
      simp only [List.map_nil, List.intercalate_nil, List.nil_append, List.cons_append,
        List.cons.injEq] at h
      exact absurd h.1.symm hc
  | cons a xs =>
    cases ys with
    | nil =>
      obtain ⟨c, cs, ha, hc⟩ := hlead a (by simp)
      rw [intercalate_map_cons, ha] at h
      simp only [List.map_nil, List.intercalate_nil, List.nil_append, List.cons_append,
        List.cons.injEq] at h
      exact absurd h.1 hc
    | cons b ys =>
      rw [intercalate_map_cons, intercalate_map_cons, List.append_assoc, List.append_assoc] at h
      obtain ⟨rfl, htail⟩ := hsep a (by simp) b (by simp) _ _ (follows_sepTail hstop xs r)
        (follows_sepTail hstop ys r') h
      have hsep' : Separable enc xs ys := fun a ha b hb => hsep a (by simp [ha]) b (by simp [hb])
      obtain ⟨rfl, rfl⟩ := sepTail_inj hclose hstop hsep' htail
      exact ⟨rfl, rfl⟩

end Sequences

namespace NormalForm

/-- Every number of the normal form is written as a number token. -/
def Tokenized (x : NormalForm) : Prop := ∀ t ∈ x.tokens, ∃ s, t = some s ∧ NumberToken s

@[simp] theorem tokenized_array (xs : List NormalForm) :
    (NormalForm.array xs).Tokenized ↔ ∀ x ∈ xs, x.Tokenized := by
  simp only [Tokenized, tokens, itemTokens_eq, List.mem_flatten, List.mem_map]
  constructor
  · intro h x hx t ht
    exact h t ⟨_, ⟨x, hx, rfl⟩, ht⟩
  · rintro h t ⟨_, ⟨x, hx, rfl⟩, ht⟩
    exact h x hx t ht

@[simp] theorem tokenized_object (ms : List (String × NormalForm)) :
    (NormalForm.object ms).Tokenized ↔ ∀ m ∈ ms, m.2.Tokenized := by
  simp only [Tokenized, tokens, memberTokens_eq, List.mem_flatten, List.mem_map]
  constructor
  · intro h m hm t ht
    exact h t ⟨_, ⟨m, hm, rfl⟩, ht⟩
  · rintro h t ⟨_, ⟨m, hm, rfl⟩, ht⟩
    exact h m hm t ht

/-- The kind of a normal form. -/
def kind : NormalForm → Nat
  | null => 0
  | bool _ => 1
  | number _ => 2
  | string _ => 3
  | array _ => 4
  | object _ => 5

/-- The kind of value a first character announces; `6` for none. -/
def leadKind (c : Char) : Nat :=
  if c = 'n' then 0
  else if c = 't' ∨ c = 'f' then 1
  else if numberLead c then 2
  else if c = '"' then 3
  else if c = '[' then 4
  else if c = '{' then 5
  else 6

theorem leadKind_of_numberLead {c : Char} (h : numberLead c) : leadKind c = 2 := by
  have hn : c ≠ 'n' := by rintro rfl; revert h; decide
  have ht : c ≠ 't' := by rintro rfl; revert h; decide
  have hf : c ≠ 'f' := by rintro rfl; revert h; decide
  simp [leadKind, hn, ht, hf, h]

theorem chars_lead {x : NormalForm} (hx : x.Tokenized) :
    ∃ c cs, x.chars = c :: cs ∧ leadKind c = x.kind := by
  cases x with
  | null => exact ⟨'n', _, rfl, rfl⟩
  | bool b => cases b <;> exact ⟨_, _, rfl, rfl⟩
  | number t =>
    obtain ⟨s, rfl, hs⟩ := hx t (by simp [tokens])
    obtain ⟨c, cs, hcs, hc⟩ := hs.lead
    exact ⟨c, cs, by simp [chars, hcs], leadKind_of_numberLead hc⟩
  | string s => exact ⟨'"', _, quote_toList s, rfl⟩
  | array xs => exact ⟨'[', _, rfl, rfl⟩
  | object ms => exact ⟨'{', _, rfl, rfl⟩

theorem chars_lead_not_stop {x : NormalForm} (hx : x.Tokenized) :
    ∃ c cs, x.chars = c :: cs ∧ isStop c = false := by
  obtain ⟨c, cs, hcs, hk⟩ := chars_lead hx
  refine ⟨c, cs, hcs, ?_⟩
  have h6 : leadKind c ≠ 6 := by
    rw [hk]
    cases x <;> simp [kind]
  simp only [isStop, Bool.or_eq_false_iff, beq_eq_false_iff_ne]
  refine ⟨⟨?_, ?_⟩, ?_⟩ <;> (rintro rfl; exact h6 (by decide))

theorem kind_eq_of_append {x y : NormalForm} {r r' : List Char} (hx : x.Tokenized)
    (hy : y.Tokenized) (h : x.chars ++ r = y.chars ++ r') : x.kind = y.kind := by
  obtain ⟨c, cs, hc, hkc⟩ := chars_lead hx
  obtain ⟨d, ds, hd, hkd⟩ := chars_lead hy
  rw [hc, hd, List.cons_append, List.cons_append, List.cons.injEq] at h
  rw [← hkc, ← hkd, h.1]

/-- A tokenized normal form, whatever follows it, is told apart from any other. -/
def Readable (x : NormalForm) : Prop :=
  x.Tokenized → ∀ y r r', y.Tokenized → Follows r → Follows r' →
    x.chars ++ r = y.chars ++ r' → x = y ∧ r = r'

theorem readable_number (t : Option String) : Readable (.number t) := by
  intro hx y r r' hy hr hr' h
  have hk := kind_eq_of_append hx hy h
  cases y <;> simp only [kind] at hk <;> try omega
  case number t' =>
    obtain ⟨s, rfl, hs⟩ := hx t (by simp [tokens])
    obtain ⟨s', rfl, hs'⟩ := hy t' (by simp [tokens])
    simp only [chars, Option.getD_some] at h
    obtain ⟨hss, rfl⟩ := token_append_inj hs.chars hs'.chars hr hr' h
    rw [String.toList_inj.mp hss]
    exact ⟨rfl, rfl⟩

theorem readable_array (xs : List NormalForm) (ih : ∀ x ∈ xs, Readable x) :
    Readable (.array xs) := by
  intro hx y r r' hy hr hr' h
  have hk := kind_eq_of_append hx hy h
  cases y <;> simp only [kind] at hk <;> try omega
  case array ys =>
    rw [tokenized_array] at hx hy
    simp only [chars, itemChars_eq_map, List.cons_append, List.cons.injEq, true_and,
      List.append_assoc, List.nil_append] at h
    have hsep : Separable chars xs ys := fun a ha b hb u u' hu hu' hab =>
      ih a ha (hx a ha) b u u' (hy b hb) hu hu' hab
    have hlead : ∀ a ∈ xs ++ ys, ∃ c cs, a.chars = c :: cs ∧ c ≠ ']' := by
      intro a ha
      have hta : a.Tokenized := by
        rcases List.mem_append.mp ha with ha | ha
        · exact hx a ha
        · exact hy a ha
      obtain ⟨c, cs, hcs, hc⟩ := chars_lead_not_stop hta
      exact ⟨c, cs, hcs, by rintro rfl; simp [isStop] at hc⟩
    obtain ⟨rfl, rfl⟩ := intercalate_append_inj (by decide) (by decide) hsep hlead h
    exact ⟨rfl, rfl⟩

/-- The text of a member: its key's literal, a colon, its value. -/
abbrev memberText (m : String × NormalForm) : List Char := (quote m.1).toList ++ ':' :: m.2.chars

theorem readable_object (ms : List (String × NormalForm)) (ih : ∀ m ∈ ms, Readable m.2) :
    Readable (.object ms) := by
  intro hx y r r' hy hr hr' h
  have hk := kind_eq_of_append hx hy h
  cases y <;> simp only [kind] at hk <;> try omega
  case object ns =>
    rw [tokenized_object] at hx hy
    simp only [chars, memberChars_eq_map, List.cons_append, List.cons.injEq, true_and,
      List.append_assoc, List.nil_append] at h
    have hsep : Separable memberText ms ns := by
      intro m hm n hn u u' hu hu' hmn
      simp only [memberText, List.append_assoc, List.cons_append] at hmn
      obtain ⟨hkey, hrest⟩ := quote_append_inj hmn
      simp only [List.cons.injEq, true_and] at hrest
      obtain ⟨hval, rfl⟩ := ih m hm (hx m hm) n.2 u u' (hy n hn) hu hu' hrest
      exact ⟨Prod.ext hkey hval, rfl⟩
    have hlead : ∀ m ∈ ms ++ ns, ∃ c cs, memberText m = c :: cs ∧ c ≠ '}' :=
      fun m _ => ⟨'"', _, by rw [memberText, quote_toList, List.cons_append], by decide⟩
    obtain ⟨rfl, rfl⟩ := intercalate_append_inj (by decide) (by decide) hsep hlead h
    exact ⟨rfl, rfl⟩

theorem readable (x : NormalForm) : Readable x := by
  induction x using NormalForm.induction with
  | null =>
    intro hx y r r' hy _ _ h
    have hk := kind_eq_of_append hx hy h
    cases y <;> simp only [kind] at hk <;> try omega
    exact ⟨rfl, List.append_cancel_left h⟩
  | bool b =>
    intro hx y r r' hy _ _ h
    have hk := kind_eq_of_append hx hy h
    cases y <;> simp only [kind] at hk <;> try omega
    case bool b' =>
      cases b <;> cases b' <;> simp [chars] at h
      all_goals exact ⟨rfl, h⟩
  | number t => exact readable_number t
  | string s =>
    intro hx y r r' hy _ _ h
    have hk := kind_eq_of_append hx hy h
    cases y <;> simp only [kind] at hk <;> try omega
    case string s' =>
      obtain ⟨rfl, rfl⟩ := quote_append_inj h
      exact ⟨rfl, rfl⟩
  | array xs ih => exact readable_array xs ih
  | object ms ih => exact readable_object ms ih

/-- The text of a tokenized normal form, followed by nothing, a comma or a closing
bracket, determines the normal form and what follows. -/
theorem chars_append_inj {x y : NormalForm} {r r' : List Char} (hx : x.Tokenized)
    (hy : y.Tokenized) (hr : Follows r) (hr' : Follows r') (h : x.chars ++ r = y.chars ++ r') :
    x = y ∧ r = r' :=
  readable x hx y r r' hy hr hr' h

/-- Tokenized normal forms are equal exactly when their texts are. -/
theorem text_inj {x y : NormalForm} (hx : x.Tokenized) (hy : y.Tokenized) :
    x.text = y.text ↔ x = y := by
  constructor
  · intro h
    have hc : x.chars ++ [] = y.chars ++ [] := by
      rw [← text_toList, ← text_toList, h]
    exact (chars_append_inj hx hy follows_nil follows_nil hc).1
  · rintro rfl
    rfl

end NormalForm

end CapsuleFlow
