import CapsuleFlow.Proofs.JsonGrammar
import CapsuleFlow.Proofs.CanonicalReading

/-!
# Decoding string literals

A string literal of RFC 8259 has one meaning. Its escapes are told apart by the character
after the backslash, a `\u` escape by its four digits, and a character that stands for
itself is never a backslash, so the grammar reads a literal in one way only and the text it
stands for is determined (`Grammar.Literal.unique`).

The writer's literal of a text is such a literal, standing for that text: every character
is covered, by one of the seven short escapes, by the `\u00xx` escape of another control
character, or as itself. So the literal holds no character below U+0020, and a quote or a
backslash in it stands inside an escape, never alone. The JSON reader decodes it to the
text, and at the literal followed by any text it stops right after the closing quote: a
literal and what follows it determine each other, and distinct texts have distinct
literals (`quote_faithful`).
-/

namespace CapsuleFlow.Json

namespace Grammar

/-- A hex digit's value is fixed by the digit: the three ranges of digits are disjoint. -/
theorem HexDigit.unique {c : Char} {v w : Nat} (hv : HexDigit c v) (hw : HexDigit c w) : v = w := by
  have h0 : ('0' : Char).val.toNat = 48 := rfl
  have h9 : ('9' : Char).val.toNat = 57 := rfl
  have ha : ('a' : Char).val.toNat = 97 := rfl
  have hf : ('f' : Char).val.toNat = 102 := rfl
  have hA : ('A' : Char).val.toNat = 65 := rfl
  have hF : ('F' : Char).val.toNat = 70 := rfl
  simp only [HexDigit, Char.isDigit, Bool.and_eq_true, decide_eq_true_eq, Char.le_def,
    UInt32.le_iff_toNat_le, Char.toNat] at hv hw
  omega

theorem Escape.cons {e : List Char} {c : Char} (h : Escape e c) : ∃ t, e = '\\' :: t := by
  cases h <;> exact ⟨_, rfl⟩

/-- An escape at the head of a text is fixed by the text, and so is the character it
stands for. -/
theorem Escape.unique {e e' r r' : List Char} {c c' : Char} (h : Escape e c) (h' : Escape e' c')
    (heq : e ++ r = e' ++ r') : e = e' ∧ c = c' := by
  cases h with
  | unicode ha hb hc hd hch =>
    cases h' with
    | unicode ha' hb' hc' hd' hch' =>
      simp only [List.cons_append, List.nil_append, List.cons.injEq, true_and] at heq
      obtain ⟨rfl, rfl, rfl, rfl, -⟩ := heq
      refine ⟨rfl, Char.toNat_inj.mp ?_⟩
      rw [hch, hch', ha.unique ha', hb.unique hb', hc.unique hc', hd.unique hd']
    | _ => simp at heq
  | _ => cases h' <;> simp at heq ⊢

theorem Body.inv {cs s : List Char} (h : Body cs s) :
    (cs = [] ∧ s = []) ∨
      (∃ c cs' s', cs = c :: cs' ∧ s = c :: s' ∧ Unescaped c ∧ Body cs' s') ∨
      (∃ e cs' c s', cs = e ++ cs' ∧ s = c :: s' ∧ Escape e c ∧ Body cs' s') := by
  cases h with
  | nil => exact .inl ⟨rfl, rfl⟩
  | plain hc h => exact .inr (.inl ⟨_, _, _, rfl, rfl, hc, h⟩)
  | escape he h => exact .inr (.inr ⟨_, _, _, _, rfl, rfl, he, h⟩)

theorem Body.unique {cs s s' : List Char} (h : Body cs s) (h' : Body cs s') : s = s' := by
  induction h generalizing s' with
  | nil =>
    rcases h'.inv with ⟨-, rfl⟩ | ⟨c, cs, t, hcs, -⟩ | ⟨e, cs, c, t, hcs, -, he, -⟩
    · rfl
    · cases hcs
    · obtain ⟨x, rfl⟩ := he.cons
      cases hcs
  | plain hc _ ih =>
    rcases h'.inv with ⟨hcs, -⟩ | ⟨c', cs', t', hcs, rfl, -, hb'⟩ | ⟨e, cs', c', t', hcs, rfl, he, -⟩
    · cases hcs
    · obtain ⟨rfl, rfl⟩ := List.cons.inj hcs
      rw [ih hb']
    · obtain ⟨x, rfl⟩ := he.cons
      obtain ⟨rfl, -⟩ := List.cons.inj hcs
      exact absurd rfl hc.2.2
  | escape he _ ih =>
    rcases h'.inv with ⟨hcs, -⟩ | ⟨c', cs', t', hcs, rfl, hc', -⟩ |
        ⟨e', cs', c', t', hcs, rfl, he', hb'⟩
    · obtain ⟨x, rfl⟩ := he.cons
      cases hcs
    · obtain ⟨x, rfl⟩ := he.cons
      obtain ⟨rfl, -⟩ := List.cons.inj hcs
      exact absurd rfl hc'.2.2
    · obtain ⟨rfl, rfl⟩ := he.unique he' hcs
      rw [ih (List.append_cancel_left hcs ▸ hb')]

theorem Literal.unique {cs : List Char} {s s' : String} (h : Literal cs s) (h' : Literal cs s') :
    s = s' := by
  obtain ⟨body, rfl, hb⟩ := h
  obtain ⟨body', heq, hb'⟩ := h'
  obtain rfl : body = body' := List.append_cancel_right (List.cons.inj heq).2
  exact String.toList_inj.mp (hb.unique hb')

theorem Literal.printable {cs : List Char} {s : String} (h : Literal cs s) :
    ∀ c ∈ cs, Printable c :=
  fun c hc => (h.allowed c hc).printable

end Grammar

theorem parse_quote (s : String) : parse (quote s) = .ok (.string s) := by
  obtain ⟨c', h1, h2, -⟩ := readValue_quote s (r := []) (c := Cursor.start (quote s))
    (by simp [Cursor.start]) (by simp [Cursor.start, String.length_toList]) depthLimit
    (Cursor.start (quote s)).limit
  exact parse_of_readValue h1 h2

/-- The writer's literal of any text is faithful. It is a string literal of the JSON
grammar standing for the text and for no other; it holds no character below U+0020, and a
quote or a backslash stands in it only inside an escape; the reader decodes it to the
text; and it ends at its own closing quote, so that a literal followed by any text
determines both, and distinct texts have distinct literals. -/
theorem quote_faithful (s : String) :
    Grammar.Literal (quote s).toList s ∧
    (∀ s', Grammar.Literal (quote s).toList s' → s' = s) ∧
    (∀ c ∈ (quote s).toList, Grammar.Printable c) ∧
    parse (quote s) = .ok (.string s) ∧
    ∀ s' r r', (quote s').toList ++ r' = (quote s).toList ++ r → s' = s ∧ r' = r := by
  have hlit := Grammar.literal_quote s
  exact ⟨hlit, fun s' h => (hlit.unique h).symm, hlit.printable, parse_quote s,
    fun s' r r' h => quote_append_inj h⟩

end CapsuleFlow.Json
