import Mathlib
import CapsuleFlow.Proofs.JsonGrammar
import CapsuleFlow.Proofs.FloatMagnitude
import CapsuleFlow.Proofs.CanonicalIdempotence

/-!
# Canonical text is well formed

Canonical text is one JSON value in the grammar of RFC 8259, with no white space between
tokens, and the value's normal form is its syntax tree (`canonical_text_wellFormed`). From
the grammar it follows that no raw character below U+0020 stands in it and that every space
in it is a space of a string or key. From the normal form it follows that the keys of every
object strictly increase, at every depth; that every string and key is one of the value's,
as the options normalize it (under `normalizeNfc`, its NFC form); and that every number
token is the decimal text of an integer of the value or the canonical text of one of its
floats.

A float's canonical text is a JSON number because the rounded float is finite
(`canonicalFloat_eq_ok`). From `2 ^ 31` places on the scale factor would be a negative power
of ten, which can underflow to zero and make the rounded value `0 / 0`; but the formatter takes
at most `maxPrecision` places and fails on more, so such a value is never written.
-/

namespace CapsuleFlow

open Json

namespace NormalForm

/-- The keys of every object strictly increase, at every depth. -/
inductive KeysSorted : NormalForm → Prop
  | null : KeysSorted .null
  | bool (b : Bool) : KeysSorted (.bool b)
  | number (t : Option String) : KeysSorted (.number t)
  | string (s : String) : KeysSorted (.string s)
  | array {xs : List NormalForm} (items : ∀ x ∈ xs, KeysSorted x) : KeysSorted (.array xs)
  | object {ms : List (String × NormalForm)} (increasing : Value.KeysIncreasing ms)
      (values : ∀ m ∈ ms, KeysSorted m.2) : KeysSorted (.object ms)

theorem KeysSorted.keys_nodup {ms : List (String × NormalForm)}
    (h : (NormalForm.object ms).KeysSorted) : (ms.map Prod.fst).Nodup := by
  cases h with
  | object increasing _ =>
    rw [List.Nodup, List.pairwise_map]
    exact increasing.imp ne_of_lt

section Of

variable (o : CanonicalOptions)

theorem keysIncreasing_of_object (ms : List (String × Value)) :
    Value.KeysIncreasing
      ((Value.keyedOf (ms.map fun e => (o.text e.1, e.2))).map fun e => (e.1, of o e.2)) := by
  have h := Value.keyedOf_increasing (ms.map fun e => (o.text e.1, e.2))
  unfold Value.KeysIncreasing at h ⊢
  rw [List.pairwise_map]
  exact h

theorem keysSorted_of (v : Value) : (of o v).KeysSorted := by
  induction v using Value.induction with
  | null => exact .null
  | bool b => exact .bool b
  | number n => exact .number _
  | string s => exact .string _
  | array xs ih =>
    rw [of, ofItems_eq_map]
    refine .array fun y hy => ?_
    obtain ⟨x, hx, rfl⟩ := List.mem_map.mp hy
    exact ih x hx
  | object ms ih =>
    rw [of_object]
    refine .object (keysIncreasing_of_object o ms) fun m hm => ?_
    obtain ⟨k, v, hkv, rfl⟩ := mem_of_object hm
    exact ih (k, v) hkv

theorem mem_strings_of (v : Value) :
    ∀ t ∈ (of o v).strings, ∃ u ∈ v.strings, t = o.text u := by
  induction v using Value.induction with
  | null => simp [of, strings]
  | bool b => simp [of, strings]
  | number n => simp [of, strings]
  | string s =>
    intro t ht
    simp only [of, strings, List.mem_singleton] at ht
    exact ⟨s, by simp [Value.strings], ht⟩
  | array xs ih =>
    intro t ht
    rw [of, ofItems_eq_map, strings, mem_itemStrings] at ht
    obtain ⟨_, hy, ht⟩ := ht
    obtain ⟨x, hx, rfl⟩ := List.mem_map.mp hy
    obtain ⟨u, hu, rfl⟩ := ih x hx t ht
    exact ⟨u, Value.strings_subset_items hx u hu, rfl⟩
  | object ms ih =>
    intro t ht
    rw [of_object, strings, mem_memberStrings] at ht
    obtain ⟨m, hm, ht⟩ := ht
    obtain ⟨k, v, hkv, rfl⟩ := mem_of_object hm
    have hsub := Value.strings_subset_members hkv
    rcases ht with rfl | ht
    · exact ⟨k, hsub.1, rfl⟩
    · obtain ⟨u, hu, rfl⟩ := ih (k, v) hkv t ht
      exact ⟨u, hsub.2 u hu, rfl⟩

theorem mem_tokens_of (v : Value) :
    ∀ t ∈ (of o v).tokens, ∃ n ∈ v.numbers, t = (canonicalNumber n o.decimals).toOption := by
  induction v using Value.induction with
  | null => simp [of, tokens]
  | bool b => simp [of, tokens]
  | number n =>
    intro t ht
    simp only [of, tokens, List.mem_singleton] at ht
    exact ⟨n, by simp [Value.numbers], ht⟩
  | string s => simp [of, tokens]
  | array xs ih =>
    intro t ht
    simp only [of, tokens, itemTokens_eq, ofItems_eq_map, List.map_map, List.mem_flatten,
      List.mem_map, Function.comp_apply] at ht
    obtain ⟨_, ⟨x, hx, rfl⟩, ht⟩ := ht
    obtain ⟨n, hn, rfl⟩ := ih x hx t ht
    exact ⟨n, Value.numbers_subset_items hx n hn, rfl⟩
  | object ms ih =>
    intro t ht
    rw [of_object] at ht
    simp only [tokens, memberTokens_eq, List.mem_flatten] at ht
    obtain ⟨_, hl, ht⟩ := ht
    obtain ⟨m, hm, rfl⟩ := List.mem_map.mp hl
    obtain ⟨k, v, hkv, rfl⟩ := mem_of_object hm
    obtain ⟨n, hn, rfl⟩ := ih (k, v) hkv t ht
    exact ⟨n, Value.numbers_subset_members hkv n hn, rfl⟩

end Of

theorem number_of_canonicalNumber {n : Json.Number} {places : Nat} {t : String}
    (h : canonicalNumber n places = .ok t) : Grammar.Number t.toList := by
  cases n with
  | int i =>
    simp only [canonicalNumber, Except.ok.injEq] at h
    rw [← h]
    exact Grammar.number_toString_int i
  | float x =>
    rcases canonicalFloat_eq_ok h with rfl | ⟨y, d, hy, rfl⟩
    · exact Grammar.number_toString_int 0
    · exact Grammar.number_trimFraction_fixedText hy places

end NormalForm

/-- What the canonical text `s` of a value `v` under options `o` is made of. -/
structure WellFormedText (o : CanonicalOptions) (v : Value) (s : String) : Prop where
  /-- `s` is one JSON value, and the value's normal form is its syntax tree. -/
  value : Grammar.Value (NormalForm.of o v) s.toList
  /-- No raw character below U+0020. -/
  printable : ∀ c ∈ s.toList, 0x20 ≤ c.toNat
  /-- Every space is a space of a string or key, written inside its literal. -/
  spaces : ' ' ∈ s.toList → ∃ t ∈ (NormalForm.of o v).strings, ' ' ∈ t.toList
  /-- The keys of every object strictly increase. -/
  sorted : (NormalForm.of o v).KeysSorted
  /-- Every string and key is one of the value's, as the options normalize it. -/
  strings : ∀ t ∈ (NormalForm.of o v).strings, ∃ u ∈ v.strings, t = o.text u
  /-- Every number token is the text of an integer of the value, or the canonical text of
  one of its floats. -/
  numbers : ∀ t, some t ∈ (NormalForm.of o v).tokens → ∃ n ∈ v.numbers,
    (∃ i, n = .int i ∧ t = toString i) ∨ (∃ f, n = .float f ∧ canonicalFloat f o.decimals = .ok t)

theorem toOption_eq_some {ε α : Type} {e : Except ε α} {a : α} :
    e.toOption = some a ↔ e = .ok a := by
  cases e <;> simp [Except.toOption]

theorem canonical_text_wellFormed {o : CanonicalOptions} {v : Value} {s : String}
    (h : canonicalize o v = .ok s) : WellFormedText o v s := by
  obtain ⟨hc, rfl⟩ := (canonicalize_eq_ok_iff o v s).mp h
  have hnum : ∀ t ∈ (NormalForm.of o v).tokens, ∃ u, t = some u ∧ Grammar.Number u.toList := by
    intro t ht
    obtain ⟨n, -, rfl⟩ := NormalForm.mem_tokens_of o v t ht
    cases hn : canonicalNumber n o.decimals with
    | error e =>
      rw [hn] at ht
      exact absurd ht hc
    | ok u => exact ⟨u, rfl, NormalForm.number_of_canonicalNumber hn⟩
  have hval : Grammar.Value (NormalForm.of o v) (NormalForm.of o v).text.toList := by
    rw [NormalForm.text_toList]
    exact NormalForm.value_chars _ hnum
  refine ⟨hval, hval.printable, hval.space_mem_strings, NormalForm.keysSorted_of o v,
    NormalForm.mem_strings_of o v, fun t ht => ?_⟩
  obtain ⟨n, hn, hnt⟩ := NormalForm.mem_tokens_of o v _ ht
  have hok := toOption_eq_some.mp hnt.symm
  refine ⟨n, hn, ?_⟩
  cases n with
  | int i =>
    simp only [canonicalNumber, Except.ok.injEq] at hok
    exact .inl ⟨i, rfl, hok.symm⟩
  | float f => exact .inr ⟨f, rfl, hok⟩

/-- An array of a string with a space and a newline, and a negative integer. -/
theorem canonical_text_wellFormed_sample :
    canonicalize { normalizeNfc := false } (.array [.string "x y\n", .number (.int (-12))]) =
        .ok "[\"x y\\n\",-12]" ∧
      WellFormedText { normalizeNfc := false } (.array [.string "x y\n", .number (.int (-12))])
        "[\"x y\\n\",-12]" :=
  have h : canonicalize { normalizeNfc := false }
      (.array [.string "x y\n", .number (.int (-12))]) = .ok "[\"x y\\n\",-12]" := by rfl
  ⟨h, canonical_text_wellFormed h⟩

end CapsuleFlow
