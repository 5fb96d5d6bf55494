import CapsuleFlow.Proofs.CanonicalReading
import CapsuleFlow.Proofs.CanonicalEquivalence

/-!
# Canonical text reads back to itself

Canonicalization is idempotent through the reader: the canonical text of a value is read by
the JSON reader as a value with the same canonical text (`canonical_text_reparses`). Two
facts of other code are taken as hypotheses about the value's leaves, as the promise is
stated: string normalization is idempotent on its strings and keys, and each float's text,
read back as a number, is written again as the same text. Integers need no such hypothesis
in the 64-bit range the reader keeps them in (`Json.Number.textRereads_int`).

The reader refuses nesting beyond its allowance, so the theorem holds up to 127 levels of
arrays and objects, and no further: 128 nested arrays have a canonical text the reader
refuses (`canonical_text_of_deep_nesting_unreadable`), as does any text opening with as
many brackets as the reader's allowance (`Json.readValue_refuses_deep`).

The proof puts the reader's side (`NormalForm.readsBack`) together with what holds of every
canonical normal form: it is stable under the hypotheses (`NormalForm.stable_of`) and nests
no deeper than its value (`NormalForm.depth_of_le`).
-/

namespace CapsuleFlow

open Json

namespace Json.Value

/-- How deeply arrays and objects nest: a scalar has depth zero, and a container one more
than its deepest element. -/
def depth : Value → Nat
  | .array xs => itemsDepth xs + 1
  | .object ms => membersDepth ms + 1
  | _ => 0
where
  /-- The greatest depth of the elements. -/
  itemsDepth : List Value → Nat
    | [] => 0
    | x :: xs => max x.depth (itemsDepth xs)
  /-- The greatest depth of the member values. -/
  membersDepth : List (String × Value) → Nat
    | [] => 0
    | (_, x) :: ms => max x.depth (membersDepth ms)

/-- The strings of a value, its keys included, in order. -/
def strings : Value → List String
  | .string s => [s]
  | .array xs => itemStrings xs
  | .object ms => memberStrings ms
  | _ => []
where
  /-- The strings of the elements. -/
  itemStrings : List Value → List String
    | [] => []
    | x :: xs => x.strings ++ itemStrings xs
  /-- The keys and the strings of the member values. -/
  memberStrings : List (String × Value) → List String
    | [] => []
    | (k, x) :: ms => k :: x.strings ++ memberStrings ms

/-- The numbers of a value, in order. -/
def numbers : Value → List Number
  | .number n => [n]
  | .array xs => itemNumbers xs
  | .object ms => memberNumbers ms
  | _ => []
where
  /-- The numbers of the elements. -/
  itemNumbers : List Value → List Number
    | [] => []
    | x :: xs => x.numbers ++ itemNumbers xs
  /-- The numbers of the member values. -/
  memberNumbers : List (String × Value) → List Number
    | [] => []
    | (_, x) :: ms => x.numbers ++ memberNumbers ms

variable {x : Value}

theorem depth_le_itemsDepth : ∀ {xs : List Value}, x ∈ xs → x.depth ≤ depth.itemsDepth xs
  | y :: xs, h => by
    rcases List.mem_cons.mp h with rfl | h
    · exact le_max_left _ _
    · exact le_trans (depth_le_itemsDepth h) (le_max_right _ _)

theorem depth_le_membersDepth {m : String × Value} :
    ∀ {ms : List (String × Value)}, m ∈ ms → m.2.depth ≤ depth.membersDepth ms
  | (k, y) :: ms, h => by
    rcases List.mem_cons.mp h with rfl | h
    · exact le_max_left _ _
    · exact le_trans (depth_le_membersDepth h) (le_max_right _ _)

theorem strings_subset_items : ∀ {xs : List Value}, x ∈ xs →
    ∀ t ∈ x.strings, t ∈ strings.itemStrings xs
  | y :: xs, h, t, ht => by
    rcases List.mem_cons.mp h with rfl | h
    · simp [strings.itemStrings, ht]
    · simp [strings.itemStrings, strings_subset_items h t ht]

theorem strings_subset_members {m : String × Value} : ∀ {ms : List (String × Value)}, m ∈ ms →
    m.1 ∈ strings.memberStrings ms ∧ ∀ t ∈ m.2.strings, t ∈ strings.memberStrings ms
  | (k, y) :: ms, h => by
    rcases List.mem_cons.mp h with rfl | h
    · exact ⟨by simp [strings.memberStrings], fun t ht => by simp [strings.memberStrings, ht]⟩
    · obtain ⟨hk, hv⟩ := strings_subset_members h
      exact ⟨by simp [strings.memberStrings, hk], fun t ht => by
        simp [strings.memberStrings, hv t ht]⟩

theorem numbers_subset_items : ∀ {xs : List Value}, x ∈ xs →
    ∀ n ∈ x.numbers, n ∈ numbers.itemNumbers xs
  | y :: xs, h, n, hn => by
    rcases List.mem_cons.mp h with rfl | h
    · simp [numbers.itemNumbers, hn]
    · simp [numbers.itemNumbers, numbers_subset_items h n hn]

theorem numbers_subset_members {m : String × Value} : ∀ {ms : List (String × Value)}, m ∈ ms →
    ∀ n ∈ m.2.numbers, n ∈ numbers.memberNumbers ms
  | (k, y) :: ms, h, n, hn => by
    rcases List.mem_cons.mp h with rfl | h
    · simp [numbers.memberNumbers, hn]
    · simp [numbers.memberNumbers, numbers_subset_members h n hn]

end Json.Value

/-- The canonical text of a number reads back as a number with the same canonical text. -/
def Json.Number.TextRereads (d : Nat) (n : Number) : Prop :=
  ∀ t, canonicalNumber n d = .ok t →
    ∃ n', parse t = .ok (.number n') ∧ canonicalNumber n' d = .ok t

/-- An integer in the reader's 64-bit range: its text is its decimal text, which reads back as
the integer itself. -/
theorem Json.Number.textRereads_int {i : Int} (hlo : -Int.pow 2 63 ≤ i) (hhi : i ≤ u64Max)
    (d : Nat) : (Number.int i).TextRereads d := by
  intro t ht
  simp only [canonicalNumber, Except.ok.injEq] at ht
  subst ht
  exact ⟨.int i, parse_toString_int hlo hhi, rfl⟩

/-- What the promise assumes of a float, read through the JSON reader: the reader accepts the
float's canonical text, and where it reads the text as a float, that float's canonical text is
the same. -/
def Json.Number.FloatRereads (d : Nat) (x : Float) : Prop :=
  ∀ t, canonicalFloat x d = .ok t → ∃ n, parse t = .ok (.number n) ∧
    ∀ y, n = .float y → canonicalFloat y d = .ok t

/-- A float's text that the reader takes as an integer is that integer's decimal text, which is
the integer's canonical text; so a float whose text is read back as a float written the same
way has a text that reads back. -/
theorem Json.Number.textRereads_float {d : Nat} {x : Float} (h : Number.FloatRereads d x) :
    (Number.float x).TextRereads d := by
  intro t ht
  obtain ⟨n, hparse, hfloat⟩ := h t ht
  cases n with
  | int i =>
    refine ⟨.int i, hparse, ?_⟩
    rw [canonicalNumber, toString_of_parse_int (NumberToken.of_canonicalNumber ht) hparse]
  | float y => exact ⟨.float y, hparse, hfloat y rfl⟩

theorem Json.Value.numbers_reread {d : Nat} {c : Value}
    (hints : ∀ i, Number.int i ∈ c.numbers → -Int.pow 2 63 ≤ i ∧ i ≤ u64Max)
    (hfloats : ∀ f, Number.float f ∈ c.numbers → Number.FloatRereads d f) :
    ∀ n ∈ c.numbers, n.TextRereads d
  | .int i, hn => Number.textRereads_int (hints i hn).1 (hints i hn).2 d
  | .float f, hn => Number.textRereads_float (hfloats f hn)

namespace NormalForm

variable {o : CanonicalOptions}

theorem itemsDepth_le {n : Nat} :
    ∀ {xs : List NormalForm}, (∀ x ∈ xs, x.depth ≤ n) → depth.itemsDepth xs ≤ n
  | [], _ => Nat.zero_le n
  | x :: _, h => max_le (h x List.mem_cons_self)
    (itemsDepth_le fun y hy => h y (List.mem_cons_of_mem _ hy))

theorem membersDepth_le {n : Nat} :
    ∀ {ms : List (String × NormalForm)}, (∀ m ∈ ms, m.2.depth ≤ n) → depth.membersDepth ms ≤ n
  | [], _ => Nat.zero_le n
  | m :: _, h => max_le (h m List.mem_cons_self)
    (membersDepth_le fun y hy => h y (List.mem_cons_of_mem _ hy))

theorem mem_of_object {ms : List (String × Value)} {m : String × NormalForm}
    (hm : m ∈ (Value.keyedOf (ms.map fun e => (o.text e.1, e.2))).map fun e => (e.1, of o e.2)) :
    ∃ k v, (k, v) ∈ ms ∧ m = (o.text k, of o v) := by
  obtain ⟨e, he, rfl⟩ := List.mem_map.mp hm
  obtain ⟨⟨k, v⟩, hkv, rfl⟩ := List.mem_map.mp (Value.mem_of_mem_keyedOf he)
  exact ⟨k, v, hkv, rfl⟩

/-- A normal form nests no deeper than its value: normalization only drops members. -/
theorem depth_of_le (v : Value) : (of o v).depth ≤ v.depth := by
  induction v using Value.induction with
  | null => exact Nat.zero_le _
  | bool b => exact Nat.zero_le _
  | number n => exact Nat.zero_le _
  | string s => exact Nat.zero_le _
  | array xs ih =>
    simp only [of, ofItems_eq_map, depth, Value.depth]
    refine Nat.succ_le_succ (itemsDepth_le fun y hy => ?_)
    obtain ⟨x, hx, rfl⟩ := List.mem_map.mp hy
    exact (ih x hx).trans (Value.depth_le_itemsDepth hx)
  | object ms ih =>
    rw [of_object]
    simp only [depth, Value.depth]
    refine Nat.succ_le_succ (membersDepth_le fun m hm => ?_)
    obtain ⟨k, v, hkv, rfl⟩ := mem_of_object hm
    exact (ih (k, v) hkv).trans (Value.depth_le_membersDepth hkv)

/-- The normal form of a value is stable under options of the same decimal places whose
normalization leaves the value's normalized strings and keys alone, when each of its numbers'
texts reads back. -/
theorem stable_under {o' : CanonicalOptions} (hdec : o'.decimals = o.decimals) {v : Value}
    (hstrings : ∀ t ∈ v.strings, o'.text (o.text t) = o.text t)
    (hnumbers : ∀ n ∈ v.numbers, n.TextRereads o.decimals) (hc : (of o v).Complete) :
    (of o v).Stable o' := by
  induction v using Value.induction with
  | null => exact .null
  | bool b => exact .bool b
  | number n =>
    cases ht : canonicalNumber n o.decimals with
    | error e =>
      simp [of, ht, Complete, tokens, Except.toOption] at hc
    | ok t =>
      obtain ⟨n', hparse, hcanon⟩ := hnumbers n (by simp [Value.numbers]) t ht
      simp only [of, ht]
      exact .number hparse (hdec ▸ hcanon)
  | string s => exact .string (hstrings s (by simp [Value.strings]))
  | array xs ih =>
    simp only [of, ofItems_eq_map, complete_array] at hc ⊢
    refine .array fun y hy => ?_
    obtain ⟨x, hx, rfl⟩ := List.mem_map.mp hy
    exact ih x hx (fun t ht => hstrings t (Value.strings_subset_items hx t ht))
      (fun n hn => hnumbers n (Value.numbers_subset_items hx n hn))
      (hc _ (List.mem_map_of_mem hx))
  | object ms ih =>
    rw [of_object] at hc ⊢
    rw [complete_object] at hc
    refine .object ?_ (fun m hm => ?_) (fun m hm => ?_)
    · have h := Value.keyedOf_increasing (ms.map fun e => (o.text e.1, e.2))
      unfold Value.KeysIncreasing at h ⊢
      rw [List.pairwise_map]
      exact h
    · obtain ⟨k, v, hkv, rfl⟩ := mem_of_object hm
      exact hstrings k (Value.strings_subset_members hkv).1
    · obtain ⟨k, v, hkv, rfl⟩ := mem_of_object hm
      have hsub := Value.strings_subset_members hkv
      exact ih (k, v) hkv (fun t ht => hstrings t (hsub.2 t ht))
        (fun n hn => hnumbers n (Value.numbers_subset_members hkv n hn)) (hc _ hm)

/-- The normal form of a value is stable when normalization is idempotent on the value's
strings and keys and each of its numbers' texts reads back. -/
theorem stable_of {v : Value} (hstrings : ∀ t ∈ v.strings, o.text (o.text t) = o.text t)
    (hnumbers : ∀ n ∈ v.numbers, n.TextRereads o.decimals) (hc : (of o v).Complete) :
    (of o v).Stable o :=
  stable_under rfl hstrings hnumbers hc

end NormalForm

/-- The canonical text of a value whose normal form nests at most 127 levels deep is read by
the JSON reader as a value with the same canonical text, when normalization is idempotent on
the value's strings and keys, its integers lie in the reader's 64-bit range, and the reader
accepts each float's text and, where it reads a float, writes it again as the same text. -/
theorem canonical_text_reparses (o : CanonicalOptions) (v : Value)
    (hdepth : (NormalForm.of o v).depth ≤ 127)
    (hstrings : ∀ t ∈ v.strings, o.text (o.text t) = o.text t)
    (hints : ∀ i, Number.int i ∈ v.numbers → -Int.pow 2 63 ≤ i ∧ i ≤ u64Max)
    (hfloats : ∀ f, Number.float f ∈ v.numbers → Number.FloatRereads o.decimals f)
    {s : String} (hs : canonicalize o v = .ok s) :
    ∃ v', parse s = .ok v' ∧ canonicalize o v' = .ok s := by
  obtain ⟨hc, rfl⟩ := (canonicalize_eq_ok_iff o v s).mp hs
  have hstable := NormalForm.stable_of hstrings (Value.numbers_reread hints hfloats) hc
  have hd : (NormalForm.of o v).depth < depthLimit := lt_of_le_of_lt hdepth (by decide)
  let start := Cursor.start (NormalForm.of o v).text
  obtain ⟨v', c', hread, hrest, -, hof⟩ := NormalForm.readsBack hstable (tokenized_of hc) hd []
    start (start.limit + 1) follows_nil (by simp [start, Cursor.start, NormalForm.text_toList])
    (by simp [start, Cursor.start, String.length_toList])
    (by simp [start, Cursor.start, NormalForm.text, String.length_ofList])
  exact ⟨v', parse_of_readValue hread hrest,
    (canonicalize_eq_ok_iff o v' _).mpr ⟨hof ▸ hc, by rw [hof]⟩⟩

/-- A capsule with a string, an integer, a float with a fraction and a whole float reads back
from its canonical text: the reader takes `2.5` back as a float and `2` as an integer. -/
theorem capsule_text_reparses :
    canonicalize {} (.object [("capsule_type", .string "STATE"), ("n", .number (.int 1)),
        ("w", .number (.float 2.5)), ("x", .number (.float 2.0))]) =
        .ok "\x7b\"capsule_type\":\"STATE\",\"n\":1,\"w\":2.5,\"x\":2\x7d" ∧
      ∃ v', parse "\x7b\"capsule_type\":\"STATE\",\"n\":1,\"w\":2.5,\"x\":2\x7d" = .ok v' ∧
        canonicalize {} v' = .ok "\x7b\"capsule_type\":\"STATE\",\"n\":1,\"w\":2.5,\"x\":2\x7d" := by
  have hhalf : canonicalFloat 2.5 6 = .ok "2.5" := by
    rw [canonicalFloat_rescaled (by decide) (by decide +kernel) (by decide +kernel)
      (by decide +kernel) (by decide +kernel)]
    exact congrArg Except.ok (String.ext (by rw [trimFraction_toList]; decide +kernel))
  have hwhole : canonicalFloat 2.0 6 = .ok "2" := by
    rw [canonicalFloat_whole (d := ⟨false, 4503599627370496, -51⟩) (by decide) (by decide)
      (by decide) rfl, if_neg (by decide)]
    exact congrArg Except.ok (String.ext (by rw [trimFraction_toList]; decide +kernel))
  have hs : canonicalize {} (.object [("capsule_type", .string "STATE"), ("n", .number (.int 1)),
      ("w", .number (.float 2.5)), ("x", .number (.float 2.0))]) =
      .ok "\x7b\"capsule_type\":\"STATE\",\"n\":1,\"w\":2.5,\"x\":2\x7d" := by
    simp [canonicalize_object, CanonicalOptions.text, Text.nfc]
    rw [Value.keyedOf_of_increasing (by unfold Value.KeysIncreasing; decide)]
    simp [canonicalize, canonicalNumber, CanonicalOptions.text, Text.nfc, hhalf, hwhole]
    rfl
  refine ⟨hs, canonical_text_reparses {} _ ((NormalForm.depth_of_le _).trans (by decide)) ?_ ?_ ?_ hs⟩
  · simp [Value.strings, Value.strings.memberStrings, CanonicalOptions.text, Text.nfc]
  · simp [Value.numbers, Value.numbers.memberNumbers, u64Max]
  · intro f hf t ht
    simp [Value.numbers, Value.numbers.memberNumbers] at hf
    rcases hf with rfl | rfl
    · rw [hhalf] at ht
      cases ht
      exact ⟨.float 2.5, rfl, fun y hy => by cases hy; exact hhalf⟩
    · rw [hwhole] at ht
      cases ht
      exact ⟨.int 2, rfl, fun y hy => by cases hy⟩

/-! ## Nesting beyond the reader's allowance -/

namespace Json

theorem Cursor.skipBlank_of_bracket {c : Cursor} {t : List Char} (h : c.rest = '[' :: t) :
    c.skipBlank = c :=
  Cursor.skipBlank_of_rest h (by simp [NormalForm.Blank])

/-- A text opening with as many brackets as the reader's allowance is refused, whatever
follows them and however much fuel the reader is given. -/
theorem readValue_refuses_deep (rest : List Char) (d : Nat) {c : Cursor}
    (h : c.rest = List.replicate (d + 1) '[' ++ rest) (fuel : Nat) :
    ∃ e, readValue (d + 1) c fuel = .error e := by
  induction d generalizing c fuel with
  | zero =>
    have hc : c.rest = '[' :: rest := h
    cases fuel with
    | zero => exact ⟨_, rfl⟩
    | succ fuel =>
      exact ⟨_, by simp [readValue, Cursor.skipBlank_of_bracket hc, Cursor.peek_eq, hc]; rfl⟩
  | succ d ih =>
    have hc : c.rest = '[' :: (List.replicate (d + 1) '[' ++ rest) := by
      rw [h, List.replicate_succ, List.cons_append]
    have hn : c.next.rest = List.replicate (d + 1) '[' ++ rest := by simp [hc]
    have hn' : c.next.rest = '[' :: (List.replicate d '[' ++ rest) := by
      rw [hn, List.replicate_succ, List.cons_append]
    cases fuel with
    | zero => exact ⟨_, rfl⟩
    | succ fuel =>
      cases fuel with
      | zero =>
        exact ⟨_, by
          simp [readValue, readItems, Cursor.skipBlank_of_bracket hc, Cursor.peek_eq, hc]
          rfl⟩
      | succ fuel =>
        obtain ⟨e, he⟩ := ih hn fuel
        exact ⟨e, by simp [readValue, readItems, Cursor.skipBlank_of_bracket hc,
          Cursor.skipBlank_of_bracket hn', Cursor.peek_eq, hc, List.replicate_succ, he, bind,
          Except.bind]⟩

/-- Arrays nested `n + 1` deep around an empty one. -/
def Value.nested : Nat → Value
  | 0 => .array []
  | n + 1 => .array [nested n]

theorem Value.depth_nested (n : Nat) : (Value.nested n).depth = n + 1 := by
  induction n with
  | zero => rfl
  | succ n ih => simp [nested, depth, depth.itemsDepth, ih]

end Json

theorem NormalForm.chars_of_nested (o : CanonicalOptions) (n : Nat) :
    (of o (Value.nested n)).chars = List.replicate (n + 1) '[' ++ List.replicate (n + 1) ']' := by
  induction n with
  | zero => rfl
  | succ n ih =>
    simp [Value.nested, of, ofItems, chars, itemChars, ih, List.replicate_succ]
    rw [← List.replicate_succ', List.replicate_succ]

theorem NormalForm.complete_of_nested (o : CanonicalOptions) (n : Nat) :
    (of o (Value.nested n)).Complete := by
  induction n with
  | zero => simp [Value.nested, of, ofItems]
  | succ n ih => simpa [Value.nested, of, ofItems] using ih

theorem NormalForm.parse_nested_refused (o : CanonicalOptions) {n : Nat} (hn : 127 ≤ n) :
    ∃ e, parse (of o (Value.nested n)).text = .error e := by
  obtain ⟨k, rfl⟩ := Nat.exists_eq_add_of_le hn
  let start := Cursor.start (of o (Value.nested (127 + k))).text
  have hstart : start.rest =
      List.replicate 128 '[' ++ (List.replicate k '[' ++ List.replicate (127 + k + 1) ']') := by
    rw [← List.append_assoc, ← List.replicate_add, show 128 + k = 127 + k + 1 by omega]
    simp [start, Cursor.start, text_toList, chars_of_nested]
  obtain ⟨e, he⟩ := readValue_refuses_deep _ 127 hstart (start.limit + 1)
  refine ⟨e, ?_⟩
  unfold parse
  dsimp only
  rw [show depthLimit = 127 + 1 from rfl, he]
  rfl

/-- Arrays nested 128 deep have a canonical text, and the reader refuses it. -/
theorem canonical_text_of_deep_nesting_unreadable :
    (Value.nested 127).depth = 128 ∧
      ∃ s, canonicalize {} (Value.nested 127) = .ok s ∧ ∃ e, parse s = .error e :=
  ⟨Value.depth_nested 127, _, (canonicalize_eq_ok_iff {} _ _).mpr
    ⟨NormalForm.complete_of_nested {} 127, rfl⟩, NormalForm.parse_nested_refused {} le_rfl⟩

end CapsuleFlow
