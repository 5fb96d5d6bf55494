import Mathlib.Data.List.MinMax
import Mathlib.Data.List.Dedup
import CapsuleFlow.Proofs.Readability

/-!
# Canonical text decides equivalence

Two JSON values have the same canonical text exactly when they have the same normal form
`norm`, described here without the writer: strings as the options normalize them, each
number as its canonical text, arrays element by element, and each object as the finite
map from normalized keys to the normal form of a value, the value whose raw key is the
greatest among the raw keys normalizing to that key. The map is written as its entries in
increasing key order, each key once, so equal maps are equal lists.

Values are those of a JSON library whose objects are maps ordered by raw key (`Ordered`:
raw keys strictly increase). On them, keeping the later of two members that collide after
normalization, as canonicalization does, keeps the one with the greater raw key
(`keyedOf_eq_greatestByKey`), so the normal form behind canonical text is `norm`
(`of_eq_norm`). Canonical text is the written normal form (`canonicalize_eq_ok_iff`) and
written normal forms are uniquely readable (`NormalForm.text_inj`), which gives the result.
-/

namespace CapsuleFlow

open Json

namespace Json.Value

mutual
/-- Every object's raw keys strictly increase, as in a map ordered by key. -/
def Ordered : Value → Prop
  | .array xs => ItemsOrdered xs
  | .object ms => KeysIncreasing ms ∧ MembersOrdered ms
  | _ => True
/-- Every element is `Ordered`. -/
def ItemsOrdered : List Value → Prop
  | [] => True
  | x :: xs => Ordered x ∧ ItemsOrdered xs
/-- Every member value is `Ordered`. -/
def MembersOrdered : List (String × Value) → Prop
  | [] => True
  | (_, v) :: ms => Ordered v ∧ MembersOrdered ms
end

theorem itemsOrdered_iff (xs : List Value) : ItemsOrdered xs ↔ ∀ x ∈ xs, Ordered x := by
  induction xs with
  | nil => simp [ItemsOrdered]
  | cons x xs ih => simp [ItemsOrdered, ih]

theorem membersOrdered_iff (ms : List (String × Value)) :
    MembersOrdered ms ↔ ∀ m ∈ ms, Ordered m.2 := by
  induction ms with
  | nil => simp [MembersOrdered]
  | cons m ms ih => simp [MembersOrdered, ih]

@[simp] theorem ordered_array (xs : List Value) : Ordered (.array xs) ↔ ∀ x ∈ xs, Ordered x := by
  rw [Ordered, itemsOrdered_iff]

@[simp] theorem ordered_object (ms : List (String × Value)) :
    Ordered (.object ms) ↔ KeysIncreasing ms ∧ ∀ m ∈ ms, Ordered m.2 := by
  rw [Ordered, membersOrdered_iff]

end Json.Value

/-! ## The greatest raw key of each normalized key -/

section Greatest

variable {β : Type}

/-- The normalized keys of members given as (raw key, normalized key, value), each once,
in increasing order. -/
def normalKeys (l : List (String × String × β)) : List String :=
  (l.map fun m => m.2.1).dedup.mergeSort fun a b => decide (a ≤ b)

/-- Of the members with normalized key `k`, the one whose raw key is greatest. -/
def greatestWith (k : String) (l : List (String × String × β)) : Option (String × String × β) :=
  (l.filter fun m => m.2.1 == k).argmax fun m => m.1

/-- Each normalized key with the value of its member of greatest raw key, in key order. -/
def greatestByKey (l : List (String × String × β)) : List (String × β) :=
  (normalKeys l).filterMap fun k => (greatestWith k l).map fun m => (k, m.2.2)

theorem mem_normalKeys {l : List (String × String × β)} {k : String} :
    k ∈ normalKeys l ↔ ∃ m ∈ l, m.2.1 = k := by
  simp [normalKeys, List.mem_mergeSort, List.mem_dedup]

theorem normalKeys_increasing (l : List (String × String × β)) :
    (normalKeys l).Pairwise (· < ·) := by
  have hsorted : (normalKeys l).Pairwise fun a b => decide (a ≤ b) :=
    List.pairwise_mergeSort
      (fun a b c hab hbc => by simp only [decide_eq_true_eq] at *; exact le_trans hab hbc)
      (fun a b => by simpa using le_total a b) _
  have hnodup : (normalKeys l).Nodup :=
    (List.mergeSort_perm _ _).nodup_iff.mpr (List.nodup_dedup _)
  exact (hsorted.and hnodup).imp fun h => lt_of_le_of_ne (by simpa using h.1) h.2

theorem mem_greatestByKey (l : List (String × String × β)) (x : String × β) :
    x ∈ greatestByKey l ↔ ∃ m, greatestWith x.1 l = some m ∧ m.2.2 = x.2 := by
  simp only [greatestByKey, List.mem_filterMap, Option.map_eq_some_iff]
  constructor
  · rintro ⟨k, -, m, hm, rfl⟩
    exact ⟨m, hm, rfl⟩
  · rintro ⟨m, hm, hmx⟩
    have hmem := List.mem_filter.mp (List.argmax_mem hm)
    refine ⟨x.1, mem_normalKeys.mpr ⟨m, hmem.1, by simpa using hmem.2⟩, m, hm, ?_⟩
    rw [hmx]

theorem greatestByKey_increasing (l : List (String × String × β)) :
    Value.KeysIncreasing (greatestByKey l) := by
  refine (normalKeys_increasing l).filterMap _ ?_
  intro k k' hkk' b hb b' hb'
  obtain ⟨m, -, rfl⟩ := Option.map_eq_some_iff.mp hb
  obtain ⟨m', -, rfl⟩ := Option.map_eq_some_iff.mp hb'
  exact hkk'

theorem argmax_eq_getLast? {α : Type} (f : α → String) {l : List α}
    (h : l.Pairwise fun a b => f a < f b) : l.argmax f = l.getLast? := by
  induction l using List.reverseRecOn with
  | nil => rfl
  | append_singleton l a ih =>
    obtain ⟨hl, -, hla⟩ := List.pairwise_append.mp h
    rw [List.argmax_concat, ih hl, List.getLast?_concat]
    cases hc : l.getLast? with
    | none => rfl
    | some c =>
      have hca : f c < f a := hla c (List.mem_of_getLast? hc) a (by simp)
      simp [hca]

theorem greatestWith_eq_getLast? {l : List (String × String × β)}
    (h : l.Pairwise fun a b => a.1 < b.1) (k : String) :
    greatestWith k l = (l.filter fun m => m.2.1 == k).getLast? :=
  argmax_eq_getLast? _ (h.filter _)

/-- With raw keys increasing, keeping the last member of each normalized key in list order
keeps the member of greatest raw key. -/
theorem keyedOf_eq_greatestByKey {l : List (String × String × β)}
    (h : l.Pairwise fun a b => a.1 < b.1) :
    Value.keyedOf (l.map fun m => m.2) = greatestByKey l := by
  refine Value.eq_of_increasing_of_mem_iff (Value.keyedOf_increasing _)
    (greatestByKey_increasing l) fun x => ?_
  have hwith : Value.withKey x.1 (l.map fun m => m.2) =
      (l.filter fun m => m.2.1 == x.1).map fun m => m.2 := by
    simp [Value.withKey, List.filter_map, Function.comp_def]
  rw [Value.mem_keyedOf, mem_greatestByKey, greatestWith_eq_getLast? h, hwith, List.getLast?_map]
  constructor
  · intro hx
    obtain ⟨m, hm, rfl⟩ := Option.map_eq_some_iff.mp hx
    exact ⟨m, hm, rfl⟩
  · rintro ⟨m, hm, hmx⟩
    have hk : m.2.1 = x.1 := by
      simpa using (List.mem_filter.mp (List.mem_of_getLast? hm)).2
    rw [hm, Option.map_some, Prod.ext hk hmx]

end Greatest

/-! ## The normal form, described -/

mutual
/-- The normal form of a value: what canonical text records of it. -/
def norm (o : CanonicalOptions) : Value → NormalForm
  | .null => .null
  | .bool b => .bool b
  | .number n => .number (canonicalNumber n o.decimals).toOption
  | .string s => .string (o.text s)
  | .array xs => .array (normItems o xs)
  | .object ms => .object (greatestByKey (normMembers o ms))
/-- Normal forms of array elements. -/
def normItems (o : CanonicalOptions) : List Value → List NormalForm
  | [] => []
  | x :: xs => norm o x :: normItems o xs
/-- Members as raw key, normalized key and normal form of the value. -/
def normMembers (o : CanonicalOptions) : List (String × Value) → List (String × String × NormalForm)
  | [] => []
  | (k, v) :: ms => (k, o.text k, norm o v) :: normMembers o ms
end

theorem normItems_eq_map (o : CanonicalOptions) (xs : List Value) :
    normItems o xs = xs.map (norm o) := by
  induction xs with
  | nil => rfl
  | cons x xs ih => simp [normItems, ih]

theorem normMembers_eq_map (o : CanonicalOptions) (ms : List (String × Value)) :
    normMembers o ms = ms.map fun e => (e.1, o.text e.1, norm o e.2) := by
  induction ms with
  | nil => rfl
  | cons e ms ih => simp [normMembers, ih]

/-- On values whose objects are ordered by raw key, the normal form behind canonical text
is `norm`. -/
theorem of_eq_norm (o : CanonicalOptions) (v : Value) (hv : v.Ordered) :
    NormalForm.of o v = norm o v := by
  induction v using Value.induction with
  | null => rfl
  | bool b => rfl
  | number n => rfl
  | string s => rfl
  | array xs ih =>
    rw [Value.ordered_array] at hv
    rw [NormalForm.of, norm, NormalForm.ofItems_eq_map, normItems_eq_map,
      List.map_congr_left fun x hx => ih x hx (hv x hx)]
  | object ms ih =>
    obtain ⟨hinc, hms⟩ := (Value.ordered_object ms).mp hv
    have hmembers : NormalForm.ofMembers o ms = (normMembers o ms).map fun m => m.2 := by
      rw [NormalForm.ofMembers_eq_map, normMembers_eq_map, List.map_map, List.map_map]
      refine List.map_congr_left fun m hm => ?_
      simp [ih m hm (hms m hm)]
    have hraw : (normMembers o ms).Pairwise fun a b => a.1 < b.1 := by
      rw [normMembers_eq_map, List.pairwise_map]
      exact hinc
    rw [NormalForm.of, norm, hmembers, keyedOf_eq_greatestByKey hraw]

/-! ## Number texts of the normal form -/

theorem tokens_of (o : CanonicalOptions) (v : Value) :
    ∀ t ∈ (NormalForm.of o v).tokens, ∃ n, t = (canonicalNumber n o.decimals).toOption := by
  induction v using Value.induction with
  | null => simp [NormalForm.of, NormalForm.tokens]
  | bool b => simp [NormalForm.of, NormalForm.tokens]
  | number n =>
    intro t ht
    simp only [NormalForm.of, NormalForm.tokens, List.mem_singleton] at ht
    exact ⟨n, ht⟩
  | string s => simp [NormalForm.of, NormalForm.tokens]
  | array xs ih =>
    intro t ht
    simp only [NormalForm.of, NormalForm.tokens, NormalForm.itemTokens_eq,
      NormalForm.ofItems_eq_map, List.map_map, List.mem_flatten, List.mem_map,
      Function.comp_apply] at ht
    obtain ⟨_, ⟨x, hx, rfl⟩, ht⟩ := ht
    exact ih x hx t ht
  | object ms ih =>
    intro t ht
    rw [NormalForm.of_object] at ht
    simp only [NormalForm.tokens, NormalForm.memberTokens_eq, List.map_map, List.mem_flatten,
      List.mem_map, Function.comp_apply] at ht
    obtain ⟨_, ⟨e, he, rfl⟩, ht⟩ := ht
    obtain ⟨m, hm, rfl⟩ := List.mem_map.mp (Value.mem_of_mem_keyedOf he)
    exact ih m hm t ht

theorem tokenized_of {o : CanonicalOptions} {v : Value} (hc : (NormalForm.of o v).Complete) :
    (NormalForm.of o v).Tokenized := by
  intro t ht
  obtain ⟨n, rfl⟩ := tokens_of o v t ht
  cases hn : canonicalNumber n o.decimals with
  | error e =>
    rw [hn] at ht
    exact absurd ht hc
  | ok s => exact ⟨s, rfl, NumberToken.of_canonicalNumber hn⟩

/-! ## Canonical text and equivalence -/

/-- Two values with canonical texts, their objects ordered by raw key, have the same
canonical text exactly when they have the same normal form. -/
theorem canonical_text_eq_iff_norm_eq (o : CanonicalOptions) {a b : Value} {s t : String}
    (ha : a.Ordered) (hb : b.Ordered) (hs : canonicalize o a = .ok s)
    (ht : canonicalize o b = .ok t) : s = t ↔ norm o a = norm o b := by
  obtain ⟨hca, rfl⟩ := (canonicalize_eq_ok_iff o a s).mp hs
  obtain ⟨hcb, rfl⟩ := (canonicalize_eq_ok_iff o b t).mp ht
  rw [NormalForm.text_inj (tokenized_of hca) (tokenized_of hcb), of_eq_norm o a ha,
    of_eq_norm o b hb]

/-- Two objects ordered by key, written without normalization: different texts, different
normal forms. -/
theorem canonical_text_of_two_objects :
    (Value.object [("a", .number (.int 1)), ("b", .null)]).Ordered ∧
      (Value.object [("a", .number (.int 1)), ("b", .bool false)]).Ordered ∧
      canonicalize { normalizeNfc := false } (.object [("a", .number (.int 1)), ("b", .null)]) =
        .ok "\x7b\"a\":1,\"b\":null\x7d" ∧
      canonicalize { normalizeNfc := false }
          (.object [("a", .number (.int 1)), ("b", .bool false)]) =
        .ok "\x7b\"a\":1,\"b\":false\x7d" ∧
      ("\x7b\"a\":1,\"b\":null\x7d" = "\x7b\"a\":1,\"b\":false\x7d" ↔
        norm { normalizeNfc := false } (.object [("a", .number (.int 1)), ("b", .null)]) =
          norm { normalizeNfc := false } (.object [("a", .number (.int 1)), ("b", .bool false)])) := by
  have hab : ("a" : String) < "b" := by decide
  have ha : (Value.object [("a", .number (.int 1)), ("b", .null)]).Ordered :=
    (Value.ordered_object _).mpr ⟨List.pairwise_pair.mpr hab, by simp [Value.Ordered]⟩
  have hb : (Value.object [("a", .number (.int 1)), ("b", .bool false)]).Ordered :=
    (Value.ordered_object _).mpr ⟨List.pairwise_pair.mpr hab, by simp [Value.Ordered]⟩
  have hs : canonicalize { normalizeNfc := false }
      (.object [("a", .number (.int 1)), ("b", .null)]) = .ok "\x7b\"a\":1,\"b\":null\x7d" := by
    simp only [canonicalize_object, List.map_cons, List.map_nil, CanonicalOptions.text,
      Bool.false_eq_true, if_false]
    rw [Value.keyedOf_of_increasing (List.pairwise_pair.mpr hab)]
    rfl
  have ht : canonicalize { normalizeNfc := false }
      (.object [("a", .number (.int 1)), ("b", .bool false)]) =
        .ok "\x7b\"a\":1,\"b\":false\x7d" := by
    simp only [canonicalize_object, List.map_cons, List.map_nil, CanonicalOptions.text,
      Bool.false_eq_true, if_false]
    rw [Value.keyedOf_of_increasing (List.pairwise_pair.mpr hab)]
    rfl
  exact ⟨ha, hb, hs, ht, canonical_text_eq_iff_norm_eq _ ha hb hs ht⟩

end CapsuleFlow
