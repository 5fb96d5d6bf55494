import Mathlib.Data.List.Induction
import Mathlib.Data.List.Sort
import Mathlib.Data.String.Basic
import CapsuleFlow.Json.Value

/-!
# Keyed lists as finite maps

Objects, active consents and active policies are kept as lists of keyed entries. Two
operations build them: `insertKeyed` adds one entry, replacing the entry of an equal key,
and `keyedOf` turns members in source order into one entry per key, in key order, a later
member replacing an earlier one.

The results here say what these lists mean as maps: looking a key up after `insertKeyed`,
which entries `keyedOf` keeps (for each key, the last member with that key), that its
keys strictly increase, and that it changes nothing on a list whose keys already strictly
increase. `keyedOf` sorts stably, which is where the "last member wins" rule comes from.
-/

namespace CapsuleFlow.Json.Value

variable {β γ : Type}

/-- Keys strictly increase along the list, so each key has one entry. -/
def KeysIncreasing (l : List (String × β)) : Prop :=
  l.Pairwise fun a b => a.1 < b.1

/-- The order `keyedOf` sorts by. -/
abbrev keyLE (a b : String × β) : Bool := decide (a.1 ≤ b.1)

/-- The entries of a key, in list order. -/
abbrev withKey (k : String) (l : List (String × β)) : List (String × β) :=
  l.filter fun e => e.1 == k

theorem withKey_cons (k : String) (e : String × β) (l : List (String × β)) :
    withKey k (e :: l) = if e.1 = k then e :: withKey k l else withKey k l := by
  by_cases h : e.1 = k <;> simp [withKey, h]

theorem keys_nodup_of_increasing {l : List (String × β)} (h : KeysIncreasing l) :
    (l.map Prod.fst).Nodup :=
  (List.pairwise_map.mpr h).imp ne_of_lt

theorem eq_of_increasing_of_mem_iff {l₁ l₂ : List (String × β)} (h₁ : KeysIncreasing l₁)
    (h₂ : KeysIncreasing l₂) (h : ∀ x, x ∈ l₁ ↔ x ∈ l₂) : l₁ = l₂ := by
  have hanti : Std.Antisymm fun a b : String × β => a.1 < b.1 :=
    ⟨fun _ _ hab hba => absurd (hab.trans hba) (lt_irrefl _)⟩
  have hirrefl : Std.Irrefl fun a b : String × β => a.1 < b.1 := ⟨fun _ => lt_irrefl _⟩
  exact List.Pairwise.eq_of_mem_iff h₁ h₂ h

/-! ## Looking keys up -/

theorem lookup_cons_ite (a k : String) (b : β) (l : List (String × β)) :
    ((k, b) :: l).lookup a = if a = k then some b else l.lookup a := by
  show (match a == k with | true => some b | false => l.lookup a) = _
  by_cases h : a = k
  · simp [h]
  · have hf : (a == k) = false := by simpa using h
    rw [hf, if_neg h]

theorem lookup_insertKeyed (k k' : String) (v : β) (l : List (String × β)) :
    (insertKeyed k v l).lookup k' = if k' = k then some v else l.lookup k' := by
  induction l with
  | nil => simp [insertKeyed, lookup_cons_ite]
  | cons e rest ih =>
    obtain ⟨k0, v0⟩ := e
    by_cases hlt : k < k0
    · simp [insertKeyed, hlt, lookup_cons_ite]
    · by_cases heq : k = k0
      · subst heq
        by_cases hk : k' = k <;> simp [insertKeyed, lookup_cons_ite, hk]
      · have hne : (k == k0) = false := by simpa using heq
        simp only [insertKeyed, hlt, hne, if_false, Bool.false_eq_true, lookup_cons_ite, ih]
        by_cases hk : k' = k
        · subst hk
          simp [heq]
        · simp [hk]

theorem lookup_filter_key_ne (k k' : String) (l : List (String × β)) :
    (l.filter fun e => e.1 != k).lookup k' = if k' = k then none else l.lookup k' := by
  induction l with
  | nil => simp
  | cons e rest ih =>
    obtain ⟨k0, v0⟩ := e
    rw [List.filter_cons, lookup_cons_ite]
    by_cases h0 : k0 = k
    · subst h0
      simp only [bne_self_eq_false, Bool.false_eq_true, if_false, ih]
      by_cases hk : k' = k0 <;> simp [hk]
    · have hne : (k0 != k) = true := by simpa using h0
      simp only [hne, if_true, lookup_cons_ite, ih]
      by_cases hk : k' = k0
      · subst hk
        simp [h0]
      · simp [hk]

theorem lookup_eq_none_iff_not_mem_keys {k : String} {l : List (String × β)} :
    l.lookup k = none ↔ k ∉ l.map Prod.fst := by
  rw [List.lookup_eq_none_iff]
  simp only [bne_iff_ne, ne_eq, List.mem_map, not_exists, not_and]
  exact ⟨fun h x hx hk => h x hx hk.symm, fun h x hx hk => h x hx hk.symm⟩

theorem lookup_eq_some_of_mem {l : List (String × β)} (h : KeysIncreasing l) {k : String} {v : β}
    (hkv : (k, v) ∈ l) : l.lookup k = some v := by
  induction l with
  | nil => simp at hkv
  | cons e rest ih =>
    obtain ⟨k0, v0⟩ := e
    rw [lookup_cons_ite]
    rcases List.mem_cons.mp hkv with hkv | hkv
    · obtain ⟨rfl, rfl⟩ := Prod.mk.inj hkv
      rw [if_pos rfl]
    · have hlt : k0 < k := List.rel_of_pairwise_cons h hkv
      rw [if_neg (ne_of_gt hlt), ih h.of_cons hkv]

theorem mem_of_lookup_eq_some {l : List (String × β)} {k : String} {v : β}
    (h : l.lookup k = some v) : (k, v) ∈ l := by
  obtain ⟨l₁, l₂, rfl, -⟩ := List.lookup_eq_some_iff.mp h
  simp

theorem lookup_eq_list_lookup (k : String) (ms : List (String × Value)) : lookup k ms = ms.lookup k := by
  induction ms with
  | nil => rfl
  | cons e rest ih =>
    obtain ⟨k0, v0⟩ := e
    rw [lookup_cons_ite, ← ih]
    by_cases h : k = k0 <;> simp [lookup, h]

@[simp] theorem get?_object (ms : List (String × Value)) (k : String) :
    (Value.object ms).get? k = ms.lookup k :=
  lookup_eq_list_lookup k ms

/-! ## The last member of each key -/

theorem lastOfEach_sublist (l : List (String × β)) : (lastOfEach l).Sublist l := by
  fun_induction lastOfEach l with
  | case1 => exact List.Sublist.refl _
  | case2 e => exact List.Sublist.refl _
  | case3 e f rest _ ih => exact ih.cons e
  | case4 e f rest _ ih => exact ih.cons_cons e

theorem lastOfEach_map (f : β → γ) (l : List (String × β)) :
    lastOfEach (l.map fun e => (e.1, f e.2)) = (lastOfEach l).map fun e => (e.1, f e.2) := by
  fun_induction lastOfEach l with
  | case1 => simp [lastOfEach]
  | case2 e => simp [lastOfEach]
  | case3 e g rest h ih =>
    simp only [List.map_cons] at ih ⊢
    rw [lastOfEach, if_pos h, ih]
  | case4 e g rest h ih =>
    simp only [List.map_cons] at ih ⊢
    rw [lastOfEach, if_neg h, ih]

theorem lt_of_sorted_cons {e f : String × β} {rest : List (String × β)}
    (h : (e :: f :: rest).Pairwise fun a b => a.1 ≤ b.1) (hne : e.1 ≠ f.1) :
    ∀ x ∈ f :: rest, e.1 < x.1 := by
  intro x hx
  have hef : e.1 < f.1 := lt_of_le_of_ne (List.rel_of_pairwise_cons h (by simp)) hne
  rcases List.mem_cons.mp hx with rfl | hx
  · exact hef
  · exact lt_of_lt_of_le hef (List.rel_of_pairwise_cons h.of_cons hx)

theorem lastOfEach_increasing {l : List (String × β)} (h : l.Pairwise fun a b => a.1 ≤ b.1) :
    KeysIncreasing (lastOfEach l) := by
  fun_induction lastOfEach l with
  | case1 => exact List.Pairwise.nil
  | case2 e => exact List.pairwise_singleton _ _
  | case3 e f rest _ ih => exact ih h.of_cons
  | case4 e f rest hne ih =>
    refine List.Pairwise.cons ?_ (ih h.of_cons)
    intro x hx
    exact lt_of_sorted_cons h (by simpa using hne) x ((lastOfEach_sublist _).subset hx)

theorem lastOfEach_of_increasing {l : List (String × β)} (h : KeysIncreasing l) :
    lastOfEach l = l := by
  fun_induction lastOfEach l with
  | case1 => rfl
  | case2 e => rfl
  | case3 e f rest heq _ =>
    have hlt : e.1 < f.1 := List.rel_of_pairwise_cons h (by simp)
    simp only [beq_iff_eq] at heq
    exact absurd heq (ne_of_lt hlt)
  | case4 e f rest _ ih => rw [ih h.of_cons]

theorem mem_lastOfEach {l : List (String × β)} (h : l.Pairwise fun a b => a.1 ≤ b.1)
    (x : String × β) : x ∈ lastOfEach l ↔ (withKey x.1 l).getLast? = some x := by
  fun_induction lastOfEach l with
  | case1 => simp
  | case2 e =>
    by_cases hk : e.1 = x.1
    · simp [hk, eq_comm]
    · have hx : x ≠ e := fun hx => hk (by rw [hx])
      simp [hk, hx]
  | case3 e f rest heq ih =>
    rw [ih h.of_cons]
    simp only [beq_iff_eq] at heq
    by_cases hk : e.1 = x.1
    · have hf : f ∈ withKey x.1 (f :: rest) := by simp [← heq, hk]
      rw [withKey_cons x.1 e, if_pos hk, List.getLast?_cons_of_ne_nil (List.ne_nil_of_mem hf)]
    · rw [withKey_cons x.1 e, if_neg hk]
  | case4 e f rest hne ih =>
    rw [List.mem_cons, ih h.of_cons]
    have hlt := lt_of_sorted_cons h (by simpa using hne)
    by_cases hk : e.1 = x.1
    · have hnone : withKey x.1 (f :: rest) = [] := by
        rw [List.filter_eq_nil_iff]
        intro y hy hyk
        have := hlt y hy
        simp only [beq_iff_eq] at hyk
        rw [hyk, hk] at this
        exact lt_irrefl _ this
      simp only [List.filter_cons, hk, beq_self_eq_true, if_true, hnone]
      simp [eq_comm]
    · have hx : x ≠ e := fun hx => hk (by rw [hx])
      simp [List.filter_cons, hk, hx]

/-! ## `keyedOf` -/

theorem keyLE_trans (a b c : String × β) (hab : keyLE a b) (hbc : keyLE b c) : keyLE a c := by
  simp only [keyLE, decide_eq_true_eq] at *
  exact le_trans hab hbc

theorem keyLE_total (a b : String × β) : keyLE a b || keyLE b a := by
  simp only [keyLE, Bool.or_eq_true, decide_eq_true_eq]
  exact le_total _ _

theorem pairwise_mergeSort_key (l : List (String × β)) :
    (l.mergeSort keyLE).Pairwise fun a b => a.1 ≤ b.1 := by
  have h := List.pairwise_mergeSort keyLE_trans keyLE_total l
  simpa [keyLE] using h

theorem withKey_mergeSort (k : String) (l : List (String × β)) :
    withKey k (l.mergeSort keyLE) = withKey k l := by
  have hsorted : (withKey k l).Pairwise fun a b => keyLE a b := by
    refine List.Pairwise.imp_of_mem ?_ (List.pairwise_of_forall (R := fun _ _ => True) (by simp))
    intro a b ha hb _
    simp only [List.mem_filter, beq_iff_eq] at ha hb
    simp [keyLE, ha.2, hb.2]
  have hsub : (withKey k l).Sublist (l.mergeSort keyLE) :=
    List.sublist_mergeSort keyLE_trans keyLE_total hsorted List.filter_sublist
  have hsub' : (withKey k l).Sublist (withKey k (l.mergeSort keyLE)) := by
    have := hsub.filter (fun e => e.1 == k)
    simpa [List.filter_filter] using this
  have hlen : (withKey k (l.mergeSort keyLE)).length = (withKey k l).length :=
    ((List.mergeSort_perm l keyLE).filter _).length_eq
  exact (hsub'.eq_of_length hlen.symm).symm

theorem mem_of_mem_keyedOf {l : List (String × β)} {x : String × β} (h : x ∈ keyedOf l) :
    x ∈ l :=
  List.mem_mergeSort.mp ((lastOfEach_sublist _).subset h)

theorem keyedOf_increasing (l : List (String × β)) : KeysIncreasing (keyedOf l) :=
  lastOfEach_increasing (pairwise_mergeSort_key l)

theorem mem_keyedOf (l : List (String × β)) (x : String × β) :
    x ∈ keyedOf l ↔ (withKey x.1 l).getLast? = some x := by
  rw [keyedOf, mem_lastOfEach (pairwise_mergeSort_key l), withKey_mergeSort]

theorem keyedOf_of_increasing {l : List (String × β)} (h : KeysIncreasing l) : keyedOf l = l := by
  have hle : l.Pairwise fun a b => keyLE a b :=
    h.imp fun hab => by simpa [keyLE] using le_of_lt hab
  rw [keyedOf, List.mergeSort_of_pairwise hle, lastOfEach_of_increasing h]

theorem lookup_keyedOf_eq_none {l : List (String × β)} {k : String} (h : withKey k l = []) :
    (keyedOf l).lookup k = none := by
  rw [lookup_eq_none_iff_not_mem_keys]
  intro hk
  obtain ⟨x, hx, rfl⟩ := List.mem_map.mp hk
  have hmem : x ∈ withKey x.1 l := List.mem_filter.mpr ⟨mem_of_mem_keyedOf hx, by simp⟩
  simp [h] at hmem

theorem keyedOf_map (f : β → γ) (l : List (String × β)) :
    keyedOf (l.map fun e => (e.1, f e.2)) = (keyedOf l).map fun e => (e.1, f e.2) := by
  rw [keyedOf, keyedOf, ← lastOfEach_map]
  congr 1
  rw [List.map_mergeSort]
  intro a _ b _
  rfl

/-! ## Inserting one entry at a time -/

theorem mem_insertKeyed {k : String} {v : β} {l : List (String × β)} {x : String × β}
    (h : x ∈ insertKeyed k v l) : x = (k, v) ∨ x ∈ l := by
  induction l with
  | nil => simpa [insertKeyed] using h
  | cons e rest ih =>
    obtain ⟨k0, v0⟩ := e
    unfold insertKeyed at h
    split at h
    · simpa using h
    · split at h
      · rcases List.mem_cons.mp h with h | h
        · exact .inl h
        · exact .inr (List.mem_cons_of_mem _ h)
      · rcases List.mem_cons.mp h with h | h
        · exact .inr (h ▸ List.mem_cons_self)
        · exact (ih h).imp_right (List.mem_cons_of_mem _)

theorem mem_insertKeyed_iff {k : String} {v : β} {l : List (String × β)} (h : KeysIncreasing l)
    (x : String × β) : x ∈ insertKeyed k v l ↔ x = (k, v) ∨ (x ∈ l ∧ x.1 ≠ k) := by
  induction l with
  | nil => simp [insertKeyed]
  | cons e rest ih =>
    obtain ⟨k0, v0⟩ := e
    have habove : ∀ y ∈ rest, k0 < y.1 := fun y hy => List.rel_of_pairwise_cons h hy
    by_cases hlt : k < k0
    · have hne : ∀ y ∈ (k0, v0) :: rest, y.1 ≠ k := by
        intro y hy
        rcases List.mem_cons.mp hy with rfl | hy
        · exact ne_of_gt hlt
        · exact ne_of_gt (hlt.trans (habove y hy))
      rw [insertKeyed, if_pos hlt, List.mem_cons]
      exact or_congr_right ⟨fun hx => ⟨hx, hne x hx⟩, And.left⟩
    · by_cases heq : k = k0
      · subst heq
        rw [insertKeyed, if_neg hlt, if_pos (beq_self_eq_true k), List.mem_cons, List.mem_cons]
        refine or_congr_right ⟨fun hx => ⟨.inr hx, ne_of_gt (habove x hx)⟩, ?_⟩
        rintro ⟨rfl | hx, hne⟩
        · exact absurd rfl hne
        · exact hx
      · have hk0 : k0 ≠ k := Ne.symm heq
        have hbeq : ¬(k == k0) = true := by simpa using heq
        rw [insertKeyed, if_neg hlt, if_neg hbeq, List.mem_cons, List.mem_cons, ih h.of_cons]
        constructor
        · rintro (rfl | rfl | ⟨hx, hne⟩)
          · exact .inr ⟨.inl rfl, hk0⟩
          · exact .inl rfl
          · exact .inr ⟨.inr hx, hne⟩
        · rintro (rfl | ⟨rfl | hx, hne⟩)
          · exact .inr (.inl rfl)
          · exact .inl rfl
          · exact .inr (.inr ⟨hx, hne⟩)

theorem insertKeyed_increasing (k : String) (v : β) {l : List (String × β)}
    (h : KeysIncreasing l) : KeysIncreasing (insertKeyed k v l) := by
  induction l with
  | nil => exact List.pairwise_singleton _ _
  | cons e rest ih =>
    obtain ⟨k0, v0⟩ := e
    have habove : ∀ y ∈ rest, k0 < y.1 := fun y hy => List.rel_of_pairwise_cons h hy
    unfold insertKeyed
    split
    · next hlt =>
      refine List.Pairwise.cons (fun y hy => ?_) h
      rcases List.mem_cons.mp hy with rfl | hy
      · exact hlt
      · exact hlt.trans (habove y hy)
    · split
      · next heq =>
        have heq : k = k0 := by simpa using heq
        exact List.Pairwise.cons (fun y hy => heq ▸ habove y hy) h.of_cons
      · next hlt hne =>
        have hne : k ≠ k0 := by simpa using hne
        have hgt : k0 < k := lt_of_le_of_ne (not_lt.mp hlt) (Ne.symm hne)
        refine List.Pairwise.cons (fun y hy => ?_) (ih h.of_cons)
        rcases mem_insertKeyed hy with rfl | hy
        · exact hgt
        · exact habove y hy

/-- Inserting the members of a list one at a time, from the left. -/
abbrev insertAll (l : List (String × β)) (acc : List (String × β)) : List (String × β) :=
  l.foldl (fun acc e => insertKeyed e.1 e.2 acc) acc

theorem insertAll_increasing (l : List (String × β)) {acc : List (String × β)}
    (h : KeysIncreasing acc) : KeysIncreasing (insertAll l acc) := by
  induction l generalizing acc with
  | nil => exact h
  | cons e l ih => exact ih (insertKeyed_increasing _ _ h)

theorem mem_insertAll (l : List (String × β)) (x : String × β) :
    x ∈ insertAll l [] ↔ (withKey x.1 l).getLast? = some x := by
  obtain ⟨xk, xv⟩ := x
  induction l using List.reverseRecOn with
  | nil => simp
  | append_singleton l e ih =>
    obtain ⟨k, w⟩ := e
    simp only [insertAll, List.foldl_append, List.foldl_cons, List.foldl_nil]
    rw [mem_insertKeyed_iff (insertAll_increasing l List.Pairwise.nil), ih]
    by_cases hk : k = xk
    · subst hk
      simp [withKey, List.filter_append, eq_comm]
    · simp [withKey, List.filter_append, hk, Ne.symm hk]

theorem keyedOf_eq_insertAll (l : List (String × β)) : keyedOf l = insertAll l [] :=
  eq_of_increasing_of_mem_iff (keyedOf_increasing l) (insertAll_increasing l List.Pairwise.nil)
    fun x => by rw [mem_keyedOf, mem_insertAll]

end CapsuleFlow.Json.Value
