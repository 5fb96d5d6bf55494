import Mathlib
import CapsuleFlow.Proofs.Keyed
import CapsuleFlow.Observe.Tally

/-!
# The capsule tally

The tally keeps three records of the capsules it has seen, each updated on its own: the
running total, the count of each type label, and the labels in the order seen.
`Tally.Counts t l` says that the three are views of one list of labels `l`: the labels in
order are `l`, the total is its length, and the counts are the histogram of `l` kept as a
map with increasing keys, so that a label has an entry exactly when it occurs, holding its
number of occurrences, and the counts add up to the length. One entry keeps this
(`Tally.Counts.observe`), so every run does (`tally_of_run`), and no count on record is
ever zero.

Adding up the counts needs the keys to increase: `insertKeyed` puts a new key in front of
the first greater one, so it replaces the old count only if no entry further on has the
same key.
-/

namespace CapsuleFlow

open Json

namespace Json.Value

theorem lookup_eq_none_of_lt {k k₀ : String} {v₀ : Nat} {rest : List (String × Nat)}
    (h : KeysIncreasing ((k₀, v₀) :: rest)) (hlt : k < k₀) : ((k₀, v₀) :: rest).lookup k = none := by
  rw [lookup_eq_none_iff_not_mem_keys, List.map_cons, List.mem_cons, List.mem_map]
  rintro (rfl | ⟨⟨k', v'⟩, hmem, rfl⟩)
  · exact lt_irrefl _ hlt
  · exact lt_asymm hlt (List.rel_of_pairwise_cons h hmem)

theorem sum_insertKeyed (k : String) (v : Nat) {l : List (String × Nat)} (h : KeysIncreasing l) :
    ((insertKeyed k v l).map Prod.snd).sum + (l.lookup k).getD 0 = (l.map Prod.snd).sum + v := by
  induction l with
  | nil => simp [insertKeyed]
  | cons e rest ih =>
    obtain ⟨k₀, v₀⟩ := e
    by_cases hlt : k < k₀
    · rw [lookup_eq_none_of_lt h hlt, insertKeyed, if_pos hlt]
      simp only [List.map_cons, List.sum_cons, Option.getD_none]
      omega
    · by_cases heq : k = k₀
      · subst heq
        rw [insertKeyed, if_neg hlt, if_pos (beq_self_eq_true k), lookup_cons_ite, if_pos rfl]
        simp only [List.map_cons, List.sum_cons, Option.getD_some]
        omega
      · have hne : (k == k₀) = false := by simpa using heq
        have hrest := ih h.of_cons
        rw [insertKeyed, if_neg hlt, hne, lookup_cons_ite, if_neg heq]
        simp only [Bool.false_eq_true, if_false, List.map_cons, List.sum_cons]
        omega

end Json.Value

namespace Tally

/-- The three records of `t` are views of the labels `l`, seen in this order: the labels
themselves, their number, and their histogram with increasing keys. -/
structure Counts (t : Tally) (l : List String) : Prop where
  ordered_eq : t.ordered = l
  total_eq : t.total = l.length
  increasing : Value.KeysIncreasing t.byType
  lookup_eq : ∀ k, t.byType.lookup k = if k ∈ l then some (l.count k) else none
  sum_eq : (t.byType.map Prod.snd).sum = l.length

variable {t : Tally} {l : List String}

theorem counts_empty : ({} : Tally).Counts [] :=
  ⟨rfl, rfl, List.Pairwise.nil, fun _ => by simp, rfl⟩

theorem Counts.lookup_getD (h : t.Counts l) (k : String) :
    (t.byType.lookup k).getD 0 = l.count k := by
  rw [h.lookup_eq k]
  split
  · rfl
  · next hk => rw [Option.getD_none, List.count_eq_zero_of_not_mem hk]

@[simp] theorem observe_ordered (t : Tally) (e : TraceEntry) :
    (t.observe e).ordered = t.ordered ++ [e.capsule.capsuleType.label] := rfl

@[simp] theorem observe_total (t : Tally) (e : TraceEntry) : (t.observe e).total = t.total + 1 := rfl

theorem observe_byType (t : Tally) (e : TraceEntry) :
    (t.observe e).byType = Value.insertKeyed e.capsule.capsuleType.label
      ((t.byType.lookup e.capsule.capsuleType.label).getD 0 + 1) t.byType := rfl

/-- One more entry: its label joins the end of the labels and its count goes up by one. -/
theorem Counts.observe (h : t.Counts l) (e : TraceEntry) :
    (t.observe e).Counts (l ++ [e.capsule.capsuleType.label]) := by
  obtain ⟨k, hk⟩ : ∃ k, e.capsule.capsuleType.label = k := ⟨_, rfl⟩
  have hby : (t.observe e).byType = Value.insertKeyed k (l.count k + 1) t.byType := by
    rw [observe_byType, hk, h.lookup_getD]
  refine ⟨by rw [observe_ordered, h.ordered_eq], by simp [h.total_eq], ?_, fun k' => ?_, ?_⟩
  · rw [hby]
    exact Value.insertKeyed_increasing _ _ h.increasing
  · rw [hby, Value.lookup_insertKeyed, h.lookup_eq, hk]
    by_cases hk' : k' = k
    · subst hk'
      simp
    · simp [hk', List.count_append, Ne.symm hk']
  · have hsum := Value.sum_insertKeyed k (l.count k + 1) h.increasing
    rw [h.lookup_getD, h.sum_eq] at hsum
    rw [hby, List.length_append, List.length_singleton]
    omega

theorem counts_foldl (es : List TraceEntry) :
    (es.foldl Tally.observe {}).Counts (es.map fun e => e.capsule.capsuleType.label) := by
  induction es using List.reverseRecOn with
  | nil => exact counts_empty
  | append_singleton es e ih =>
    rw [List.foldl_append, List.foldl_cons, List.foldl_nil, List.map_append, List.map_singleton]
    exact ih.observe e

theorem Counts.mem_iff (h : t.Counts l) (k : String) (n : Nat) :
    (k, n) ∈ t.byType ↔ k ∈ l ∧ n = l.count k := by
  constructor
  · intro hmem
    have hk := h.lookup_eq k
    rw [Value.lookup_eq_some_of_mem h.increasing hmem] at hk
    split at hk
    · exact ⟨‹_›, Option.some.inj hk⟩
    · cases hk
  · rintro ⟨hk, rfl⟩
    have hlook := h.lookup_eq k
    rw [if_pos hk] at hlook
    exact Value.mem_of_lookup_eq_some hlook

theorem Counts.count_pos (h : t.Counts l) : ∀ e ∈ t.byType, 0 < e.2 := by
  rintro ⟨k, n⟩ hmem
  obtain ⟨hk, rfl⟩ := (h.mem_iff k n).mp hmem
  exact List.count_pos_iff.mpr hk

end Tally

/-- The capsule tally after any entries: its labels in order are the entries' capsule type
labels, its total is their number and also the sum of its counts, and its counts, kept
with increasing labels, give each label its number of occurrences, with no entry for a
label that does not occur and none that is zero. -/
theorem tally_of_run (es : List TraceEntry) :
    (es.foldl Tally.observe {}).Counts (es.map fun e => e.capsule.capsuleType.label) ∧
    ∀ e ∈ (es.foldl Tally.observe {}).byType, 0 < e.2 :=
  ⟨Tally.counts_foldl es, (Tally.counts_foldl es).count_pos⟩

end CapsuleFlow
