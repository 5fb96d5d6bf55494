import Mathlib.Data.List.Induction
import CapsuleFlow.Proofs.Keyed
import CapsuleFlow.Decode.FromValue

/-!
# Reading a record from object members

A record is read from an object by one pass over its members: a member that names a field
is read against the field's shape and stored at the field's place, later members of one
name overwriting earlier ones, and other members are passed over. When no two members
share a key and every member that names a field reads, the pass leaves at each field the
datum of the member of its name, if any (`recordFromMembers_eq`); what is left to check is
only that the required fields are there.

The pass is a monadic fold; `foldlM_eq_ok` reads such a fold off a function that says what
each prefix of the list leaves, one member at a time.
-/

namespace CapsuleFlow.Decode

open CapsuleFlow.Json

/-- A fold in `Except` whose every step succeeds ends where the steps say each prefix ends. -/
theorem foldlM_eq_ok {ε α β : Type} {F : β → α → Except ε β} {S : List α → β} (l : List α)
    (hstep : ∀ p e, p ++ [e] <+: l → F (S p) e = .ok (S (p ++ [e]))) :
    l.foldlM F (S []) = .ok (S l) := by
  induction l using List.reverseRecOn with
  | nil => rfl
  | append_singleton l e ih =>
    have hl : l.foldlM F (S []) = .ok (S l) :=
      ih fun p e' hp => hstep p e' (hp.trans (List.prefix_append l [e]))
    rw [List.foldlM_append, hl]
    change (F (S l) e >>= fun b => [].foldlM F b) = _
    rw [hstep l e (List.prefix_refl _)]
    rfl

/-- What the members leave at each field: the datum of the member of the field's name,
when there is one and it reads. -/
def foundFields (fuel : Nat) (fields : List (String × Shape × Absent))
    (ms : List (String × Value)) : List (Option Datum) :=
  fields.map fun f => (ms.lookup f.1).bind fun x => (fromValue fuel f.2.1 x).toOption

variable {fuel : Nat} {fields : List (String × Shape × Absent)}

theorem foundFields_append {p : List (String × Value)} {k : String} (x : Value)
    (hk : k ∉ p.map Prod.fst) :
    foundFields fuel fields (p ++ [(k, x)]) = fields.map fun f =>
      if f.1 = k then (fromValue fuel f.2.1 x).toOption
      else (p.lookup f.1).bind fun x => (fromValue fuel f.2.1 x).toOption := by
  unfold foundFields
  refine List.map_congr_left fun f _ => ?_
  rw [List.lookup_append]
  by_cases hf : f.1 = k
  · rw [if_pos hf, hf, Value.lookup_eq_none_iff_not_mem_keys.mpr hk]
    simp
  · simp [Value.lookup_cons_ite, hf]

theorem find?_of_fieldIndex {k : String} {i : Nat} (h : fieldIndex fields k = some i) :
    ∃ hi : i < fields.length, fields[i].1 = k ∧ fields.find? (·.1 == k) = some fields[i] := by
  obtain ⟨hi, hfound⟩ := List.findIdx?_eq_some_iff_findIdx_eq.mp h
  refine ⟨hi, ?_, ?_⟩
  · obtain ⟨_, hk, -⟩ := List.findIdx?_eq_some_iff_getElem.mp h
    simpa using hk
  · rw [List.find?_eq_getElem?_findIdx, hfound, List.getElem?_eq_getElem hi]

theorem foundFields_set {p : List (String × Value)} {k : String} {x : Value} {i : Nat}
    {d : Datum} (hnames : (fields.map (·.1)).Nodup) (hk : k ∉ p.map Prod.fst)
    (hi : i < fields.length) (hname : fields[i].1 = k) (hd : fromValue fuel fields[i].2.1 x = .ok d) :
    (foundFields fuel fields p).set i (some d) = foundFields fuel fields (p ++ [(k, x)]) := by
  rw [foundFields_append x hk]
  refine List.ext_getElem (by simp [foundFields]) fun j hj hj' => ?_
  simp only [List.getElem_set, foundFields, List.getElem_map]
  have hjlen : j < fields.length := by simpa [foundFields] using hj
  by_cases hji : i = j
  · subst hji
    simp [hname, hd, Except.toOption]
  · have hne : fields[j].1 ≠ k := by
      intro hjk
      have heq : (fields.map (·.1)).get ⟨i, by simpa using hi⟩ =
          (fields.map (·.1)).get ⟨j, by simpa using hjlen⟩ := by
        simp [hname, hjk]
      exact hji (Fin.mk.inj_iff.mp ((List.Nodup.get_inj_iff hnames).mp heq))
    simp [hji, hne]

/-- Reading a record from members with distinct keys, each member that names a field
reading, leaves at each field the datum of its member. -/
theorem recordFromMembers_eq {ms : List (String × Value)} (hnames : (fields.map (·.1)).Nodup)
    (hkeys : (ms.map Prod.fst).Nodup)
    (hread : ∀ x ∈ ms, ∀ f ∈ fields, f.1 = x.1 → ∃ d, fromValue fuel f.2.1 x.2 = .ok d) :
    recordFromMembers (fuel + 1) fields ms = finishRecord fields (foundFields fuel fields ms) := by
  have hinit : (fields.map fun _ => (none : Option Datum)) = foundFields fuel fields [] := by
    simp [foundFields]
  rw [recordFromMembers, hinit, foldlM_eq_ok (S := foundFields fuel fields) ms]
  · rfl
  rintro p ⟨k, x⟩ hpre
  have hfresh : k ∉ p.map Prod.fst := by
    have hnodup := (hpre.map Prod.fst).sublist.nodup hkeys
    simp only [List.map_append, List.map_cons, List.map_nil] at hnodup
    intro hkp
    exact (List.nodup_append.mp hnodup).2.2 k hkp k (by simp) rfl
  have hmem : (k, x) ∈ ms := hpre.subset (by simp)
  dsimp only
  split
  · next i n shape absent hidx hfind =>
    obtain ⟨hi, hname, hfind'⟩ := find?_of_fieldIndex hidx
    have hshape : fields[i].2.1 = shape := by rw [Option.some.inj (hfind'.symm.trans hfind)]
    obtain ⟨d, hd⟩ := hread (k, x) hmem fields[i] (List.getElem_mem hi) hname
    rw [← hshape, hd]
    exact congrArg Except.ok (foundFields_set hnames hfresh hi hname hd)
  · next hnone =>
    have hno : ∀ f ∈ fields, f.1 ≠ k := by
      intro f hf hfk
      have hidx : fieldIndex fields k = some (fields.findIdx (·.1 == k)) :=
        List.findIdx?_eq_some_of_exists ⟨f, hf, by simpa using hfk⟩
      obtain ⟨hi, -, hfind⟩ := find?_of_fieldIndex hidx
      exact hnone _ _ _ _ hidx hfind
    rw [foundFields_append x hfresh]
    refine congrArg Except.ok (List.map_congr_left fun f hf => ?_)
    rw [if_neg (hno f hf)]

/-! ## Finishing a record -/

/-- What a field takes when the data does not give it (a required field never takes it). -/
def Absent.fallback : Absent → Datum
  | .default d => d
  | _ => .none

theorem mapM_eq_ok_map {ε α β : Type} {f : α → Except ε β} {g : α → β} (l : List α)
    (h : ∀ x ∈ l, f x = .ok (g x)) : l.mapM f = .ok (l.map g) := by
  induction l with
  | nil => rfl
  | cons x l ih =>
    rw [List.mapM_cons, h x List.mem_cons_self, ih fun y hy => h y (List.mem_cons_of_mem x hy)]
    rfl

theorem finishRecord_eq {found : List (Option Datum)}
    (h : ∀ p ∈ fields.zip found, p.1.2.2 = .required → p.2.isSome) :
    finishRecord fields found =
      .ok (.record ((fields.zip found).map fun p => (p.1.1, p.2.getD p.1.2.2.fallback))) := by
  unfold finishRecord
  rw [mapM_eq_ok_map _ fun p hp => ?_]
  · rfl
  obtain ⟨⟨name, shape, absent⟩, d⟩ := p
  cases d with
  | some d => rfl
  | none =>
    cases absent with
    | required => exact absurd (h _ hp rfl) (by simp)
    | none => rfl
    | default d => rfl

end CapsuleFlow.Decode
