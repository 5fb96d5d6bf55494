import CapsuleFlow.Proofs.PolicyGovernance

/-!
# The policy observer's representation invariant

After any sequence of entries, folded into a fresh policy view, three facts hold together
(`PolicyView.WellFormed`): the revoked identifiers are distinct, none of them names a policy
in force, and every policy in force has as its authority a consent the view accepts. Along
the way the accepted consents are never dropped and the revoked identifiers only grow at
their end (`PolicyView.Grows`).

One entry changes the view in one of four ways (`PolicyView.Change`): not at all, by
accepting one more consent, by putting in force a policy never revoked under an accepted
consent, or by taking a policy in force out of force and recording it as revoked. Both
facts are proved of each way of change and then carried along a trace by induction. No
field is invariant alone: the revoked list stays duplicate-free only because a revocation
needs a policy in force and an assertion refuses revoked identifiers. Together they give
that a revoked identifier is never in force again, whatever entries follow
(`policy_view_invariant`).

A check that fails changes nothing: each of the seven failures of an assertion or a
revocation is given back with the view as it was, and an entry raises at most one
(`PolicyView.observe_atomic`). The other observers raise nothing, so an entry folded into
all four observers raises at most one failure, the policy observer's.
-/

namespace CapsuleFlow

namespace PolicyView

/-- The representation invariant of the policy view. -/
structure WellFormed (v : PolicyView) : Prop where
  revoked_nodup : v.revoked.Nodup
  revoked_inactive : ∀ p ∈ v.revoked, p ∉ v.activePolicies.map Prod.fst
  authority_accepted : ∀ x ∈ v.activePolicies, x.2.authorityBasis ∈ v.activeConsents

/-- How the view may move on: no accepted consent is dropped, and the revoked identifiers
only grow at their end. -/
structure Grows (v w : PolicyView) : Prop where
  consents : ∀ a ∈ v.activeConsents, a ∈ w.activeConsents
  revoked : v.revoked <+: w.revoked

theorem Grows.refl (v : PolicyView) : v.Grows v :=
  ⟨fun _ h => h, List.prefix_refl _⟩

theorem Grows.trans {u v w : PolicyView} (h₁ : u.Grows v) (h₂ : v.Grows w) : u.Grows w :=
  ⟨fun a ha => h₂.consents a (h₁.consents a ha), h₁.revoked.trans h₂.revoked⟩

/-- What one entry can do to the view. -/
inductive Change (v : PolicyView) : PolicyView → Prop
  | same : Change v v
  | consent (h : String) :
      Change v { v with activeConsents := insertSorted h v.activeConsents }
  | assert (p : String) (ap : ActivePolicy) (fresh : p ∉ v.revoked)
      (accepted : ap.authorityBasis ∈ v.activeConsents) :
      Change v { v with activePolicies := Json.Value.insertKeyed p ap v.activePolicies }
  | revoke (p : String) (active : v.activePolicies.lookup p ≠ none) :
      Change v { v with activePolicies := v.activePolicies.filter (·.1 != p)
                        revoked := v.revoked ++ [p] }

theorem change_assertPolicy (v : PolicyView) (e : TraceEntry) (id a : Option String) :
    Change v (v.assertPolicy e id a).1 := by
  unfold assertPolicy
  split
  · exact .same
  · exact .same
  · rename_i a p
    split
    · exact .same
    · rename_i hfresh
      split
      · exact .same
      · rename_i haccepted
        cases e.capsuleHash with
        | none => exact .same
        | some h =>
          refine .assert p ⟨h, a⟩ (by simpa using hfresh) ?_
          simpa using haccepted

theorem change_revokePolicy (v : PolicyView) (e : TraceEntry) (a id : Option String) :
    Change v (v.revokePolicy e a id).1 := by
  unfold revokePolicy
  split
  · rename_i p
    split
    · exact .same
    · split
      · exact .same
      · rename_i hsome
        exact .revoke p (by simp [hsome])
  · exact .same

theorem change_observe (v : PolicyView) (e : TraceEntry) : Change v (v.observe e).1 := by
  unfold observe
  cases e.isHashed
  · exact .same
  · cases e.event with
    | consentAssertion sc =>
      cases e.capsuleHash with
      | none => exact .same
      | some h => exact .consent h
    | policyAssertion id a => exact change_assertPolicy v e id a
    | policyRevocation a id => exact change_revokePolicy v e a id
    | _ => exact .same

theorem Change.grows {v w : PolicyView} (h : Change v w) : v.Grows w := by
  cases h with
  | same => exact .refl v
  | consent c => exact ⟨fun a ha => (mem_insertSorted c a _).mpr (.inr ha), List.prefix_refl _⟩
  | assert p ap => exact ⟨fun _ ha => ha, List.prefix_refl _⟩
  | revoke p => exact ⟨fun _ ha => ha, List.prefix_append _ _⟩

theorem Change.wellFormed {v w : PolicyView} (h : Change v w) (hv : v.WellFormed) :
    w.WellFormed := by
  cases h with
  | same => exact hv
  | consent c =>
    exact ⟨hv.revoked_nodup, hv.revoked_inactive, fun x hx =>
      (mem_insertSorted c _ _).mpr (.inr (hv.authority_accepted x hx))⟩
  | assert p ap fresh accepted =>
    refine ⟨hv.revoked_nodup, fun q hq hkey => ?_, fun x hx => ?_⟩
    · obtain ⟨x, hx, rfl⟩ := List.mem_map.mp hkey
      rcases Json.Value.mem_insertKeyed hx with rfl | hx
      · exact fresh hq
      · exact hv.revoked_inactive _ hq (List.mem_map_of_mem hx)
    · rcases Json.Value.mem_insertKeyed hx with rfl | hx
      · exact accepted
      · exact hv.authority_accepted x hx
  | revoke p active =>
    have hkey : p ∈ v.activePolicies.map Prod.fst := by
      by_contra hk
      exact active (Json.Value.lookup_eq_none_iff_not_mem_keys.mpr hk)
    have hp : p ∉ v.revoked := fun hq => hv.revoked_inactive p hq hkey
    refine ⟨List.nodup_append.mpr ⟨hv.revoked_nodup, List.nodup_singleton p, ?_⟩,
      fun q hq hkey => ?_, fun x hx => hv.authority_accepted x (List.mem_filter.mp hx).1⟩
    · intro a ha b hb hab
      rw [List.mem_singleton.mp hb] at hab
      exact hp (hab ▸ ha)
    · obtain ⟨x, hx, rfl⟩ := List.mem_map.mp hkey
      obtain ⟨hx, hne⟩ := List.mem_filter.mp hx
      rcases List.mem_append.mp hq with hq | hq
      · exact hv.revoked_inactive _ hq (List.mem_map_of_mem hx)
      · rw [List.mem_singleton.mp hq] at hne
        simp at hne

theorem wellFormed_empty : ({} : PolicyView).WellFormed :=
  ⟨List.nodup_nil, fun _ h => absurd h List.not_mem_nil, fun _ h => absurd h List.not_mem_nil⟩

theorem wellFormed_replay (l : List TraceEntry) : (replay l).WellFormed := by
  induction l using List.reverseRecOn with
  | nil => exact wellFormed_empty
  | append_singleton l e ih =>
    rw [replay_append_singleton]
    exact (change_observe _ e).wellFormed ih

theorem grows_replay_append (l l' : List TraceEntry) : (replay l).Grows (replay (l ++ l')) := by
  induction l' using List.reverseRecOn with
  | nil => simpa using Grows.refl _
  | append_singleton l' e ih =>
    rw [← List.append_assoc, replay_append_singleton]
    exact ih.trans (change_observe _ e).grows

/-! ## Failures change nothing -/

theorem assertPolicy_atomic (v : PolicyView) (e : TraceEntry) (id a : Option String) :
    (v.assertPolicy e id a).2 = none ∨ ∃ f, v.assertPolicy e id a = (v, some f) := by
  unfold assertPolicy
  split
  · exact .inr ⟨_, rfl⟩
  · exact .inr ⟨_, rfl⟩
  · split
    · exact .inr ⟨_, rfl⟩
    · split
      · exact .inr ⟨_, rfl⟩
      · split <;> exact .inl rfl

theorem revokePolicy_atomic (v : PolicyView) (e : TraceEntry) (a id : Option String) :
    (v.revokePolicy e a id).2 = none ∨ ∃ f, v.revokePolicy e a id = (v, some f) := by
  unfold revokePolicy
  split
  · split
    · exact .inr ⟨_, rfl⟩
    · split
      · exact .inr ⟨_, rfl⟩
      · exact .inl rfl
  · exact .inr ⟨_, rfl⟩

/-- Folding in an entry raises no failure, or exactly one and leaves the view as it was. -/
theorem observe_atomic (v : PolicyView) (e : TraceEntry) :
    (v.observe e).2 = [] ∨ ∃ f, v.observe e = (v, [f]) := by
  have hlist : ∀ r : PolicyView × Option Failure, (r.2 = none ∨ ∃ f, r = (v, some f)) →
      r.2.toList = [] ∨ ∃ f, (r.1, r.2.toList) = (v, [f]) := by
    rintro ⟨w, g⟩ (h | ⟨f, h⟩)
    · exact .inl (by simp [show g = none from h])
    · obtain ⟨rfl, rfl⟩ := Prod.mk.inj h
      exact .inr ⟨f, rfl⟩
  unfold observe
  split
  · exact .inl rfl
  · refine hlist _ ?_
    split
    · split <;> exact .inl rfl
    · exact assertPolicy_atomic v e _ _
    · exact revokePolicy_atomic v e _ _
    · exact .inl rfl

end PolicyView

/-- Observer failures are atomic: folding an entry into a policy view raises no failure, or
exactly one and leaves the consents, the policies in force and the revoked identifiers as
they were. The four observers together raise what the policy observer raises, so at most
one failure per entry. -/
theorem observers_fail_atomically (o : Observers) (e : TraceEntry) :
    ((o.policy.observe e).2 = [] ∨ ∃ f, o.policy.observe e = (o.policy, [f])) ∧
      (o.observe e).2 = (o.policy.observe e).2 ∧ (o.observe e).2.length ≤ 1 := by
  have hpolicy := PolicyView.observe_atomic o.policy e
  have hraised : (o.observe e).2 = (o.policy.observe e).2 := rfl
  refine ⟨hpolicy, hraised, ?_⟩
  rcases hpolicy with h | ⟨f, h⟩ <;> simp [hraised, h]

/-- After any trace the policy view is well formed: no identifier is revoked twice, no
revoked identifier names a policy in force, and every policy in force has an accepted
consent as its authority. Folding in any further entries never drops an accepted consent,
only appends revoked identifiers, and never puts a revoked identifier back in force. -/
theorem policy_view_invariant (l l' : List TraceEntry) :
    (PolicyView.replay l).WellFormed ∧
    (∀ a ∈ (PolicyView.replay l).activeConsents, a ∈ (PolicyView.replay (l ++ l')).activeConsents) ∧
    (PolicyView.replay l).revoked <+: (PolicyView.replay (l ++ l')).revoked ∧
    ∀ p ∈ (PolicyView.replay l).revoked,
      p ∉ (PolicyView.replay (l ++ l')).activePolicies.map Prod.fst := by
  have hgrows := PolicyView.grows_replay_append l l'
  refine ⟨PolicyView.wellFormed_replay l, hgrows.consents, hgrows.revoked, fun p hp => ?_⟩
  obtain ⟨t, ht⟩ := hgrows.revoked
  exact (PolicyView.wellFormed_replay (l ++ l')).revoked_inactive p (ht ▸ List.mem_append_left t hp)

end CapsuleFlow
