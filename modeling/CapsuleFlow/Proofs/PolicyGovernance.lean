import CapsuleFlow.Proofs.ConsentGovernance

/-!
# Policy verdicts are fixed by the trace before them

The policy observer keeps three records: the consents usable as authority, the policies in
force, and the revoked policy identifiers. `PolicyRuled` states its rules against any such
records: what a policy assertion or revocation raises, in the order the checks are made,
and that every other entry raises nothing. The observer follows the rules on its own
records (`PolicyView.observe_ruled`).

The records are then described by the trace alone. A consent is usable once some hashed
assertion carries its identifier (`ConsentOnRecord`); a revocation never withdraws it here.
An identifier is revoked once a revocation of it raised no failure (`RevokedOnRecord`); a
policy is in force while its last accepted assertion has no accepted revocation after it
(`PolicyInForce`). `PolicyView.reflects_replay` shows, by induction on the trace from its
end, that the observer's records are exactly these, so `policy_verdicts_by_prefix` judges
every entry by the rules applied to the entries before it.
-/

namespace CapsuleFlow

/-- The policy observer after folding in a trace, from a fresh view. -/
def PolicyView.replay (l : List TraceEntry) : PolicyView :=
  l.foldl (fun v e => (v.observe e).1) {}

@[simp] theorem PolicyView.replay_nil : PolicyView.replay [] = {} := rfl

@[simp] theorem PolicyView.replay_append_singleton (l : List TraceEntry) (e : TraceEntry) :
    PolicyView.replay (l ++ [e]) = ((PolicyView.replay l).observe e).1 := by
  simp [PolicyView.replay]

/-- The failures the policy observer raises on `e` after the entries `pre`. -/
def policyVerdict (pre : List TraceEntry) (e : TraceEntry) : List Failure :=
  ((PolicyView.replay pre).observe e).2

/-- The entry is a hashed assertion of the policy `p`. -/
def TraceEntry.AssertsPolicy (e : TraceEntry) (p : String) : Prop :=
  e.isHashed ∧ ∃ a, e.event = .policyAssertion (some p) a

/-- The entry is a hashed revocation of the policy `p`. -/
def TraceEntry.RevokesPolicy (e : TraceEntry) (p : String) : Prop :=
  e.isHashed ∧ ∃ a, e.event = .policyRevocation a (some p)

/-- The policy rules: what an entry `e` raises, as the failures `v`, given which consents
may serve as authority, which policy identifiers were revoked and which policies are in
force. An assertion needs an authority and an identifier, an identifier never revoked, and
a consent as authority; a revocation needs an authority and an identifier, a consent as
authority, and a policy in force. -/
structure PolicyRuled (consent revoked inForce : String → Prop) (e : TraceEntry)
    (v : List Failure) : Prop where
  /-- Unhashed entries, and entries that neither assert nor revoke a policy, raise nothing. -/
  exempt : e.isHashed = false ∨ ((∀ id a, e.event ≠ .policyAssertion id a) ∧
    ∀ a id, e.event ≠ .policyRevocation a id) → v = []
  assert_unauthorized : ∀ id, e.isHashed = true → e.event = .policyAssertion id none →
    v = [e.failure .missingAuthority "policy assertion requires delegated authority"]
  assert_unnamed : ∀ a, e.isHashed = true → e.event = .policyAssertion none (some a) →
    v = [e.failure .missingAuthority "policy assertion requires a capsule_id"]
  assert_revoked : ∀ p a, e.isHashed = true → e.event = .policyAssertion (some p) (some a) →
    revoked p →
    v = [e.failure .authorityRevoked s!"policy {p} was revoked and cannot be re-asserted"]
  assert_invalid : ∀ p a, e.isHashed = true → e.event = .policyAssertion (some p) (some a) →
    ¬ revoked p → ¬ consent a → v = [e.failure .invalidAuthority (PolicyView.noConsent a)]
  assert_accepted : ∀ p a, e.isHashed = true → e.event = .policyAssertion (some p) (some a) →
    ¬ revoked p → consent a → v = []
  revoke_missing : ∀ a id, e.isHashed = true → e.event = .policyRevocation a id →
    a = none ∨ id = none →
    v = [e.failure .missingAuthority "policy revocation requires authority and policy id"]
  revoke_invalid : ∀ a p, e.isHashed = true → e.event = .policyRevocation (some a) (some p) →
    ¬ consent a → v = [e.failure .invalidAuthority (PolicyView.noConsent a)]
  revoke_unknown : ∀ a p, e.isHashed = true → e.event = .policyRevocation (some a) (some p) →
    consent a → ¬ inForce p →
    v = [e.failure .unknownPolicy "cannot revoke unknown or inactive policy"]
  revoke_accepted : ∀ a p, e.isHashed = true → e.event = .policyRevocation (some a) (some p) →
    consent a → inForce p → v = []

/-- Some hashed consent assertion among the entries `l` has the identifier `a`. -/
def ConsentOnRecord (l : List TraceEntry) (a : String) : Prop :=
  ∃ c ∈ l, ∃ sc, c.AssertsConsent a sc

/-- Some hashed revocation of the policy `p` among the entries `l` raised no failure. -/
def RevokedOnRecord (l : List TraceEntry) (p : String) : Prop :=
  ∃ A r B, l = A ++ r :: B ∧ r.RevokesPolicy p ∧ policyVerdict A r = []

/-- After the entries `l` the policy `p` is in force: some hashed assertion of `p` raised
no failure, and no revocation of `p` after it succeeded. -/
def PolicyInForce (l : List TraceEntry) (p : String) : Prop :=
  ∃ A s B, l = A ++ s :: B ∧ s.AssertsPolicy p ∧ policyVerdict A s = [] ∧
    ∀ A' r B', B = A' ++ r :: B' → r.RevokesPolicy p → policyVerdict (A ++ s :: A') r ≠ []

section Record

variable {l : List TraceEntry} {e : TraceEntry}

theorem consentOnRecord_append_singleton (a : String) :
    ConsentOnRecord (l ++ [e]) a ↔ ConsentOnRecord l a ∨ ∃ sc, e.AssertsConsent a sc := by
  simp [ConsentOnRecord, or_and_right, exists_or]

theorem revokedOnRecord_append_singleton (p : String) :
    RevokedOnRecord (l ++ [e]) p ↔
      RevokedOnRecord l p ∨ (e.RevokesPolicy p ∧ policyVerdict l e = []) := by
  constructor
  · rintro ⟨A, r, B, hl, hr, hv⟩
    rcases split_append_singleton hl with ⟨rfl, rfl, -⟩ | ⟨B', -, hl'⟩
    · exact .inr ⟨hr, hv⟩
    · exact .inl ⟨A, r, B', hl', hr, hv⟩
  · rintro (⟨A, r, B, rfl, hr, hv⟩ | ⟨hr, hv⟩)
    · exact ⟨A, r, B ++ [e], by simp, hr, hv⟩
    · exact ⟨l, e, [], rfl, hr, hv⟩

theorem policyInForce_append_singleton (p : String) :
    PolicyInForce (l ++ [e]) p ↔ (e.AssertsPolicy p ∧ policyVerdict l e = []) ∨
      (PolicyInForce l p ∧ ¬ (e.RevokesPolicy p ∧ policyVerdict l e = [])) := by
  constructor
  · rintro ⟨A, s, B, hl, hs, hv, hfree⟩
    rcases split_append_singleton hl with ⟨rfl, rfl, -⟩ | ⟨B', rfl, rfl⟩
    · exact .inl ⟨hs, hv⟩
    · refine .inr ⟨⟨A, s, B', rfl, hs, hv, fun A' r B'' hB hr => ?_⟩, fun ⟨hr, hve⟩ => ?_⟩
      · exact hfree A' r (B'' ++ [e]) (by simp [hB]) hr
      · exact hfree B' e [] rfl hr hve
  · rintro (⟨hs, hv⟩ | ⟨⟨A, s, B, rfl, hs, hv, hfree⟩, hnot⟩)
    · exact ⟨l, e, [], rfl, hs, hv, fun A' r B' hB => by simp at hB⟩
    · refine ⟨A, s, B ++ [e], by simp, hs, hv, fun A' r B' hB hr => ?_⟩
      rcases split_append_singleton hB with ⟨rfl, rfl, -⟩ | ⟨B'', -, hB'⟩
      · exact fun hve => hnot ⟨hr, hve⟩
      · exact hfree A' r B'' hB' hr

end Record

namespace PolicyView

variable (v : PolicyView) {e : TraceEntry}

theorem mem_insertSorted (s x : String) (l : List String) :
    x ∈ insertSorted s l ↔ x = s ∨ x ∈ l := by
  induction l with
  | nil => simp [insertSorted]
  | cons y ys ih =>
    unfold insertSorted
    by_cases hsy : s = y
    · subst hsy
      simp
    · by_cases hlt : s < y
      · simp [hsy, hlt]
      · simp [hsy, hlt, ih]
        tauto

/-- The observer follows the policy rules on its own record. -/
theorem observe_ruled (e : TraceEntry) :
    PolicyRuled (· ∈ v.activeConsents) (· ∈ v.revoked) (fun p => (v.activePolicy p).isSome) e
      (v.observe e).2 := by
  constructor
  · rintro (hh | ⟨ha, hr⟩)
    · simp [observe, hh]
    · unfold observe
      cases hev : e.event with
      | policyAssertion id a => exact absurd hev (ha id a)
      | policyRevocation a id => exact absurd hev (hr a id)
      | consentAssertion sc => cases e.capsuleHash <;> split <;> rfl
      | _ => simp
  · intro id hh hev
    simp [observe, assertPolicy, hh, hev]
  · intro a hh hev
    simp [observe, assertPolicy, hh, hev]
  · intro p a hh hev hp
    simp [observe, assertPolicy, hh, hev, hp]
  · intro p a hh hev hp ha
    simp [observe, assertPolicy, hh, hev, hp, ha]
  · intro p a hh hev hp ha
    simp [observe, assertPolicy, hh, hev, hp, ha]
    cases e.capsuleHash <;> simp
  · intro a id hh hev hmiss
    rcases hmiss with rfl | rfl
    · simp [observe, revokePolicy, hh, hev]
    · cases a <;> simp [observe, revokePolicy, hh, hev]
  · intro a p hh hev ha
    simp [observe, revokePolicy, hh, hev, ha]
  · intro a p hh hev ha hp
    have hl : v.activePolicies.lookup p = none := Option.not_isSome_iff_eq_none.mp hp
    simp [observe, revokePolicy, hh, hev, ha, hl]
  · intro a p hh hev ha hp
    obtain ⟨x, hx⟩ := Option.isSome_iff_exists.mp hp
    have hl : v.activePolicies.lookup p = some x := hx
    simp [observe, revokePolicy, hh, hev, ha, hl]

theorem observe_assertion {id a : Option String} (hh : e.isHashed = true)
    (hev : e.event = .policyAssertion id a) :
    v.observe e = ((v.assertPolicy e id a).1, (v.assertPolicy e id a).2.toList) := by
  simp [observe, hh, hev]

theorem observe_revocation {a id : Option String} (hh : e.isHashed = true)
    (hev : e.event = .policyRevocation a id) :
    v.observe e = ((v.revokePolicy e a id).1, (v.revokePolicy e a id).2.toList) := by
  simp [observe, hh, hev]

theorem assertPolicy_cases (id a : Option String) :
    ((v.assertPolicy e id a).1 = v ∧ ((v.assertPolicy e id a).2.isSome ∨ e.capsuleHash = none)) ∨
    ∃ p a' h, id = some p ∧ a = some a' ∧ e.capsuleHash = some h ∧
      v.assertPolicy e id a =
        ({ v with activePolicies := Json.Value.insertKeyed p ⟨h, a'⟩ v.activePolicies }, none) := by
  unfold assertPolicy
  split
  · exact .inl ⟨rfl, by simp⟩
  · exact .inl ⟨rfl, by simp⟩
  · rename_i a' p
    split
    · exact .inl ⟨rfl, by simp⟩
    · split
      · exact .inl ⟨rfl, by simp⟩
      · cases hc : e.capsuleHash with
        | none => exact .inl ⟨rfl, .inr rfl⟩
        | some h => exact .inr ⟨p, a', h, rfl, rfl, rfl, rfl⟩

theorem revokePolicy_cases (a id : Option String) :
    ((v.revokePolicy e a id).1 = v ∧ (v.revokePolicy e a id).2.isSome) ∨
    ∃ a' p, a = some a' ∧ id = some p ∧
      v.revokePolicy e a id =
        ({ v with activePolicies := v.activePolicies.filter (·.1 != p)
                  revoked := v.revoked ++ [p] }, none) := by
  unfold revokePolicy
  split
  · rename_i a' p
    split
    · exact .inl ⟨rfl, by simp⟩
    · split
      · exact .inl ⟨rfl, by simp⟩
      · exact .inr ⟨a', p, rfl, rfl, rfl⟩
  · exact .inl ⟨rfl, by simp⟩

theorem mem_activeConsents_observe (a : String) :
    a ∈ (v.observe e).1.activeConsents ↔ a ∈ v.activeConsents ∨ ∃ sc, e.AssertsConsent a sc := by
  cases hh : e.isHashed
  · simp [observe, hh, TraceEntry.AssertsConsent]
  cases hev : e.event with
  | consentAssertion sc =>
    cases hc : e.capsuleHash with
    | none => simp [observe, hh, hev, hc, TraceEntry.AssertsConsent]
    | some h =>
      simp [observe, hh, hev, hc, TraceEntry.AssertsConsent, mem_insertSorted, or_comm, eq_comm]
  | policyAssertion id a' =>
    rw [observe_assertion v hh hev]
    rcases v.assertPolicy_cases (e := e) id a' with ⟨heq, -⟩ | ⟨p, a'', h, -, -, -, heq⟩ <;>
      simp [heq, TraceEntry.AssertsConsent, hev]
  | policyRevocation a' id =>
    rw [observe_revocation v hh hev]
    rcases v.revokePolicy_cases (e := e) a' id with ⟨heq, -⟩ | ⟨a'', p, -, -, heq⟩ <;>
      simp [heq, TraceEntry.AssertsConsent, hev]
  | _ => simp [observe, hh, hev, TraceEntry.AssertsConsent]

theorem mem_revoked_observe (p : String) :
    p ∈ (v.observe e).1.revoked ↔ p ∈ v.revoked ∨ (e.RevokesPolicy p ∧ (v.observe e).2 = []) := by
  cases hh : e.isHashed
  · simp [observe, hh, TraceEntry.RevokesPolicy]
  cases hev : e.event with
  | consentAssertion sc =>
    cases hc : e.capsuleHash <;> simp [observe, hh, hev, hc, TraceEntry.RevokesPolicy]
  | policyAssertion id a =>
    rw [observe_assertion v hh hev]
    rcases v.assertPolicy_cases (e := e) id a with ⟨heq, -⟩ | ⟨p', a', h, -, -, -, heq⟩ <;>
      simp [heq, TraceEntry.RevokesPolicy, hev]
  | policyRevocation a id =>
    rw [observe_revocation v hh hev]
    rcases v.revokePolicy_cases (e := e) a id with ⟨heq, hf⟩ | ⟨a', p', rfl, rfl, heq⟩
    · have hne : (v.revokePolicy e a id).2.toList ≠ [] := by
        obtain ⟨f, hf⟩ := Option.isSome_iff_exists.mp hf
        simp [hf]
      simp [heq, hne]
    · simp [heq, TraceEntry.RevokesPolicy, hev, hh, eq_comm]
  | _ => simp [observe, hh, hev, TraceEntry.RevokesPolicy]

theorem activePolicy_observe (he : e.HashConsistent) (p : String) :
    ((v.observe e).1.activePolicy p).isSome ↔ (e.AssertsPolicy p ∧ (v.observe e).2 = []) ∨
      ((v.activePolicy p).isSome ∧ ¬ (e.RevokesPolicy p ∧ (v.observe e).2 = [])) := by
  cases hh : e.isHashed
  · simp [observe, hh, TraceEntry.AssertsPolicy, TraceEntry.RevokesPolicy]
  cases hev : e.event with
  | consentAssertion sc =>
    cases hc : e.capsuleHash <;>
      simp [observe, hh, hev, hc, activePolicy, TraceEntry.AssertsPolicy, TraceEntry.RevokesPolicy]
  | policyAssertion id a =>
    rw [observe_assertion v hh hev]
    rcases v.assertPolicy_cases (e := e) id a with ⟨heq, hf⟩ | ⟨p', a', h, rfl, rfl, -, heq⟩
    · have hne : (v.assertPolicy e id a).2.toList ≠ [] := by
        have hsome : (v.assertPolicy e id a).2.isSome := by
          rcases hf with hf | hf
          · exact hf
          · rw [← Option.not_isSome_iff_eq_none, he, hh] at hf
            exact absurd rfl hf
        obtain ⟨f, hf⟩ := Option.isSome_iff_exists.mp hsome
        simp [hf]
      simp [heq, hne, TraceEntry.RevokesPolicy, hev]
    · by_cases hp : p = p'
      · subst hp
        simp [heq, activePolicy, Json.Value.lookup_insertKeyed, TraceEntry.AssertsPolicy, hev, hh]
      · simp [heq, activePolicy, Json.Value.lookup_insertKeyed, TraceEntry.AssertsPolicy,
          TraceEntry.RevokesPolicy, hev, hp, Ne.symm hp]
  | policyRevocation a id =>
    rw [observe_revocation v hh hev]
    rcases v.revokePolicy_cases (e := e) a id with ⟨heq, hf⟩ | ⟨a', p', rfl, rfl, heq⟩
    · have hne : (v.revokePolicy e a id).2.toList ≠ [] := by
        obtain ⟨f, hf⟩ := Option.isSome_iff_exists.mp hf
        simp [hf]
      simp [heq, hne, TraceEntry.AssertsPolicy, hev]
    · by_cases hp : p = p'
      · subst hp
        simp [heq, activePolicy, Json.Value.lookup_filter_key_ne, TraceEntry.AssertsPolicy,
          TraceEntry.RevokesPolicy, hev, hh]
      · simp [heq, activePolicy, Json.Value.lookup_filter_key_ne, TraceEntry.AssertsPolicy,
          TraceEntry.RevokesPolicy, hev, hp, Ne.symm hp]
  | _ => simp [observe, hh, hev, activePolicy, TraceEntry.AssertsPolicy, TraceEntry.RevokesPolicy]

/-- The view records what the rules say of the entries `l`: the consents usable as
authority, the revoked identifiers, and the policies in force. -/
structure Reflects (v : PolicyView) (l : List TraceEntry) : Prop where
  consents : ∀ a, a ∈ v.activeConsents ↔ ConsentOnRecord l a
  revoked : ∀ p, p ∈ v.revoked ↔ RevokedOnRecord l p
  inForce : ∀ p, (v.activePolicy p).isSome ↔ PolicyInForce l p

/-- After a trace of hash-consistent entries, the observer records what the rules say of
the trace. -/
theorem reflects_replay {l : List TraceEntry} (hl : ∀ e ∈ l, e.HashConsistent) :
    (replay l).Reflects l := by
  induction l using List.reverseRecOn with
  | nil =>
    refine ⟨fun a => ?_, fun p => ?_, fun p => ?_⟩
    · simp [ConsentOnRecord]
    · simp [RevokedOnRecord]
    · simp [PolicyInForce, activePolicy]
  | append_singleton l e ih =>
    have ih := ih fun a ha => hl a (List.mem_append_left _ ha)
    have he : e.HashConsistent := hl e (by simp)
    rw [replay_append_singleton]
    refine ⟨fun a => ?_, fun p => ?_, fun p => ?_⟩
    · rw [mem_activeConsents_observe, consentOnRecord_append_singleton, ih.consents]
    · rw [mem_revoked_observe, revokedOnRecord_append_singleton, ih.revoked]
      rfl
    · rw [activePolicy_observe _ he, policyInForce_append_singleton, ih.inForce]
      rfl

theorem Reflects.ruled {v : PolicyView} {pre : List TraceEntry} (hv : v.Reflects pre)
    (e : TraceEntry) :
    PolicyRuled (ConsentOnRecord pre) (RevokedOnRecord pre) (PolicyInForce pre) e
      (v.observe e).2 := by
  have hc : (· ∈ v.activeConsents) = ConsentOnRecord pre := funext fun a => propext (hv.consents a)
  have hr : (· ∈ v.revoked) = RevokedOnRecord pre := funext fun p => propext (hv.revoked p)
  have hf : (fun p => (v.activePolicy p).isSome = true) = PolicyInForce pre :=
    funext fun p => propext (hv.inForce p)
  rw [← hc, ← hr, ← hf]
  exact v.observe_ruled e

end PolicyView

/-- The policy observer's verdicts are fixed by the trace before them: along a trace of
hash-consistent entries the observer records what the rules say of the entries so far, and
judges each entry by the rules applied to the entries before it. -/
theorem policy_verdicts_by_prefix {l : List TraceEntry} (hl : ∀ e ∈ l, e.HashConsistent) :
    (PolicyView.replay l).Reflects l ∧ ∀ pre e post, l = pre ++ e :: post →
      PolicyRuled (ConsentOnRecord pre) (RevokedOnRecord pre) (PolicyInForce pre) e
        (policyVerdict pre e) := by
  refine ⟨PolicyView.reflects_replay hl, fun pre e post hsplit => ?_⟩
  have hpre : ∀ a ∈ pre, a.HashConsistent := fun a ha => hl a (by simp [hsplit, ha])
  exact (PolicyView.reflects_replay hpre).ruled e

/-- A consent, then a policy citing it as authority. -/
theorem policy_verdicts_after_consent :
    (∀ e ∈ ([⟨0, "consent", ⟨.consentAssertion, "c.json", some "c", some "0c", some "cap:c"⟩,
          .consentAssertion ["memory_commit"]⟩,
        ⟨1, "policy", ⟨.policyAssertion, "p.json", some "p", some "0p", some "cap:p"⟩,
          .policyAssertion (some "p1") (some "cap:c")⟩] : List TraceEntry), e.HashConsistent) ∧
    ((PolicyView.replay
        [⟨0, "consent", ⟨.consentAssertion, "c.json", some "c", some "0c", some "cap:c"⟩,
          .consentAssertion ["memory_commit"]⟩,
        ⟨1, "policy", ⟨.policyAssertion, "p.json", some "p", some "0p", some "cap:p"⟩,
          .policyAssertion (some "p1") (some "cap:c")⟩]).Reflects
        [⟨0, "consent", ⟨.consentAssertion, "c.json", some "c", some "0c", some "cap:c"⟩,
          .consentAssertion ["memory_commit"]⟩,
        ⟨1, "policy", ⟨.policyAssertion, "p.json", some "p", some "0p", some "cap:p"⟩,
          .policyAssertion (some "p1") (some "cap:c")⟩] ∧
      ∀ pre e post,
        ([⟨0, "consent", ⟨.consentAssertion, "c.json", some "c", some "0c", some "cap:c"⟩,
           .consentAssertion ["memory_commit"]⟩,
         ⟨1, "policy", ⟨.policyAssertion, "p.json", some "p", some "0p", some "cap:p"⟩,
           .policyAssertion (some "p1") (some "cap:c")⟩] : List TraceEntry) = pre ++ e :: post →
        PolicyRuled (ConsentOnRecord pre) (RevokedOnRecord pre) (PolicyInForce pre) e
          (policyVerdict pre e)) := by
  have hcons : ∀ e ∈ ([⟨0, "consent", ⟨.consentAssertion, "c.json", some "c", some "0c", some "cap:c"⟩,
        .consentAssertion ["memory_commit"]⟩,
      ⟨1, "policy", ⟨.policyAssertion, "p.json", some "p", some "0p", some "cap:p"⟩,
        .policyAssertion (some "p1") (some "cap:c")⟩] : List TraceEntry),
      e.HashConsistent := by
    intro e he
    rcases List.mem_pair.mp he with rfl | rfl <;> rfl
  exact ⟨hcons, policy_verdicts_by_prefix hcons⟩

end CapsuleFlow
