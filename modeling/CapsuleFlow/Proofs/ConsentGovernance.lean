import Mathlib.Data.List.Induction
import CapsuleFlow.Proofs.Keyed
import CapsuleFlow.Proofs.RunStructure

/-!
# Consent governs memory commits

A hashed memory commit must cite a consent that is active and grants the
`memory_commit` scope. Which consents are active is said here of the entries before the
commit, without the observer: `ConsentGranted l h sc` holds when the last hashed
assertion under the identifier `h` grants `sc` and no revocation, hashed or not, follows
it. A revocation carries no identifier, so it withdraws every consent; a second assertion
under the same identifier replaces the first.

`scopesFor_replay` shows the consent observer holds exactly these grants after any trace
of hash-consistent entries, by induction on the trace from its end. The verdict of
`enforce` on the observers after a commit then follows `MemoryGoverned`, the rule with
its three failures, and `memory_commit_verdicts` says so of every entry of every run.
-/

namespace CapsuleFlow

/-- The entry is a hashed consent assertion under the identifier `h`, granting `sc`. -/
def TraceEntry.AssertsConsent (e : TraceEntry) (h : String) (sc : List String) : Prop :=
  e.isHashed ∧ e.capsuleHash = some h ∧ e.event = .consentAssertion sc

/-- After the entries `l`, the consent with identifier `h` grants the scopes `sc`: the
last hashed assertion under `h` grants them, and no revocation, hashed or not, follows
it. -/
def ConsentGranted (l : List TraceEntry) (h : String) (sc : List String) : Prop :=
  ∃ A a B, l = A ++ a :: B ∧ a.AssertsConsent h sc ∧
    ∀ b ∈ B, b.event ≠ .consentRevocation ∧ ∀ sc', ¬ b.AssertsConsent h sc'

section Grants

variable {l : List TraceEntry} {e : TraceEntry} {h : String} {sc : List String}

theorem not_consentGranted_nil : ¬ ConsentGranted [] h sc := by
  rintro ⟨A, a, B, hl, -⟩
  simp at hl

theorem consentGranted_of_revocation (he : e.event = .consentRevocation) :
    ¬ ConsentGranted (l ++ [e]) h sc := by
  rintro ⟨A, a, B, hl, ha, hB⟩
  rcases split_append_singleton hl with ⟨-, rfl, -⟩ | ⟨B', rfl, -⟩
  · simp [TraceEntry.AssertsConsent, he] at ha
  · exact (hB e (by simp)).1 he

theorem consentGranted_of_assertion {sc' : List String} (he : e.AssertsConsent h sc') :
    ConsentGranted (l ++ [e]) h sc ↔ sc = sc' := by
  constructor
  · rintro ⟨A, a, B, hl, ha, hB⟩
    rcases split_append_singleton hl with ⟨-, rfl, -⟩ | ⟨B', rfl, -⟩
    · simpa [he.2.2, eq_comm] using ha.2.2
    · exact absurd he ((hB e (by simp)).2 sc')
  · rintro rfl
    exact ⟨l, e, [], rfl, he, by simp⟩

theorem consentGranted_of_other (hr : e.event ≠ .consentRevocation)
    (ha : ∀ sc', ¬ e.AssertsConsent h sc') :
    ConsentGranted (l ++ [e]) h sc ↔ ConsentGranted l h sc := by
  constructor
  · rintro ⟨A, a, B, hl, haB, hB⟩
    rcases split_append_singleton hl with ⟨-, rfl, -⟩ | ⟨B', rfl, hl'⟩
    · exact absurd haB (ha sc)
    · exact ⟨A, a, B', hl', haB, fun b hb => hB b (by simp [hb])⟩
  · rintro ⟨A, a, B, rfl, haB, hB⟩
    refine ⟨A, a, B ++ [e], by simp, haB, ?_⟩
    intro b hb
    rcases List.mem_append.mp hb with hb | hb
    · exact hB b hb
    · rw [List.mem_singleton.mp hb]
      exact ⟨hr, ha⟩

end Grants

namespace ConsentView

variable (c : ConsentView) {e : TraceEntry}

theorem scopesFor_observe_revocation (he : e.event = .consentRevocation) (k : String) :
    (c.observe e).scopesFor k = none := by
  simp [observe, scopesFor, he]

theorem scopesFor_observe_assertion {sc : List String} (he : e.event = .consentAssertion sc)
    (k : String) :
    (c.observe e).scopesFor k = if e.capsuleHash = some k then some sc else c.scopesFor k := by
  cases hh : e.capsuleHash with
  | none => simp [observe, scopesFor, he, hh]
  | some h =>
    by_cases hk : k = h
    · simp [observe, scopesFor, he, hh, Json.Value.lookup_insertKeyed, hk]
    · simp [observe, scopesFor, he, hh, Json.Value.lookup_insertKeyed, hk, Ne.symm hk]

theorem observe_of_other (hr : e.event ≠ .consentRevocation)
    (ha : ∀ sc, e.event ≠ .consentAssertion sc) : c.observe e = c := by
  unfold observe
  split
  · exact absurd ‹_› (ha _)
  · exact absurd ‹_› hr
  · rfl

end ConsentView

/-- After a trace of hash-consistent entries, the consent observer holds for an identifier
exactly the scopes its consent grants. -/
theorem scopesFor_replay {l : List TraceEntry} (hl : ∀ e ∈ l, e.HashConsistent) (h : String)
    (sc : List String) :
    (Observers.replay l).consent.scopesFor h = some sc ↔ ConsentGranted l h sc := by
  induction l using List.reverseRecOn with
  | nil => simp [ConsentView.scopesFor, not_consentGranted_nil]
  | append_singleton l e ih =>
    have ih := ih fun a ha => hl a (List.mem_append_left _ ha)
    have he : e.HashConsistent := hl e (by simp)
    rw [Observers.replay_append_singleton, Observers.consent_observe]
    by_cases hr : e.event = .consentRevocation
    · simp [ConsentView.scopesFor_observe_revocation _ hr, consentGranted_of_revocation hr]
    by_cases ha : ∃ sc', e.event = .consentAssertion sc'
    · obtain ⟨sc', hsc'⟩ := ha
      rw [ConsentView.scopesFor_observe_assertion _ hsc']
      by_cases hh : e.capsuleHash = some h
      · have hasserts : e.AssertsConsent h sc' := ⟨he.isHashed hh, hh, hsc'⟩
        rw [if_pos hh, consentGranted_of_assertion hasserts, Option.some_inj, eq_comm]
      · have hnot : ∀ sc'', ¬ e.AssertsConsent h sc'' := fun _ ha => hh ha.2.1
        rw [if_neg hh, consentGranted_of_other hr hnot, ih]
    · simp only [not_exists] at ha
      have hnot : ∀ sc'', ¬ e.AssertsConsent h sc'' := fun sc'' ha' => ha sc'' ha'.2.2
      rw [ConsentView.observe_of_other _ hr ha, consentGranted_of_other hr hnot, ih]

/-- The rule for memory commits, relating the entries `pre` before an entry `e` to the
violations `v` judged for `e`. -/
structure MemoryGoverned (pre : List TraceEntry) (e : TraceEntry) (v : List Failure) : Prop where
  /-- Unhashed entries and entries that commit no memory have no violation. -/
  exempt : e.isHashed = false ∨ (∀ rec ref, e.event ≠ .memoryCommit rec ref) → v = []
  /-- A hashed commit passes exactly when it cites a consent granted with the memory
  scope. -/
  passes_iff : ∀ rec ref, e.isHashed = true → e.event = .memoryCommit rec ref →
    (v = [] ↔ ∃ h sc, ref = some h ∧ ConsentGranted pre h sc ∧ memoryCommitScope ∈ sc)
  /-- A hashed commit citing no consent fails for missing consent. -/
  missing : ∀ rec, e.isHashed = true → e.event = .memoryCommit rec none →
    v = [e.failure .missingConsent "memory commit requires active consent"]
  /-- A hashed commit citing a consent that grants nothing fails for invalid consent. -/
  invalid : ∀ rec h, e.isHashed = true → e.event = .memoryCommit rec (some h) →
    (∀ sc, ¬ ConsentGranted pre h sc) →
    v = [e.failure .invalidConsent "referenced consent is not active"]
  /-- A hashed commit whose consent lacks the memory scope fails for scope. -/
  outOfScope : ∀ rec h sc, e.isHashed = true → e.event = .memoryCommit rec (some h) →
    ConsentGranted pre h sc → memoryCommitScope ∉ sc →
    v = [e.failure .scopeViolation "active consent does not grant memory_commit scope"]

section Enforce

variable {e : TraceEntry} (o : Observers) {rec : MemoryRecord}

theorem enforce_exempt
    (he : e.isHashed = false ∨ ∀ rec ref, e.event ≠ .memoryCommit rec ref) :
    enforce e o = [] := by
  unfold enforce
  rcases he with he | he
  · simp [he]
  · split
    · rfl
    · split
      · exact absurd ‹_› (he _ _)
      · rfl

theorem enforce_commit_none (hh : e.isHashed = true) (hev : e.event = .memoryCommit rec none) :
    enforce e o = [e.failure .missingConsent "memory commit requires active consent"] := by
  simp [enforce, hh, hev]

theorem enforce_commit_inactive {h : String} (hh : e.isHashed = true)
    (hev : e.event = .memoryCommit rec (some h)) (hs : o.consent.scopesFor h = none) :
    enforce e o = [e.failure .invalidConsent "referenced consent is not active"] := by
  simp [enforce, hh, hev, hs]

theorem enforce_commit_active {h : String} {sc : List String} (hh : e.isHashed = true)
    (hev : e.event = .memoryCommit rec (some h)) (hs : o.consent.scopesFor h = some sc) :
    enforce e o = if memoryCommitScope ∈ sc then []
      else [e.failure .scopeViolation "active consent does not grant memory_commit scope"] := by
  simp [enforce, hh, hev, hs]

end Enforce

theorem enforce_replay_governed {pre : List TraceEntry} (hpre : ∀ a ∈ pre, a.HashConsistent)
    (e : TraceEntry) : MemoryGoverned pre e (enforce e (Observers.replay (pre ++ [e]))) := by
  have hsnap : ∀ rec ref h, e.event = .memoryCommit rec ref →
      (Observers.replay (pre ++ [e])).consent.scopesFor h =
        (Observers.replay pre).consent.scopesFor h := by
    intro rec ref h hev
    rw [Observers.replay_append_singleton, Observers.consent_observe,
      ConsentView.observe_of_other _ (by simp [hev]) (by simp [hev])]
  refine ⟨enforce_exempt _, ?_, fun rec hh hev => enforce_commit_none _ hh hev, ?_, ?_⟩
  · intro rec ref hh hev
    cases ref with
    | none => simp [enforce_commit_none _ hh hev]
    | some h =>
      cases hs : (Observers.replay pre).consent.scopesFor h with
      | none =>
        rw [enforce_commit_inactive _ hh hev ((hsnap _ _ h hev).trans hs)]
        simp only [reduceCtorEq, false_iff, not_exists, not_and, Option.some.injEq]
        rintro _ sc rfl hg -
        rw [← scopesFor_replay hpre, hs] at hg
        cases hg
      | some sc =>
        rw [enforce_commit_active _ hh hev ((hsnap _ _ h hev).trans hs)]
        have hg : ∀ sc', ConsentGranted pre h sc' ↔ sc' = sc := fun sc' => by
          rw [← scopesFor_replay hpre, hs, Option.some_inj, eq_comm]
        by_cases hm : memoryCommitScope ∈ sc <;> simp [hm, hg]
  · intro rec h hh hev hng
    apply enforce_commit_inactive _ hh hev
    rw [hsnap _ _ h hev, Option.eq_none_iff_forall_ne_some]
    exact fun sc hs => hng sc ((scopesFor_replay hpre h sc).mp hs)
  · intro rec h sc hh hev hg hm
    rw [enforce_commit_active _ hh hev ((hsnap _ _ h hev).trans ((scopesFor_replay hpre h sc).mpr hg)),
      if_neg hm]

section Runs

variable {m : Type → Type} [Monad m] [LawfulMonad m] [MonadLog m]

/-- Every run of every flow judges memory commits by the consents of the entries before
them: the runner reports, at the step of each entry `e`, the verdict of `enforce` on the
observers after `e`'s step, which replay the trace up to `e`, and that verdict follows the
rule `MemoryGoverned`. -/
theorem memory_commit_verdicts (r : Runner m) (flow : FlowSpec) (baseDir : String) :
    SatisfiesM (fun res : RunResult => res.Replayed ∧ ∀ pre e post,
        res.trace = pre ++ e :: post →
          MemoryGoverned pre e (enforce e (Observers.replay (pre ++ [e]))) ∧
            VerdictReported flow.steps res.failures pre e)
      (r.run flow baseDir) :=
  (Runner.run_verdictsReported r flow baseDir).imp fun ⟨hres, hv⟩ => ⟨hres, fun pre e post htr =>
    ⟨enforce_replay_governed (fun a ha => hres.consistent a (by simp [htr, ha])) e,
      hv pre e post htr⟩⟩

end Runs

theorem memory_commit_verdicts_in_memory :
    SatisfiesM (m := Id) (fun res : RunResult => res.Replayed ∧ ∀ pre e post,
        res.trace = pre ++ e :: post →
          MemoryGoverned pre e (enforce e (Observers.replay (pre ++ [e]))) ∧
            VerdictReported consentCommitFlow.steps res.failures pre e)
      (({ store := consentCommitStore.toStore } : Runner Id).run consentCommitFlow "") :=
  memory_commit_verdicts _ _ _

end CapsuleFlow
