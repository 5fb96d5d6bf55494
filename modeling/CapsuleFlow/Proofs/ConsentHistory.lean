import Mathlib.Data.List.Induction
import CapsuleFlow.Observe.Consent

/-!
# The consent state of a run

The consent observer forgets everything but the latest consent event of a run. With no
consent entry yet, consent is unknown and nothing is on record; after an assertion it
stands asserted by that entry, with no revocation on record; after a revocation it stands
revoked by that entry, nothing is granted, and the assertion on record is still the
latest earlier one. `ConsentView.Reflects` states this of a view and the entries it has
seen, one step keeps it (`ConsentView.Reflects.observe`), and so every run does
(`consent_view_of_run`). Consequences: scopes are granted only while consent stands
asserted, and once known the state never returns to unknown.

The asymmetry of the two events is what makes the assertion field a question about the
whole run: an assertion clears the revocation on record, a revocation keeps the assertion.
-/

namespace CapsuleFlow

namespace CapsuleEvent

/-- Whether an event moves the consent state. -/
def movesConsent : CapsuleEvent → Bool
  | .consentAssertion _ | .consentRevocation => true
  | _ => false

/-- Whether an event asserts consent. -/
def assertsConsent : CapsuleEvent → Bool
  | .consentAssertion _ => true
  | _ => false

theorem movesConsent_of_assertsConsent {ev : CapsuleEvent} (h : ev.assertsConsent = true) :
    ev.movesConsent = true := by
  cases ev <;> simp_all [assertsConsent, movesConsent]

end CapsuleEvent

/-- The latest entry of a run whose event moves consent. -/
def latestConsent (l : List TraceEntry) : Option TraceEntry :=
  l.reverse.find? (·.event.movesConsent)

/-- The latest entry of a run that asserts consent. -/
def latestAssertion (l : List TraceEntry) : Option TraceEntry :=
  l.reverse.find? (·.event.assertsConsent)

section Latest

variable {l : List TraceEntry} {e : TraceEntry}

@[simp] theorem latestConsent_nil : latestConsent [] = none := rfl

@[simp] theorem latestAssertion_nil : latestAssertion [] = none := rfl

@[simp] theorem latestConsent_append_singleton (l : List TraceEntry) (e : TraceEntry) :
    latestConsent (l ++ [e]) = if e.event.movesConsent then some e else latestConsent l := by
  cases h : e.event.movesConsent <;> simp [latestConsent, h]

@[simp] theorem latestAssertion_append_singleton (l : List TraceEntry) (e : TraceEntry) :
    latestAssertion (l ++ [e]) = if e.event.assertsConsent then some e else latestAssertion l := by
  cases h : e.event.assertsConsent <;> simp [latestAssertion, h]

theorem latestConsent_moves (h : latestConsent l = some e) : e.event.movesConsent = true := by
  unfold latestConsent at h
  exact (List.find?_some h :)

theorem latestAssertion_eq_none (h : latestConsent l = none) : latestAssertion l = none := by
  rw [latestAssertion, List.find?_eq_none]
  intro a ha hassert
  exact List.find?_eq_none.mp h a ha (CapsuleEvent.movesConsent_of_assertsConsent hassert)

theorem latestAssertion_of_latestConsent (h : latestConsent l = some e)
    (hassert : e.event.assertsConsent = true) : latestAssertion l = some e := by
  obtain ⟨-, before, after, hl, hskip⟩ := List.find?_eq_some_iff_append.mp h
  refine List.find?_eq_some_iff_append.mpr ⟨hassert, before, after, hl, fun a ha => ?_⟩
  have hmoves := hskip a ha
  cases ha' : a.event.assertsConsent
  · rfl
  · simp [CapsuleEvent.movesConsent_of_assertsConsent ha'] at hmoves

theorem latestConsent_eq_none_of_append {m : List TraceEntry} (h : latestConsent (l ++ m) = none) :
    latestConsent l = none := by
  rw [latestConsent, List.find?_eq_none] at h ⊢
  exact fun a ha => h a (List.mem_reverse.mpr (List.mem_append_left m (List.mem_reverse.mp ha)))

end Latest

namespace ConsentView

/-- The view `c` is what the entries `l` leave, read off their latest consent entry. -/
structure Reflects (c : ConsentView) (l : List TraceEntry) : Prop where
  unknown : latestConsent l = none →
    c.state = .unknown ∧ c.assertion = none ∧ c.revocation = none ∧ c.activeScopes = []
  asserted : ∀ e sc, latestConsent l = some e → e.event = .consentAssertion sc →
    c.state = .asserted ∧ c.assertion = e.capsuleHash ∧ c.revocation = none
  revoked : ∀ e, latestConsent l = some e → e.event = .consentRevocation →
    c.state = .revoked ∧ c.revocation = e.capsuleHash ∧
      c.assertion = (latestAssertion l).bind TraceEntry.capsuleHash ∧ c.activeScopes = []

variable {c : ConsentView} {l : List TraceEntry}

theorem reflects_nil : ({} : ConsentView).Reflects [] :=
  ⟨fun _ => ⟨rfl, rfl, rfl, rfl⟩, by simp, by simp⟩

theorem Reflects.assertion_eq (h : c.Reflects l) :
    c.assertion = (latestAssertion l).bind TraceEntry.capsuleHash := by
  cases hl : latestConsent l with
  | none => rw [(h.unknown hl).2.1, latestAssertion_eq_none hl, Option.bind_none]
  | some e =>
    have hmoves := latestConsent_moves hl
    cases hev : e.event with
    | consentAssertion sc =>
      have hassert : e.event.assertsConsent = true := by simp [hev, CapsuleEvent.assertsConsent]
      rw [(h.asserted e sc hl hev).2.1, latestAssertion_of_latestConsent hl hassert,
        Option.bind_some]
    | consentRevocation => exact (h.revoked e hl hev).2.2.1
    | _ => simp [hev, CapsuleEvent.movesConsent] at hmoves

theorem observe_of_still {e : TraceEntry} (h : e.event.movesConsent = false) :
    c.observe e = c := by
  unfold observe
  split <;> simp_all [CapsuleEvent.movesConsent]

theorem Reflects.of_latest {l' : List TraceEntry} (h : c.Reflects l)
    (hc : latestConsent l' = latestConsent l) (ha : latestAssertion l' = latestAssertion l) :
    c.Reflects l' :=
  ⟨hc ▸ h.unknown, hc ▸ h.asserted, hc ▸ ha ▸ h.revoked⟩

/-- One entry keeps the view in step with the entries seen. -/
theorem Reflects.observe (h : c.Reflects l) (e : TraceEntry) :
    (c.observe e).Reflects (l ++ [e]) := by
  cases hmoves : e.event.movesConsent with
  | false =>
    have hassert : e.event.assertsConsent = false := by
      cases ha : e.event.assertsConsent
      · rfl
      · simp [CapsuleEvent.movesConsent_of_assertsConsent ha] at hmoves
    rw [observe_of_still hmoves]
    exact h.of_latest (by simp [hmoves]) (by simp [hassert])
  | true =>
    have hlast : latestConsent (l ++ [e]) = some e := by simp [hmoves]
    refine ⟨fun hnone => by simp [hlast] at hnone, fun e' sc he' hev' => ?_, fun e' he' hev' => ?_⟩
    · rw [hlast, Option.some_inj] at he'
      subst he'
      simp [ConsentView.observe, hev']
    · rw [hlast, Option.some_inj] at he'
      subst he'
      simp [ConsentView.observe, hev', CapsuleEvent.assertsConsent, h.assertion_eq]

theorem reflects_foldl (l : List TraceEntry) : (l.foldl ConsentView.observe {}).Reflects l := by
  induction l using List.reverseRecOn with
  | nil => exact reflects_nil
  | append_singleton l e ih =>
    rw [List.foldl_append, List.foldl_cons, List.foldl_nil]
    exact ih.observe e

theorem Reflects.state_eq_unknown_iff (h : c.Reflects l) :
    c.state = .unknown ↔ latestConsent l = none := by
  refine ⟨fun hs => ?_, fun hl => (h.unknown hl).1⟩
  cases hl : latestConsent l with
  | none => rfl
  | some e =>
    have hmoves := latestConsent_moves hl
    cases hev : e.event with
    | consentAssertion sc => simp [(h.asserted e sc hl hev).1] at hs
    | consentRevocation => simp [(h.revoked e hl hev).1] at hs
    | _ => simp [hev, CapsuleEvent.movesConsent] at hmoves

theorem Reflects.asserted_of_scopes (h : c.Reflects l) (hs : c.activeScopes ≠ []) :
    c.state = .asserted := by
  cases hl : latestConsent l with
  | none => exact absurd (h.unknown hl).2.2.2 hs
  | some e =>
    have hmoves := latestConsent_moves hl
    cases hev : e.event with
    | consentAssertion sc => exact (h.asserted e sc hl hev).1
    | consentRevocation => exact absurd (h.revoked e hl hev).2.2.2 hs
    | _ => simp [hev, CapsuleEvent.movesConsent] at hmoves

end ConsentView

/-- The consent observer after any run: its view is the one the run's latest consent
entry determines, scopes are granted only in the asserted state, and once the state is
known no later entry makes it unknown again. -/
theorem consent_view_of_run (l : List TraceEntry) :
    (l.foldl ConsentView.observe {}).Reflects l ∧
    ((l.foldl ConsentView.observe {}).activeScopes ≠ [] →
      (l.foldl ConsentView.observe {}).state = .asserted) ∧
    ∀ m, (l.foldl ConsentView.observe {}).state ≠ .unknown →
      ((l ++ m).foldl ConsentView.observe {}).state ≠ .unknown := by
  have hrun := ConsentView.reflects_foldl l
  refine ⟨hrun, hrun.asserted_of_scopes, fun m hknown hunknown => hknown ?_⟩
  have hnone := (ConsentView.reflects_foldl (l ++ m)).state_eq_unknown_iff.mp hunknown
  exact hrun.state_eq_unknown_iff.mpr (latestConsent_eq_none_of_append hnone)

end CapsuleFlow
