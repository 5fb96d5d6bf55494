import CapsuleFlow.Proofs.CanonicalEquivalence
import CapsuleFlow.Proofs.SkippedSteps

/-!
# Governance reads the canonical form and the declared type

A step's entry depends on the document it loads through three things only: its kind, its
canonical text, and the type it declares (`CapsuleType.of`). Equal canonical texts give one
normal form (`NormalForm.of_eq_of_canonicalize_eq`), so one kind too, and the event is
decoded from the canonical text read back. Two runs whose flows differ only in the capsule
paths they name, and whose corresponding documents have one canonical text and declare one
type, report the same failures, end with the same observers, and trace the same entries but
for their capsule paths (`runs_agree_of_loads_alike`).

The declared type is the exception: it is read from the document as loaded, not from its
canonical form. Under normalization a label written with a precomposed letter and the same
label written with a base letter and a combining mark have one canonical text, yet they
name different types, and a step that expects the one rejects the other. So the hypothesis
on declared types is not implied by the one on canonical texts.
-/

namespace CapsuleFlow

open Json

/-- The entry but for where its capsule was found. -/
def TraceEntry.withoutPath (e : TraceEntry) : TraceEntry :=
  { e with capsule := { e.capsule with capsulePath := "" } }

/-- The step but for the capsule path it names. -/
def FlowStep.withoutPath (s : FlowStep) : FlowStep := { s with capsulePath := "" }

section PathFree

variable (e : TraceEntry) (o : Observers)

/-! Observers, verdicts and expectations never read a capsule path. -/

@[simp] theorem Observers.observe_withoutPath : o.observe e.withoutPath = o.observe e := rfl

@[simp] theorem enforce_withoutPath : enforce e.withoutPath o = enforce e o := rfl

@[simp] theorem typeMismatch_withoutPath (i : Nat) (step : FlowStep) :
    Runner.typeMismatch i step.withoutPath e.withoutPath = Runner.typeMismatch i step e := rfl

@[simp] theorem applyExpectation_withoutPath (i : Nat) (step : FlowStep) (vs : List Failure) :
    applyExpectation i step.withoutPath vs = applyExpectation i step vs := rfl

end PathFree

/-- Two run states alike: the same observers and failures, and the same entries but for
their capsule paths. -/
structure RunState.Alike (t₁ t₂ : RunState) : Prop where
  observers : t₁.observers = t₂.observers
  failures : t₁.failures = t₂.failures
  trace : t₁.trace.map TraceEntry.withoutPath = t₂.trace.map TraceEntry.withoutPath

theorem RunState.Alike.empty : RunState.Alike {} {} := ⟨rfl, rfl, rfl⟩

theorem RunState.Alike.fail {t₁ t₂ : RunState} (ht : t₁.Alike t₂) (f : Failure) :
    RunState.Alike { t₁ with failures := t₁.failures ++ [f] }
      { t₂ with failures := t₂.failures ++ [f] } :=
  ⟨ht.observers, by simp [ht.failures], ht.trace⟩

theorem RunState.Alike.record {t₁ t₂ : RunState} (ht : t₁.Alike t₂) {s₁ s₂ : FlowStep}
    (hs : s₁.withoutPath = s₂.withoutPath) {e₁ e₂ : TraceEntry}
    (he : e₁.withoutPath = e₂.withoutPath) (i : Nat) :
    RunState.Alike
      { observers := (t₁.observers.observe e₁).1, trace := t₁.trace ++ [e₁]
        failures := t₁.failures ++ (Runner.typeMismatch i s₁ e₁).toList ++
          (t₁.observers.observe e₁).2 ++
          applyExpectation i s₁ (enforce e₁ (t₁.observers.observe e₁).1) }
      { observers := (t₂.observers.observe e₂).1, trace := t₂.trace ++ [e₂]
        failures := t₂.failures ++ (Runner.typeMismatch i s₂ e₂).toList ++
          (t₂.observers.observe e₂).2 ++
          applyExpectation i s₂ (enforce e₂ (t₂.observers.observe e₂).1) } := by
  have hobs : t₁.observers.observe e₁ = t₂.observers.observe e₂ := by
    rw [← Observers.observe_withoutPath, he, ht.observers, Observers.observe_withoutPath]
  have hmis : Runner.typeMismatch i s₁ e₁ = Runner.typeMismatch i s₂ e₂ := by
    rw [← typeMismatch_withoutPath, he, hs, typeMismatch_withoutPath]
  have hexp : ∀ vs, applyExpectation i s₁ vs = applyExpectation i s₂ vs := fun vs => by
    rw [← applyExpectation_withoutPath, hs, applyExpectation_withoutPath]
  have henf : enforce e₁ (t₂.observers.observe e₂).1 = enforce e₂ (t₂.observers.observe e₂).1 := by
    rw [← enforce_withoutPath, he, enforce_withoutPath]
  refine ⟨by simp [hobs], ?_, by simp [ht.trace, he]⟩
  simp only
  rw [hobs, hmis, hexp, henf, ht.failures]

/-! ## One canonical text, one normal form -/

/-- The kind of value a normal form is the form of. -/
def NormalForm.kindName : NormalForm → String
  | .null => "null"
  | .bool _ => "boolean"
  | .number _ => "number"
  | .string _ => "string"
  | .array _ => "array"
  | .object _ => "object"

@[simp] theorem NormalForm.kindName_of (o : CanonicalOptions) (v : Value) :
    (NormalForm.of o v).kindName = v.kindName := by
  cases v <;> rfl

/-- Values with one canonical text have one normal form. -/
theorem NormalForm.of_eq_of_canonicalize_eq {o : CanonicalOptions} {v₁ v₂ : Value} {t : String}
    (h₁ : canonicalize o v₁ = .ok t) (h₂ : canonicalize o v₂ = .ok t) : of o v₁ = of o v₂ := by
  obtain ⟨hc₁, ht₁⟩ := (canonicalize_eq_ok_iff o v₁ t).mp h₁
  obtain ⟨hc₂, ht₂⟩ := (canonicalize_eq_ok_iff o v₂ t).mp h₂
  exact (text_inj (tokenized_of hc₁) (tokenized_of hc₂)).mp (ht₁ ▸ ht₂)

theorem Value.kindName_eq_of_canonicalize_eq {o : CanonicalOptions} {v₁ v₂ : Value} {t : String}
    (h₁ : canonicalize o v₁ = .ok t) (h₂ : canonicalize o v₂ = .ok t) :
    v₁.kindName = v₂.kindName := by
  rw [← NormalForm.kindName_of o v₁, NormalForm.of_eq_of_canonicalize_eq h₁ h₂,
    NormalForm.kindName_of]

theorem Value.eq_object_of_kindName {v : Value} (h : v.kindName = "object") :
    ∃ ms, v = .object ms := by
  cases v <;> simp_all [Value.kindName]

namespace Runner

variable (r₁ r₂ : Runner Id) (b₁ b₂ : String)

/-- The document a step loads, as a runner finds it under a base directory. -/
def load (r : Runner Id) (baseDir : String) (step : FlowStep) : Except StoreError Value :=
  r.store.get (r.store.resolve (capsuleLocation baseDir step.capsulePath))

/-- Two declarations alike but for the capsule path they name, whose documents, as two
runners load them, have one canonical text under the first runner's options and declare one
type. -/
def LoadsAlike : StepDecl → StepDecl → Prop
  | .malformed name reason, d => d = .malformed name reason
  | .valid s₁, .valid s₂ =>
    s₁.withoutPath = s₂.withoutPath ∧
      ∃ v₁ v₂ text, r₁.load b₁ s₁ = .ok v₁ ∧ r₂.load b₂ s₂ = .ok v₂ ∧
        canonicalize r₁.canonical v₁ = .ok text ∧ canonicalize r₁.canonical v₂ = .ok text ∧
        CapsuleType.of v₁ = CapsuleType.of v₂
  | .valid _, .malformed _ _ => False

variable {r₁ r₂ b₁ b₂}

theorem buildEntry_capsuleType {r : Runner Id} {b : String} {step : FlowStep} {v : Value}
    (hl : r.load b step = .ok v) {i : Nat} {e : TraceEntry} {c : Value}
    (h : r.buildEntry i step b = .ok (e, c)) : e.capsule.capsuleType = CapsuleType.of v ∧ c = v := by
  unfold load at hl
  unfold buildEntry at h
  dsimp only [bind, pure] at h
  rw [hl] at h
  dsimp only at h
  split at h
  · cases hh : step.computeHashes
    · simp only [hh] at h
      cases h
      exact ⟨rfl, rfl⟩
    · simp only [hh, if_true] at h
      revert h
      cases canonicalize r.canonical _ with
      | error => intro h; cases h
      | ok text =>
        dsimp only
        cases parse text with
        | error => intro h; cases h
        | ok normal =>
          intro h
          cases h
          exact ⟨rfl, rfl⟩
  · cases h

theorem buildEntry_alike (hcanon : r₂.canonical = r₁.canonical) (hhash : r₂.hash = r₁.hash)
    {s₁ s₂ : FlowStep} (h : LoadsAlike r₁ r₂ b₁ b₂ (.valid s₁) (.valid s₂)) (i : Nat) :
    (r₁.buildEntry i s₁ b₁).map (·.1.withoutPath) =
      (r₂.buildEntry i s₂ b₂).map (·.1.withoutPath) := by
  obtain ⟨hs, v₁, v₂, text, hl₁, hl₂, ht₁, ht₂, htype⟩ := h
  have hkind : v₁.kindName = v₂.kindName := Value.kindName_eq_of_canonicalize_eq ht₁ ht₂
  have hname : s₁.name = s₂.name := by
    simpa [FlowStep.withoutPath] using congrArg FlowStep.name hs
  have hhashes : s₁.computeHashes = s₂.computeHashes := by
    simpa [FlowStep.withoutPath] using congrArg FlowStep.computeHashes hs
  unfold load at hl₁ hl₂
  unfold buildEntry
  dsimp only [bind, pure]
  rw [hl₁, hl₂]
  dsimp only
  rw [hcanon, ht₁, ht₂, htype, hhash, hname, hhashes]
  by_cases hobj : v₁.kindName = "object"
  · obtain ⟨ms₁, rfl⟩ := Value.eq_object_of_kindName hobj
    obtain ⟨ms₂, rfl⟩ := Value.eq_object_of_kindName (hkind ▸ hobj)
    cases s₂.computeHashes
    · rfl
    · dsimp only
      cases parse text <;> rfl
  · split
    · exact absurd rfl hobj
    · split
      · exact absurd hkind (by simp_all [Value.kindName])
      · rw [hkind]

/-- Of two steps alike but for their capsule paths, whose documents have one canonical text
and which both build entries, the entries are alike exactly when the documents declare one
type. -/
theorem entries_alike_iff_capsuleType_eq (hcanon : r₂.canonical = r₁.canonical)
    (hhash : r₂.hash = r₁.hash) {s₁ s₂ : FlowStep} (hs : s₁.withoutPath = s₂.withoutPath)
    {v₁ v₂ : Value} {text : String} (hl₁ : r₁.load b₁ s₁ = .ok v₁) (hl₂ : r₂.load b₂ s₂ = .ok v₂)
    (ht₁ : canonicalize r₁.canonical v₁ = .ok text) (ht₂ : canonicalize r₁.canonical v₂ = .ok text)
    {i : Nat} {e₁ e₂ : TraceEntry} {c₁ c₂ : Value} (h₁ : r₁.buildEntry i s₁ b₁ = .ok (e₁, c₁))
    (h₂ : r₂.buildEntry i s₂ b₂ = .ok (e₂, c₂)) :
    e₁.withoutPath = e₂.withoutPath ↔ CapsuleType.of v₁ = CapsuleType.of v₂ := by
  constructor
  · intro he
    rw [← (buildEntry_capsuleType hl₁ h₁).1, ← (buildEntry_capsuleType hl₂ h₂).1]
    exact congrArg (·.capsule.capsuleType) he
  · intro htype
    have hb := buildEntry_alike hcanon hhash ⟨hs, v₁, v₂, text, hl₁, hl₂, ht₁, ht₂, htype⟩ i
    rw [h₁, h₂] at hb
    exact Except.ok.inj hb

theorem runStep_alike (hcanon : r₂.canonical = r₁.canonical) (hhash : r₂.hash = r₁.hash)
    {d₁ d₂ : StepDecl} (hd : LoadsAlike r₁ r₂ b₁ b₂ d₁ d₂) {t₁ t₂ : RunState} (ht : t₁.Alike t₂)
    (flowId₁ flowId₂ : String) (i : Nat) :
    (r₁.runStep flowId₁ b₁ t₁ i d₁).Alike (r₂.runStep flowId₂ b₂ t₂ i d₂) := by
  cases d₁ with
  | malformed name reason =>
    subst hd
    rw [runStep_malformed_id, runStep_malformed_id]
    exact ht.fail _
  | valid s₁ =>
    cases d₂ with
    | malformed _ _ => exact hd.elim
    | valid s₂ =>
      have hs : s₁.withoutPath = s₂.withoutPath := hd.1
      have hb := buildEntry_alike hcanon hhash hd i
      rw [runStep_valid_id, runStep_valid_id]
      cases h₁ : r₁.buildEntry i s₁ b₁ with
      | error f₁ =>
        cases h₂ : r₂.buildEntry i s₂ b₂ with
        | error f₂ =>
          rw [h₁, h₂] at hb
          cases hb
          exact ht.fail _
        | ok p₂ =>
          rw [h₁, h₂] at hb
          cases hb
      | ok p₁ =>
        cases h₂ : r₂.buildEntry i s₂ b₂ with
        | error f₂ =>
          rw [h₁, h₂] at hb
          cases hb
        | ok p₂ =>
          rw [h₁, h₂] at hb
          obtain ⟨e₁, c₁⟩ := p₁
          obtain ⟨e₂, c₂⟩ := p₂
          exact ht.record hs (Except.ok.inj hb) i

theorem runSteps_alike (hcanon : r₂.canonical = r₁.canonical) (hhash : r₂.hash = r₁.hash)
    (flowId₁ flowId₂ : String) {ds₁ ds₂ : List StepDecl}
    (hds : List.Forall₂ (LoadsAlike r₁ r₂ b₁ b₂) ds₁ ds₂) :
    ∀ {t₁ t₂ : RunState} (i : Nat), t₁.Alike t₂ →
      (r₁.runSteps flowId₁ b₁ t₁ i ds₁).Alike (r₂.runSteps flowId₂ b₂ t₂ i ds₂) := by
  induction hds with
  | nil => exact fun _ ht => ht
  | cons hd _ ih =>
    intro t₁ t₂ i ht
    exact ih (i + 1) (runStep_alike hcanon hhash hd ht flowId₁ flowId₂ i)

end Runner

/-- Two results alike: the same failures and observers, and traces that differ at most in
the capsule paths of their entries. -/
structure RunResult.AlikeButPaths (res₁ res₂ : RunResult) : Prop where
  failures : res₁.failures = res₂.failures
  observers : res₁.observers = res₂.observers
  trace : res₁.trace.map TraceEntry.withoutPath = res₂.trace.map TraceEntry.withoutPath

/-- Runs of two flows that differ only in the capsule paths they name, whose documents have,
step by step, one canonical text under the run's options and declare one type, report the
same failures, end with the same observers, and trace the same entries but for their
capsule paths. -/
theorem runs_agree_of_loads_alike (r₁ r₂ : Runner Id) (hcanon : r₂.canonical = r₁.canonical)
    (hhash : r₂.hash = r₁.hash) (flow₁ flow₂ : FlowSpec) (b₁ b₂ : String)
    (hsteps : List.Forall₂ (Runner.LoadsAlike r₁ r₂ b₁ b₂) flow₁.steps flow₂.steps) :
    (Id.run (r₁.run flow₁ b₁)).AlikeButPaths (Id.run (r₂.run flow₂ b₂)) := by
  have h := Runner.runSteps_alike hcanon hhash flow₁.flowId flow₂.flowId hsteps 0
    RunState.Alike.empty
  rw [Runner.run_id, Runner.run_id]
  exact ⟨h.failures, congrArg some h.observers, h.trace⟩

/-- A store that finds one document at every path. -/
def Store.everywhere (v : Value) : Store Id := ⟨pure, fun _ => pure (.ok v)⟩

/-- One capsule with its members in either order, loaded from two directories by a step
that expects its type. -/
theorem runs_agree_of_reordered_members :
    List.Forall₂
      (Runner.LoadsAlike
        { store := .everywhere (.object [("capsule_type", .string "STATE"), ("n", .number (.int 1))]) }
        { store := .everywhere (.object [("n", .number (.int 1)), ("capsule_type", .string "STATE")]) }
        "a" "b")
      [.valid { name := "state", capsulePath := "capsule.json", expectCapsuleType := some "STATE" }]
      [.valid { name := "state", capsulePath := "capsule.json", expectCapsuleType := some "STATE" }] ∧
    RunResult.AlikeButPaths
      (Id.run (Runner.run
        { store := .everywhere (.object [("capsule_type", .string "STATE"), ("n", .number (.int 1))]) }
        { flowId := "reordered", description := none
          steps := [.valid { name := "state", capsulePath := "capsule.json"
                             expectCapsuleType := some "STATE" }] } "a"))
      (Id.run (Runner.run
        { store := .everywhere (.object [("n", .number (.int 1)), ("capsule_type", .string "STATE")]) }
        { flowId := "reordered", description := none
          steps := [.valid { name := "state", capsulePath := "capsule.json"
                             expectCapsuleType := some "STATE" }] } "b")) := by
  have h₁ : canonicalize {} (.object [("capsule_type", .string "STATE"), ("n", .number (.int 1))]) =
      .ok "\x7b\"capsule_type\":\"STATE\",\"n\":1\x7d" := by
    simp [canonicalize_object, CanonicalOptions.text, Text.nfc]
    rw [Value.keyedOf_of_increasing (List.pairwise_pair.mpr (by decide))]
    simp [canonicalize, CanonicalOptions.text, Text.nfc]
    rfl
  have h₂ : canonicalize {} (.object [("n", .number (.int 1)), ("capsule_type", .string "STATE")]) =
      .ok "\x7b\"capsule_type\":\"STATE\",\"n\":1\x7d" := by
    simp [canonicalize_object, CanonicalOptions.text, Text.nfc, Value.keyedOf, List.mergeSort,
      List.MergeSort.Internal.splitInTwo]
    rw [Value.lastOfEach_of_increasing (List.pairwise_pair.mpr (by decide))]
    simp [canonicalize, CanonicalOptions.text, Text.nfc]
    rfl
  refine ⟨.cons ?_ .nil, runs_agree_of_loads_alike _ _ (by rfl) (by rfl) _ _ _ _ (.cons ?_ .nil)⟩ <;>
    exact ⟨rfl, _, _, _, rfl, rfl, h₁, h₂, rfl⟩

end CapsuleFlow
