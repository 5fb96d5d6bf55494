import CapsuleFlow.Proofs.RunStructure

/-!
# Steps that do not load are invisible to governance

Inserting into a flow a step that does not load changes nothing the observers see. The run
of the longer flow has the same observers; its trace is the old trace with the entries of
later steps moved one step on; its failures are the old failures with one load-tier failure
inserted at the new step, after every failure of an earlier step, and the failures of later
steps moved one step on (`load_failure_invisible`).

The runs here read a store that answers at once (`Runner Id`). In such a run a step depends on
what came before only through the observers: it appends to the trace and the failures what
it would append to a fresh state with the same observers (`runStep_frame`). A step's place
enters what it does only as the index it records, so a run of the same steps one place
further on gathers the same, moved one step on (`runSteps_shift`).
-/

namespace CapsuleFlow

/-- A failure moved one step on. -/
def Failure.shift (f : Failure) : Failure := { f with stepIndex := f.stepIndex.map (· + 1) }

/-- An entry moved one step on. -/
def TraceEntry.shift (e : TraceEntry) : TraceEntry := { e with stepIndex := e.stepIndex + 1 }

/-- A run state whose entries and failures are moved one step on. -/
def RunState.shift (s : RunState) : RunState :=
  { s with trace := s.trace.map TraceEntry.shift, failures := s.failures.map Failure.shift }

/-- The state that has gathered nothing yet, with the observers `o`. -/
def RunState.fresh (o : Observers) : RunState := { observers := o }

/-- What `t` gathered, after what `s` gathered: the observers of `t`, and the entries and
failures of `s` followed by those of `t`. -/
def RunState.after (t s : RunState) : RunState :=
  { observers := t.observers, trace := s.trace ++ t.trace, failures := s.failures ++ t.failures }

/-- The flow with the declaration `d` inserted at position `k`. -/
def FlowSpec.insertStep (flow : FlowSpec) (k : Nat) (d : StepDecl) : FlowSpec :=
  { flow with steps := flow.steps.take k ++ d :: flow.steps.drop k }

@[simp] theorem FlowSpec.insertStep_flowId (flow : FlowSpec) (k : Nat) (d : StepDecl) :
    (flow.insertStep k d).flowId = flow.flowId := rfl

section Shift

variable {i : Nat} {step : FlowStep} {e : TraceEntry}

@[simp] theorem Failure.shift_atStep (c : FailureCode) (msg : String) :
    (Failure.atStep i step.name c msg).shift = Failure.atStep (i + 1) step.name c msg := rfl

@[simp] theorem TraceEntry.shift_failure (c : FailureCode) (msg : String) :
    e.shift.failure c msg = (e.failure c msg).shift := rfl

@[simp] theorem TraceEntry.shift_stepIndex : e.shift.stepIndex = e.stepIndex + 1 := rfl

@[simp] theorem TraceEntry.shift_event : e.shift.event = e.event := rfl

@[simp] theorem TraceEntry.shift_capsule : e.shift.capsule = e.capsule := rfl

@[simp] theorem TraceEntry.shift_isHashed : e.shift.isHashed = e.isHashed := rfl

@[simp] theorem TraceEntry.shift_capsuleHash : e.shift.capsuleHash = e.capsuleHash := rfl

theorem typeMismatch_shift :
    Runner.typeMismatch (i + 1) step e.shift = (Runner.typeMismatch i step e).map Failure.shift := by
  unfold Runner.typeMismatch
  cases step.expectCapsuleType with
  | none => rfl
  | some x =>
    by_cases hx : x = e.capsule.capsuleType.label <;> simp [hx]

theorem PolicyView.assertPolicy_shift (v : PolicyView) (id a : Option String) :
    v.assertPolicy e.shift id a = ((v.assertPolicy e id a).1, (v.assertPolicy e id a).2.map Failure.shift) := by
  cases a with
  | none => rfl
  | some a =>
    cases id with
    | none => rfl
    | some p =>
      unfold PolicyView.assertPolicy
      by_cases hr : p ∈ v.revoked <;> by_cases hc : a ∈ v.activeConsents <;>
        cases hh : e.capsuleHash <;> simp [hr, hc, hh]

theorem PolicyView.revokePolicy_shift (v : PolicyView) (a id : Option String) :
    v.revokePolicy e.shift a id = ((v.revokePolicy e a id).1, (v.revokePolicy e a id).2.map Failure.shift) := by
  cases a with
  | none => rfl
  | some a =>
    cases id with
    | none => rfl
    | some p =>
      unfold PolicyView.revokePolicy
      by_cases hc : a ∈ v.activeConsents <;>
        cases hl : v.activePolicies.lookup p <;> simp [hc, hl]

theorem PolicyView.observe_shift (v : PolicyView) :
    v.observe e.shift = ((v.observe e).1, (v.observe e).2.map Failure.shift) := by
  unfold PolicyView.observe
  cases hh : e.isHashed
  · simp [hh]
  · cases hev : e.event with
    | consentAssertion sc => cases hc : e.capsuleHash <;> simp [hh, hev, hc]
    | policyAssertion id a => simp [hh, hev, PolicyView.assertPolicy_shift, Option.toList_map]
    | policyRevocation a id => simp [hh, hev, PolicyView.revokePolicy_shift, Option.toList_map]
    | _ => simp [hh, hev]

theorem Observers.observe_shift (o : Observers) :
    o.observe e.shift = ((o.observe e).1, (o.observe e).2.map Failure.shift) := by
  simp only [Observers.observe, PolicyView.observe_shift]
  rfl

theorem enforce_shift (o : Observers) : enforce e.shift o = (enforce e o).map Failure.shift := by
  unfold enforce
  cases hh : e.isHashed
  · simp [hh]
  · cases hev : e.event with
    | memoryCommit rec ref =>
      cases ref with
      | none => simp [hh, hev]
      | some h =>
        cases hs : o.consent.scopesFor h with
        | none => simp [hh, hev, hs]
        | some sc => by_cases hm : memoryCommitScope ∈ sc <;> simp [hh, hev, hs, hm]
    | _ => simp [hh, hev]

theorem applyExpectation_shift (violations : List Failure) :
    applyExpectation (i + 1) step (violations.map Failure.shift) =
      (applyExpectation i step violations).map Failure.shift := by
  unfold applyExpectation
  cases violations <;> cases step.expectFailure <;> rfl

end Shift

namespace Runner

variable (r : Runner Id) (flowId baseDir : String)

theorem reportAll_id (s : RunState) (fs : List Failure) :
    reportAll (m := Id) flowId s fs = { s with failures := s.failures ++ fs } := by
  have h := reportAll_spec (m := Id) flowId s fs
  rwa [SatisfiesM_Id_eq] at h

theorem runStep_malformed_id (s : RunState) (i : Nat) (name : Option String) (reason : String) :
    r.runStep flowId baseDir s i (.malformed name reason) =
      { s with failures := s.failures ++
          [⟨some i, name, .invalidFlow, s!"invalid step declaration: {reason}"⟩] } := rfl

theorem runStep_valid_id (s : RunState) (i : Nat) (step : FlowStep) :
    r.runStep flowId baseDir s i (.valid step) =
      match r.buildEntry i step baseDir with
      | .error f => { s with failures := s.failures ++ [f] }
      | .ok (e, _) =>
        { observers := (s.observers.observe e).1, trace := s.trace ++ [e]
          failures := s.failures ++ (typeMismatch i step e).toList ++ (s.observers.observe e).2 ++
            applyExpectation i step (enforce e (s.observers.observe e).1) } := by
  unfold runStep
  cases h : r.buildEntry i step baseDir with
  | error f =>
    simp [h]
    rfl
  | ok p =>
    obtain ⟨e, c⟩ := p
    simp only [h, reportAll_id]
    rfl

/-- A step appends to the trace and the failures what it appends to a fresh state with the
same observers. -/
theorem runStep_frame (s : RunState) (i : Nat) (d : StepDecl) :
    r.runStep flowId baseDir s i d =
      (r.runStep flowId baseDir (.fresh s.observers) i d).after s := by
  cases d with
  | malformed name reason =>
    simp [runStep_malformed_id, RunState.after, RunState.fresh]
  | valid step =>
    rw [runStep_valid_id, runStep_valid_id]
    cases r.buildEntry i step baseDir with
    | error f => simp [RunState.after, RunState.fresh]
    | ok p => simp [RunState.after, RunState.fresh]

theorem runSteps_frame (ds : List StepDecl) :
    ∀ (s : RunState) (i : Nat), r.runSteps flowId baseDir s i ds =
      (r.runSteps flowId baseDir (.fresh s.observers) i ds).after s := by
  induction ds with
  | nil =>
    intro s i
    show s = (RunState.fresh s.observers).after s
    simp [RunState.after, RunState.fresh]
  | cons d ds ih =>
    intro s i
    show r.runSteps flowId baseDir (r.runStep flowId baseDir s i d) (i + 1) ds =
      (r.runSteps flowId baseDir (r.runStep flowId baseDir (.fresh s.observers) i d) (i + 1) ds).after s
    have hstep := runStep_frame r flowId baseDir s i d
    rw [ih (r.runStep flowId baseDir s i d), ih (r.runStep flowId baseDir (.fresh s.observers) i d),
      hstep]
    simp [RunState.after]

theorem runSteps_append (ds₁ ds₂ : List StepDecl) :
    ∀ (s : RunState) (i : Nat), r.runSteps flowId baseDir s i (ds₁ ++ ds₂) =
      r.runSteps flowId baseDir (r.runSteps flowId baseDir s i ds₁) (i + ds₁.length) ds₂ := by
  induction ds₁ with
  | nil => intro s i; rfl
  | cons d ds ih =>
    intro s i
    show r.runSteps flowId baseDir (r.runStep flowId baseDir s i d) (i + 1) (ds ++ ds₂) =
      r.runSteps flowId baseDir (r.runSteps flowId baseDir (r.runStep flowId baseDir s i d) (i + 1) ds)
        (i + (ds.length + 1)) ds₂
    rw [ih, Nat.add_comm ds.length 1, Nat.add_assoc]

theorem buildEntry_shift (i : Nat) (step : FlowStep) :
    r.buildEntry (i + 1) step baseDir =
      ((r.buildEntry i step baseDir).map fun p => (p.1.shift, p.2)).mapError Failure.shift := by
  unfold buildEntry
  dsimp only [bind, pure]
  split
  · split
    · by_cases hh : step.computeHashes = true
      · simp only [hh, if_true]
        cases canonicalize r.canonical _ with
        | error e => rfl
        | ok text =>
          dsimp only
          cases Json.parse text <;> rfl
      · simp only [hh]
        rfl
    · rfl
  · rfl

theorem runStep_shift (o : Observers) (i : Nat) (d : StepDecl) :
    r.runStep flowId baseDir (.fresh o) (i + 1) d =
      (r.runStep flowId baseDir (.fresh o) i d).shift := by
  cases d with
  | malformed name reason => rfl
  | valid step =>
    rw [runStep_valid_id, runStep_valid_id, buildEntry_shift]
    cases r.buildEntry i step baseDir with
    | error f => rfl
    | ok p =>
      obtain ⟨e, c⟩ := p
      simp [Except.map, Except.mapError, RunState.shift, RunState.fresh, Observers.observe_shift,
        typeMismatch_shift, enforce_shift, applyExpectation_shift, Option.toList_map]

theorem after_shift (t s : RunState) : (t.after s).shift = t.shift.after s.shift := by
  simp [RunState.after, RunState.shift]

/-- Steps run one place further on, from a fresh state, gather the same moved one step on. -/
theorem runSteps_shift (ds : List StepDecl) :
    ∀ (o : Observers) (i : Nat), r.runSteps flowId baseDir (.fresh o) (i + 1) ds =
      (r.runSteps flowId baseDir (.fresh o) i ds).shift := by
  induction ds with
  | nil => intro o i; rfl
  | cons d ds ih =>
    intro o i
    show r.runSteps flowId baseDir (r.runStep flowId baseDir (.fresh o) (i + 1) d) (i + 1 + 1) ds =
      (r.runSteps flowId baseDir (r.runStep flowId baseDir (.fresh o) i d) (i + 1) ds).shift
    rw [runStep_shift, runSteps_frame, runSteps_frame r flowId baseDir ds (r.runStep _ _ _ i d)]
    rw [after_shift, ← ih]
    rfl

/-- A declaration the runner cannot load: a malformed one, or a step whose capsule is missing
or does not parse, is no object, or has no canonical form while the step hashes it. -/
def LoadFails (baseDir : String) : StepDecl → Prop
  | .malformed _ _ => True
  | .valid step =>
    match r.store.get (r.store.resolve (capsuleLocation baseDir step.capsulePath)) with
    | .error _ => True
    | .ok (.object ms) =>
      step.computeHashes = true ∧ ∃ e, canonicalize r.canonical (.object ms) = .error e
    | .ok _ => True

theorem buildEntry_error_of_loadFails {step : FlowStep} (h : r.LoadFails baseDir (.valid step))
    (i : Nat) : ∃ f, r.buildEntry i step baseDir = .error f := by
  simp only [LoadFails] at h
  unfold buildEntry
  dsimp only [bind, pure]
  split
  · rename_i hget
    rw [hget] at h
    split
    · obtain ⟨hh, e, he⟩ := h
      simp only [hh, if_true, he]
      exact ⟨_, rfl⟩
    · exact ⟨_, rfl⟩
  · exact ⟨_, rfl⟩

theorem runStep_of_loadFails {d : StepDecl} (hd : r.LoadFails baseDir d) (s : RunState)
    (i : Nat) : ∃ f, f.stepIndex = some i ∧ f.code ∈ FailureCode.loadTier ∧
      r.runStep flowId baseDir s i d = { s with failures := s.failures ++ [f] } := by
  cases d with
  | malformed name reason =>
    exact ⟨_, rfl, (by decide : FailureCode.invalidFlow ∈ FailureCode.loadTier),
      runStep_malformed_id r flowId baseDir s i name reason⟩
  | valid step =>
    obtain ⟨f, hf⟩ := buildEntry_error_of_loadFails r baseDir hd i
    have hrec := SatisfiesM_Id_eq.mp (buildEntry_record r i step baseDir)
    obtain ⟨hidx, hcode⟩ := hrec.1 f hf
    refine ⟨f, hidx, hcode, ?_⟩
    rw [runStep_valid_id, hf]

theorem run_id (flow : FlowSpec) :
    Id.run (r.run flow baseDir) =
      { flowId := some flow.flowId
        failures := (r.runSteps flow.flowId baseDir {} 0 flow.steps).failures
        trace := (r.runSteps flow.flowId baseDir {} 0 flow.steps).trace
        observers := some (r.runSteps flow.flowId baseDir {} 0 flow.steps).observers } := rfl

theorem runSteps_shares_id (s : RunState) (i : Nat) (ds : List StepDecl) :
    ∃ xs, SharesFrom i ds xs ∧
      (r.runSteps flowId baseDir s i ds).trace = s.trace ++ xs.filterMap Share.entry ∧
      (r.runSteps flowId baseDir s i ds).failures = s.failures ++ xs.flatMap Share.failures :=
  (SatisfiesM_Id_eq.mp (runSteps_shares r flowId baseDir ds s i)).2

end Runner

/-- The run `res'` is the run `res` with a step that did not load at position `k`: the same
observers, the entries of later steps moved one step on, and one load-tier failure at `k`
after the failures of earlier steps, those of later steps moved one step on. -/
structure RunResult.WithSkippedStep (res res' : RunResult) (k : Nat) : Prop where
  observers_eq : res'.observers = res.observers
  trace_shifted : ∃ T₁ T₂, res.trace = T₁ ++ T₂ ∧ (∀ e ∈ T₁, e.stepIndex < k) ∧
    (∀ e ∈ T₂, k ≤ e.stepIndex) ∧ res'.trace = T₁ ++ T₂.map TraceEntry.shift
  failures_shifted : ∃ A B f, res.failures = A ++ B ∧ (∀ x ∈ A, ∃ j < k, x.stepIndex = some j) ∧
    (∀ x ∈ B, ∃ j, k ≤ j ∧ x.stepIndex = some j) ∧ f.stepIndex = some k ∧
    f.code ∈ FailureCode.loadTier ∧ res'.failures = A ++ f :: B.map Failure.shift

/-- Inserting a declaration that does not load at position `k` of a flow leaves the
observers as they were, moves the entries and failures of the later steps one step on, and
adds one load-tier failure at `k` after those of the earlier steps. -/
theorem load_failure_invisible (r : Runner Id) (flow : FlowSpec) (baseDir : String) {k : Nat}
    (hk : k ≤ flow.steps.length) {d : StepDecl} (hd : r.LoadFails baseDir d) :
    (Id.run (r.run flow baseDir)).WithSkippedStep (Id.run (r.run (flow.insertStep k d) baseDir)) k := by
  have hpre : (flow.steps.take k).length = k := List.length_take_of_le hk
  set s₀ := r.runSteps flow.flowId baseDir {} 0 (flow.steps.take k) with hs₀
  set t := r.runSteps flow.flowId baseDir (.fresh s₀.observers) k (flow.steps.drop k) with ht
  obtain ⟨f, hfk, hfcode, hskip⟩ := Runner.runStep_of_loadFails r flow.flowId baseDir hd s₀ k
  have hrun : r.runSteps flow.flowId baseDir {} 0 flow.steps = t.after s₀ := by
    conv_lhs => rw [← List.take_append_drop k flow.steps]
    rw [Runner.runSteps_append, hpre, Nat.zero_add, Runner.runSteps_frame]
  have hrun' : r.runSteps flow.flowId baseDir {} 0 (flow.insertStep k d).steps =
      t.shift.after { s₀ with failures := s₀.failures ++ [f] } := by
    show r.runSteps flow.flowId baseDir {} 0 (flow.steps.take k ++ d :: flow.steps.drop k) = _
    rw [Runner.runSteps_append, hpre, Nat.zero_add]
    show r.runSteps flow.flowId baseDir (r.runStep flow.flowId baseDir s₀ k d) (k + 1) _ = _
    rw [hskip, Runner.runSteps_frame, Runner.runSteps_shift]
  obtain ⟨xs, hxs, htr₀, hfl₀⟩ := Runner.runSteps_shares_id r flow.flowId baseDir {} 0 (flow.steps.take k)
  obtain ⟨ys, hys, htr, hfl⟩ := Runner.runSteps_shares_id r flow.flowId baseDir (.fresh s₀.observers) k
    (flow.steps.drop k)
  rw [← hs₀] at htr₀ hfl₀
  rw [← ht] at htr hfl
  simp only [RunState.fresh, List.nil_append] at htr₀ hfl₀ htr hfl
  refine ⟨?_, ⟨s₀.trace, t.trace, ?_, fun e he => ?_, fun e he => ?_, ?_⟩,
    ⟨s₀.failures, t.failures, f, ?_, fun x hx => ?_, fun x hx => ?_, hfk, hfcode, ?_⟩⟩
  · simp [Runner.run_id, hrun, hrun', RunState.after, RunState.shift]
  · simp [Runner.run_id, hrun, RunState.after]
  · rw [htr₀] at he
    have := hxs.entry_lt he
    omega
  · rw [htr] at he
    exact (hys.entry_mem he).1
  · simp [Runner.run_id, hrun', RunState.after, RunState.shift]
  · simp [Runner.run_id, hrun, RunState.after]
  · rw [hfl₀] at hx
    obtain ⟨j, hj, -, hlt⟩ := hxs.failure_mem hx
    exact ⟨j, by omega, hj⟩
  · rw [hfl] at hx
    obtain ⟨j, hj, hle, -⟩ := hys.failure_mem hx
    exact ⟨j, hle, hj⟩
  · simp [Runner.run_id, hrun', RunState.after, RunState.shift]

/-- A malformed declaration between a consent and a commit, read from a store holding both
capsules. -/
theorem load_failure_invisible_between_consent_and_commit :
    1 ≤ consentCommitFlow.steps.length ∧
    ({ store := consentCommitStore.toStore } : Runner Id).LoadFails ""
      (.malformed (some "typo") "missing field capsule_path") ∧
    (Id.run (({ store := consentCommitStore.toStore } : Runner Id).run consentCommitFlow
      "")).WithSkippedStep
      (Id.run (({ store := consentCommitStore.toStore } : Runner Id).run
        (consentCommitFlow.insertStep 1 (.malformed (some "typo") "missing field capsule_path"))
        "")) 1 :=
  ⟨by decide, trivial, load_failure_invisible _ _ _ (by decide) trivial⟩

end CapsuleFlow
