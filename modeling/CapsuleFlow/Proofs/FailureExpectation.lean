import CapsuleFlow.Proofs.SkippedSteps

/-!
# What a step's expectation changes

A step may declare that it expects to fail, with a reason to report when it does not. The
flag turns the step's verdict around and nothing else. Two flows that differ only in what
step `i` expects have runs with the same trace and the same observers, and the same failures
at every other step. At step `i` they have the same load failure, or the same type and
observer checks followed by the verdict of `enforce` as each expectation reports it
(`expectation_changes_only_verdict`).

The runs read a store that answers at once (`Runner Id`), as in `SkippedSteps`: a step
appends to what came before, so the runs agree up to step `i`, and from step `i` on they
start from the same observers. A step that does not load never reports an expected failure
that did not come; this holds of every run (`RunResult.Structured.notTriggeredTraced`).
-/

namespace CapsuleFlow

/-- The step with another expectation: whether it must fail, and why when it does not. -/
def FlowStep.expecting (step : FlowStep) (fail : Bool) (reason : Option String) : FlowStep :=
  { step with expectFailure := fail, failureReason := reason }

/-- What step `i` reports of its verdict `v`: the violations as they are when it expects no
failure; nothing when it expects one and there is one; and when it expects one and there is
none, one `EXPECTED_FAILURE_NOT_TRIGGERED` with its reason or the default text. -/
inductive VerdictReport (i : Nat) (step : FlowStep) (v : List Failure) : List Failure → Prop
  | plain : step.expectFailure = false → VerdictReport i step v v
  | swallowed : step.expectFailure = true → v ≠ [] → VerdictReport i step v []
  | notTriggered : step.expectFailure = true → v = [] →
      VerdictReport i step v [Failure.atStep i step.name .expectedFailureNotTriggered
        (step.failureReason.getD "Expected failure did not occur")]

theorem applyExpectation_report (i : Nat) (step : FlowStep) (v : List Failure) :
    VerdictReport i step v (applyExpectation i step v) := by
  unfold applyExpectation
  cases h : step.expectFailure with
  | false => exact .plain h
  | true =>
    cases v with
    | nil => exact .notTriggered h rfl
    | cons f fs => exact .swallowed h (List.cons_ne_nil f fs)

/-- The failures a run reports at step `j`, in the order reported. -/
def RunResult.failuresAt (res : RunResult) (j : Nat) : List Failure :=
  res.failures.filter (·.stepIndex == some j)

/-- Every `EXPECTED_FAILURE_NOT_TRIGGERED` of a run is at a step of its trace. -/
def RunResult.NotTriggeredTraced (res : RunResult) : Prop :=
  ∀ f ∈ res.failures, f.code = .expectedFailureNotTriggered →
    ∃ e ∈ res.trace, f.stepIndex = some e.stepIndex

/-- The failures `fs₁` and `fs₂` of step `i` in two runs with the trace `trace`, where the
step expects as `step₁` in the first and as `step₂` in the second: the same load-tier failure
of a step the trace lacks, or the same checks of the type and the observers, each followed by
the step's verdict on the observers after it as its expectation reports it. -/
inductive VerdictsAt (i : Nat) (step₁ step₂ : FlowStep) (trace : List TraceEntry) :
    List Failure → List Failure → Prop
  | skipped (f : Failure) (code : f.code ∈ FailureCode.loadTier)
      (untraced : ∀ e ∈ trace, e.stepIndex ≠ i) : VerdictsAt i step₁ step₂ trace [f] [f]
  | traced (pre post : List TraceEntry) (e : TraceEntry) (checks r₁ r₂ : List Failure)
      (split : trace = pre ++ e :: post) (index : e.stepIndex = i)
      (checked : ∀ f ∈ checks, f.code = .unexpectedCapsuleType ∨ f.code ∈ FailureCode.observerCodes)
      (report₁ : VerdictReport i step₁ (enforce e (Observers.replay (pre ++ [e]))) r₁)
      (report₂ : VerdictReport i step₂ (enforce e (Observers.replay (pre ++ [e]))) r₂) :
      VerdictsAt i step₁ step₂ trace (checks ++ r₁) (checks ++ r₂)

/-- Runs `res₁` and `res₂` of flows that differ only in what step `i` expects (as `step₁` in
the first and `step₂` in the second) agree in everything but that step's verdict. -/
structure RunResult.VerdictsApart (res₁ res₂ : RunResult) (i : Nat) (step₁ step₂ : FlowStep) :
    Prop where
  trace_eq : res₂.trace = res₁.trace
  observers_eq : res₂.observers = res₁.observers
  elsewhere : ∀ j ≠ i, res₂.failuresAt j = res₁.failuresAt j
  at_step : VerdictsAt i step₁ step₂ res₁.trace (res₁.failuresAt i) (res₂.failuresAt i)

/-! ## The step that expects -/

namespace Runner

variable (r : Runner Id) (flowId baseDir : String)

theorem buildEntry_expecting (i : Nat) (step : FlowStep) (fail : Bool) (reason : Option String) :
    r.buildEntry i (step.expecting fail reason) baseDir = r.buildEntry i step baseDir := rfl

theorem typeMismatch_expecting (i : Nat) (step : FlowStep) (e : TraceEntry) (fail : Bool)
    (reason : Option String) :
    typeMismatch i (step.expecting fail reason) e = typeMismatch i step e := rfl

theorem runSteps_around (pre post : List StepDecl) (d : StepDecl) :
    r.runSteps flowId baseDir {} 0 (pre ++ d :: post) =
      let s := r.runStep flowId baseDir (r.runSteps flowId baseDir {} 0 pre) pre.length d
      (r.runSteps flowId baseDir (.fresh s.observers) (pre.length + 1) post).after s := by
  rw [runSteps_append, Nat.zero_add]
  exact runSteps_frame r flowId baseDir post _ _

theorem failures_before (pre : List StepDecl) :
    ∀ f ∈ (r.runSteps flowId baseDir {} 0 pre).failures, ∃ j < pre.length, f.stepIndex = some j := by
  intro f hf
  obtain ⟨xs, hxs, -, hfl⟩ := runSteps_shares_id r flowId baseDir {} 0 pre
  rw [hfl, List.nil_append] at hf
  obtain ⟨j, hj, -, hlt⟩ := hxs.failure_mem hf
  exact ⟨j, by omega, hj⟩

theorem entries_before (pre : List StepDecl) :
    ∀ e ∈ (r.runSteps flowId baseDir {} 0 pre).trace, e.stepIndex < pre.length := by
  intro e he
  obtain ⟨xs, hxs, htr, -⟩ := runSteps_shares_id r flowId baseDir {} 0 pre
  rw [htr, List.nil_append] at he
  simpa using hxs.entry_lt he

theorem failures_after (o : Observers) (i : Nat) (post : List StepDecl) :
    ∀ f ∈ (r.runSteps flowId baseDir (.fresh o) (i + 1) post).failures,
      ∃ j, i < j ∧ f.stepIndex = some j := by
  intro f hf
  obtain ⟨xs, hxs, -, hfl⟩ := runSteps_shares_id r flowId baseDir (.fresh o) (i + 1) post
  rw [hfl] at hf
  simp only [RunState.fresh, List.nil_append] at hf
  obtain ⟨j, hj, hle, -⟩ := hxs.failure_mem hf
  exact ⟨j, by omega, hj⟩

theorem entries_after (o : Observers) (i : Nat) (post : List StepDecl) :
    ∀ e ∈ (r.runSteps flowId baseDir (.fresh o) (i + 1) post).trace, i < e.stepIndex := by
  intro e he
  obtain ⟨xs, hxs, htr, -⟩ := runSteps_shares_id r flowId baseDir (.fresh o) (i + 1) post
  rw [htr] at he
  simp only [RunState.fresh, List.nil_append] at he
  have := (hxs.entry_mem he).1
  omega

theorem observers_before (pre : List StepDecl) :
    (r.runSteps flowId baseDir {} 0 pre).observers =
      Observers.replay (r.runSteps flowId baseDir {} 0 pre).trace :=
  ((SatisfiesM_Id_eq.mp (runSteps_shares r flowId baseDir pre {} 0)).1
    RunState.coherent_empty).observers_eq

/-- The result of a run whose steps before step `i` left the state `s`, whose step `i` is
declared as `d` and whose later steps are `post`. -/
def runFrom (s : RunState) (i : Nat) (d : StepDecl) (post : List StepDecl) : RunResult :=
  let s' := r.runStep flowId baseDir s i d
  let t := r.runSteps flowId baseDir (.fresh s'.observers) (i + 1) post
  { flowId := some flowId, failures := s'.failures ++ t.failures, trace := s'.trace ++ t.trace
    observers := some t.observers }

theorem run_around (flow : FlowSpec) {pre post : List StepDecl} {d : StepDecl}
    (h : flow.steps = pre ++ d :: post) :
    Id.run (r.run flow baseDir) =
      r.runFrom flow.flowId baseDir (r.runSteps flow.flowId baseDir {} 0 pre) pre.length d post := by
  rw [run_id, h, runSteps_around]
  rfl

theorem runStep_of_error {s : RunState} {i : Nat} {step : FlowStep} {f : Failure}
    (hb : r.buildEntry i step baseDir = .error f) :
    r.runStep flowId baseDir s i (.valid step) = { s with failures := s.failures ++ [f] } := by
  rw [runStep_valid_id, hb]

theorem runStep_of_entry {s : RunState} {i : Nat} {step : FlowStep} {e : TraceEntry}
    {c : Json.Value} (hb : r.buildEntry i step baseDir = .ok (e, c)) :
    r.runStep flowId baseDir s i (.valid step) =
      { observers := (s.observers.observe e).1, trace := s.trace ++ [e]
        failures := s.failures ++ ((typeMismatch i step e).toList ++ (s.observers.observe e).2 ++
          applyExpectation i step (enforce e (s.observers.observe e).1)) } := by
  rw [runStep_valid_id, hb]
  simp only [List.append_assoc]

section Expecting

variable {s : RunState} {i : Nat} {step : FlowStep} {post : List StepDecl} (fail : Bool)
  (reason : Option String)

theorem verdictsApart_of_error {f : Failure} (hb : r.buildEntry i step baseDir = .error f)
    (hA : ∀ g ∈ s.failures, ∃ j < i, g.stepIndex = some j)
    (hAe : ∀ e ∈ s.trace, e.stepIndex < i) :
    (r.runFrom flowId baseDir s i (.valid step) post).VerdictsApart
      (r.runFrom flowId baseDir s i (.valid (step.expecting fail reason)) post) i step
      (step.expecting fail reason) := by
  obtain ⟨hfi, hcode⟩ := (SatisfiesM_Id_eq.mp (buildEntry_record r i step baseDir)).1 f hb
  have hb' : r.buildEntry i (step.expecting fail reason) baseDir = .error f := by
    rw [buildEntry_expecting, hb]
  have hB := failures_after r flowId baseDir s.observers i post
  have hBe := entries_after r flowId baseDir s.observers i post
  simp only [runFrom, runStep_of_error r flowId baseDir hb, runStep_of_error r flowId baseDir hb']
  refine ⟨rfl, rfl, fun j _ => rfl, ?_⟩
  have hX : ∀ g ∈ [f], g.stepIndex = some i := fun g hg => by
    rw [List.mem_singleton.mp hg]
    exact hfi
  simp only [RunResult.failuresAt, filter_at_split hA hX hB]
  refine .skipped f hcode fun e he => ?_
  rcases List.mem_append.mp he with he | he
  · exact Nat.ne_of_lt (hAe e he)
  · exact Nat.ne_of_gt (hBe e he)

theorem verdictsApart_of_entry {e : TraceEntry} {c : Json.Value}
    (hb : r.buildEntry i step baseDir = .ok (e, c))
    (hA : ∀ g ∈ s.failures, ∃ j < i, g.stepIndex = some j)
    (hobs : s.observers = Observers.replay s.trace) :
    (r.runFrom flowId baseDir s i (.valid step) post).VerdictsApart
      (r.runFrom flowId baseDir s i (.valid (step.expecting fail reason)) post) i step
      (step.expecting fail reason) := by
  obtain ⟨-, hei, -⟩ := (SatisfiesM_Id_eq.mp (buildEntry_record r i step baseDir)).2 e c hb
  have hb' : r.buildEntry i (step.expecting fail reason) baseDir = .ok (e, c) := by
    rw [buildEntry_expecting, hb]
  have hchecks := @checks_at _ step _ s.observers hei
  have hat : ∀ st : FlowStep, ∀ f ∈ (typeMismatch i step e).toList ++ (s.observers.observe e).2 ++
      applyExpectation i st (enforce e (s.observers.observe e).1), f.stepIndex = some i := by
    intro st f hf
    rcases List.mem_append.mp hf with hf | hf
    · exact (hchecks f hf).1
    · exact verdict_at _ hei f hf
  have hB := failures_after r flowId baseDir (s.observers.observe e).1 i post
  have hreplay : Observers.replay (s.trace ++ [e]) = (s.observers.observe e).1 := by
    rw [Observers.replay_append_singleton, ← hobs]
  simp only [runFrom, runStep_of_entry r flowId baseDir hb, runStep_of_entry r flowId baseDir hb',
    typeMismatch_expecting]
  refine ⟨rfl, rfl, fun j hj => ?_, ?_⟩
  · simp only [RunResult.failuresAt]
    rw [filter_ne_split hj (hat step), filter_ne_split hj (hat (step.expecting fail reason))]
  · simp only [RunResult.failuresAt]
    rw [filter_at_split hA (hat step) hB, filter_at_split hA (hat (step.expecting fail reason)) hB]
    refine .traced s.trace (r.runSteps flowId baseDir (.fresh (s.observers.observe e).1) (i + 1) post).trace
      e _ _ _ (by simp) hei (fun f hf => (hchecks f hf).2) ?_ ?_
    · rw [hreplay]
      exact applyExpectation_report i step _
    · rw [hreplay]
      exact applyExpectation_report i _ _

end Expecting

end Runner

/-! ## Every run -/

/-- A step that does not load reports one load-tier failure and nothing else, so an expected
failure that did not come is always at a traced step. -/
theorem RunResult.Structured.notTriggeredTraced {res : RunResult} {steps : List StepDecl}
    (h : res.Structured steps) : res.NotTriggeredTraced := by
  intro f hf hcode
  obtain ⟨j, hj, hidx⟩ := h.failure_declared f hf
  have hat : f ∈ res.failures.filter (·.stepIndex == some j) := List.mem_filter.mpr ⟨hf, by simp [hidx]⟩
  rcases h.traced_or_skipped j hj with ⟨e, he, -⟩ | ⟨-, f', hf', hload⟩
  · have hmem : e ∈ res.trace.filter (·.stepIndex == j) := by simp [he]
    obtain ⟨hetr, hej⟩ := List.mem_filter.mp hmem
    exact ⟨e, hetr, by rw [hidx, (beq_iff_eq.mp hej)]⟩
  · rw [hf', List.mem_singleton] at hat
    subst hat
    rw [hcode] at hload
    exact absurd hload (by decide)

/-! ## Two runs -/

/-- Two flows that differ only in what step `i` expects give runs that agree in everything
but the verdict of step `i`: the same trace and observers, the same failures at every other
step, and at step `i` the same load failure or the same checks followed by the verdict as
each expectation reports it. In neither run does a step that did not load report an expected
failure that did not come. -/
theorem expectation_changes_only_verdict (r : Runner Id) (flow : FlowSpec) (baseDir : String)
    {i : Nat} {step : FlowStep} (hi : flow.steps[i]? = some (.valid step)) (fail : Bool)
    (reason : Option String) :
    (Id.run (r.run flow baseDir)).VerdictsApart
        (Id.run (r.run { flow with steps := flow.steps.set i (.valid (step.expecting fail reason)) }
          baseDir)) i step (step.expecting fail reason) ∧
      (Id.run (r.run flow baseDir)).NotTriggeredTraced ∧
      (Id.run (r.run { flow with steps := flow.steps.set i (.valid (step.expecting fail reason)) }
        baseDir)).NotTriggeredTraced := by
  refine ⟨?_, (SatisfiesM_Id_eq.mp (Runner.run_structured r _ baseDir)).notTriggeredTraced,
    (SatisfiesM_Id_eq.mp (Runner.run_structured r _ baseDir)).notTriggeredTraced⟩
  obtain ⟨hlt, hget⟩ := List.getElem?_eq_some_iff.mp hi
  set pre := flow.steps.take i
  set post := flow.steps.drop (i + 1)
  have hpre : pre.length = i := List.length_take_of_le (by omega)
  have hsplit : flow.steps = pre ++ .valid step :: post := by
    rw [← List.take_append_drop i flow.steps, List.drop_eq_getElem_cons hlt, hget]
  have hset : ({ flow with steps := flow.steps.set i (.valid (step.expecting fail reason)) } : FlowSpec).steps =
      pre ++ .valid (step.expecting fail reason) :: post := by
    rw [List.set_eq_take_append_cons_drop, if_pos hlt]
  rw [Runner.run_around r baseDir flow hsplit, Runner.run_around r baseDir _ hset, hpre]
  have hA := Runner.failures_before r flow.flowId baseDir pre
  have hAe := Runner.entries_before r flow.flowId baseDir pre
  rw [hpre] at hA hAe
  cases hb : r.buildEntry i step baseDir with
  | error f => exact Runner.verdictsApart_of_error r _ baseDir fail reason hb hA hAe
  | ok p =>
    obtain ⟨e, c⟩ := p
    exact Runner.verdictsApart_of_entry r _ baseDir fail reason hb hA
      (Runner.observers_before r _ baseDir pre)

/-- A commit after a consent, flagged to fail with a reason of its own, read from a store
holding both capsules. -/
theorem expectation_changes_only_verdict_of_commit :
    consentCommitFlow.steps[1]? = some (.valid { name := "commit", capsulePath := "commit.json" }) ∧
    (Id.run (({ store := consentCommitStore.toStore } : Runner Id).run consentCommitFlow "")).VerdictsApart
      (Id.run (({ store := consentCommitStore.toStore } : Runner Id).run
        { consentCommitFlow with
          steps := consentCommitFlow.steps.set 1
            (.valid (FlowStep.expecting { name := "commit", capsulePath := "commit.json" } true
              (some "commit cites no active consent"))) } ""))
      1 { name := "commit", capsulePath := "commit.json" }
      (FlowStep.expecting { name := "commit", capsulePath := "commit.json" } true
        (some "commit cites no active consent")) ∧
    (Id.run (({ store := consentCommitStore.toStore } : Runner Id).run consentCommitFlow
      "")).NotTriggeredTraced ∧
    (Id.run (({ store := consentCommitStore.toStore } : Runner Id).run
        { consentCommitFlow with
          steps := consentCommitFlow.steps.set 1
            (.valid (FlowStep.expecting { name := "commit", capsulePath := "commit.json" } true
              (some "commit cites no active consent"))) } "")).NotTriggeredTraced :=
  ⟨rfl, expectation_changes_only_verdict _ _ _ rfl true (some "commit cites no active consent")⟩

end CapsuleFlow
