import CapsuleFlow.Proofs.TraceReplay

/-!
# The structure of a run's result

Every step of a run adds a share to the result (`Runner.Share`): either one failure of the
load tier (a malformed declaration, a capsule that could not be read, is no object or has no
canonical form) and no entry, or one entry of the step together with at most a type
mismatch, at most one failure raised by the observers and at most one verdict, in this order
(`Runner.StepShare`). `Runner.StepRecord` says everything one step does to the run state,
and a run is its steps' shares laid end to end (`Runner.SharesFrom`, `runSteps_shares`).

From that follows the shape of every finished run (`RunResult.Structured`): entries in
strictly increasing step order, each named as its declaration; failures all at a step, in
nondecreasing step order; for each step either exactly one entry or exactly one load-tier
failure; the failures of a traced step in the order of its checks; and observers that are
the trace folded into a fresh set (`run_structured`).
-/

namespace CapsuleFlow

namespace FailureCode

/-- The codes of a step that does not enter the trace. -/
def loadTier : List FailureCode := [.invalidFlow, .fileError, .invalidCapsule]

/-- The codes the observers raise. -/
def observerCodes : List FailureCode :=
  [.missingAuthority, .authorityRevoked, .invalidAuthority, .unknownPolicy]

/-- The codes of a step's verdict: a rule it broke, or an expected failure that did not
come. -/
def verdictCodes : List FailureCode :=
  [.missingConsent, .invalidConsent, .scopeViolation, .expectedFailureNotTriggered]

theorem checks_not_loadTier :
    ∀ c ∈ [unexpectedCapsuleType] ++ observerCodes ++ verdictCodes, c ∉ loadTier := by
  decide

end FailureCode

/-- Codes in the order of a traced step's checks: at most a type mismatch, then at most one
observer code, then at most one verdict code. -/
def TracedCodes (cs : List FailureCode) : Prop :=
  ∃ a b c : Option FailureCode, (∀ x ∈ a, x = .unexpectedCapsuleType) ∧
    (∀ x ∈ b, x ∈ FailureCode.observerCodes) ∧ (∀ x ∈ c, x ∈ FailureCode.verdictCodes) ∧
    cs = a.toList ++ b.toList ++ c.toList

/-- At most one failure, at step `i`, with a code among `codes`. -/
def AtMostOneAt (i : Nat) (codes : List FailureCode) (fs : List Failure) : Prop :=
  ∃ o : Option Failure, fs = o.toList ∧ ∀ f ∈ o, f.stepIndex = some i ∧ f.code ∈ codes

theorem AtMostOneAt.index {i : Nat} {codes : List FailureCode} {fs : List Failure}
    (h : AtMostOneAt i codes fs) {f : Failure} (hf : f ∈ fs) : f.stepIndex = some i := by
  obtain ⟨o, rfl, ho⟩ := h
  exact (ho f (Option.mem_toList.mp hf)).1

theorem AtMostOneAt.code {i : Nat} {codes : List FailureCode} {fs : List Failure}
    (h : AtMostOneAt i codes fs) {f : Failure} (hf : f ∈ fs) : f.code ∈ codes := by
  obtain ⟨o, rfl, ho⟩ := h
  exact (ho f (Option.mem_toList.mp hf)).2

theorem AtMostOneAt.codes {i : Nat} {codes : List FailureCode} {fs : List Failure}
    (h : AtMostOneAt i codes fs) :
    ∃ c : Option FailureCode, (∀ x ∈ c, x ∈ codes) ∧ fs.map (·.code) = c.toList := by
  obtain ⟨o, rfl, ho⟩ := h
  refine ⟨o.map (·.code), fun x hx => ?_, by cases o <;> rfl⟩
  obtain ⟨f, hf, rfl⟩ := Option.mem_map.mp hx
  exact (ho f hf).2

/-! ## The failures of one traced step -/

section Raised

variable {i : Nat} {step : FlowStep} {e : TraceEntry}

theorem typeMismatch_atMostOne : AtMostOneAt i [.unexpectedCapsuleType] (Runner.typeMismatch i step e).toList := by
  refine ⟨Runner.typeMismatch i step e, rfl, fun f hf => ?_⟩
  unfold Runner.typeMismatch at hf
  cases hx : step.expectCapsuleType with
  | none => simp [hx] at hf
  | some x =>
    simp only [hx, Option.bind_some] at hf
    split at hf
    · cases hf
    · cases hf
      exact ⟨rfl, List.mem_singleton_self _⟩

theorem PolicyView.observe_atMostOne (v : PolicyView) :
    AtMostOneAt e.stepIndex FailureCode.observerCodes (v.observe e).2 := by
  unfold PolicyView.observe
  split
  · exact ⟨none, rfl, by simp⟩
  · have hraised : ∀ (c : FailureCode) (msg : String), c ∈ FailureCode.observerCodes →
        AtMostOneAt e.stepIndex FailureCode.observerCodes [e.failure c msg] :=
      fun c msg hc => ⟨some (e.failure c msg), rfl, fun f hf => by
        cases hf
        exact ⟨rfl, hc⟩⟩
    cases e.event with
    | consentAssertion sc => cases e.capsuleHash <;> exact ⟨none, rfl, by simp⟩
    | policyAssertion id a =>
      simp only
      unfold PolicyView.assertPolicy
      split
      · exact hraised _ _ (by decide)
      · exact hraised _ _ (by decide)
      · split
        · exact hraised _ _ (by decide)
        · split
          · exact hraised _ _ (by decide)
          · split <;> exact ⟨none, rfl, by simp⟩
    | policyRevocation a id =>
      simp only
      unfold PolicyView.revokePolicy
      split
      · split
        · exact hraised _ _ (by decide)
        · split
          · exact hraised _ _ (by decide)
          · exact ⟨none, rfl, by simp⟩
      · exact hraised _ _ (by decide)
    | _ => exact ⟨none, rfl, by simp⟩

theorem enforce_atMostOne (o : Observers) :
    AtMostOneAt e.stepIndex FailureCode.verdictCodes (enforce e o) := by
  have hverdict : ∀ (c : FailureCode) (msg : String), c ∈ FailureCode.verdictCodes →
      AtMostOneAt e.stepIndex FailureCode.verdictCodes [e.failure c msg] :=
    fun c msg hc => ⟨some (e.failure c msg), rfl, fun f hf => by
      cases hf
      exact ⟨rfl, hc⟩⟩
  unfold enforce
  split
  · exact ⟨none, rfl, by simp⟩
  · split
    · split
      · exact hverdict _ _ (by decide)
      · split
        · exact hverdict _ _ (by decide)
        · split
          · exact ⟨none, rfl, by simp⟩
          · exact hverdict _ _ (by decide)
    · exact ⟨none, rfl, by simp⟩

theorem applyExpectation_atMostOne {violations : List Failure}
    (h : AtMostOneAt i FailureCode.verdictCodes violations) :
    AtMostOneAt i FailureCode.verdictCodes (applyExpectation i step violations) := by
  unfold applyExpectation
  split
  · exact h
  · split
    · exact ⟨some _, rfl, fun f hf => by
        cases hf
        exact ⟨rfl, (by decide : FailureCode.expectedFailureNotTriggered ∈ FailureCode.verdictCodes)⟩⟩
    · exact ⟨none, rfl, by simp⟩

theorem checks_at (o : Observers) (hei : e.stepIndex = i) :
    ∀ f ∈ (Runner.typeMismatch i step e).toList ++ (o.observe e).2, f.stepIndex = some i ∧
      (f.code = .unexpectedCapsuleType ∨ f.code ∈ FailureCode.observerCodes) := by
  have hraised : AtMostOneAt i FailureCode.observerCodes (o.observe e).2 :=
    hei ▸ PolicyView.observe_atMostOne _
  intro f hf
  rcases List.mem_append.mp hf with hf | hf
  · exact ⟨typeMismatch_atMostOne.index hf, .inl (List.mem_singleton.mp (typeMismatch_atMostOne.code hf))⟩
  · exact ⟨hraised.index hf, .inr (hraised.code hf)⟩

theorem verdict_at (o : Observers) (hei : e.stepIndex = i) :
    ∀ f ∈ applyExpectation i step (enforce e o), f.stepIndex = some i :=
  fun _ hf => (applyExpectation_atMostOne (hei ▸ enforce_atMostOne _)).index hf

end Raised

namespace Runner

/-! ## What one step does -/

/-- What one step adds to a run: an entry, if it entered the trace, and its failures. -/
structure Share where
  entry : Option TraceEntry
  failures : List Failure

/-- The share of step `i`, declared as `d`: one load-tier failure and no entry, or an entry
of the step with a type mismatch, observer failure and verdict, each at most once. -/
inductive StepShare (i : Nat) (d : StepDecl) : Share → Prop
  | skipped (f : Failure) (index : f.stepIndex = some i) (code : f.code ∈ FailureCode.loadTier) :
      StepShare i d ⟨none, [f]⟩
  | traced (step : FlowStep) (e : TraceEntry) (mismatch raised verdict : List Failure)
      (hd : d = .valid step) (index : e.stepIndex = i) (name : e.stepName = step.name)
      (hm : AtMostOneAt i [.unexpectedCapsuleType] mismatch)
      (hr : AtMostOneAt i FailureCode.observerCodes raised)
      (hv : AtMostOneAt i FailureCode.verdictCodes verdict) :
      StepShare i d ⟨some e, mismatch ++ raised ++ verdict⟩

theorem StepShare.entry_spec {i : Nat} {d : StepDecl} {x : Share} (h : StepShare i d x)
    {e : TraceEntry} (he : x.entry = some e) :
    e.stepIndex = i ∧ ∃ step, d = .valid step ∧ e.stepName = step.name := by
  cases h with
  | skipped => cases he
  | traced step e' _ _ _ hd index name =>
    cases he
    exact ⟨index, step, hd, name⟩

theorem StepShare.failure_index {i : Nat} {d : StepDecl} {x : Share} (h : StepShare i d x)
    {f : Failure} (hf : f ∈ x.failures) : f.stepIndex = some i := by
  cases h with
  | skipped f' index => rw [List.mem_singleton.mp hf]; exact index
  | traced step e mismatch raised verdict _ _ _ hm hr hv =>
    rcases List.mem_append.mp hf with hf | hf
    · rcases List.mem_append.mp hf with hf | hf
      · exact hm.index hf
      · exact hr.index hf
    · exact hv.index hf

/-- Everything step `i`, declared as `d`, can do to the run state: report the one load-tier
failure that kept it from building an entry, or build a hash-consistent entry of the step,
fold it into the observers, and report a type mismatch, what the observers raised, and the
verdict of `enforce` on the observers after the step, as the step's expectation has it. -/
inductive StepRecord (i : Nat) (d : StepDecl) (s : RunState) : RunState → Prop
  | skipped (f : Failure) (index : f.stepIndex = some i) (code : f.code ∈ FailureCode.loadTier) :
      StepRecord i d s { s with failures := s.failures ++ [f] }
  | traced (step : FlowStep) (e : TraceEntry) (hd : d = .valid step)
      (consistent : e.HashConsistent) (index : e.stepIndex = i) (name : e.stepName = step.name) :
      StepRecord i d s
        { observers := (s.observers.observe e).1, trace := s.trace ++ [e]
          failures := s.failures ++ ((typeMismatch i step e).toList ++ (s.observers.observe e).2 ++
            applyExpectation i step (enforce e (s.observers.observe e).1)) }

theorem StepRecord.outcome {i : Nat} {d : StepDecl} {s s' : RunState} (h : StepRecord i d s s') :
    StepOutcome i d s s' := by
  cases h with
  | skipped f => exact .reported f
  | traced step e hd consistent index => exact .traced step e hd consistent index

theorem StepRecord.share {i : Nat} {d : StepDecl} {s s' : RunState} (h : StepRecord i d s s') :
    ∃ x, StepShare i d x ∧ s'.trace = s.trace ++ x.entry.toList ∧
      s'.failures = s.failures ++ x.failures := by
  cases h with
  | skipped f index code => exact ⟨_, .skipped f index code, by simp, rfl⟩
  | traced step e hd consistent index name =>
    refine ⟨_, .traced step e _ _ _ hd index name typeMismatch_atMostOne ?_ ?_, rfl, rfl⟩
    · exact index ▸ PolicyView.observe_atMostOne _
    · exact applyExpectation_atMostOne (index ▸ enforce_atMostOne _)

variable {m : Type → Type} [Monad m] [LawfulMonad m] [MonadLog m]

theorem buildEntry_record (r : Runner m) (i : Nat) (step : FlowStep) (baseDir : String) :
    SatisfiesM (fun x => (∀ f, x = .error f → f.stepIndex = some i ∧ f.code ∈ FailureCode.loadTier) ∧
        ∀ e c, x = .ok (e, c) → e.HashConsistent ∧ e.stepIndex = i ∧ e.stepName = step.name)
      (r.buildEntry i step baseDir) := by
  have hfail : ∀ (c : FailureCode) (msg : String), c ∈ FailureCode.loadTier →
      ∀ f, Except.error (Failure.atStep i step.name c msg) = (Except.error f : Except Failure (TraceEntry × Json.Value)) →
        f.stepIndex = some i ∧ f.code ∈ FailureCode.loadTier := by
    intro c msg hc f hf
    cases hf
    exact ⟨rfl, hc⟩
  unfold buildEntry
  refine SatisfiesM.bind_pre (SatisfiesM.of_true fun path => ?_)
  refine SatisfiesM.bind_pre (SatisfiesM.of_true fun doc => ?_)
  split
  · simp only [pure_bind]
    split
    · split
      · rename_i f heq
        refine SatisfiesM.pure ⟨fun f' hf' => ?_, fun _ _ h => by cases h⟩
        cases hf'
        split at heq
        · split at heq
          · cases heq
            exact ⟨rfl, (by decide : FailureCode.invalidCapsule ∈ FailureCode.loadTier)⟩
          · split at heq
            · cases heq
              exact ⟨rfl, (by decide : FailureCode.invalidCapsule ∈ FailureCode.loadTier)⟩
            · cases heq
        · cases heq
      · rename_i heq
        refine satisfiesM_bind_const _ (SatisfiesM.pure ⟨(fun _ h => by cases h), ?_⟩)
        simp only [Except.ok.injEq, Prod.mk.injEq, and_imp]
        rintro e c rfl -
        refine ⟨?_, rfl, rfl⟩
        split at heq
        · split at heq
          · cases heq
          · split at heq
            · cases heq
            · cases heq
              rfl
        · cases heq
          rfl
    · exact SatisfiesM.pure ⟨hfail _ _ (by decide), fun _ _ h => by cases h⟩
  · exact SatisfiesM.pure ⟨hfail _ _ (by decide), fun _ _ h => by cases h⟩

theorem runStep_record (r : Runner m) (flowId baseDir : String) (s : RunState) (i : Nat)
    (d : StepDecl) : SatisfiesM (StepRecord i d s) (r.runStep flowId baseDir s i d) := by
  cases d with
  | malformed name reason =>
    exact (report_spec flowId s _).imp fun h =>
      h ▸ .skipped _ rfl (by decide : FailureCode.invalidFlow ∈ FailureCode.loadTier)
  | valid step =>
    refine (buildEntry_record r i step baseDir).bind fun x hx => ?_
    rcases x with f | ⟨e, c⟩
    · obtain ⟨hidx, hcode⟩ := hx.1 f rfl
      exact (report_spec flowId s f).imp fun h => h ▸ .skipped f hidx hcode
    · obtain ⟨hcons, hidx, hname⟩ := hx.2 e c rfl
      refine (reportAll_spec flowId s _).bind fun s₁ h₁ => ?_
      subst h₁
      generalize hobs : s.observers.observe e = p
      obtain ⟨observers, raised⟩ := p
      refine satisfiesM_bind_const _ ((reportAll_spec flowId _ _).bind fun s₂ h₂ => ?_)
      subst h₂
      refine satisfiesM_bind_const _ ((reportAll_spec flowId _ _).bind fun s₃ h₃ => ?_)
      subst h₃
      refine satisfiesM_bind_const _ (SatisfiesM.pure ?_)
      have := StepRecord.traced (d := .valid step) (s := s) step e rfl hcons hidx hname
      simpa [hobs] using this

/-! ## A run as its steps' shares -/

/-- The shares of the steps `ds`, numbered from `i`. -/
inductive SharesFrom : Nat → List StepDecl → List Share → Prop
  | nil (i : Nat) : SharesFrom i [] []
  | cons {i : Nat} {d : StepDecl} {ds : List StepDecl} {x : Share} {xs : List Share} :
      StepShare i d x → SharesFrom (i + 1) ds xs → SharesFrom i (d :: ds) (x :: xs)

/-- A run of steps appends the shares of its steps to the trace and the failures, and from
a coherent state it ends coherent. -/
theorem runSteps_shares (r : Runner m) (flowId baseDir : String) (ds : List StepDecl) :
    ∀ (s : RunState) (i : Nat),
      SatisfiesM (fun s' => (s.Coherent i → s'.Coherent (i + ds.length)) ∧ ∃ xs, SharesFrom i ds xs ∧
          s'.trace = s.trace ++ xs.filterMap Share.entry ∧
          s'.failures = s.failures ++ xs.flatMap Share.failures)
        (r.runSteps flowId baseDir s i ds) := by
  induction ds with
  | nil =>
    intro s i
    exact SatisfiesM.pure ⟨fun hs => by simpa using hs, [], .nil i, by simp, by simp⟩
  | cons d ds ih =>
    intro s i
    refine (runStep_record r flowId baseDir s i d).bind fun s₁ h₁ => ?_
    obtain ⟨x, hx, htrace, hfail⟩ := h₁.share
    refine (ih s₁ (i + 1)).imp fun ⟨hcoh, xs, hxs, htrace', hfail'⟩ => ?_
    refine ⟨fun hs => ?_, x :: xs, .cons hx hxs, ?_, ?_⟩
    · simpa [Nat.add_assoc, Nat.add_comm 1] using hcoh (h₁.outcome.coherent hs)
    · cases hxe : x.entry <;> simp [htrace', htrace, hxe]
    · simp [hfail', hfail]

namespace SharesFrom

variable {i : Nat} {ds : List StepDecl} {xs : List Share}

theorem filterMap_entry_cons (x : Share) (xs : List Share) :
    (x :: xs).filterMap Share.entry = x.entry.toList ++ xs.filterMap Share.entry := by
  cases hx : x.entry <;> simp [hx]

theorem entry_mem (h : SharesFrom i ds xs) {e : TraceEntry} (he : e ∈ xs.filterMap Share.entry) :
    i ≤ e.stepIndex ∧ ∃ step, ds[e.stepIndex - i]? = some (.valid step) ∧ e.stepName = step.name := by
  induction h with
  | nil => simp at he
  | @cons i d ds x xs hx _ ih =>
    rw [filterMap_entry_cons] at he
    rcases List.mem_append.mp he with he | he
    · obtain ⟨hidx, step, rfl, hname⟩ := hx.entry_spec (Option.mem_toList.mp he)
      exact ⟨hidx.ge, step, by simp [hidx], hname⟩
    · obtain ⟨hle, step, hstep, hname⟩ := ih he
      refine ⟨by omega, step, ?_, hname⟩
      have hsub : e.stepIndex - i = e.stepIndex - (i + 1) + 1 := by omega
      rw [hsub, List.getElem?_cons_succ, hstep]

theorem entry_lt (h : SharesFrom i ds xs) {e : TraceEntry} (he : e ∈ xs.filterMap Share.entry) :
    e.stepIndex < i + ds.length := by
  obtain ⟨hle, step, hstep, -⟩ := h.entry_mem he
  have := (List.getElem?_eq_some_iff.mp hstep).1
  omega

theorem failure_mem (h : SharesFrom i ds xs) {f : Failure} (hf : f ∈ xs.flatMap Share.failures) :
    ∃ j, f.stepIndex = some j ∧ i ≤ j ∧ j < i + ds.length := by
  induction h with
  | nil => simp at hf
  | @cons i d ds x xs hx _ ih =>
    rw [List.flatMap_cons] at hf
    rcases List.mem_append.mp hf with hf | hf
    · exact ⟨i, hx.failure_index hf, le_rfl, by simp⟩
    · obtain ⟨j, hj, hle, hlt⟩ := ih hf
      exact ⟨j, hj, by omega, by simp; omega⟩

theorem entries_ordered (h : SharesFrom i ds xs) :
    (xs.filterMap Share.entry).Pairwise fun a b => a.stepIndex < b.stepIndex := by
  induction h with
  | nil => exact List.Pairwise.nil
  | @cons i d ds x xs hx hxs ih =>
    rw [filterMap_entry_cons]
    refine List.pairwise_append.mpr ⟨?_, ih, fun a ha b hb => ?_⟩
    · cases x.entry <;> simp
    · rw [(hx.entry_spec (Option.mem_toList.mp ha)).1]
      exact (hxs.entry_mem hb).1

theorem failures_ordered (h : SharesFrom i ds xs) :
    ((xs.flatMap Share.failures).filterMap (·.stepIndex)).Pairwise (· ≤ ·) := by
  induction h with
  | nil => exact List.Pairwise.nil
  | @cons i d ds x xs hx hxs ih =>
    rw [List.flatMap_cons, List.filterMap_append]
    have hown : ∀ j ∈ x.failures.filterMap (·.stepIndex), j = i := by
      intro j hj
      obtain ⟨f, hf, hfj⟩ := List.mem_filterMap.mp hj
      rw [hx.failure_index hf] at hfj
      exact (Option.some_inj.mp hfj).symm
    refine List.pairwise_append.mpr ⟨?_, ih, fun a ha b hb => ?_⟩
    · exact List.pairwise_of_forall_mem_list fun a ha b hb => by rw [hown a ha, hown b hb]
    · obtain ⟨f, hf, hfb⟩ := List.mem_filterMap.mp hb
      obtain ⟨j, hj, hle, -⟩ := hxs.failure_mem hf
      rw [hown a ha]
      rw [hj, Option.some_inj] at hfb
      omega

theorem at_step (h : SharesFrom i ds xs) {j : Nat} (hij : i ≤ j) (hj : j < i + ds.length) :
    ∃ d x, ds[j - i]? = some d ∧ StepShare j d x ∧
      (xs.filterMap Share.entry).filter (·.stepIndex == j) = x.entry.toList ∧
      (xs.flatMap Share.failures).filter (·.stepIndex == some j) = x.failures := by
  induction h generalizing j with
  | nil => simp at hj; omega
  | @cons i d ds x xs hx hxs ih =>
    rw [filterMap_entry_cons, List.flatMap_cons, List.filter_append, List.filter_append]
    by_cases hji : j = i
    · subst hji
      have hlater : (xs.filterMap Share.entry).filter (·.stepIndex == j) = [] :=
        List.filter_eq_nil_iff.mpr fun e he => by
          have := (hxs.entry_mem he).1
          simp only [beq_iff_eq]
          omega
      have hlater' : (xs.flatMap Share.failures).filter (·.stepIndex == some j) = [] :=
        List.filter_eq_nil_iff.mpr fun f hf => by
          obtain ⟨k, hk, hle, -⟩ := hxs.failure_mem hf
          simp only [hk, beq_iff_eq, Option.some_inj]
          omega
      refine ⟨d, x, by simp, hx, ?_, ?_⟩
      · rw [hlater, List.append_nil, List.filter_eq_self]
        intro e he
        simp [(hx.entry_spec (Option.mem_toList.mp he)).1]
      · rw [hlater', List.append_nil, List.filter_eq_self]
        intro f hf
        simp [hx.failure_index hf]
    · obtain ⟨d', x', hd', hx', hent, hfail⟩ := ih (j := j) (by omega) (by simp at hj; omega)
      have hsub : j - i = j - (i + 1) + 1 := by omega
      refine ⟨d', x', by rw [hsub, List.getElem?_cons_succ, hd'], hx', ?_, ?_⟩
      · rw [hent, List.filter_eq_nil_iff.mpr, List.nil_append]
        intro e he
        simp only [(hx.entry_spec (Option.mem_toList.mp he)).1, beq_iff_eq]
        omega
      · rw [hfail, List.filter_eq_nil_iff.mpr, List.nil_append]
        intro f hf
        simp only [hx.failure_index hf, beq_iff_eq, Option.some_inj]
        omega

end SharesFrom

end Runner

/-- The shape of a finished run of the steps `steps`. -/
structure RunResult.Structured (res : RunResult) (steps : List StepDecl) : Prop where
  /-- Entries stand in strictly increasing step order. -/
  trace_ordered : res.trace.Pairwise fun a b => a.stepIndex < b.stepIndex
  /-- Each entry is of a declared step, valid, and carries its name. -/
  trace_declared : ∀ e ∈ res.trace, e.stepIndex < steps.length ∧
    ∃ step, steps[e.stepIndex]? = some (.valid step) ∧ e.stepName = step.name
  /-- Every failure is at a declared step. -/
  failure_declared : ∀ f ∈ res.failures, ∃ i < steps.length, f.stepIndex = some i
  /-- Failures stand in nondecreasing step order. -/
  failures_ordered : (res.failures.filterMap (·.stepIndex)).Pairwise (· ≤ ·)
  /-- Each step has exactly one entry and no load-tier failure, or no entry and exactly one
  failure, of the load tier. -/
  traced_or_skipped : ∀ i < steps.length,
    (∃ e, res.trace.filter (·.stepIndex == i) = [e] ∧
      ∀ f ∈ res.failures.filter (·.stepIndex == some i), f.code ∉ FailureCode.loadTier) ∨
    (res.trace.filter (·.stepIndex == i) = [] ∧
      ∃ f, res.failures.filter (·.stepIndex == some i) = [f] ∧ f.code ∈ FailureCode.loadTier)
  /-- The failures of a traced step follow the order of its checks. -/
  traced_codes : ∀ e ∈ res.trace,
    TracedCodes ((res.failures.filter (·.stepIndex == some e.stepIndex)).map (·.code))
  /-- The observers are the trace folded into a fresh set. -/
  observers_eq : res.observers = some (Observers.replay res.trace)
  /-- The run passed exactly when it reported no failure. -/
  ok_iff : res.ok = true ↔ res.failures = []

namespace Runner

theorem StepShare.traced_or_skipped {j : Nat} {d : StepDecl} {x : Share} (h : StepShare j d x) :
    (∃ e, x.entry.toList = [e] ∧ ∀ f ∈ x.failures, f.code ∉ FailureCode.loadTier) ∨
    (x.entry.toList = [] ∧ ∃ f, x.failures = [f] ∧ f.code ∈ FailureCode.loadTier) := by
  cases h with
  | skipped f index code => exact .inr ⟨rfl, f, rfl, code⟩
  | traced step e mismatch raised verdict _ _ _ hm hr hv =>
    refine .inl ⟨e, rfl, fun f hf => FailureCode.checks_not_loadTier _ ?_⟩
    rcases List.mem_append.mp hf with hf | hf
    · rcases List.mem_append.mp hf with hf | hf
      · exact List.mem_append_left _ (List.mem_append_left _ (hm.code hf))
      · exact List.mem_append_left _ (List.mem_append_right _ (hr.code hf))
    · exact List.mem_append_right _ (hv.code hf)

theorem StepShare.tracedCodes {j : Nat} {d : StepDecl} {x : Share} (h : StepShare j d x)
    {e : TraceEntry} (he : x.entry = some e) : TracedCodes (x.failures.map (·.code)) := by
  cases h with
  | skipped => cases he
  | traced step e mismatch raised verdict _ _ _ hm hr hv =>
    obtain ⟨a, ha, hma⟩ := hm.codes
    obtain ⟨b, hb, hrb⟩ := hr.codes
    obtain ⟨c, hc, hvc⟩ := hv.codes
    refine ⟨a, b, c, fun x hx => by simpa using ha x hx, hb, hc, ?_⟩
    simp only [List.map_append, hma, hrb, hvc]

variable {m : Type → Type} [Monad m] [LawfulMonad m] [MonadLog m]

/-- Every finished run has the shape `RunResult.Structured` of its flow's steps. -/
theorem run_structured (r : Runner m) (flow : FlowSpec) (baseDir : String) :
    SatisfiesM (·.Structured flow.steps) (r.run flow baseDir) := by
  refine satisfiesM_bind_const _ ((runSteps_shares r _ _ _ {} 0).bind fun s hs => ?_)
  refine satisfiesM_bind_const _ (SatisfiesM.pure ?_)
  obtain ⟨hcoh, xs, hxs, htrace, hfail⟩ := hs
  replace hcoh := hcoh RunState.coherent_empty
  simp only [List.nil_append] at htrace hfail
  have hlen : 0 + flow.steps.length = flow.steps.length := Nat.zero_add _
  refine ⟨?_, fun e he => ?_, fun f hf => ?_, ?_, fun i hi => ?_, fun e he => ?_, ?_, ?_⟩
  · rw [htrace]
    exact hxs.entries_ordered
  · rw [htrace] at he
    obtain ⟨-, step, hstep, hname⟩ := hxs.entry_mem he
    have := hxs.entry_lt he
    exact ⟨by omega, step, by simpa using hstep, hname⟩
  · rw [hfail] at hf
    obtain ⟨j, hj, -, hlt⟩ := hxs.failure_mem hf
    exact ⟨j, by omega, hj⟩
  · rw [hfail]
    exact hxs.failures_ordered
  · obtain ⟨d, x, -, hx, hent, hfl⟩ := hxs.at_step (Nat.zero_le i) (by omega)
    simp only [htrace, hfail, hent, hfl]
    exact hx.traced_or_skipped
  · rw [htrace] at he
    have hlt := hxs.entry_lt he
    obtain ⟨d, x, -, hx, hent, hfl⟩ := hxs.at_step (Nat.zero_le e.stepIndex) hlt
    have hmem : e ∈ x.entry.toList := by
      rw [← hent]
      exact List.mem_filter.mpr ⟨he, by simp⟩
    simp only [hfail, hfl]
    exact hx.tracedCodes (Option.mem_toList.mp hmem)
  · simp [hcoh.observers_eq]
  · simp [RunResult.ok]

end Runner

/-- A run that loads nothing: one malformed step and one whose capsule is missing. -/
theorem run_structured_of_missing_capsule :
    SatisfiesM (m := Id) (·.Structured
        [.malformed (some "bad") "missing field capsule_path",
          .valid { name := "missing", capsulePath := "nowhere.json" }])
      (({ store := MemoryStore.toStore {} } : Runner Id).run
        { flowId := "two-failures", description := none
          steps := [.malformed (some "bad") "missing field capsule_path",
            .valid { name := "missing", capsulePath := "nowhere.json" }] } "") :=
  Runner.run_structured (m := Id) { store := MemoryStore.toStore {} }
    { flowId := "two-failures", description := none
      steps := [.malformed (some "bad") "missing field capsule_path",
        .valid { name := "missing", capsulePath := "nowhere.json" }] } ""

/-! ## A sample run -/

/-- A flow that asserts consent and then commits memory. -/
def consentCommitFlow : FlowSpec where
  flowId := "consent-then-commit"
  description := none
  steps := [.valid { name := "consent", capsulePath := "consent.json" },
    .valid { name := "commit", capsulePath := "commit.json" }]

/-- A store holding the capsules of `consentCommitFlow`: a consent granting the memory scope,
and a memory commit citing a consent. -/
def consentCommitStore : MemoryStore where
  values := [
    ("consent.json", Json.Value.obj [("capsule_type", .string "CONSENT_ASSERTION"),
      ("capsule_id", .string "consent-1"),
      ("consent", Json.Value.obj [("scope", .array [.string "memory_commit"])])]),
    ("commit.json", Json.Value.obj [("capsule_type", .string "MEMORY_COMMIT"),
      ("capsule_id", .string "commit-1"),
      ("commit", Json.Value.obj [("memory_id", .string "memory-1"),
        ("consent_reference", .string "cap_00")])])]

/-! ## Failures by step -/

section FailuresAt

variable {i : Nat} {A X B : List Failure}

theorem filter_at_eq_nil_of_lt (hA : ∀ f ∈ A, ∃ j < i, f.stepIndex = some j) :
    A.filter (·.stepIndex == some i) = [] :=
  List.filter_eq_nil_iff.mpr fun f hf => by
    obtain ⟨j, hj, hf⟩ := hA f hf
    simp only [hf, beq_iff_eq, Option.some_inj]
    omega

theorem filter_at_eq_nil_of_gt (hB : ∀ f ∈ B, ∃ j, i < j ∧ f.stepIndex = some j) :
    B.filter (·.stepIndex == some i) = [] :=
  List.filter_eq_nil_iff.mpr fun f hf => by
    obtain ⟨j, hj, hf⟩ := hB f hf
    simp only [hf, beq_iff_eq, Option.some_inj]
    omega

theorem filter_at_split (hA : ∀ f ∈ A, ∃ j < i, f.stepIndex = some j)
    (hX : ∀ f ∈ X, f.stepIndex = some i) (hB : ∀ f ∈ B, ∃ j, i < j ∧ f.stepIndex = some j) :
    (A ++ X ++ B).filter (·.stepIndex == some i) = X := by
  rw [List.filter_append, List.filter_append, filter_at_eq_nil_of_lt hA,
    filter_at_eq_nil_of_gt hB, List.nil_append, List.append_nil, List.filter_eq_self]
  intro f hf
  simp [hX f hf]

theorem filter_ne_split {j : Nat} (hji : j ≠ i) (hX : ∀ f ∈ X, f.stepIndex = some i) :
    (A ++ X ++ B).filter (·.stepIndex == some j) =
      (A ++ B).filter (·.stepIndex == some j) := by
  have hnil : X.filter (·.stepIndex == some j) = [] :=
    List.filter_eq_nil_iff.mpr fun f hf => by simp [hX f hf, Ne.symm hji]
  simp only [List.filter_append, hnil, List.append_nil]

end FailuresAt

/-! ## Verdicts as reported -/

/-- The failures `fs` of a run of `steps` report, at the step of the entry `e` that follows
the entries `pre`, checks of the type and the observers and then `e`'s verdict: `enforce` on
the observers that replay the trace up to `e`, as the step's expectation reports it. -/
def VerdictReported (steps : List StepDecl) (fs : List Failure) (pre : List TraceEntry)
    (e : TraceEntry) : Prop :=
  ∃ step, steps[e.stepIndex]? = some (.valid step) ∧ ∃ checks : List Failure,
    (∀ f ∈ checks, f.code = .unexpectedCapsuleType ∨ f.code ∈ FailureCode.observerCodes) ∧
    fs.filter (·.stepIndex == some e.stepIndex) =
      checks ++ applyExpectation e.stepIndex step (enforce e (Observers.replay (pre ++ [e])))

/-- Every entry of the trace `trace` has its verdict reported among `fs`. -/
def VerdictsReported (steps : List StepDecl) (fs : List Failure) (trace : List TraceEntry) :
    Prop :=
  ∀ pre e post, trace = pre ++ e :: post → VerdictReported steps fs pre e

theorem VerdictReported.append {steps : List StepDecl} {fs X : List Failure}
    {pre : List TraceEntry} {e : TraceEntry} (h : VerdictReported steps fs pre e)
    (hX : ∀ f ∈ X, f.stepIndex ≠ some e.stepIndex) : VerdictReported steps (fs ++ X) pre e := by
  obtain ⟨step, hstep, checks, hchecks, hfs⟩ := h
  refine ⟨step, hstep, checks, hchecks, ?_⟩
  rw [List.filter_append, hfs, List.filter_eq_nil_iff.mpr fun f hf => by simpa using hX f hf,
    List.append_nil]

namespace Runner

variable {steps : List StepDecl} {i : Nat} {d : StepDecl} {s s' : RunState}

theorem StepRecord.failures_eq (h : StepRecord i d s s') :
    ∃ X, s'.failures = s.failures ++ X ∧ ∀ f ∈ X, f.stepIndex = some i := by
  obtain ⟨x, hx, -, hfail⟩ := h.share
  exact ⟨x.failures, hfail, fun f hf => hx.failure_index hf⟩

theorem StepRecord.failures_before (h : StepRecord i d s s')
    (hf : ∀ f ∈ s.failures, ∃ j < i, f.stepIndex = some j) :
    ∀ f ∈ s'.failures, ∃ j < i + 1, f.stepIndex = some j := by
  obtain ⟨X, hfail, hX⟩ := h.failures_eq
  intro f hf'
  rw [hfail] at hf'
  rcases List.mem_append.mp hf' with hf' | hf'
  · obtain ⟨j, hj, hfj⟩ := hf f hf'
    exact ⟨j, by omega, hfj⟩
  · exact ⟨i, by omega, hX f hf'⟩

theorem StepRecord.verdictsReported (h : StepRecord i d s s') (hd : steps[i]? = some d)
    (hs : s.Coherent i) (hf : ∀ f ∈ s.failures, ∃ j < i, f.stepIndex = some j)
    (hv : VerdictsReported steps s.failures s.trace) :
    VerdictsReported steps s'.failures s'.trace := by
  have hnew : ∀ X : List Failure, (∀ f ∈ X, f.stepIndex = some i) → ∀ pre e post,
      s.trace = pre ++ e :: post → VerdictReported steps (s.failures ++ X) pre e := by
    intro X hX pre e post htr
    have hlt := hs.before e (by simp [htr])
    exact (hv pre e post htr).append fun f hf hfe => by
      rw [hX f hf, Option.some_inj] at hfe
      omega
  obtain ⟨X, hfail, hX⟩ := h.failures_eq
  cases h with
  | skipped f index code =>
    intro pre e post htr
    rw [hfail]
    exact hnew X hX pre e post htr
  | traced step e' hd' consistent index name =>
    obtain rfl := List.append_cancel_left hfail
    intro pre e post htr
    rcases split_append_singleton (show s.trace ++ [e'] = pre ++ e :: post from htr) with
      ⟨rfl, rfl, rfl⟩ | ⟨post', -, htr'⟩
    · have hchecks := @checks_at _ step _ s.observers index
      refine ⟨step, by rw [index, hd, hd'], _, fun f hf => (hchecks f hf).2, ?_⟩
      rw [List.filter_append, filter_at_eq_nil_of_lt (index ▸ hf), List.nil_append,
        List.filter_eq_self.mpr fun f hf' => by simp [index, hX f hf'],
        Observers.replay_append_singleton, ← hs.observers_eq, index]
    · exact hnew _ hX pre e post' htr'

variable {m : Type → Type} [Monad m] [LawfulMonad m] [MonadLog m]

theorem runSteps_verdictsReported (r : Runner m) (flowId baseDir : String) (ds : List StepDecl) :
    ∀ (s : RunState) (i : Nat), steps.drop i = ds → s.Coherent i →
      (∀ f ∈ s.failures, ∃ j < i, f.stepIndex = some j) →
      VerdictsReported steps s.failures s.trace →
      SatisfiesM (fun s' => s'.Coherent (i + ds.length) ∧
          VerdictsReported steps s'.failures s'.trace)
        (r.runSteps flowId baseDir s i ds) := by
  induction ds with
  | nil => exact fun s _ _ hs _ hv => SatisfiesM.pure ⟨by simpa using hs, hv⟩
  | cons d ds ih =>
    intro s i hdrop hs hf hv
    have hd : steps[i]? = some d := by rw [← List.head?_drop, hdrop]; rfl
    have hdrop' : steps.drop (i + 1) = ds := by rw [← List.drop_drop, hdrop]; rfl
    refine (runStep_record r flowId baseDir s i d).bind fun s₁ h₁ => ?_
    refine (ih s₁ (i + 1) hdrop' (h₁.outcome.coherent hs) (h₁.failures_before hf)
      (h₁.verdictsReported hd hs hf hv)).imp fun ⟨hcoh, hv'⟩ => ⟨?_, hv'⟩
    simpa [Nat.add_assoc, Nat.add_comm 1] using hcoh

theorem run_verdictsReported (r : Runner m) (flow : FlowSpec) (baseDir : String) :
    SatisfiesM (fun res : RunResult => res.Replayed ∧
        VerdictsReported flow.steps res.failures res.trace)
      (r.run flow baseDir) := by
  have hv : VerdictsReported flow.steps ({} : RunState).failures ({} : RunState).trace :=
    fun pre e post htr => by simp at htr
  refine satisfiesM_bind_const _ ((runSteps_verdictsReported r _ _ _ {} 0 List.drop_zero
    RunState.coherent_empty (by simp) hv).bind fun s hs => ?_)
  exact satisfiesM_bind_const _
    (SatisfiesM.pure ⟨⟨by simp [hs.1.observers_eq], hs.1.consistent, hs.1.ordered⟩, hs.2⟩)

end Runner

end CapsuleFlow
