import Mathlib
import CapsuleFlow.Runner

/-!
# Runs replay their traces

A run keeps one observer set and one trace. A step either reports the one failure that
kept it from building an entry, or builds an entry, folds it into the observers, judges it
and appends it to the trace (`Runner.StepOutcome`, proved of `runStep` in every lawful
monad). From that, by induction over the steps, a finished run is `RunResult.Replayed`:
its observers are its trace folded into a fresh observer set (`Observers.replay`), every
entry carries a capsule identifier exactly when it is hashed, and the entries stand in
step order. What the observers had seen at some step is then a question about a prefix of
the trace, which the governance results answer entry by entry.
-/

namespace CapsuleFlow

/-- The observers after folding in the entries of a trace, from a fresh set. -/
def Observers.replay (l : List TraceEntry) : Observers :=
  l.foldl (fun o e => (o.observe e).1) {}

@[simp] theorem Observers.replay_nil : Observers.replay [] = {} := rfl

@[simp] theorem Observers.replay_append_singleton (l : List TraceEntry) (e : TraceEntry) :
    Observers.replay (l ++ [e]) = ((Observers.replay l).observe e).1 := by
  simp [Observers.replay]

/-- An entry carries a capsule identifier exactly when it is hashed, as every entry the
runner builds does. -/
def TraceEntry.HashConsistent (e : TraceEntry) : Prop :=
  e.capsuleHash.isSome = e.isHashed

theorem TraceEntry.HashConsistent.isHashed {e : TraceEntry} {h : String}
    (he : e.HashConsistent) (hh : e.capsuleHash = some h) : e.isHashed = true := by
  rw [← he, hh, Option.isSome_some]

theorem split_append_singleton {l A B : List TraceEntry} {e a : TraceEntry}
    (hl : l ++ [e] = A ++ a :: B) :
    (A = l ∧ a = e ∧ B = []) ∨ ∃ B', B = B' ++ [e] ∧ l = A ++ a :: B' := by
  rcases List.eq_nil_or_concat B with rfl | ⟨B', b, rfl⟩
  · obtain ⟨hA, hae⟩ := List.append_inj' hl rfl
    exact .inl ⟨hA.symm, (List.singleton_inj.mp hae).symm, rfl⟩
  · rw [List.concat_eq_append] at hl ⊢
    rw [← List.cons_append, ← List.append_assoc] at hl
    obtain ⟨hA, hbe⟩ := List.append_inj' hl rfl
    rw [List.singleton_inj.mp hbe]
    exact .inr ⟨B', rfl, hA⟩

@[simp] theorem Observers.consent_observe (o : Observers) (e : TraceEntry) :
    (o.observe e).1.consent = o.consent.observe e := rfl

/-- What a run state keeps true before step `next`: the observers are the replay of the
trace, whose entries are hash-consistent, in step order, and of earlier steps. -/
structure RunState.Coherent (s : RunState) (next : Nat) : Prop where
  observers_eq : s.observers = Observers.replay s.trace
  consistent : ∀ e ∈ s.trace, e.HashConsistent
  ordered : s.trace.Pairwise fun a b => a.stepIndex < b.stepIndex
  before : ∀ e ∈ s.trace, e.stepIndex < next

theorem RunState.coherent_empty : ({} : RunState).Coherent 0 :=
  ⟨rfl, by simp, by simp, by simp⟩

/-- What a finished run satisfies: its observers replay its trace, whose entries are
hash-consistent and in step order. -/
structure RunResult.Replayed (res : RunResult) : Prop where
  observers_eq : res.observers = some (Observers.replay res.trace)
  consistent : ∀ e ∈ res.trace, e.HashConsistent
  ordered : res.trace.Pairwise fun a b => a.stepIndex < b.stepIndex

namespace Runner

/-- What step `i`, declared as `d`, can do to the run state: report the one failure that
kept it from building an entry, or build a hash-consistent entry of the step, fold it into
the observers, and report a type mismatch, what the observers raised, and the verdict of
`enforce` on the observers after the step, as the step's expectation has it. -/
inductive StepOutcome (i : Nat) (d : StepDecl) (s : RunState) : RunState → Prop
  | reported (f : Failure) : StepOutcome i d s { s with failures := s.failures ++ [f] }
  | traced (step : FlowStep) (e : TraceEntry) (hd : d = .valid step)
      (consistent : e.HashConsistent) (index : e.stepIndex = i) :
      StepOutcome i d s
        { observers := (s.observers.observe e).1, trace := s.trace ++ [e]
          failures := s.failures ++ ((typeMismatch i step e).toList ++ (s.observers.observe e).2 ++
            applyExpectation i step (enforce e (s.observers.observe e).1)) }

theorem StepOutcome.coherent {i : Nat} {d : StepDecl} {s s' : RunState}
    (h : StepOutcome i d s s') (hs : s.Coherent i) : s'.Coherent (i + 1) := by
  cases h with
  | reported f =>
    exact ⟨hs.observers_eq, hs.consistent, hs.ordered, fun e he => by
      have := hs.before e he
      omega⟩
  | traced step e hd consistent index =>
    refine ⟨?_, ?_, ?_, ?_⟩
    · simp [hs.observers_eq]
    · intro a ha
      rcases List.mem_append.mp ha with ha | ha
      · exact hs.consistent a ha
      · rw [List.mem_singleton.mp ha]
        exact consistent
    · refine List.pairwise_append.mpr ⟨hs.ordered, List.pairwise_singleton _ _, ?_⟩
      intro a ha b hb
      rw [List.mem_singleton.mp hb, index]
      exact hs.before a ha
    · intro a ha
      rcases List.mem_append.mp ha with ha | ha
      · have := hs.before a ha
        omega
      · rw [List.mem_singleton.mp ha, index]
        omega

variable {m : Type → Type} [Monad m] [LawfulMonad m] [MonadLog m]

omit [MonadLog m] in
theorem satisfiesM_bind_const {α β : Type} {p : β → Prop} (x : m α) {k : m β}
    (hk : SatisfiesM p k) : SatisfiesM p (x >>= fun _ => k) :=
  SatisfiesM.bind_pre (SatisfiesM.of_true fun _ => hk)

theorem report_spec (flowId : String) (s : RunState) (f : Failure) :
    SatisfiesM (· = { s with failures := s.failures ++ [f] }) (report (m := m) flowId s f) :=
  satisfiesM_bind_const _ (SatisfiesM.pure rfl)

theorem reportAll_spec (flowId : String) (s : RunState) (fs : List Failure) :
    SatisfiesM (· = { s with failures := s.failures ++ fs }) (reportAll (m := m) flowId s fs) := by
  induction fs generalizing s with
  | nil => exact SatisfiesM.pure (by simp)
  | cons f fs ih =>
    refine (report_spec flowId s f).bind fun s₁ h₁ => ?_
    subst h₁
    exact (ih _).imp fun h => by simp [h]

theorem buildEntry_spec (r : Runner m) (i : Nat) (step : FlowStep) (baseDir : String) :
    SatisfiesM (fun x => ∀ e c, x = .ok (e, c) → e.HashConsistent ∧ e.stepIndex = i)
      (r.buildEntry i step baseDir) := by
  unfold buildEntry
  refine SatisfiesM.bind_pre (SatisfiesM.of_true fun path => ?_)
  refine SatisfiesM.bind_pre (SatisfiesM.of_true fun doc => ?_)
  split
  · simp only [pure_bind]
    split
    · split
      · exact SatisfiesM.pure (by simp)
      · rename_i heq
        refine satisfiesM_bind_const _ (SatisfiesM.pure ?_)
        simp only [Except.ok.injEq, Prod.mk.injEq, and_imp]
        rintro e c rfl -
        refine ⟨?_, rfl⟩
        split at heq
        · split at heq
          · cases heq
          · split at heq
            · cases heq
            · cases heq
              rfl
        · cases heq
          rfl
    · exact SatisfiesM.pure (by simp)
  · exact SatisfiesM.pure (by simp)

theorem runStep_spec (r : Runner m) (flowId baseDir : String) (s : RunState) (i : Nat)
    (d : StepDecl) : SatisfiesM (StepOutcome i d s) (r.runStep flowId baseDir s i d) := by
  cases d with
  | malformed name reason =>
    exact (report_spec flowId s _).imp fun h => h ▸ .reported _
  | valid step =>
    refine (buildEntry_spec r i step baseDir).bind fun x hx => ?_
    rcases x with f | ⟨e, c⟩
    · exact (report_spec flowId s f).imp fun h => h ▸ .reported f
    · obtain ⟨hcons, hidx⟩ := hx e c rfl
      refine (reportAll_spec flowId s _).bind fun s₁ h₁ => ?_
      subst h₁
      generalize hobs : s.observers.observe e = p
      obtain ⟨observers, raised⟩ := p
      refine satisfiesM_bind_const _ ((reportAll_spec flowId _ _).bind fun s₂ h₂ => ?_)
      subst h₂
      refine satisfiesM_bind_const _ ((reportAll_spec flowId _ _).bind fun s₃ h₃ => ?_)
      subst h₃
      refine satisfiesM_bind_const _ (SatisfiesM.pure ?_)
      have := StepOutcome.traced (d := .valid step) (s := s) step e rfl hcons hidx
      simpa [hobs] using this

theorem runSteps_coherent (r : Runner m) (flowId baseDir : String) (ds : List StepDecl) :
    ∀ (s : RunState) (i : Nat), s.Coherent i →
      SatisfiesM (·.Coherent (i + ds.length)) (r.runSteps flowId baseDir s i ds) := by
  induction ds with
  | nil => exact fun s i hs => SatisfiesM.pure (by simpa using hs)
  | cons d ds ih =>
    intro s i hs
    refine (runStep_spec r flowId baseDir s i d).bind fun s₁ h₁ => ?_
    have hlen : i + 1 + ds.length = i + (d :: ds).length := by simp only [List.length_cons]; omega
    exact hlen ▸ ih s₁ (i + 1) (h₁.coherent hs)

theorem run_replayed (r : Runner m) (flow : FlowSpec) (baseDir : String) :
    SatisfiesM RunResult.Replayed (r.run flow baseDir) := by
  refine satisfiesM_bind_const _
    ((runSteps_coherent r _ _ _ {} 0 RunState.coherent_empty).bind fun s hs => ?_)
  exact satisfiesM_bind_const _
    (SatisfiesM.pure ⟨by simp [hs.observers_eq], hs.consistent, hs.ordered⟩)

end Runner

end CapsuleFlow
