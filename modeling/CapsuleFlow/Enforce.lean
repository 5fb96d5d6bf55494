import CapsuleFlow.Observe.Set
import CapsuleFlow.Flow

/-!
# Enforcement

Checks across observers, made once every observer has folded a step in. The one rule:
a hashed memory commit must cite an active consent that grants the `memory_commit`
scope. The step's `expect_failure` flag then decides what becomes of the violations.
-/

namespace CapsuleFlow

def memoryCommitScope : String := "memory_commit"

/-- The message when a step expected to fail passes. -/
def expectedFailureMessage : String := "Expected failure did not occur"

def enforce (e : TraceEntry) (o : Observers) : List Failure :=
  if !e.isHashed then []
  else match e.event with
    | .memoryCommit _ reference =>
      match reference with
      | none => [e.failure .missingConsent "memory commit requires active consent"]
      | some r =>
        match o.consent.scopesFor r with
        | none => [e.failure .invalidConsent "referenced consent is not active"]
        | some scopes =>
          if scopes.contains memoryCommitScope then []
          else [e.failure .scopeViolation "active consent does not grant memory_commit scope"]
    | _ => []

/-- What a step reports of its violations: all of them normally; none when it expected
to fail and did, and `EXPECTED_FAILURE_NOT_TRIGGERED` when it expected to fail and did
not. -/
def applyExpectation (i : Nat) (step : FlowStep) (violations : List Failure) : List Failure :=
  if !step.expectFailure then violations
  else if violations.isEmpty then
    [Failure.atStep i step.name .expectedFailureNotTriggered
      (step.failureReason.getD expectedFailureMessage)]
  else []

end CapsuleFlow
