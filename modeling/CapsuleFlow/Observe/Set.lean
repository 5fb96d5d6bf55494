import CapsuleFlow.Observe.Tally
import CapsuleFlow.Observe.Consent
import CapsuleFlow.Observe.Policy
import CapsuleFlow.Observe.Memory
import CapsuleFlow.Log

/-!
# The observers of a run

The four observers driven together, in the fixed order tally, consent, policy, memory.
Each sees every entry in step order; none reads another's state. A fresh set is made for
every run.
-/

namespace CapsuleFlow

open CapsuleFlow.Json

/-- The state of all four observers. -/
structure Observers where
  tally : Tally := {}
  consent : ConsentView := {}
  policy : PolicyView := {}
  memory : MemoryLog := {}
  deriving DecidableEq, Repr, Inhabited

namespace Observers

/-- Folds one entry into every observer; the failures come in observer order. -/
def observe (o : Observers) (e : TraceEntry) : Observers × List Failure :=
  let (policy, failures) := o.policy.observe e
  ({ tally := o.tally.observe e, consent := o.consent.observe e, policy := policy
     memory := o.memory.observe e }, failures)

/-- What folding an entry into the observers `o` reports along the way: consent granted
or withdrawn, a policy put in force or revoked, and the count of failures raised. -/
def notes (o : Observers) (e : TraceEntry) (failures : List Failure) : List LogEvent :=
  let at_ : String × FieldValue := ("step_index", .nat e.stepIndex)
  let consent := match e.event with
    | .consentAssertion scope => [⟨.debug, "consent asserted", [at_, ("scopes", .nat scope.length)]⟩]
    | .consentRevocation =>
      [⟨.debug, "consent revoked", [at_, ("cleared", .nat o.consent.activeScopes.length)]⟩]
    | _ => []
  let policy := if !e.isHashed || !failures.isEmpty || e.capsuleHash.isNone then []
    else match e.event with
      | .policyAssertion (some id) (some _) =>
        [⟨.debug, "policy asserted", [at_, ("policy_id", .shown id)]⟩]
      | .policyRevocation (some _) (some id) =>
        [⟨.debug, "policy revoked", [at_, ("policy_id", .shown id)]⟩]
      | _ => []
  let reported := if failures.isEmpty then []
    else [⟨.debug, "observers reported failures", [at_, ("count", .nat failures.length)]⟩]
  consent ++ policy ++ reported

def toJson (o : Observers) : Value :=
  Value.obj [("capsule", o.tally.toJson), ("consent", o.consent.toJson),
    ("policy", o.policy.toJson), ("memory", o.memory.toJson)]

end Observers

end CapsuleFlow
