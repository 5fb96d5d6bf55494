import CapsuleFlow.Json.Value

/-!
# Execution adapters

An adapter receives every capsule that loaded, after the step's checks. Its answer is
only informational: a run logs it and never turns it into a failure. Two adapters are
here: a mock that answers like a model backend would, deterministically, and one that
accepts everything and says nothing.
-/

namespace CapsuleFlow

open CapsuleFlow.Json

/-- Where in a run a capsule is dispatched from. -/
structure DispatchContext where
  flowId : Option String := none
  stepIndex : Option Nat := none
  deriving DecidableEq, Repr, Inhabited

/-- A dispatch context on the wire; absent fields are left out. -/
def DispatchContext.toJson (c : DispatchContext) : Value :=
  Value.obj ((c.flowId.toList.map fun f => ("flow_id", .string f)) ++
    (c.stepIndex.toList.map fun i => ("step_index", Value.nat i)))

/-- An adapter's answer. -/
structure AdapterResponse where
  accepted : Bool
  status : Option String := none
  reason : Option String := none
  details : Option Value := none
  deriving Inhabited

/-- An answer on the wire; absent fields are left out. -/
def AdapterResponse.toJson (r : AdapterResponse) : Value :=
  Value.obj ([("accepted", .bool r.accepted)] ++
    (r.status.toList.map fun s => ("status", .string s)) ++
    (r.reason.toList.map fun s => ("reason", .string s)) ++
    (r.details.toList.map fun v => ("meta", v)))

/-- The adapters. -/
inductive Adapter where
  | mock
  | noop
  deriving DecidableEq, Repr, Inhabited

def Adapter.name : Adapter → String
  | .mock => "mock"
  | .noop => "noop"

def Adapter.dispatch (a : Adapter) (_capsule : Value) (_ctx : DispatchContext) : AdapterResponse :=
  match a with
  | .mock => { accepted := true, status := some "mock-ok"
               details := some (Value.obj [("tokens_in", Value.nat 0), ("tokens_out", Value.nat 0)]) }
  | .noop => { accepted := true }

end CapsuleFlow
