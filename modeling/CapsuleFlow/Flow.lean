import CapsuleFlow.Decode.FromValue
import CapsuleFlow.Text.Space

/-!
# Flow specifications

A flow is an ordered list of steps, each naming one capsule file. Reading a flow has two
tiers: a document that is not a flow at all (not an object, no usable `flow_id`, no
`steps` array) is refused as a whole, while a single step that does not read is kept as
malformed, so that the run can report it at its place and go on.
-/

namespace CapsuleFlow

open CapsuleFlow.Json Decode

/-- A well-formed flow step. -/
structure FlowStep where
  name : String
  /-- Absolute, or relative to the flow file's directory. -/
  capsulePath : String
  expectCapsuleType : Option String := none
  computeHashes : Bool := true
  expectFailure : Bool := false
  failureReason : Option String := none
  deriving DecidableEq, Repr, Inhabited

/-- A step as declared. -/
inductive StepDecl where
  | valid (step : FlowStep)
  /-- A declaration that does not read as a step, with its name when it gave one. -/
  | malformed (name : Option String) (reason : String)
  deriving DecidableEq, Repr, Inhabited

/-- A flow. -/
structure FlowSpec where
  flowId : String
  description : Option String
  steps : List StepDecl
  deriving DecidableEq, Repr, Inhabited

def FlowStep.shape : Shape :=
  .record "FlowStep" [
    ("name", .string "a string", .required),
    ("capsule_path", .string "a string", .required),
    ("expect_capsule_type", .option (.string "a string"), .default .none),
    ("compute_hashes", .bool, .default (.bool true)),
    ("expect_failure", .bool, .default (.bool false)),
    ("failure_reason", .option (.string "a string"), .default .none)]

def optionalText : Datum → Option String
  | .some (.str s) => some s
  | _ => none

def FlowStep.ofDatum : Datum → FlowStep
  | .record [(_, n), (_, p), (_, t), (_, .bool h), (_, .bool f), (_, r)] =>
    { name := n.text, capsulePath := p.text, expectCapsuleType := optionalText t
      computeHashes := h, expectFailure := f, failureReason := optionalText r }
  | _ => { name := "", capsulePath := "" }

/-- A step on the wire; the optional texts are left out when absent. -/
def FlowStep.toJson (s : FlowStep) : Value :=
  Value.obj ([("name", .string s.name), ("capsule_path", .string s.capsulePath),
    ("compute_hashes", .bool s.computeHashes), ("expect_failure", .bool s.expectFailure)] ++
    (s.expectCapsuleType.toList.map fun t => ("expect_capsule_type", .string t)) ++
    (s.failureReason.toList.map fun r => ("failure_reason", .string r)))

/-- Reads one step declaration. A step must read as a record, have a name with something
besides white space, and a capsule path likewise; a nameless step loses its name. -/
def StepDecl.ofValue (v : Value) : StepDecl :=
  let name := (v.get? "name").bind Value.str?
  match readValue FlowStep.shape v with
  | .error reason => .malformed name reason
  | .ok d =>
    let step := FlowStep.ofDatum d
    if (Text.trim step.name).isEmpty then .malformed none "step name must not be empty"
    else if (Text.trim step.capsulePath).isEmpty then
      .malformed name "capsule_path must not be empty"
    else .valid step

/-- Reads a flow document. The error is the reason, to follow `invalid flow: `. -/
def FlowSpec.ofValue (doc : Value) : Except String FlowSpec := do
  let .object _ := doc | throw "flow document must be an object"
  let flowId ← match doc.get? "flow_id" with
    | some (.string id) =>
      if (Text.trim id).isEmpty then throw "flow_id must be a non-empty string" else pure id
    | some _ => throw "flow_id must be a non-empty string"
    | none => throw "missing flow_id"
  let steps ← match doc.get? "steps" with
    | some (.array steps) => pure (steps.map StepDecl.ofValue)
    | some _ => throw "steps must be an array"
    | none => throw "missing steps"
  return { flowId, description := (doc.get? "description").bind Value.str?, steps }

end CapsuleFlow
