import CapsuleFlow.Capsule
import CapsuleFlow.Decode.Shape

/-!
# Trace entries and failures

A trace entry is made once for each flow step whose capsule loaded, and never changed
afterwards; the list of entries in step order is all the observers ever see. A failure
is the single way a run reports a problem: failures are kept in the order they arise and
never merged. Failures of the flow as a whole carry no step.
-/

namespace CapsuleFlow

open CapsuleFlow.Json

/-- The closed set of failure codes. -/
inductive FailureCode where
  | flowLoadFailed
  | invalidFlow
  | fileError
  | invalidCapsule
  | unexpectedCapsuleType
  | missingAuthority
  | authorityRevoked
  | invalidAuthority
  | unknownPolicy
  | missingConsent
  | invalidConsent
  | scopeViolation
  | expectedFailureNotTriggered
  deriving DecidableEq, Repr, Inhabited

def FailureCode.labelled : List (FailureCode × String) :=
  [(.flowLoadFailed, "FLOW_LOAD_FAILED"), (.invalidFlow, "INVALID_FLOW"),
   (.fileError, "FILE_ERROR"), (.invalidCapsule, "INVALID_CAPSULE"),
   (.unexpectedCapsuleType, "UNEXPECTED_CAPSULE_TYPE"),
   (.missingAuthority, "MISSING_AUTHORITY"), (.authorityRevoked, "AUTHORITY_REVOKED"),
   (.invalidAuthority, "INVALID_AUTHORITY"), (.unknownPolicy, "UNKNOWN_POLICY"),
   (.missingConsent, "MISSING_CONSENT"), (.invalidConsent, "INVALID_CONSENT"),
   (.scopeViolation, "SCOPE_VIOLATION"),
   (.expectedFailureNotTriggered, "EXPECTED_FAILURE_NOT_TRIGGERED")]

/-- The wire label of a code, such as `SCOPE_VIOLATION`. -/
def FailureCode.label : FailureCode → String
  | .flowLoadFailed => "FLOW_LOAD_FAILED"
  | .invalidFlow => "INVALID_FLOW"
  | .fileError => "FILE_ERROR"
  | .invalidCapsule => "INVALID_CAPSULE"
  | .unexpectedCapsuleType => "UNEXPECTED_CAPSULE_TYPE"
  | .missingAuthority => "MISSING_AUTHORITY"
  | .authorityRevoked => "AUTHORITY_REVOKED"
  | .invalidAuthority => "INVALID_AUTHORITY"
  | .unknownPolicy => "UNKNOWN_POLICY"
  | .missingConsent => "MISSING_CONSENT"
  | .invalidConsent => "INVALID_CONSENT"
  | .scopeViolation => "SCOPE_VIOLATION"
  | .expectedFailureNotTriggered => "EXPECTED_FAILURE_NOT_TRIGGERED"

def FailureCode.ofLabel? (s : String) : Option FailureCode :=
  (FailureCode.labelled.find? (·.2 == s)).map (·.1)

/-- A reported problem. -/
structure Failure where
  stepIndex : Option Nat
  stepName : Option String
  code : FailureCode
  message : String
  deriving DecidableEq, Repr, Inhabited

/-- A failure of a flow step. -/
def Failure.atStep (i : Nat) (name : String) (code : FailureCode) (message : String) : Failure :=
  ⟨some i, some name, code, message⟩

/-- A failure of the flow as a whole. -/
def Failure.ofFlow (code : FailureCode) (message : String) : Failure :=
  ⟨none, none, code, message⟩

/-- A failure on the wire. -/
def Failure.toJson (f : Failure) : Value :=
  Value.obj [("step_index", match f.stepIndex with
      | some i => Value.nat i
      | none => .null),
    ("step_name", Value.optString f.stepName),
    ("code", .string f.code.label), ("message", .string f.message)]

/-- The shape of a failure code on the wire: its label. -/
def FailureCode.shape : Decode.Shape :=
  .enum "FailureCode" (FailureCode.labelled.map fun (_, l) => .unit l)

/-- The shape of a failure on the wire; absent coordinates are none. -/
def Failure.shape : Decode.Shape :=
  .record "Failure" [
    ("step_index", .option (.unsigned "usize" (Nat.pow 2 64 - 1)), .none),
    ("step_name", .option (.string "a string"), .none),
    ("code", FailureCode.shape, .required),
    ("message", .string "a string", .required)]

/-- A failure from a datum of its shape. -/
def Failure.ofDatum : Decode.Datum → Failure
  | .record [(_, i), (_, n), (_, .variant c _), (_, m)] =>
    { stepIndex := match i with
        | .some (.int k) => some k.toNat
        | _ => none
      stepName := match n with
        | .some (.str t) => some t
        | _ => none
      code := (FailureCode.ofLabel? c).getD .invalidFlow
      message := m.text }
  | _ => ⟨none, none, .invalidFlow, ""⟩

/-- What the trace records of a step's capsule. The canonical form and the hashes are
absent when the step did not hash its capsule. -/
structure CapsuleMeta where
  capsuleType : CapsuleType
  capsulePath : String
  canonicalJson : Option String := none
  hashHex : Option String := none
  capsuleHash : Option String := none
  deriving DecidableEq, Repr, Inhabited

/-- Capsule metadata on the wire; absent hash fields are left out. -/
def CapsuleMeta.toJson (m : CapsuleMeta) : Value :=
  let opt (k : String) (v : Option String) : List (String × Value) :=
    v.toList.map fun s => (k, .string s)
  Value.obj ([("capsule_type", .string m.capsuleType.label),
    ("capsule_path", .string m.capsulePath)] ++ opt "canonical_json" m.canonicalJson ++
    opt "hash_hex" m.hashHex ++ opt "capsule_hash" m.capsuleHash)

/-- One loaded flow step. -/
structure TraceEntry where
  stepIndex : Nat
  stepName : String
  capsule : CapsuleMeta
  /-- The decoded governance content; not written out with the trace. -/
  event : CapsuleEvent
  deriving DecidableEq, Repr, Inhabited

namespace TraceEntry

/-- Whether the step's capsule was canonicalized and hashed. Rules that read the
payload apply only to hashed entries. -/
def isHashed (e : TraceEntry) : Bool := e.capsule.canonicalJson.isSome

def capsuleHash (e : TraceEntry) : Option String := e.capsule.capsuleHash

/-- A failure at this entry's step. -/
def failure (e : TraceEntry) (code : FailureCode) (message : String) : Failure :=
  Failure.atStep e.stepIndex e.stepName code message

def toJson (e : TraceEntry) : Value :=
  Value.obj [("step_index", Value.nat e.stepIndex), ("step_name", .string e.stepName),
    ("capsule", e.capsule.toJson)]

end TraceEntry

end CapsuleFlow
