import CapsuleFlow.Json.Value
import CapsuleFlow.Text.Space

/-!
# Capsules and the events they record

A capsule is a JSON object whose `capsule_type` names the kind of event it records.
Each capsule is decoded once into a `CapsuleEvent`, the small sum type that observers
and enforcement match on. Fields are read at fixed JSON pointers; an empty string counts
as absent.
-/

namespace CapsuleFlow

open CapsuleFlow.Json

/-- The declared kind of a capsule. -/
inductive CapsuleType where
  | state
  | stanceDeclaration
  | consentAssertion
  | consentRevocation
  | policyAssertion
  | policyRevocation
  | memoryRequest
  | memoryCommit
  | memoryReference
  /-- Stands in when a capsule declares no usable type. -/
  | unknown
  /-- Any other declared type, kept verbatim. -/
  | other (label : String)
  deriving DecidableEq, Repr, Inhabited

namespace CapsuleType

def known : List (CapsuleType × String) :=
  [(.state, "STATE"), (.stanceDeclaration, "STANCE_DECLARATION"),
   (.consentAssertion, "CONSENT_ASSERTION"), (.consentRevocation, "CONSENT_REVOCATION"),
   (.policyAssertion, "POLICY_ASSERTION"), (.policyRevocation, "POLICY_REVOCATION"),
   (.memoryRequest, "MEMORY_REQUEST"), (.memoryCommit, "MEMORY_COMMIT"),
   (.memoryReference, "MEMORY_REFERENCE"), (.unknown, "UNKNOWN")]

/-- The wire label, such as `CONSENT_ASSERTION`. -/
def label : CapsuleType → String
  | .state => "STATE"
  | .stanceDeclaration => "STANCE_DECLARATION"
  | .consentAssertion => "CONSENT_ASSERTION"
  | .consentRevocation => "CONSENT_REVOCATION"
  | .policyAssertion => "POLICY_ASSERTION"
  | .policyRevocation => "POLICY_REVOCATION"
  | .memoryRequest => "MEMORY_REQUEST"
  | .memoryCommit => "MEMORY_COMMIT"
  | .memoryReference => "MEMORY_REFERENCE"
  | .unknown => "UNKNOWN"
  | .other s => s

/-- The type a label names, case-sensitively; any other label is kept as it is. -/
def ofLabel (s : String) : CapsuleType :=
  match known.find? (·.2 == s) with
  | some (t, _) => t
  | none => .other s

/-- Whether the type is one not known by name. -/
def isOther : CapsuleType → Bool
  | .other _ => true
  | _ => false

/-- The type a capsule declares: a non-empty string `capsule_type`, else `UNKNOWN`. -/
def of (capsule : Value) : CapsuleType :=
  match capsule.get? "capsule_type" with
  | some (.string s) => if s.isEmpty then .unknown else ofLabel s
  | _ => .unknown

end CapsuleType

/-- The message of a capsule that has no usable type. -/
def missingTypeMessage : String :=
  "capsule missing required string field \"capsule_type\" (or fallback \"type\")"

/-- Strict type reading: `capsule_type`, else `type`, the first that is a string with
something besides white space, trimmed. The error is the reason, to follow
`invalid capsule: `. -/
def extractCapsuleType (capsule : Value) : Except String String :=
  match capsule with
  | .object _ =>
    let found := ["capsule_type", "type"].filterMap fun k =>
      (capsule.get? k).bind Value.str? |>.map Text.trim
    match found.find? (!·.isEmpty) with
    | some s => .ok s
    | none => .error missingTypeMessage
  | _ => .error "capsule must be a JSON object"

/-- What a memory capsule says about the memory it concerns. -/
structure MemoryRecord where
  memoryId : Option String := none
  actor : Option String := none
  deriving DecidableEq, Repr, Inhabited

/-- The governance content of a capsule. -/
inductive CapsuleEvent where
  | consentAssertion (scope : List String)
  | consentRevocation
  | policyAssertion (policyId authorityBasis : Option String)
  | policyRevocation (authorityBasis revokedPolicyId : Option String)
  | memoryRequest (record : MemoryRecord)
  | memoryCommit (record : MemoryRecord) (consentReference : Option String)
  | memoryReference (record : MemoryRecord)
  /-- A type no observer acts on. -/
  | unhandled (type : CapsuleType)
  deriving DecidableEq, Repr, Inhabited

/-- The first non-empty string at one of the pointers. -/
def textAt (payload : Value) (pointers : List String) : Option String :=
  (pointers.filterMap fun p => (payload.pointer p).bind Value.str?).find? (!·.isEmpty)

/-- A consent scope: the strings of an array, a lone string, or nothing. -/
def scopeList : Option Value → List String
  | some (.array items) => items.filterMap Value.str?
  | some (.string s) => [s]
  | _ => []

/-- The memory record of a capsule whose own section is `section`. -/
def memoryRecord (payload : Value) (section_ : String) : MemoryRecord :=
  { memoryId := textAt payload ["/memory_id", s!"/{section_}/memory_id", "/memory/memory_id"]
    actor := textAt payload ["/actor", s!"/{section_}/actor", "/memory/actor"] }

/-- Decodes the event of a capsule of the given type. A `null` payload decodes with every
field absent. -/
def CapsuleEvent.decode (type : CapsuleType) (payload : Value) : CapsuleEvent :=
  match type with
  | .consentAssertion => .consentAssertion (scopeList (payload.pointer "/consent/scope"))
  | .consentRevocation => .consentRevocation
  | .policyAssertion =>
    .policyAssertion (textAt payload ["/capsule_id"]) (textAt payload ["/policy/authority_basis"])
  | .policyRevocation =>
    .policyRevocation (textAt payload ["/revocation/authority_basis"])
      (textAt payload ["/revocation/revoked_policy_id"])
  | .memoryRequest => .memoryRequest (memoryRecord payload "request")
  | .memoryCommit =>
    .memoryCommit (memoryRecord payload "commit") (textAt payload ["/commit/consent_reference"])
  | .memoryReference => .memoryReference (memoryRecord payload "reference")
  | other => .unhandled other

end CapsuleFlow
