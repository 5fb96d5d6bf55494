import CapsuleFlow.Schema.Meta
import CapsuleFlow.Schema.Build
import CapsuleFlow.Capsule
import CapsuleFlow.System

/-!
# Schema sets

A schema set holds schemas by name (their file names) and, when it was read from a
directory, that directory. A document is validated against one schema of the set, named;
a capsule against the schema of its type when the set has it, else the envelope schema.

Before it checks anything, a schema is built. Building gathers every document its
references reach: a reference the schema itself or a gathered document does not hold is
asked of the set, first by the whole URI (a schema's `$id` or its name), then by the last
segment of the URI; the drafts' own meta-schemas are known without asking. A reference
the set cannot give fails the build. The draft 2020-12 meta-schemas are held behind the
gathered documents, so a reference may lead into them.
-/

namespace CapsuleFlow.Schema

open CapsuleFlow.Json

def envelopeSchema : String := "capsule.schema.json"

def flowSchema : String := "flow.schema.json"

/-- The schema that governs capsules of a type: a schema of its own for the governance
types, the envelope for the rest. -/
def schemaFor : CapsuleType → String
  | .consentAssertion => "consent-assertion.schema.json"
  | .consentRevocation => "consent-revocation.schema.json"
  | .policyAssertion => "policy-assertion.schema.json"
  | .policyRevocation => "policy-revocation.schema.json"
  | .memoryCommit => "memory-commit.schema.json"
  | _ => envelopeSchema

/-- Why validation did not pass. -/
inductive SchemaError where
  | validationFailed (name : String) (violations : List Violation)
  | schemaLoad (name reason : String)
  | documentLoad (path reason : String)
  | validatorBuild (name reason : String)
  | io (e : OsError)
  deriving DecidableEq, Repr

def SchemaError.message : SchemaError → String
  | .validationFailed n vs => s!"validation failed against schema \x27{n}\x27:\n" ++ renderViolations vs
  | .schemaLoad n r => s!"schema load error for \x27{n}\x27: {r}"
  | .documentLoad p r => s!"document load error for \x27{p}\x27: {r}"
  | .validatorBuild n r => s!"validator build error for schema \x27{n}\x27: {r}"
  | .io e => s!"io error: {e.text}"

def SchemaError.kind : SchemaError → String
  | .validationFailed _ _ => "ValidationFailed"
  | .schemaLoad _ _ => "SchemaLoadError"
  | .documentLoad _ _ => "DocumentLoadError"
  | .validatorBuild _ _ => "ValidatorBuildError"
  | .io _ => "Io"

/-- Schemas by name. -/
structure SchemaSet where
  dir : Option String := none
  schemas : List (String × Value) := []
  deriving Inhabited

namespace SchemaSet

def insert (s : SchemaSet) (name : String) (schema : Value) : SchemaSet :=
  { s with schemas := Value.insertKeyed name schema s.schemas }

def names (s : SchemaSet) : List String := s.schemas.map (·.1)

def get? (s : SchemaSet) (name : String) : Option Value := s.schemas.lookup name

/-- The schemas by the URIs they can be asked for: each by its `$id`, and by its name. -/
def byUri (s : SchemaSet) : List (String × Value) :=
  s.schemas.flatMap fun (name, v) =>
    (match v.get? "$id" with
      | some (.string id) => [(id, v)]
      | _ => []) ++ [(name, v)]

/-- The schema a URI asks for: by the whole URI, else by its last segment. -/
def retrieve (s : SchemaSet) (uri : String) : Except String Value :=
  match s.byUri.lookup uri with
  | some v => .ok v
  | none =>
    match s.byUri.lookup ((splitChar uri '/').getLast?.getD uri) with
    | some v => .ok v
    | none => .error s!"schema not registered: {uri}"

end SchemaSet

def isWellKnown (base reference : String) : Bool :=
  beginsWith reference "https://json-schema.org/draft/" ||
    beginsWith reference "http://json-schema.org/draft-" ||
    beginsWith base "https://json-schema.org/draft/"

/-- The resources a schema holds (subschemas with `$id`, under their URIs) and the
documents it refers to (by URI without fragment), in order, to a bounded depth. -/
def scanSchema : Nat → String → Value → List (String × Value) × List String
  | 0, _, _ => ([], [])
  | fuel + 1, base, v =>
    let inner := innerBase base v
    let own := match v.get? "$id" with
      | some (.string _) => [(inner, v)]
      | _ => []
    let refs := ["$ref", "$schema"].filterMap fun k =>
      match v.get? k with
      | some (.string r) =>
        if isWellKnown inner r || r == "#" then none else some (withoutFragment (resolveUri inner r))
      | _ => none
    let nested := (subschemas v).map (scanSchema fuel inner)
    (own ++ nested.flatMap (·.1), refs ++ nested.flatMap (·.2))

/-- Gathers the documents reachable from pending ones, asking the set for each document
not yet held. -/
def gather (s : SchemaSet) : Nat → List (String × Value) → Registry → Except String Registry
  | 0, _, reg => .ok reg
  | _ + 1, [], reg => .ok reg
  | fuel + 1, (uri, doc) :: pending, reg => do
    let base := innerBase uri doc
    let (held, refs) := scanSchema 64 uri doc
    let fresh := ((base, doc) :: held).filter fun (u, _) => (reg.find? u).isNone
    let reg : Registry := { reg with documents := reg.documents ++ fresh }
    let step (acc : List (String × Value) × Registry) (target : String) :
        Except String (List (String × Value) × Registry) :=
      let (pending, reg) := acc
      if (reg.find? target).isSome then .ok (pending, reg)
      else match s.retrieve target with
        | .ok d => .ok (pending ++ [(target, d)], { reg with documents := reg.documents ++ [(target, d)] })
        | .error msg => .error
          s!"Resource \x27{target}\x27 is not present in a registry and retrieving it failed: {msg}"
    let (pending, reg) ← refs.foldlM step (pending, reg)
    gather s fuel pending reg

/-- A schema ready to check documents: the documents it reaches, its base URI, itself. -/
structure Validator where
  registry : Registry
  base : String
  root : Value
  deriving Inhabited

/-- The scope a validator starts checking from: its base URI and the vocabularies of its
root. -/
def Validator.scope (v : Validator) : Scope := Scope.target v.registry v.base v.root

def Validator.check (v : Validator) (doc : Value) : List Violation :=
  violations v.registry checkFuel v.scope v.root [] doc []

namespace SchemaSet

/-- Builds the named schema: the documents it refers to must all be at hand, the schema
itself must pass the meta-schema, and its patterns and references must be usable
(`buildFault?`). -/
def build (s : SchemaSet) (name : String) : Except SchemaError Validator := do
  let some root := s.get? name
    | throw (.schemaLoad name (match s.dir with
        | some d => s!"schema not found in {d}"
        | none => "schema not registered"))
  let base := innerBase defaultBase root
  match gather s 256 [(base, root)] { root := base } with
  | .error msg => throw (.validatorBuild name msg)
  | .ok gathered =>
    let reg := { gathered with documents := gathered.documents ++ metaRegistry.documents }
    match metaViolation? root with
    | some v => throw (.validatorBuild name v.message)
    | none =>
      let validator : Validator := ⟨reg, base, root⟩
      match buildFault? reg validator.scope root with
      | some fault => throw (.validatorBuild name fault)
      | none => return validator

def validateDocument (s : SchemaSet) (doc : Value) (name : String) : Except SchemaError Unit := do
  let v ← s.build name
  match v.check doc with
  | [] => return ()
  | vs => throw (.validationFailed name vs)

/-- Validates a capsule against the schema of its type, or the envelope when the set
has no schema for the type. -/
def validateCapsule (s : SchemaSet) (capsule : Value) : Except SchemaError Unit :=
  let typed := schemaFor (CapsuleType.of capsule)
  s.validateDocument capsule (if (s.get? typed).isSome then typed else envelopeSchema)

end SchemaSet

end CapsuleFlow.Schema
