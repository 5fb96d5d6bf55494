import CapsuleFlow.Schema.Registry

/-!
# The bundled schemas

The schema directory that ships with the harness: the capsule envelope, one schema for
each governance capsule type (each extending the envelope by reference), and the flow
schema. As a set it is known by the directory name `schemas`.
-/

namespace CapsuleFlow.Schema

open CapsuleFlow.Json

/-- The schema `capsule.schema.json`. -/
def bundledCapsuleSchema : Value :=
  Value.obj [
    ("$schema", .string "https://json-schema.org/draft/2020-12/schema"),
    ("$id", .string "https://schemas.capsule-governance.org/harness/capsule.schema.json"),
    ("title", .string "Capsule envelope"),
    ("description", .string "Fields shared by every capsule. Type-specific schemas extend this one."),
    ("type", .string "object"),
    ("properties", Value.obj [
      ("capsule_type", Value.obj [("type", .string "string"), ("minLength", Value.nat 1)]),
      ("capsule_id", Value.obj [("type", .string "string"), ("minLength", Value.nat 1)]),
      ("created_at", Value.obj [("type", .string "string")])]),
    ("required", .array [.string "capsule_type"])]

/-- The schema `consent-assertion.schema.json`. -/
def bundledConsentAssertionSchema : Value :=
  Value.obj [
    ("$schema", .string "https://json-schema.org/draft/2020-12/schema"),
    ("$id", .string "https://schemas.capsule-governance.org/harness/consent-assertion.schema.json"),
    ("title", .string "CONSENT_ASSERTION capsule"),
    ("$ref", .string "capsule.schema.json"),
    ("properties", Value.obj [
      ("capsule_type", Value.obj [("const", .string "CONSENT_ASSERTION")]),
      ("consent", Value.obj [
        ("type", .string "object"),
        ("properties", Value.obj [
          ("scope", Value.obj [
            ("oneOf", .array [
              Value.obj [("type", .string "string"), ("minLength", Value.nat 1)],
              Value.obj [
                ("type", .string "array"),
                ("items", Value.obj [("type", .string "string"), ("minLength", Value.nat 1)])]])])]),
        ("required", .array [.string "scope"])])]),
    ("required", .array [.string "consent"])]

/-- The schema `consent-revocation.schema.json`. -/
def bundledConsentRevocationSchema : Value :=
  Value.obj [
    ("$schema", .string "https://json-schema.org/draft/2020-12/schema"),
    ("$id", .string "https://schemas.capsule-governance.org/harness/consent-revocation.schema.json"),
    ("title", .string "CONSENT_REVOCATION capsule"),
    ("$ref", .string "capsule.schema.json"),
    ("properties", Value.obj [("capsule_type", Value.obj [("const", .string "CONSENT_REVOCATION")])])]

/-- The schema of one step of a flow: the items of `steps` in `flow.schema.json`. -/
def bundledFlowStepSchema : Value :=
  Value.obj [
    ("type", .string "object"),
    ("properties", Value.obj [
      ("name", Value.obj [("type", .string "string"), ("minLength", Value.nat 1)]),
      ("capsule_path", Value.obj [("type", .string "string"), ("minLength", Value.nat 1)]),
      ("expect_capsule_type", Value.obj [("type", .string "string")]),
      ("compute_hashes", Value.obj [("type", .string "boolean")]),
      ("expect_failure", Value.obj [("type", .string "boolean")]),
      ("failure_reason", Value.obj [("type", .string "string")])]),
    ("required", .array [.string "name", .string "capsule_path"])]

/-- The schema `flow.schema.json`. -/
def bundledFlowSchema : Value :=
  Value.obj [
    ("$schema", .string "https://json-schema.org/draft/2020-12/schema"),
    ("$id", .string "https://schemas.capsule-governance.org/harness/flow.schema.json"),
    ("title", .string "Harness flow"),
    ("type", .string "object"),
    ("properties", Value.obj [
      ("flow_id", Value.obj [("type", .string "string"), ("minLength", Value.nat 1)]),
      ("description", Value.obj [("type", .string "string")]),
      ("steps", Value.obj [("type", .string "array"), ("items", bundledFlowStepSchema)])]),
    ("required", .array [.string "flow_id", .string "steps"])]

/-- The schema `memory-commit.schema.json`. -/
def bundledMemoryCommitSchema : Value :=
  Value.obj [
    ("$schema", .string "https://json-schema.org/draft/2020-12/schema"),
    ("$id", .string "https://schemas.capsule-governance.org/harness/memory-commit.schema.json"),
    ("title", .string "MEMORY_COMMIT capsule"),
    ("$ref", .string "capsule.schema.json"),
    ("properties", Value.obj [
      ("capsule_type", Value.obj [("const", .string "MEMORY_COMMIT")]),
      ("commit", Value.obj [
        ("type", .string "object"),
        ("properties", Value.obj [
          ("memory_id", Value.obj [("type", .string "string"), ("minLength", Value.nat 1)]),
          ("actor", Value.obj [("type", .string "string")]),
          ("consent_reference", Value.obj [
            ("type", .string "string"),
            ("pattern", .string "^cap_[0-9a-f]\x7b2,128\x7d$")])]),
        ("required", .array [.string "consent_reference"])])]),
    ("required", .array [.string "commit"])]

/-- The schema `policy-assertion.schema.json`. -/
def bundledPolicyAssertionSchema : Value :=
  Value.obj [
    ("$schema", .string "https://json-schema.org/draft/2020-12/schema"),
    ("$id", .string "https://schemas.capsule-governance.org/harness/policy-assertion.schema.json"),
    ("title", .string "POLICY_ASSERTION capsule"),
    ("$ref", .string "capsule.schema.json"),
    ("properties", Value.obj [
      ("capsule_type", Value.obj [("const", .string "POLICY_ASSERTION")]),
      ("policy", Value.obj [
        ("type", .string "object"),
        ("properties", Value.obj [
          ("authority_basis", Value.obj [("$ref", .string "#/$defs/capsule_hash")])]),
        ("required", .array [.string "authority_basis"])])]),
    ("required", .array [.string "capsule_id", .string "policy"]),
    ("$defs", Value.obj [
      ("capsule_hash", Value.obj [
        ("type", .string "string"),
        ("pattern", .string "^cap_[0-9a-f]\x7b2,128\x7d$")])])]

/-- The schema `policy-revocation.schema.json`. -/
def bundledPolicyRevocationSchema : Value :=
  Value.obj [
    ("$schema", .string "https://json-schema.org/draft/2020-12/schema"),
    ("$id", .string "https://schemas.capsule-governance.org/harness/policy-revocation.schema.json"),
    ("title", .string "POLICY_REVOCATION capsule"),
    ("$ref", .string "capsule.schema.json"),
    ("properties", Value.obj [
      ("capsule_type", Value.obj [("const", .string "POLICY_REVOCATION")]),
      ("revocation", Value.obj [
        ("type", .string "object"),
        ("properties", Value.obj [
          ("authority_basis", Value.obj [
            ("type", .string "string"),
            ("pattern", .string "^cap_[0-9a-f]\x7b2,128\x7d$")]),
          ("revoked_policy_id", Value.obj [("type", .string "string"), ("minLength", Value.nat 1)])]),
        ("required", .array [.string "authority_basis", .string "revoked_policy_id"])])]),
    ("required", .array [.string "revocation"])]

def bundledSchemas : SchemaSet :=
  { dir := some "schemas"
    schemas := Value.keyedOf [
      ("capsule.schema.json", bundledCapsuleSchema),
      ("consent-assertion.schema.json", bundledConsentAssertionSchema),
      ("consent-revocation.schema.json", bundledConsentRevocationSchema),
      ("flow.schema.json", bundledFlowSchema),
      ("memory-commit.schema.json", bundledMemoryCommitSchema),
      ("policy-assertion.schema.json", bundledPolicyAssertionSchema),
      ("policy-revocation.schema.json", bundledPolicyRevocationSchema)] }

end CapsuleFlow.Schema
