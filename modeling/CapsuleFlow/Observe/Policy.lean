import CapsuleFlow.Trace

/-!
# Policies and their authority

Which consents may serve as authority, which policies are in force, and which policy
identifiers were revoked. A revoked identifier can never be asserted again. Only hashed
entries are looked at: the rules read the payload.

An assertion is checked in this order: an authority and an identifier are given
(`MISSING_AUTHORITY`), the identifier was not revoked (`AUTHORITY_REVOKED`), the
authority is an active consent (`INVALID_AUTHORITY`). A revocation: an authority and an
identifier are given (`MISSING_AUTHORITY`), the authority is an active consent
(`INVALID_AUTHORITY`), the identifier is in force (`UNKNOWN_POLICY`).
-/

namespace CapsuleFlow

open CapsuleFlow.Json

/-- A policy in force: the asserting capsule and its authority. -/
structure ActivePolicy where
  capsuleHash : String
  authorityBasis : String
  deriving DecidableEq, Repr, Inhabited

/-- What the policy observer knows. -/
structure PolicyView where
  /-- Consent identifiers usable as authority, in order. -/
  activeConsents : List String := []
  /-- Policies in force by identifier, in identifier order. -/
  activePolicies : List (String × ActivePolicy) := []
  /-- Revoked identifiers in the order of revocation. -/
  revoked : List String := []
  deriving DecidableEq, Repr, Inhabited

namespace PolicyView

def insertSorted (s : String) : List String → List String
  | [] => [s]
  | x :: xs => if s == x then x :: xs else if s < x then s :: x :: xs else x :: insertSorted s xs

def activePolicy (p : PolicyView) (id : String) : Option ActivePolicy :=
  p.activePolicies.lookup id

/-- The message of an authority that is no active consent. -/
def noConsent (authority : String) : String :=
  s!"authority {authority} does not match any active consent"

def assertPolicy (p : PolicyView) (e : TraceEntry) (id authority : Option String) :
    PolicyView × Option Failure :=
  match authority, id with
  | none, _ => (p, some (e.failure .missingAuthority "policy assertion requires delegated authority"))
  | some _, none => (p, some (e.failure .missingAuthority "policy assertion requires a capsule_id"))
  | some a, some id =>
    if p.revoked.contains id then
      (p, some (e.failure .authorityRevoked s!"policy {id} was revoked and cannot be re-asserted"))
    else if !p.activeConsents.contains a then
      (p, some (e.failure .invalidAuthority (noConsent a)))
    else match e.capsuleHash with
      | some h =>
        ({ p with activePolicies := Value.insertKeyed id ⟨h, a⟩ p.activePolicies }, none)
      | none => (p, none)

def revokePolicy (p : PolicyView) (e : TraceEntry) (authority id : Option String) :
    PolicyView × Option Failure :=
  match authority, id with
  | some a, some id =>
    if !p.activeConsents.contains a then (p, some (e.failure .invalidAuthority (noConsent a)))
    else match p.activePolicies.lookup id with
      | none => (p, some (e.failure .unknownPolicy "cannot revoke unknown or inactive policy"))
      | some _ =>
        ({ p with activePolicies := p.activePolicies.filter (·.1 != id)
                  revoked := p.revoked ++ [id] }, none)
  | _, _ =>
    (p, some (e.failure .missingAuthority "policy revocation requires authority and policy id"))

/-- Folds one entry in, with the failure it raises if any. -/
def observe (p : PolicyView) (e : TraceEntry) : PolicyView × List Failure :=
  if !e.isHashed then (p, [])
  else
    let (p, f) := match e.event with
      | .consentAssertion _ =>
        match e.capsuleHash with
        | some h => ({ p with activeConsents := insertSorted h p.activeConsents }, none)
        | none => (p, none)
      | .policyAssertion id a => p.assertPolicy e id a
      | .policyRevocation a id => p.revokePolicy e a id
      | _ => (p, none)
    (p, f.toList)

/-- The policy view on the wire: policies as their capsule identifiers, in identifier
order. -/
def toJson (p : PolicyView) : Value :=
  Value.obj [("active_policies", .array (p.activePolicies.map fun (_, a) => .string a.capsuleHash)),
    ("revoked_policies", .array (p.revoked.map .string)),
    ("active_consents", .array (p.activeConsents.map .string))]

end PolicyView

end CapsuleFlow
