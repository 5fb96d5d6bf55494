import CapsuleFlow.Trace

/-!
# Consent

The consent state moves `UNKNOWN → ASSERTED ⇄ REVOKED`. An assertion records the scopes
it grants under the asserting capsule's identifier (an unhashed assertion grants
nothing); a revocation carries no scope, so it withdraws every active scope.
-/

namespace CapsuleFlow

open CapsuleFlow.Json

/-- Where consent stands. -/
inductive ConsentState where
  | unknown | asserted | revoked
  deriving DecidableEq, Repr, Inhabited

def ConsentState.label : ConsentState → String
  | .unknown => "UNKNOWN" | .asserted => "ASSERTED" | .revoked => "REVOKED"

/-- What the consent observer knows. -/
structure ConsentView where
  state : ConsentState := .unknown
  assertion : Option String := none
  revocation : Option String := none
  /-- Consent capsule identifier to the scopes it grants, by identifier. -/
  activeScopes : List (String × List String) := []
  deriving DecidableEq, Repr, Inhabited

namespace ConsentView

def scopesFor (c : ConsentView) (consent : String) : Option (List String) :=
  c.activeScopes.lookup consent

def observe (c : ConsentView) (e : TraceEntry) : ConsentView :=
  match e.event with
  | .consentAssertion scope =>
    { state := .asserted, assertion := e.capsuleHash, revocation := none
      activeScopes := match e.capsuleHash with
        | some h => Value.insertKeyed h scope c.activeScopes
        | none => c.activeScopes }
  | .consentRevocation =>
    { c with state := .revoked, revocation := e.capsuleHash, activeScopes := [] }
  | _ => c

def toJson (c : ConsentView) : Value :=
  Value.obj [("state", .string c.state.label),
    ("assertion_capsule_hash", Value.optString c.assertion),
    ("revocation_capsule_hash", Value.optString c.revocation),
    ("active_scopes", .object (c.activeScopes.map fun (k, s) => (k, .array (s.map .string))))]

end ConsentView

end CapsuleFlow
