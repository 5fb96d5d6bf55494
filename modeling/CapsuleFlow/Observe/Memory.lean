import CapsuleFlow.Trace

/-!
# Memory events

Memory capsules sorted into requests, commits and references, in the order seen. It
never fails: the rules on commits are enforced elsewhere.
-/

namespace CapsuleFlow

open CapsuleFlow.Json

/-- One memory capsule as recorded. -/
structure MemoryEvent where
  kind : CapsuleType
  memoryId : Option String
  actor : Option String
  capsuleHash : Option String
  consentReference : Option String := none
  deriving DecidableEq, Repr, Inhabited

/-- A memory event on the wire; the consent reference only when there is one. -/
def MemoryEvent.toJson (m : MemoryEvent) : Value :=
  Value.obj ([("type", .string m.kind.label), ("memory_id", Value.optString m.memoryId),
    ("actor", Value.optString m.actor), ("capsule_hash", Value.optString m.capsuleHash)] ++
    m.consentReference.toList.map fun r => ("consent_reference", .string r))

/-- The memory events seen so far. -/
structure MemoryLog where
  requests : List MemoryEvent := []
  commits : List MemoryEvent := []
  references : List MemoryEvent := []
  deriving DecidableEq, Repr, Inhabited

namespace MemoryLog

def eventOf (e : TraceEntry) (r : MemoryRecord) (reference : Option String) : MemoryEvent :=
  { kind := e.capsule.capsuleType, memoryId := r.memoryId, actor := r.actor
    capsuleHash := e.capsuleHash, consentReference := reference }

def observe (m : MemoryLog) (e : TraceEntry) : MemoryLog :=
  match e.event with
  | .memoryRequest r => { m with requests := m.requests ++ [eventOf e r none] }
  | .memoryCommit r c => { m with commits := m.commits ++ [eventOf e r c] }
  | .memoryReference r => { m with references := m.references ++ [eventOf e r none] }
  | _ => m

def toJson (m : MemoryLog) : Value :=
  Value.obj [("requests", .array (m.requests.map MemoryEvent.toJson)),
    ("commits", .array (m.commits.map MemoryEvent.toJson)),
    ("references", .array (m.references.map MemoryEvent.toJson))]

end MemoryLog

end CapsuleFlow
