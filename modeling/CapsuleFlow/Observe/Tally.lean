import CapsuleFlow.Trace

/-!
# Capsule tally

A count of every observed capsule by type, and the types in the order seen. It never
fails.
-/

namespace CapsuleFlow

open CapsuleFlow.Json

/-- The tally of capsules seen so far. -/
structure Tally where
  total : Nat := 0
  byType : List (String × Nat) := []
  ordered : List String := []
  deriving DecidableEq, Repr, Inhabited

namespace Tally

def observe (t : Tally) (e : TraceEntry) : Tally :=
  let label := e.capsule.capsuleType.label
  { total := t.total + 1
    byType := Value.insertKeyed label (((t.byType.lookup label).getD 0) + 1) t.byType
    ordered := t.ordered ++ [label] }

def toJson (t : Tally) : Value :=
  Value.obj [("total_count", Value.nat t.total),
    ("count_by_type", .object (t.byType.map fun (k, n) => (k, Value.nat n))),
    ("ordered_types", .array (t.ordered.map .string))]

end Tally

end CapsuleFlow
