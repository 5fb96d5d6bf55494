import CapsuleFlow.Json.Value
import CapsuleFlow.Text.Quote

/-!
# Log events

What a run reports along the way, apart from its result: events with a level, a
message and named fields. Where the events go is the caller's choice, through
`MonadLog`; a reader that does not want them uses `Id`, which drops them.

A field keeps how it is to be shown: text fields are shown quoted, shown fields as they
are, numbers and booleans plainly.
-/

namespace CapsuleFlow

/-- The levels of events, from the most to the least severe. -/
inductive Level where
  | error | warn | info | debug | trace
  deriving DecidableEq, Repr, Inhabited

/-- The verbosity rank of a level: 0 for errors, 4 for trace. -/
def Level.rank : Level → Nat
  | .error => 0 | .warn => 1 | .info => 2 | .debug => 3 | .trace => 4

def Level.name : Level → String
  | .error => "ERROR" | .warn => "WARN" | .info => "INFO" | .debug => "DEBUG"
  | .trace => "TRACE"

/-- The value of a field of an event. -/
inductive FieldValue where
  /-- Text, shown quoted. -/
  | text (s : String)
  /-- Text shown as it is. -/
  | shown (s : String)
  | nat (n : Nat)
  | bool (b : Bool)
  deriving DecidableEq, Repr, Inhabited

def FieldValue.display : FieldValue → String
  | .text s => Text.quoted s
  | .shown s => s
  | .nat n => toString n
  | .bool b => toString b

def FieldValue.toJson : FieldValue → Json.Value
  | .text s | .shown s => .string s
  | .nat n => Json.Value.nat n
  | .bool b => .bool b

/-- An event: level, message and fields in order. -/
structure LogEvent where
  level : Level
  message : String
  fields : List (String × FieldValue) := []
  deriving DecidableEq, Repr, Inhabited

/-- A line of text: level, message, then `name=value` for each field. -/
def LogEvent.line (e : LogEvent) : String :=
  " ".intercalate ([e.level.name, e.message].filter (!·.isEmpty) ++
    e.fields.map fun (k, v) => s!"{k}={v.display}")

/-- The JSON form: the level and the fields, the message among them. -/
def LogEvent.toJson (e : LogEvent) : Json.Value :=
  Json.Value.obj [("level", .string e.level.name),
    ("fields", Json.Value.obj (("message", .string e.message) ::
      e.fields.map fun (k, v) => (k, v.toJson)))]

/-- Monads that can take log events. -/
class MonadLog (m : Type → Type) where
  emit : LogEvent → m Unit

/-- Pure readers drop events. -/
instance : MonadLog Id := ⟨fun _ => pure ()⟩

/-- Log events collected in order. -/
instance : MonadLog (StateM (Array LogEvent)) := ⟨fun e => modify (·.push e)⟩

end CapsuleFlow
