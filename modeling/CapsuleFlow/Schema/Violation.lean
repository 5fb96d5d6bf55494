import CapsuleFlow.Json.Print
import CapsuleFlow.Numeric.Text
import CapsuleFlow.Schema.Uri

/-!
# Violations

What a schema finds wrong with a document: for each failed keyword, where in the
document (a JSON pointer to the value), where in the schema (a JSON pointer to the
keyword, through every `$ref` followed), and a message naming the value and the rule.
Values in messages are written as compact JSON.
-/

namespace CapsuleFlow.Schema

open CapsuleFlow.Json

def typeNames : List String := ["array", "boolean", "integer", "null", "number", "object", "string"]

/-- The way a value fails a keyword. -/
inductive Problem where
  | additionalProperties (unexpected : List String)
  | anyOf
  | oneOfNone
  | oneOfMany
  | contains
  | const (expected : Value)
  | enum (options : Value)
  | exclusiveMaximum (limit : Value)
  | exclusiveMinimum (limit : Value)
  | maximum (limit : Value)
  | minimum (limit : Value)
  | falseSchema
  | maxLength (limit : Nat)
  | minLength (limit : Nat)
  | maxItems (limit : Nat)
  | minItems (limit : Nat)
  | maxProperties (limit : Nat)
  | minProperties (limit : Nat)
  | not (schema : Value)
  | pattern (source : String)
  | required (property : String)
  | multipleOf (divisor : Float)
  | uniqueItems
  | typeOne (name : String)
  | typeMany (names : List String)
  /-- A format the value does not have. -/
  | format (name : String)
  | unevaluatedProperties (unexpected : List String)
  | unevaluatedItems (unexpected : List Value)
  | additionalItems (unexpected : List Value)
  deriving Inhabited

def plural (n : Nat) (one many : String) : String := if n == 1 then one else many

def nameList (names : List String) : String :=
  let quoted := ", ".intercalate (names.map fun n => "\x27" ++ n ++ "\x27")
  let verb := plural names.length "was" "were"
  s!"{quoted} {verb}"

def Problem.message (v : Value) : Problem → String
  | .additionalProperties names =>
    let listed := nameList names
    s!"Additional properties are not allowed ({listed} unexpected)"
  | .anyOf => compact v ++ " is not valid under any of the schemas listed in the \x27anyOf\x27 keyword"
  | .oneOfNone => compact v ++ " is not valid under any of the schemas listed in the \x27oneOf\x27 keyword"
  | .oneOfMany => compact v ++ " is valid under more than one of the schemas listed in the \x27oneOf\x27 keyword"
  | .contains => s!"None of {compact v} are valid under the given schema"
  | .const e => s!"{compact e} was expected"
  | .enum o => s!"{compact v} is not one of {compact o}"
  | .exclusiveMaximum l => s!"{compact v} is greater than or equal to the maximum of {compact l}"
  | .exclusiveMinimum l => s!"{compact v} is less than or equal to the minimum of {compact l}"
  | .maximum l => s!"{compact v} is greater than the maximum of {compact l}"
  | .minimum l => s!"{compact v} is less than the minimum of {compact l}"
  | .falseSchema => s!"False schema does not allow {compact v}"
  | .maxLength n => compact v ++ s!" is longer than {n} character" ++ plural n "" "s"
  | .minLength n => compact v ++ s!" is shorter than {n} character" ++ plural n "" "s"
  | .maxItems n => compact v ++ s!" has more than {n} item" ++ plural n "" "s"
  | .minItems n => compact v ++ s!" has less than {n} item" ++ plural n "" "s"
  | .maxProperties n => compact v ++ s!" has more than {n} propert" ++ plural n "y" "ies"
  | .minProperties n => compact v ++ s!" has less than {n} propert" ++ plural n "y" "ies"
  | .not s => s!"{compact s} is not allowed for {compact v}"
  | .pattern p => s!"{compact v} does not match \"{p}\""
  | .required p => s!"{quote p} is a required property"
  | .multipleOf d =>
    let shown := ShortestStyle.plain.format d
    s!"{compact v} is not a multiple of {shown}"
  | .uniqueItems => s!"{compact v} has non-unique elements"
  | .typeOne t => s!"{compact v} is not of type {quote t}"
  | .typeMany ts =>
    let listed := ", ".intercalate (ts.map quote)
    s!"{compact v} is not of types {listed}"
  | .format f => s!"{compact v} is not a {quote f}"
  | .unevaluatedProperties names =>
    let listed := nameList names
    s!"Unevaluated properties are not allowed ({listed} unexpected)"
  | .unevaluatedItems items =>
    let listed := nameList (items.map compact)
    s!"Unevaluated items are not allowed ({listed} unexpected)"
  | .additionalItems items =>
    let listed := ", ".intercalate (items.map compact)
    let verb := plural items.length "was" "were"
    s!"Additional items are not allowed ({listed} {verb} unexpected)"

/-- One violation. -/
structure Violation where
  instancePath : String
  schemaPath : String
  message : String
  deriving DecidableEq, Repr, Inhabited

/-- The violation of a problem with a value at a place in the document, found by a
keyword at a place in the schema. -/
def Violation.of (v : Value) (place keyword : List String) (p : Problem) : Violation :=
  ⟨pointerText place, pointerText keyword, p.message v⟩

/-- A violation as a line: `(root)` for the document itself. -/
def Violation.line (v : Violation) : String :=
  let where_ := if v.instancePath.isEmpty then "(root)" else v.instancePath
  s!"  {where_}: {v.message}"

def renderViolations (vs : List Violation) : String := "\n".intercalate (vs.map Violation.line)

def Violation.toJson (v : Violation) : Value :=
  Value.obj [("instance_path", .string v.instancePath), ("schema_path", .string v.schemaPath),
    ("message", .string v.message)]

end CapsuleFlow.Schema
