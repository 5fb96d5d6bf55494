import CapsuleFlow.Schema.Check

/-!
# Building a schema

Before a schema checks anything, what it checks with must be usable: every `pattern`
must read as a regular expression, every key of `patternProperties` too, and every
reference must lead somewhere. The schema is walked the way checking walks it: keyword
by keyword in order, into the subschemas the keywords apply (not into `$defs`), and
through references, each target once; only the keywords that apply in the scope count
(`Scope.keywords`). The first problem found refuses the schema:

* a `pattern` that does not read: the pattern, then `is not a "regex"`;
* a key of `patternProperties` that does not read: its subschema, then
  `is not a "regex"`;
* a reference that leads nowhere: `Pointer '...' does not exist` or
  `Anchor '...' does not exist`.

`additionalProperties`, when it restricts anything, takes `patternProperties` and
`properties` with it, as in checking; `then` and `else` go with `if`.
-/

namespace CapsuleFlow.Schema

open CapsuleFlow.Json

def isRegex (pattern : String) : Bool := (Regex.Pattern.compile pattern).toOption.isSome

/-- The message of a value that stands for a pattern that does not read. -/
def notRegex (v : Value) : String := compact v ++ " is not a \"regex\""

def membersOf : Value → List (String × Value)
  | .object ms => ms
  | _ => []

def elementsOf : Value → List Value
  | .array xs => xs
  | _ => []

/-- Walks a schema from a scope, with the references already followed (by their full
URI); gives the first problem, or the references followed after it. Spends one unit of
fuel per schema level. -/
def buildWalk (reg : Registry) : Nat → Scope → Value → List String → Except String (List String)
  | 0, _, _, seen => .ok seen
  | fuel + 1, scope, .object kws, seen =>
    let scope := scope.enter (.object kws)
    let walkAll (schemas : List Value) (seen : List String) : Except String (List String) :=
      schemas.foldlM (fun seen s => buildWalk reg fuel scope s seen) seen
    let patterns (v : Value) (seen : List String) : Except String (List String) :=
      (membersOf v).foldlM (fun seen (p, s) =>
        if isRegex p then buildWalk reg fuel scope s seen else .error (notRegex s)) seen
    let restricting : Bool := match kws.lookup "additionalProperties" with
      | some (.bool false) | some (.object _) => true
      | _ => false
    let keyword (seen : List String) (kv : String × Value) : Except String (List String) :=
      let (k, v) := kv
      match k with
      | "$ref" | "$dynamicRef" =>
        match v with
        | .string r =>
          let full := resolveUri scope.base r
          if seen.contains full then .ok seen
          else match reg.resolve scope.base r with
            | .ok (b, target) => buildWalk reg fuel (Scope.target reg b target) target (full :: seen)
            | .error e => .error e
        | _ => .ok seen
      | "pattern" =>
        match v with
        | .string p => if isRegex p then .ok seen else .error (notRegex v)
        | _ => .ok seen
      | "patternProperties" => if restricting then .ok seen else patterns v seen
      | "properties" => if restricting then .ok seen else walkAll ((membersOf v).map (·.2)) seen
      | "additionalProperties" => do
        let seen ← match kws.lookup "patternProperties" with
          | some pp => patterns pp seen
          | none => .ok seen
        if !restricting then return seen
        let seen ← walkAll (((kws.lookup "properties").map membersOf).getD [] |>.map (·.2)) seen
        walkAll [v] seen
      | "if" => walkAll (v :: (kws.lookup "then").toList ++ (kws.lookup "else").toList) seen
      | "items" => walkAll (match v with
          | .array xs => xs
          | v => [v]) seen
      | "contains" | "not" | "propertyNames" | "unevaluatedItems" | "unevaluatedProperties"
      | "additionalItems" => walkAll [v] seen
      | "prefixItems" | "allOf" | "anyOf" | "oneOf" => walkAll (elementsOf v) seen
      | "dependentSchemas" => walkAll ((membersOf v).map (·.2)) seen
      | "dependencies" =>
        walkAll ((membersOf v).filterMap fun (_, d) => match d with
          | .array _ => none
          | d => some d) seen
      | _ => .ok seen
    (scope.keywords kws).foldlM keyword seen
  | _ + 1, _, _, seen => .ok seen

/-- The first problem that keeps a schema from being built, if any. -/
def buildFault? (reg : Registry) (scope : Scope) (schema : Value) : Option String :=
  match buildWalk reg checkFuel scope schema [] with
  | .error e => some e
  | .ok _ => none

end CapsuleFlow.Schema
