import CapsuleFlow.Schema.Uri

/-!
# Scopes

Where a subschema is checked from: the base URI its references resolve against, and
the vocabularies whose keywords apply to it.

Documents are held in a registry by URI. A reference resolves against the base URI to
a document and, through its fragment, to a place in it: a JSON pointer or an anchor.

Every document is written in a draft of JSON Schema: the schema being built is read as
draft 2020-12, and any other document in the draft its `$schema` names (2020-12 when it
names none). Under drafts 4, 6 and 7 every keyword of the draft applies and a `$ref`
hides the keywords beside it. Under the later drafts the keywords that apply are those
of the vocabularies in force, less those of a later draft: draft 2019-09 and 2020-12 give
all of them, drafts 4, 6 and 7 none (only references then apply).
A schema's vocabularies come from its `$schema`: a draft's own meta-schema gives that
draft's, any other URI names a meta-schema of the registry whose `$vocabulary` lists
them; a schema without `$schema`, or whose meta-schema cannot be found or lists none,
has those of the draft it is read in. Subschemas share the draft and vocabularies of
the schema they are in; the target of a reference takes the draft of its document and
the vocabularies of its own `$schema`.
-/

namespace CapsuleFlow.Schema

open CapsuleFlow.Json

/-- Documents by the URI they are known under, without fragment, and the URI of the
schema being built, whose document is always read as draft 2020-12. -/
structure Registry where
  documents : List (String × Value) := []
  root : String := ""
  deriving Inhabited

def Registry.find? (r : Registry) (uri : String) : Option Value :=
  r.documents.lookup uri

/-- The base URI inside a schema: its `$id` resolved against the outer base. -/
def innerBase (base : String) (schema : Value) : String :=
  match schema.get? "$id" with
  | some (.string id) => withoutFragment (resolveUri base id)
  | _ => base

/-- An array index as a pointer token writes it: decimal digits, perhaps after a `+`,
below 2^64. -/
def arrayIndex? (t : String) : Option Nat :=
  let digits := if beginsWith t "+" then (t.drop 1).toString else t
  if digits.isEmpty || !digits.all Char.isDigit then none
  else
    let n := digits.foldl (fun n c => 10 * n + (c.toNat - '0'.toNat)) 0
    if n < Nat.pow 2 64 then some n else none

/-- Why a JSON pointer leads nowhere: a token that is not an index where an array is
entered, or a place that does not exist. -/
inductive PointerFault where
  | badIndex (token : String)
  | nowhere
  deriving DecidableEq, Repr

def walkPointer (base : String) (v : Value) : List String → Except PointerFault (String × Value)
  | [] => .ok (base, v)
  | t :: ts => do
    let next ← match v with
      | .object ms => pure (ms.lookup t)
      | .array xs =>
        match arrayIndex? t with
        | some i => pure xs[i]?
        | none => throw (.badIndex t)
      | _ => pure none
    match next with
    | some w => walkPointer (innerBase base w) w ts
    | none => throw .nowhere

/-- The subschemas of a schema, each with the name of the keyword that holds it. -/
def subschemas (v : Value) : List Value :=
  match v with
  | .object ms => ms.flatMap fun (k, w) =>
    if ["additionalItems", "additionalProperties", "contains", "contentSchema", "else", "if",
        "not", "propertyNames", "then", "unevaluatedItems", "unevaluatedProperties"].contains k then [w]
    else if ["allOf", "anyOf", "items", "oneOf", "prefixItems"].contains k then
      match w with
      | .array xs => xs
      | w => if k == "items" then [w] else []
    else if ["$defs", "definitions", "dependencies", "dependentSchemas", "patternProperties",
        "properties"].contains k then
      match w with
      | .object ps => ps.map (·.2)
      | _ => []
    else []
  | _ => []

/-- The subschema of a resource with a given `$anchor` or `$dynamicAnchor`, searched to a
bounded depth. -/
def findAnchor (name : String) : Nat → Value → Option Value
  | 0, _ => none
  | fuel + 1, v =>
    if v.get? "$anchor" == some (.string name) || v.get? "$dynamicAnchor" == some (.string name) then
      some v
    else (subschemas v).findSome? (findAnchor name fuel)

/-- Where a reference leads from a base URI: the base URI there and the schema, or why
it leads nowhere. -/
def Registry.resolve (r : Registry) (base reference : String) : Except String (String × Value) := do
  let full := resolveUri base reference
  let uri := withoutFragment full
  let some doc := r.find? uri
    | throw (s!"Resource \x27{uri}\x27 is not present in a registry and retrieving it failed: " ++
        "Retrieving external resources is not supported once the registry is populated")
  let fragment := fragmentOf full
  if fragment.isEmpty then return (uri, doc)
  else if beginsWith fragment "/" then
    let pointer := percentDecode fragment
    match walkPointer uri doc (pointerTokens pointer) with
    | .ok found => return found
    | .error (.badIndex t) => throw s!"Failed to parse array index \x27{t}\x27 in pointer \x27{pointer}\x27"
    | .error .nowhere => throw s!"Pointer \x27{pointer}\x27 does not exist"
  else if fragment.toList.contains '/' then throw s!"Anchor \x27{fragment}\x27 is invalid"
  else
    match findAnchor fragment 64 doc with
    | some found => return (uri, found)
    | none => throw s!"Anchor \x27{fragment}\x27 does not exist"

/-! ## Vocabularies -/

/-- The vocabularies that hold checking keywords; the core vocabulary (references)
always applies. -/
structure Vocabularies where
  applicator : Bool := true
  validation : Bool := true
  unevaluated : Bool := true
  deriving DecidableEq, Repr, Inhabited

def Vocabularies.coreOnly : Vocabularies := ⟨false, false, false⟩

def applicatorKeywords : List String :=
  ["additionalItems", "additionalProperties", "allOf", "anyOf", "contains", "dependencies", "dependentSchemas",
    "else", "if", "items", "not", "oneOf", "patternProperties", "prefixItems", "properties",
    "propertyNames", "then"]

def validationKeywords : List String :=
  ["const", "dependentRequired", "enum", "exclusiveMaximum", "exclusiveMinimum", "maxContains",
    "maxItems", "maxLength", "maxProperties", "maximum", "minContains", "minItems", "minLength",
    "minProperties", "minimum", "multipleOf", "pattern", "required", "type", "uniqueItems"]

def Vocabularies.allows (v : Vocabularies) (keyword : String) : Bool :=
  if applicatorKeywords.contains keyword then v.applicator
  else if validationKeywords.contains keyword then v.validation
  else if keyword == "unevaluatedProperties" || keyword == "unevaluatedItems" then v.unevaluated
  else true

/-- The vocabularies a `$vocabulary` object lists. -/
def listedVocabularies (listed : List (String × Value)) : Vocabularies :=
  let has (name : String) : Bool := listed.any fun (uri, _) =>
    uri == "https://json-schema.org/draft/2020-12/vocab/" ++ name ||
      uri == "https://json-schema.org/draft/2019-09/vocab/" ++ name
  ⟨has "applicator", has "validation", has "unevaluated"⟩

/-- A `$schema` URI without the `#` marks it ends with. -/
def trimHashes (uri : String) : String :=
  String.ofList (uri.toList.reverse.dropWhile (· == '#')).reverse

/-- The drafts of JSON Schema. -/
inductive Draft where
  | draft4 | draft6 | draft7 | draft2019 | draft2020
  deriving DecidableEq, Repr, Inhabited

/-- Whether a draft comes before vocabularies: drafts 4, 6 and 7. -/
def Draft.legacy : Draft → Bool
  | .draft4 | .draft6 | .draft7 => true
  | _ => false

def Draft.vocabularies : Draft → Vocabularies
  | .draft2020 | .draft2019 => {}
  | _ => .coreOnly

/-- Whether a keyword belongs to a draft: draft 2019-09 lacks the keywords that came with
2020-12, and drafts 4, 6 and 7 also those that came with 2019-09 (and draft 4 those of
draft 6, drafts 4 and 6 the conditionals of draft 7). -/
def Draft.knows (d : Draft) (keyword : String) : Bool :=
  let since2020 := ["prefixItems", "$dynamicRef"]
  let since2019 := ["dependentRequired", "dependentSchemas", "unevaluatedProperties",
    "unevaluatedItems", "minContains", "maxContains"]
  let since6 := ["const", "contains", "propertyNames"]
  match d with
  | .draft2020 => true
  | .draft2019 => !since2020.contains keyword
  | _ =>
    !since2020.contains keyword && !since2019.contains keyword &&
      (d != .draft4 || !since6.contains keyword) &&
      (d == .draft7 || !(keyword == "if"))

/-- The draft a `$schema` URI names. -/
def draftNamed? (uri : String) : Option Draft :=
  match trimHashes uri with
  | "https://json-schema.org/draft/2020-12/schema" => some .draft2020
  | "https://json-schema.org/draft/2019-09/schema" => some .draft2019
  | "http://json-schema.org/draft-07/schema" => some .draft7
  | "http://json-schema.org/draft-06/schema" => some .draft6
  | "http://json-schema.org/draft-04/schema" => some .draft4
  | _ => none

/-- The draft a document is written in: the one its `$schema` names, else 2020-12. -/
def draftOf (doc : Value) : Draft :=
  match doc.get? "$schema" with
  | some (.string uri) => (draftNamed? uri).getD .draft2020
  | _ => .draft2020

def Registry.draftAt (reg : Registry) (uri : String) : Draft :=
  if uri == reg.root then .draft2020
  else match reg.find? uri with
    | some doc => draftOf doc
    | none => .draft2020

/-- The vocabularies of a schema read in a draft, from its `$schema`. -/
def vocabulariesOf (reg : Registry) (draft : Draft) (schema : Value) : Vocabularies :=
  match schema.get? "$schema" with
  | some (.string uri) =>
    match draftNamed? uri with
    | some d => d.vocabularies
    | none =>
      match (reg.find? (trimHashes uri)).bind (·.get? "$vocabulary") with
      | some (.object listed) => listedVocabularies listed
      | _ => draft.vocabularies
  | _ => draft.vocabularies

/-- Where a subschema is checked from: a base URI, the draft it is read in and the
vocabularies in force. -/
structure Scope where
  base : String
  draft : Draft := .draft2020
  vocabularies : Vocabularies := {}
  deriving DecidableEq, Repr, Inhabited

def Scope.allows (s : Scope) (keyword : String) : Bool :=
  s.draft.knows keyword && (s.draft.legacy || s.vocabularies.allows keyword)

/-- The keywords of a schema object that apply in a scope, in order: under drafts 4, 6
and 7 a `$ref` stands alone. -/
def Scope.keywords (s : Scope) (kws : List (String × Value)) : List (String × Value) :=
  if s.draft.legacy && (kws.lookup "$ref").isSome then kws.filter (·.1 == "$ref")
  else kws.filter fun (k, _) => s.allows k

/-- The scope inside a subschema: its `$id` moves the base. -/
def Scope.enter (s : Scope) (schema : Value) : Scope :=
  { s with base := innerBase s.base schema }

/-- The scope of a schema a reference leads to, at a base URI: the draft of its
document and the vocabularies of its own `$schema`. -/
def Scope.target (reg : Registry) (base : String) (schema : Value) : Scope :=
  let draft := reg.draftAt base
  ⟨base, draft, vocabulariesOf reg draft schema⟩

end CapsuleFlow.Schema
