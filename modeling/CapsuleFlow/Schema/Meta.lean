import CapsuleFlow.Schema.Check

/-!
# The meta-schema

The schema every schema is checked against before it is used: the draft 2020-12
meta-schema, made of one document per vocabulary joined by `allOf` under a root. A
reference meant to reach "the schema being checked against" (`$dynamicRef` to `#meta`) is
written as a reference to the root, which is what it resolves to when the root is where
checking starts. Only the keywords that check something are kept: titles, comments and
defaults change no verdict.
-/

namespace CapsuleFlow.Schema

open CapsuleFlow.Json

def metaSchemaRoot : Value :=
  Value.obj [
      ("$schema", .string "https://json-schema.org/draft/2020-12/schema"),
      ("$id", .string "https://json-schema.org/draft/2020-12/schema"),
      ("$dynamicAnchor", .string "meta"),
      ("allOf", .array [Value.obj [
            ("$ref", .string "meta/core")], Value.obj [
            ("$ref", .string "meta/applicator")], Value.obj [
            ("$ref", .string "meta/unevaluated")], Value.obj [
            ("$ref", .string "meta/validation")], Value.obj [
            ("$ref", .string "meta/meta-data")], Value.obj [
            ("$ref", .string "meta/format-annotation")], Value.obj [
            ("$ref", .string "meta/content")]]),
      ("type", .array [.string "object", .string "boolean"]),
      ("properties", Value.obj [
          ("definitions", Value.obj [
              ("type", .string "object"),
              ("additionalProperties", Value.obj [
                  ("$ref", .string "https://json-schema.org/draft/2020-12/schema")])]),
          ("dependencies", Value.obj [
              ("type", .string "object"),
              ("additionalProperties", Value.obj [
                  ("anyOf", .array [Value.obj [
                        ("$ref", .string "https://json-schema.org/draft/2020-12/schema")], Value.obj [
                        ("$ref", .string "meta/validation#/$defs/stringArray")]])])]),
          ("$recursiveAnchor", Value.obj [
              ("$ref", .string "meta/core#/$defs/anchorString")]),
          ("$recursiveRef", Value.obj [
              ("$ref", .string "meta/core#/$defs/uriReferenceString")])])]

def metaSchemaCore : Value :=
  Value.obj [
      ("$id", .string "https://json-schema.org/draft/2020-12/meta/core"),
      ("$dynamicAnchor", .string "meta"),
      ("type", .array [.string "object", .string "boolean"]),
      ("properties", Value.obj [
          ("$id", Value.obj [
              ("$ref", .string "#/$defs/uriReferenceString"),
              ("pattern", .string "^[^#]*#?$")]),
          ("$schema", Value.obj [
              ("$ref", .string "#/$defs/uriString")]),
          ("$ref", Value.obj [
              ("$ref", .string "#/$defs/uriReferenceString")]),
          ("$anchor", Value.obj [
              ("$ref", .string "#/$defs/anchorString")]),
          ("$dynamicRef", Value.obj [
              ("$ref", .string "#/$defs/uriReferenceString")]),
          ("$dynamicAnchor", Value.obj [
              ("$ref", .string "#/$defs/anchorString")]),
          ("$vocabulary", Value.obj [
              ("type", .string "object"),
              ("propertyNames", Value.obj [
                  ("$ref", .string "#/$defs/uriString")]),
              ("additionalProperties", Value.obj [
                  ("type", .string "boolean")])]),
          ("$comment", Value.obj [
              ("type", .string "string")]),
          ("$defs", Value.obj [
              ("type", .string "object"),
              ("additionalProperties", Value.obj [
                  ("$ref", .string "https://json-schema.org/draft/2020-12/schema")])])]),
      ("$defs", Value.obj [
          ("anchorString", Value.obj [
              ("type", .string "string"),
              ("pattern", .string "^[A-Za-z_][-A-Za-z0-9._]*$")]),
          ("uriString", Value.obj [
              ("type", .string "string"),
              ("format", .string "uri")]),
          ("uriReferenceString", Value.obj [
              ("type", .string "string"),
              ("format", .string "uri-reference")])])]

def metaSchemaApplicator : Value :=
  Value.obj [
      ("$id", .string "https://json-schema.org/draft/2020-12/meta/applicator"),
      ("$dynamicAnchor", .string "meta"),
      ("type", .array [.string "object", .string "boolean"]),
      ("properties", Value.obj [
          ("prefixItems", Value.obj [
              ("$ref", .string "#/$defs/schemaArray")]),
          ("items", Value.obj [
              ("$ref", .string "https://json-schema.org/draft/2020-12/schema")]),
          ("contains", Value.obj [
              ("$ref", .string "https://json-schema.org/draft/2020-12/schema")]),
          ("additionalProperties", Value.obj [
              ("$ref", .string "https://json-schema.org/draft/2020-12/schema")]),
          ("properties", Value.obj [
              ("type", .string "object"),
              ("additionalProperties", Value.obj [
                  ("$ref", .string "https://json-schema.org/draft/2020-12/schema")])]),
          ("patternProperties", Value.obj [
              ("type", .string "object"),
              ("additionalProperties", Value.obj [
                  ("$ref", .string "https://json-schema.org/draft/2020-12/schema")]),
              ("propertyNames", Value.obj [
                  ("format", .string "regex")])]),
          ("dependentSchemas", Value.obj [
              ("type", .string "object"),
              ("additionalProperties", Value.obj [
                  ("$ref", .string "https://json-schema.org/draft/2020-12/schema")])]),
          ("propertyNames", Value.obj [
              ("$ref", .string "https://json-schema.org/draft/2020-12/schema")]),
          ("if", Value.obj [
              ("$ref", .string "https://json-schema.org/draft/2020-12/schema")]),
          ("then", Value.obj [
              ("$ref", .string "https://json-schema.org/draft/2020-12/schema")]),
          ("else", Value.obj [
              ("$ref", .string "https://json-schema.org/draft/2020-12/schema")]),
          ("allOf", Value.obj [
              ("$ref", .string "#/$defs/schemaArray")]),
          ("anyOf", Value.obj [
              ("$ref", .string "#/$defs/schemaArray")]),
          ("oneOf", Value.obj [
              ("$ref", .string "#/$defs/schemaArray")]),
          ("not", Value.obj [
              ("$ref", .string "https://json-schema.org/draft/2020-12/schema")])]),
      ("$defs", Value.obj [
          ("schemaArray", Value.obj [
              ("type", .string "array"),
              ("minItems", Value.nat 1),
              ("items", Value.obj [
                  ("$ref", .string "https://json-schema.org/draft/2020-12/schema")])])])]

def metaSchemaUnevaluated : Value :=
  Value.obj [
      ("$id", .string "https://json-schema.org/draft/2020-12/meta/unevaluated"),
      ("$dynamicAnchor", .string "meta"),
      ("type", .array [.string "object", .string "boolean"]),
      ("properties", Value.obj [
          ("unevaluatedItems", Value.obj [
              ("$ref", .string "https://json-schema.org/draft/2020-12/schema")]),
          ("unevaluatedProperties", Value.obj [
              ("$ref", .string "https://json-schema.org/draft/2020-12/schema")])])]

def metaSchemaValidation : Value :=
  Value.obj [
      ("$id", .string "https://json-schema.org/draft/2020-12/meta/validation"),
      ("$dynamicAnchor", .string "meta"),
      ("type", .array [.string "object", .string "boolean"]),
      ("properties", Value.obj [
          ("type", Value.obj [
              ("anyOf", .array [Value.obj [
                    ("$ref", .string "#/$defs/simpleTypes")], Value.obj [
                    ("type", .string "array"),
                    ("items", Value.obj [
                        ("$ref", .string "#/$defs/simpleTypes")]),
                    ("minItems", Value.nat 1),
                    ("uniqueItems", .bool true)]])]),
          ("const", .bool true),
          ("enum", Value.obj [
              ("type", .string "array"),
              ("items", .bool true)]),
          ("multipleOf", Value.obj [
              ("type", .string "number"),
              ("exclusiveMinimum", Value.nat 0)]),
          ("maximum", Value.obj [
              ("type", .string "number")]),
          ("exclusiveMaximum", Value.obj [
              ("type", .string "number")]),
          ("minimum", Value.obj [
              ("type", .string "number")]),
          ("exclusiveMinimum", Value.obj [
              ("type", .string "number")]),
          ("maxLength", Value.obj [
              ("$ref", .string "#/$defs/nonNegativeInteger")]),
          ("minLength", Value.obj [
              ("$ref", .string "#/$defs/nonNegativeIntegerDefault0")]),
          ("pattern", Value.obj [
              ("type", .string "string"),
              ("format", .string "regex")]),
          ("maxItems", Value.obj [
              ("$ref", .string "#/$defs/nonNegativeInteger")]),
          ("minItems", Value.obj [
              ("$ref", .string "#/$defs/nonNegativeIntegerDefault0")]),
          ("uniqueItems", Value.obj [
              ("type", .string "boolean")]),
          ("maxContains", Value.obj [
              ("$ref", .string "#/$defs/nonNegativeInteger")]),
          ("minContains", Value.obj [
              ("$ref", .string "#/$defs/nonNegativeInteger")]),
          ("maxProperties", Value.obj [
              ("$ref", .string "#/$defs/nonNegativeInteger")]),
          ("minProperties", Value.obj [
              ("$ref", .string "#/$defs/nonNegativeIntegerDefault0")]),
          ("required", Value.obj [
              ("$ref", .string "#/$defs/stringArray")]),
          ("dependentRequired", Value.obj [
              ("type", .string "object"),
              ("additionalProperties", Value.obj [
                  ("$ref", .string "#/$defs/stringArray")])])]),
      ("$defs", Value.obj [
          ("nonNegativeInteger", Value.obj [
              ("type", .string "integer"),
              ("minimum", Value.nat 0)]),
          ("nonNegativeIntegerDefault0", Value.obj [
              ("$ref", .string "#/$defs/nonNegativeInteger")]),
          ("simpleTypes", Value.obj [
              ("enum", .array [.string "array", .string "boolean", .string "integer", .string "null", .string "number", .string "object", .string "string"])]),
          ("stringArray", Value.obj [
              ("type", .string "array"),
              ("items", Value.obj [
                  ("type", .string "string")]),
              ("uniqueItems", .bool true)])])]

def metaSchemaMetaData : Value :=
  Value.obj [
      ("$id", .string "https://json-schema.org/draft/2020-12/meta/meta-data"),
      ("$dynamicAnchor", .string "meta"),
      ("type", .array [.string "object", .string "boolean"]),
      ("properties", Value.obj [
          ("title", Value.obj [
              ("type", .string "string")]),
          ("description", Value.obj [
              ("type", .string "string")]),
          ("default", .bool true),
          ("deprecated", Value.obj [
              ("type", .string "boolean")]),
          ("readOnly", Value.obj [
              ("type", .string "boolean")]),
          ("writeOnly", Value.obj [
              ("type", .string "boolean")]),
          ("examples", Value.obj [
              ("type", .string "array"),
              ("items", .bool true)])])]

def metaSchemaFormat : Value :=
  Value.obj [
      ("$id", .string "https://json-schema.org/draft/2020-12/meta/format-annotation"),
      ("$dynamicAnchor", .string "meta"),
      ("type", .array [.string "object", .string "boolean"]),
      ("properties", Value.obj [
          ("format", Value.obj [
              ("type", .string "string")])])]

def metaSchemaContent : Value :=
  Value.obj [
      ("$id", .string "https://json-schema.org/draft/2020-12/meta/content"),
      ("$dynamicAnchor", .string "meta"),
      ("type", .array [.string "object", .string "boolean"]),
      ("properties", Value.obj [
          ("contentEncoding", Value.obj [
              ("type", .string "string")]),
          ("contentMediaType", Value.obj [
              ("type", .string "string")]),
          ("contentSchema", Value.obj [
              ("$ref", .string "https://json-schema.org/draft/2020-12/schema")])])]

def metaRegistry : Registry where
  documents := [("https://json-schema.org/draft/2020-12/schema", metaSchemaRoot),
    ("https://json-schema.org/draft/2020-12/meta/core", metaSchemaCore),
    ("https://json-schema.org/draft/2020-12/meta/applicator", metaSchemaApplicator),
    ("https://json-schema.org/draft/2020-12/meta/unevaluated", metaSchemaUnevaluated),
    ("https://json-schema.org/draft/2020-12/meta/validation", metaSchemaValidation),
    ("https://json-schema.org/draft/2020-12/meta/meta-data", metaSchemaMetaData),
    ("https://json-schema.org/draft/2020-12/meta/format-annotation", metaSchemaFormat),
    ("https://json-schema.org/draft/2020-12/meta/content", metaSchemaContent)]
  root := "https://json-schema.org/draft/2020-12/schema"

def metaSchemaUri : String := "https://json-schema.org/draft/2020-12/schema"

/-- The first way a schema breaks the meta-schema, if any. -/
def metaViolation? (schema : Value) : Option Violation :=
  (violations metaRegistry checkFuel { base := metaSchemaUri } metaSchemaRoot [] schema []).head?

end CapsuleFlow.Schema
