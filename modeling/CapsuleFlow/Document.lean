import CapsuleFlow.Json.Reader
import CapsuleFlow.Yaml.Value
import CapsuleFlow.Path

/-!
# Documents

A document is JSON text, or YAML text when its file name ends in `.yaml` or `.yml`;
either way it is read into a JSON value. A text that does not read is a `ParseError`
naming the format and the path.
-/

namespace CapsuleFlow

/-- The two document syntaxes. -/
inductive Syntax where
  | json
  | yaml
  deriving DecidableEq, Repr

def Syntax.name : Syntax → String
  | .json => "JSON"
  | .yaml => "YAML"

def syntaxOfPath (path : String) : Syntax :=
  match Path.extension path with
  | some "yaml" | some "yml" => .yaml
  | _ => .json

/-- A document that does not read. -/
structure ParseError where
  syn : Syntax
  path : String
  message : String
  deriving DecidableEq, Repr

/-- `invalid JSON in <path>: <message>` (or YAML). -/
def ParseError.text (e : ParseError) : String :=
  s!"invalid {e.syn.name} in {e.path}: {e.message}"

def parseDocument (path : String) (text : String) : Except ParseError Json.Value :=
  match syntaxOfPath path with
  | .json => (Json.parse text).mapError fun e => ⟨.json, path, e.text⟩
  | .yaml => (Yaml.readValue text).mapError fun e => ⟨.yaml, path, e.text⟩

end CapsuleFlow
