import CapsuleFlow.Schema.Registry
import CapsuleFlow.Document
import CapsuleFlow.System

/-!
# Schemas and documents from files

A schema set read from a directory holds every file there whose name ends in
`.schema.json`, parsed as JSON, under its name; other files are passed over. A set can
also be made from one schema file of any name, read as YAML when its extension is `.yaml`
or `.yml` and as JSON otherwise: its directory's schemas come with it when the directory
reads, so that references between sibling files resolve.
-/

namespace CapsuleFlow.Schema

open CapsuleFlow.Json

variable {m : Type → Type} [Monad m] [MonadFiles m]

/-- Reads a document file by its extension. The error is the reason, to follow the
place it is reported for. -/
def loadDocument (path : String) : m (Except String Value) := do
  match ← MonadFiles.readFile path with
  | .error e => return .error s!"cannot read file: {e.text}"
  | .ok text =>
    match parseDocument path text with
    | .ok v => return .ok v
    | .error e => return .error s!"invalid {e.syn.name}: {e.message}"

def loadSchemaFiles (dir : String) : List String → SchemaSet → m (Except SchemaError SchemaSet)
  | [], s => return .ok s
  | name :: rest, s => do
    if !name.endsWith ".schema.json" then loadSchemaFiles dir rest s
    else
      match ← MonadFiles.readFile (Path.join dir name) with
      | .error e => return .error (.io e)
      | .ok text =>
        match Json.parse text with
        | .error e => return .error (.schemaLoad name s!"invalid JSON: {e.text}")
        | .ok v => loadSchemaFiles dir rest (s.insert name v)

def SchemaSet.ofDir (dir : String) : m (Except SchemaError SchemaSet) := do
  match ← MonadFiles.listDir dir with
  | .error e => return .error (.schemaLoad dir s!"cannot read schema directory: {e.text}")
  | .ok names => loadSchemaFiles dir names { dir := some dir }

def SchemaSet.ofFile (path : String) : m (Except SchemaError (SchemaSet × String)) := do
  let some name := Path.fileName path
    | return .error (.schemaLoad path "path has no file name")
  match ← loadDocument path with
  | .error reason => return .error (.schemaLoad name reason)
  | .ok schema =>
    let siblings ← match Path.parent path with
      | some dir =>
        if ← MonadFiles.isDir dir then
          match ← SchemaSet.ofDir dir with
          | .ok s => pure s
          | .error _ => pure {}
        else pure {}
      | none => pure {}
    return .ok (siblings.insert name schema, name)

def SchemaSet.validateFile (s : SchemaSet) (path name : String) : m (Except SchemaError Unit) := do
  match ← loadDocument path with
  | .error reason => return .error (.documentLoad path reason)
  | .ok doc => return s.validateDocument doc name

end CapsuleFlow.Schema
