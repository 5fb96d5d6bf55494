import CapsuleFlow.Canonical
import CapsuleFlow.Digest
import CapsuleFlow.Decode.FromText
import CapsuleFlow.Decode.FromYaml
import CapsuleFlow.System

/-!
# Harness configuration

The settings of a run: how to canonicalize, how to hash, and where the store is rooted.
Every section and every field has a default, so an empty document (or `{}`) is the
default configuration. A configuration reads from JSON text, from YAML text or from a
JSON value; hashing options check themselves as they are read, and the number of
decimals is checked afterwards (at most 15). A configuration file is YAML when its
extension is `.yaml` or `.yml`, JSON otherwise.
-/

namespace CapsuleFlow

open Decode

/-- Where the store is rooted; unset means the working directory. -/
structure StoreConfig where
  root : Option String := none
  deriving DecidableEq, Repr, Inhabited

/-- The settings of a run. -/
structure HarnessConfig where
  canonical : CanonicalOptions := {}
  hash : HashOptions := {}
  store : StoreConfig := {}
  deriving Inhabited

/-- Why a configuration could not be had. -/
inductive ConfigError where
  /-- The file could not be read; `reason` is the system's. -/
  | read (path reason : String)
  /-- The text does not read as a configuration. -/
  | parse (path message : String)
  /-- The configuration reads but asks for what cannot be done. -/
  | invalid (message : String)
  deriving DecidableEq, Repr, Inhabited

def ConfigError.message : ConfigError → String
  | .read path reason => s!"failed to read config {path}: {reason}"
  | .parse path message => s!"failed to parse config {path}: {message}"
  | .invalid message => s!"invalid config: {message}"

def ConfigError.kind : ConfigError → String
  | .read .. => "Read"
  | .parse .. => "Parse"
  | .invalid _ => "Invalid"

/-- `u32` on the wire. -/
def u32Shape : Shape := .unsigned "u32" (Nat.pow 2 32 - 1)

def CanonicalOptions.toDatum (o : CanonicalOptions) : Datum :=
  .record [("decimals", .int o.decimals), ("normalize_nfc", .bool o.normalizeNfc)]

/-- The shape of canonicalization options: both fields default. -/
def CanonicalOptions.shape : Shape :=
  .record "CanonicalizeOptions" [
    ("decimals", u32Shape, .default (.int 6)),
    ("normalize_nfc", .bool, .default (.bool true))]

def CanonicalOptions.ofDatum : Datum → CanonicalOptions
  | .record [(_, d), (_, .bool b)] => ⟨d.nat, b⟩
  | _ => {}

/-- The shape of the store section: an optional root path. -/
def StoreConfig.shape : Shape :=
  .record "StoreConfig" [("root", .option (.string "path string"), .default .none)]

def StoreConfig.ofDatum : Datum → StoreConfig
  | .record [(_, .some (.str s))] => ⟨some s⟩
  | _ => {}

namespace HarnessConfig

/-- The shape of a configuration: three sections, each defaulting as a whole. -/
def shape : Shape :=
  .record "HarnessConfig" [
    ("canonical", CanonicalOptions.shape, .default (CanonicalOptions.toDatum {})),
    ("hash", HashOptions.shape, .default (HashOptions.toDatum {})),
    ("store", StoreConfig.shape, .default (.record [("root", .none)]))]

def ofDatum : Datum → HarnessConfig
  | .record [(_, c), (_, h), (_, s)] =>
    ⟨CanonicalOptions.ofDatum c, HashOptions.ofDatum h, StoreConfig.ofDatum s⟩
  | _ => {}

/-- The checks the shape cannot make: at most 15 decimals. -/
def validate (c : HarnessConfig) : Except ConfigError HarnessConfig :=
  if c.canonical.decimals > maxDecimals then
    .error (.invalid
      s!"canonical.decimals must be at most {maxDecimals}, got {c.canonical.decimals}")
  else .ok c

/-- A configuration from JSON text; the error is the reader's message. -/
def ofJsonText (text : String) : Except String HarnessConfig :=
  ((readText shape text).map ofDatum).mapError Json.Error.text

/-- A configuration from YAML text; the error is the reader's message. -/
def ofYamlText (text : String) : Except String HarnessConfig :=
  ((readYaml shape text).map ofDatum).mapError Yaml.Failure.text

def ofValue (v : Json.Value) : Except String HarnessConfig :=
  (Decode.readValue shape v).map ofDatum

def toJson (c : HarnessConfig) : Json.Value :=
  Json.Value.obj [
    ("canonical", Json.Value.obj [
      ("decimals", Json.Value.nat c.canonical.decimals),
      ("normalize_nfc", .bool c.canonical.normalizeNfc)]),
    ("hash", c.hash.toJson),
    ("store", Json.Value.obj [("root", match c.store.root with
      | some r => .string r
      | none => .null)])]

def storeRoot (c : HarnessConfig) : String := c.store.root.getD "."

def load {m : Type → Type} [Monad m] [MonadFiles m] (path : String) :
    m (Except ConfigError HarnessConfig) := do
  match ← MonadFiles.readFile path with
  | .error e => return .error (.read path e.text)
  | .ok text =>
    let yaml := match Path.extension path with
      | some "yaml" | some "yml" => true
      | _ => false
    match (if yaml then ofYamlText text else ofJsonText text) with
    | .error msg => return .error (.parse path msg)
    | .ok c => return c.validate

end HarnessConfig

end CapsuleFlow
