import CapsuleFlow.Cli.Invocation
import CapsuleFlow.Config
import CapsuleFlow.Runner
import CapsuleFlow.Href
import CapsuleFlow.Decode.FromText
import CapsuleFlow.Schema.Load

/-!
# The harness program

Runs what a command line asks for against the files around it, and says what to print
and how to exit: 0 when all went well, 2 when a run reported failures or a capsule
failed validation, 1 when the work could not be done. Work that could not be done is
logged as an error: its message, then the messages of its causes, joined by `: `.

Before any action the configuration is had: the file given, or the default, with the
number of decimals and the normalization overridden by their flags, then checked.

What is logged is chosen by `-v`: warnings and errors by default, then information,
debugging and tracing events, one level more for each `-v`. Events are written one a
line, as text or, with `--log-json`, as JSON objects.
-/

namespace CapsuleFlow.Cli

open CapsuleFlow.Json

/-- The exit code of a run or validation that reported failures. -/
def exitFailures : Nat := 2

/-- The exit code of work that could not be done. -/
def exitError : Nat := 1

/-- What the program prints on its output stream, and its exit code. -/
structure Outcome where
  stdout : String := ""
  exit : Nat := 0
  deriving DecidableEq, Repr, Inhabited

/-- Which events are written, and how. -/
structure LogSettings where
  verbosity : Nat := 0
  json : Bool := false
  deriving DecidableEq, Repr, Inhabited

def Globals.logSettings (g : Globals) : LogSettings := ⟨g.verbose, g.logJson⟩

/-- The rank of the least severe level written. -/
def LogSettings.ceiling (s : LogSettings) : Nat := min 4 (s.verbosity + 1)

def LogSettings.admits (s : LogSettings) (e : LogEvent) : Bool := e.level.rank ≤ s.ceiling

def LogSettings.render (s : LogSettings) (e : LogEvent) : String :=
  if s.json then compact e.toJson else e.line

/-! ## Messages of errors with their causes -/

def configTrail : ConfigError → String
  | e@(.read _ reason) => e.message ++ ": " ++ reason
  | e => e.message

def storeTrail : StoreError → String
  | e@(.io os) => e.message ++ ": " ++ os.text
  | e => e.message

def schemaTrail : Schema.SchemaError → String
  | e@(Schema.SchemaError.io os) => e.message ++ ": " ++ os.text
  | e => e.message

def algorithmDebugName : DigestAlgorithm → String
  | .blake3 => "Blake3"
  | .sha256 => "Sha256"

def configDebugText (c : HarnessConfig) : String :=
  let root := match c.store.root with
    | some r => "Some(" ++ Text.quotedPath r ++ ")"
    | none => "None"
  "HarnessConfig \x7b canonical: CanonicalizeOptions \x7b decimals: " ++
    toString c.canonical.decimals ++ ", normalize_nfc: " ++ toString c.canonical.normalizeNfc ++
    " \x7d, hash: HashOptions \x7b algorithm: " ++ algorithmDebugName c.hash.algorithm ++
    ", digest_length: " ++ toString c.hash.digestLength ++ " \x7d, store: StoreConfig \x7b root: " ++
    root ++ " \x7d \x7d"

/-- The runner a configuration describes: its store rooted at the configured root. -/
def runnerOf {m : Type → Type} [Monad m] [MonadFiles m] (c : HarnessConfig)
    (adapter : Option Adapter) : Runner m :=
  { store := LocalStore.toStore { root := c.storeRoot }, canonical := c.canonical
    hash := c.hash, adapter }

section
variable {m : Type → Type} [Monad m] [MonadFiles m] [MonadLog m]

def note (level : CapsuleFlow.Level) (message : String) (fields : List (String × FieldValue) := []) :
    ExceptT String m Unit :=
  liftM (MonadLog.emit { level, message, fields } : m Unit)

def loadConfig (g : Globals) : ExceptT String m HarnessConfig := do
  let c ← match g.config with
    | some path =>
      match ← liftM (HarnessConfig.load path : m _) with
      | .ok c => pure c
      | .error e => throw (configTrail e)
    | none => pure {}
  let c := match g.decimals with
    | some d => { c with canonical := { c.canonical with decimals := d } }
    | none => c
  let c := if g.noNfc then { c with canonical := { c.canonical with normalizeNfc := false } }
    else c
  match c.validate with
  | .error e => throw (configTrail e)
  | .ok c =>
    note .debug "configuration loaded" [("config", .shown (configDebugText c))]
    return c

def readDocument (path : String) : ExceptT String m Value := do
  match ← liftM (MonadFiles.readFile path : m _) with
  | .error e => throw ("failed to read file: " ++ path ++ ": " ++ e.text)
  | .ok text =>
    match parseDocument path text with
    | .error e => throw ("failed to parse document: " ++ path ++ ": " ++ e.text)
    | .ok v => return v

def canonicalText (o : CanonicalOptions) (path : String) (doc : Value) :
    ExceptT String m String :=
  match canonicalize o doc with
  | .ok s => pure s
  | .error e => throw ("failed to canonicalize " ++ path ++ ": " ++ e.message)

/-- A document as printed: pretty JSON and a line break. -/
def printed (v : Value) : String := pretty v ++ "\n"

def runAction (c : HarnessConfig) (flow : String) (out : Option String)
    (adapter : Option Adapter) : ExceptT String m Outcome := do
  let result ← liftM ((runnerOf c adapter).runFlow flow : m RunResult)
  let text ← match out with
    | none => pure (printed result.toJson)
    | some o =>
      match ← liftM (LocalStore.save {} o result.toJson : m _) with
      | .error e => throw ("failed to write result: " ++ o ++ ": " ++ storeTrail e)
      | .ok () =>
        pure (printed (Value.obj [("ok", .bool result.ok),
          ("flow_id", Value.optString result.flowId), ("out", .string o)]))
  if result.ok then return { stdout := text }
  note .warn "run reported failures" [("failures", .nat result.failures.length)]
  return { stdout := text, exit := exitFailures }

def canonAction (c : HarnessConfig) (file : String) : ExceptT String m Outcome := do
  let doc ← readDocument file
  let text ← canonicalText c.canonical file doc
  return { stdout := text ++ "\n" }

/-- Prints the digest of a document's canonical form, with its identifier in a role.
The configured options apply unless an algorithm or a length is given. -/
def hashAction (c : HarnessConfig) (file : String) (algorithm : Option DigestAlgorithm)
    (length : Option Nat) (role : Role) : ExceptT String m Outcome := do
  let opts ← if algorithm.isNone && length.isNone then pure c.hash
    else match HashOptions.new (algorithm.getD c.hash.algorithm) length with
      | .ok o => pure o
      | .error e => throw e.message
  let doc ← readDocument file
  let text ← canonicalText c.canonical file doc
  let digest := digestText opts text
  let id := role.idOf digest
  note .debug "document hashed" [("algorithm", .shown opts.algorithm.name), ("id", .shown id)]
  return { stdout := printed (Value.obj [("hex", .string digest.hex),
    ("algorithm", .string digest.algorithm.name), ("digest_length", Value.nat digest.length),
    ("id", .string id)]) }

def validateAction (schema capsule : String) : ExceptT String m Outcome := do
  match ← liftM (Schema.SchemaSet.ofFile schema : m _) with
  | .error e => throw (schemaTrail e)
  | .ok (set, name) =>
    match ← liftM (set.validateFile capsule name : m _) with
    | .ok () =>
      return { stdout := printed (Value.obj [("ok", .bool true), ("schema", .string name)]) }
    | .error (.validationFailed _ violations) =>
      note .info "capsule failed validation" [("count", .nat violations.length)]
      return { stdout := printed (Value.obj [("ok", .bool false), ("schema", .string name),
                 ("violations", .array (violations.map Schema.Violation.toJson))])
               exit := exitFailures }
    | .error e => throw (schemaTrail e)

def hrefEncodeAction (json : String) : ExceptT String m Outcome :=
  match Decode.readText Href.shape json with
  | .ok d => pure { stdout := (Href.ofDatum d).line ++ "\n" }
  | .error e => throw ("invalid HREF description: " ++ e.text)

def hrefParseAction (line : String) : ExceptT String m Outcome :=
  match Href.parse line with
  | some h => pure { stdout := printed h.toJson }
  | none => throw ("not an HREF v1 line: " ++ Text.quoted line)

def execute (inv : Invocation) : m Outcome := do
  let work : ExceptT String m Outcome := do
    let c ← loadConfig inv.globals
    match inv.action with
    | .run flow out adapter => runAction c flow out adapter
    | .canon file => canonAction c file
    | .hash file algorithm length role => hashAction c file algorithm length role
    | .validate schema capsule => validateAction schema capsule
    | .hrefEncode json => hrefEncodeAction json
    | .hrefParse line => hrefParseAction line
  match ← work.run with
  | .ok o => return o
  | .error message =>
    MonadLog.emit { level := .error, message }
    return { exit := exitError }

end

/-- How a command line that does not run ends: what it prints on each stream, and the
exit code. Help and the version go to the output stream and succeed. -/
def Exit.streams : Exit → String × String × Nat
  | .help text => (text, "", 0)
  | .version text => (text, "", 0)
  | .helpInstead text => ("", text, exitFailures)
  | .refused c => ("", c.text, exitFailures)

end CapsuleFlow.Cli
