import CapsuleFlow.Document
import CapsuleFlow.System
import CapsuleFlow.Json.Print

/-!
# Capsule stores

Where a run reads its flow and capsule documents. A store resolves a path to the
location it reads and gets the document there, parsed by its extension (`.yaml` and
`.yml` are YAML, anything else JSON).

Two stores are here. A store in memory holds documents by path; it resolves a path by
dropping `.` components and extra slashes. The local store reads files: a relative path
is taken against its root, and a relative root against the working directory, so the
paths it resolves are absolute; an absolute path passes unchanged. It can also save
documents, as pretty JSON with a final newline, and blobs under its `vault` directory.
-/

namespace CapsuleFlow

open CapsuleFlow.Json

/-- Why a store could not give or keep a document. -/
inductive StoreError where
  | notFound (path : String)
  | parse (e : ParseError)
  | invalidBlobName (name : String)
  | io (e : OsError)
  deriving DecidableEq, Repr

def StoreError.message : StoreError → String
  | .notFound p => s!"file not found: {p}"
  | .parse e => e.text
  | .invalidBlobName n => s!"invalid blob name {Text.quoted n}: must be a single path component"
  | .io e => s!"io error: {e.text}"

def StoreError.kind : StoreError → String
  | .notFound _ => "NotFound"
  | .parse _ => "Parse"
  | .invalidBlobName _ => "InvalidBlobName"
  | .io _ => "Io"

/-- A source of documents, working in a monad `m`. -/
structure Store (m : Type → Type) where
  /-- The location read for a path. -/
  resolve : String → m String
  /-- The document at a path. -/
  get : String → m (Except StoreError Value)

/-- Documents held in memory: parsed values, and texts parsed when read. A document is
found when its path has the components of the resolved path asked for, so `a//b` finds
`a/b` but `./a` does not find `a`. -/
structure MemoryStore where
  values : List (String × Value) := []
  texts : List (String × String) := []
  deriving Inhabited

namespace MemoryStore

def find? (s : MemoryStore) (p : String) : Option (Except StoreError Value) :=
  let same (k : String) : Bool := Path.components k == Path.components p
  match s.values.find? (same ·.1) with
  | some (_, v) => some (.ok v)
  | none =>
    (s.texts.find? (same ·.1)).map fun (_, t) =>
      (parseDocument p t).mapError .parse

def toStore {m : Type → Type} [Monad m] (s : MemoryStore) : Store m where
  resolve p := pure (Path.clean p)
  get p := pure ((s.find? (Path.clean p)).getD (.error (.notFound (Path.clean p))))

end MemoryStore

/-- The store of files under a root directory. -/
structure LocalStore where
  root : String := "."
  deriving DecidableEq, Repr, Inhabited

namespace LocalStore

variable {m : Type → Type} [Monad m] [MonadFiles m]

def resolve (s : LocalStore) (p : String) : m String := do
  if Path.isAbsolute p then return p
  let joined := Path.join s.root p
  if Path.isAbsolute joined then return Path.clean joined
  return Path.clean (Path.join (← MonadFiles.currentDir) joined)

def get (s : LocalStore) (p : String) : m (Except StoreError Value) := do
  let full ← s.resolve p
  match ← MonadFiles.readFile full with
  | .ok text => return (parseDocument full text).mapError .parse
  | .error .notFound => return .error (.notFound full)
  | .error e => return .error (.io e)

/-- Writes a document as pretty JSON and a newline, making the directories above it. -/
def save (s : LocalStore) (p : String) (doc : Value) : m (Except StoreError Unit) := do
  let full ← s.resolve p
  if let some dir := Path.parent full then
    if let .error e ← createDirAll dir then return .error (.io e)
  match ← MonadFiles.writeFile full (pretty doc ++ "\n") with
  | .ok () => return .ok ()
  | .error e => return .error (.io e)

def isBlobName (name : String) : Bool :=
  match Path.components name with
  | [.normal _] => true
  | _ => false

/-- Writes a blob under the vault directory and gives its `file://` locator. -/
def saveBlob (s : LocalStore) (name data : String) : m (Except StoreError String) := do
  if !isBlobName name then return .error (.invalidBlobName name)
  let dir := Path.join s.root "vault"
  if let .error e ← createDirAll dir then return .error (.io e)
  let full := Path.join dir name
  if let .error e ← MonadFiles.writeFile full data then return .error (.io e)
  match ← MonadFiles.canonical full with
  | .ok p => return .ok s!"file://{p}"
  | .error e => return .error (.io e)

def toStore (s : LocalStore) : Store m := ⟨s.resolve, s.get⟩

end LocalStore

end CapsuleFlow
