import CapsuleFlow.System

/-!
# A disk in memory

A pure model of a file system: files and directories under absolute paths, and a working
directory. Paths are followed the way the system follows them: `..` steps back to the
directory above (the root above itself), every component but the last must be a
directory, and a missing one is not found. The parents of every file and directory are
directories of the disk.
-/

namespace CapsuleFlow

/-- What is at a path. -/
inductive Entry where
  | file (text : String)
  | dir
  deriving DecidableEq, Repr, Inhabited

/-- Files and directories by absolute path, and the working directory. -/
structure Disk where
  cwd : String
  nodes : List (String × Entry) := []
  deriving DecidableEq, Repr, Inhabited

namespace Disk

def childPath (dir name : String) : String :=
  if dir == "/" then "/" ++ name else dir ++ "/" ++ name

def parentPath (p : String) : String :=
  match (Path.parent p) with
  | some q => if q.isEmpty then "/" else q
  | none => "/"

def kind (d : Disk) (p : String) : Option Entry :=
  if p == "/" then some .dir else d.nodes.lookup p

/-- The absolute path a path names, following `.` and `..`; every component before the
last must be a directory. The empty path names nothing. -/
def locate (d : Disk) (p : String) : Except OsError String :=
  if p.isEmpty then .error .notFound else go "/" (Path.components (Path.join d.cwd p))
where
  /-- Walks the components from a directory. -/
  go (cur : String) : List Path.Component → Except OsError String
    | [] => .ok cur
    | .root :: rest => go "/" rest
    | .current :: rest => go cur rest
    | .parent :: rest => go (parentPath cur) rest
    | .normal n :: rest =>
      let child := childPath cur n
      match rest with
      | [] => .ok child
      | _ =>
        match d.kind child with
        | some .dir => go child rest
        | some (.file _) => .error .notDirectory
        | none => .error .notFound

def put (d : Disk) (p : String) (n : Entry) : Disk :=
  { d with nodes := (d.nodes.filter (·.1 != p)) ++ [(p, n)] }

def ancestors (p : String) : List String :=
  let cs := (Path.components p).filter (· != .root)
  (List.range cs.length).filterMap fun i =>
    if i == 0 then none else some (Path.ofComponents (.root :: cs.take i))

/-- A disk holding text files at paths relative to the working directory; the
directories above them are made too. -/
def withFiles (cwd : String) (files : List (String × String)) : Disk :=
  let d : Disk := { cwd, nodes := (ancestors cwd ++ [cwd]).map fun p => (p, Entry.dir) }
  files.foldl (fun d (rel, text) =>
    let p := Path.clean (Path.join cwd rel)
    let dirs := (ancestors p).filter fun q => (d.kind q).isNone
    let d := dirs.foldl (fun d q => d.put q .dir) d
    d.put p (.file text)) d

/-- Whether a path ends in a slash, so that it can only name a directory. -/
def namesDirectory (p : String) : Bool := p.endsWith "/" && p != "/"

def readFile (d : Disk) (p : String) : Except OsError String := do
  let q ← d.locate p
  match d.kind q with
  | some (.file t) => if namesDirectory p then throw .notDirectory else return t
  | some .dir => throw .isDirectory
  | none => throw .notFound

def textAt (d : Disk) (p : String) : Option String := (d.readFile p).toOption

/-- Writes a file; a path ending in a slash cannot be made a file. -/
def writeFile (d : Disk) (p text : String) : Except OsError Disk := do
  let q ← d.locate p
  match d.kind q with
  | some .dir => throw .isDirectory
  | some (.file _) => if namesDirectory p then throw .notDirectory else return d.put q (.file text)
  | none => if namesDirectory p then throw .isDirectory else return d.put q (.file text)

def makeDir (d : Disk) (p : String) : Except OsError Disk := do
  let q ← d.locate p
  match d.kind q with
  | some _ => throw .alreadyExists
  | none => return d.put q .dir

def listDir (d : Disk) (p : String) : Except OsError (List String) := do
  let q ← d.locate p
  match d.kind q with
  | some .dir =>
    let names := d.nodes.filterMap fun (path, _) =>
      if parentPath path == q && path != q then Path.fileName path else none
    return names.mergeSort (· ≤ ·)
  | some (.file _) => throw .notDirectory
  | none => throw .notFound

def canonical (d : Disk) (p : String) : Except OsError String := do
  let q ← d.locate p
  match d.kind q with
  | some _ => return q
  | none => throw .notFound

end Disk

/-- A disk with the events logged on it so far. -/
structure World where
  disk : Disk
  log : Array LogEvent := #[]
  deriving Inhabited

abbrev WorldM := StateM World

instance : MonadLog WorldM := ⟨fun e => modify fun w => { w with log := w.log.push e }⟩

def World.change (f : Disk → Except OsError Disk) : WorldM (Except OsError Unit) := do
  let w ← get
  match f w.disk with
  | .ok d => set { w with disk := d }; return .ok ()
  | .error e => return .error e

instance : MonadFiles WorldM where
  currentDir := return (← get).disk.cwd
  readFile p := return (← get).disk.readFile p
  writeFile p t := World.change fun d => d.writeFile p t
  makeDir p := World.change fun d => d.makeDir p
  isDir p := do
    let d := (← get).disk
    return match d.locate p with
      | .ok q => d.kind q == some .dir
      | .error _ => false
  listDir p := return (← get).disk.listDir p
  canonical p := return (← get).disk.canonical p

end CapsuleFlow
