import CapsuleFlow.Log
import CapsuleFlow.Path

/-!
# Files and the system around a program

What a program may ask of the files around it, as a class of monads: the working
directory, reading and writing whole files, making one directory, listing a directory,
and the canonical form of a path. A pure model of a disk is one instance; the real
system is another, used only by the command-line entry point.

Errors are the system's, by number, shown as `<text> (os error <n>)`.
-/

namespace CapsuleFlow

/-- An error of the operating system. -/
inductive OsError where
  | notFound
  | permissionDenied
  | alreadyExists
  | notDirectory
  | isDirectory
  /-- An error known only by its text. -/
  | other (text : String)
  deriving DecidableEq, Repr, Inhabited

def OsError.code : OsError → Nat
  | .notFound => 2
  | .permissionDenied => 13
  | .alreadyExists => 17
  | .notDirectory => 20
  | .isDirectory => 21
  | .other _ => 0

def OsError.text : OsError → String
  | .notFound => "No such file or directory (os error 2)"
  | .permissionDenied => "Permission denied (os error 13)"
  | .alreadyExists => "File exists (os error 17)"
  | .notDirectory => "Not a directory (os error 20)"
  | .isDirectory => "Is a directory (os error 21)"
  | .other t => t

/-- Monads with files around them. Paths are as given: relative ones are taken against
the working directory. -/
class MonadFiles (m : Type → Type) where
  /-- The absolute path of the working directory. -/
  currentDir : m String
  /-- The text of a file. -/
  readFile : String → m (Except OsError String)
  /-- Writes a file, replacing what it held. -/
  writeFile : String → String → m (Except OsError Unit)
  /-- Makes one directory, whose parent must exist. -/
  makeDir : String → m (Except OsError Unit)
  /-- Whether a path names a directory. -/
  isDir : String → m Bool
  /-- The names in a directory. -/
  listDir : String → m (Except OsError (List String))
  /-- The absolute path a path names, with `.` and `..` resolved; it must exist. -/
  canonical : String → m (Except OsError String)

/-- Makes a directory and every missing one above it. A directory already there is
fine; anything else in the way is its error. -/
def createDirAll {m : Type → Type} [Monad m] [MonadFiles m] (p : String) :
    m (Except OsError Unit) :=
  go p ((Path.components p).length + 1)
where
  /-- Bounded by the number of components of the path. -/
  go (p : String) : Nat → m (Except OsError Unit)
    | 0 => pure (.error (.other "failed to create whole tree"))
    | fuel + 1 => do
      if p.isEmpty then return .ok ()
      match ← MonadFiles.makeDir p with
      | .ok () => return .ok ()
      | .error .notFound =>
        match Path.parent p with
        | none => return .error (.other "failed to create whole tree")
        | some q =>
          match ← go q fuel with
          | .error e => return .error e
          | .ok () =>
            match ← MonadFiles.makeDir p with
            | .ok () => return .ok ()
            | .error e => if ← MonadFiles.isDir p then return .ok () else return .error e
      | .error e => if ← MonadFiles.isDir p then return .ok () else return .error e

end CapsuleFlow
