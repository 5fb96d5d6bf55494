import CapsuleFlow.Cli.Program

/-!
# The harness command

The `capsule` program: reads its arguments, runs them against the real file system,
prints what the program prints, writes the log events it admits to the error stream,
and exits with the program's code. All the work is done by the pure program; this layer
only connects it to the system.
-/

namespace CapsuleFlow.Shell

def errorCode : IO.Error → Option UInt32
  | .alreadyExists _ c _ | .otherError c _ | .resourceBusy c _ | .resourceVanished c _
  | .unsupportedOperation c _ | .hardwareFault c _ | .unsatisfiedConstraints c _
  | .illegalOperation c _ | .protocolError c _ | .timeExpired c _ | .interrupted _ c _
  | .noFileOrDirectory _ c _ | .invalidArgument _ c _ | .permissionDenied _ c _
  | .resourceExhausted _ c _ | .inappropriateType _ c _ | .noSuchThing _ c _ => some c
  | _ => none

def osError (e : IO.Error) : OsError :=
  match errorCode e with
  | some 2 => .notFound
  | some 13 => .permissionDenied
  | some 17 => .alreadyExists
  | some 20 => .notDirectory
  | some 21 => .isDirectory
  | _ => .other (toString e)

def attempt {α : Type} (act : IO α) : IO (Except OsError α) := do
  try return .ok (← act) catch e => return .error (osError e)

abbrev Live := ReaderT Cli.LogSettings IO

instance : MonadFiles Live where
  currentDir := do return (← IO.currentDir).toString
  readFile p := attempt (IO.FS.readFile p)
  writeFile p t := attempt (IO.FS.writeFile p t)
  makeDir p := attempt (IO.FS.createDir p)
  isDir p := do
    match ← attempt (IO.FS.realPath p) with
    | .ok full => full.isDir
    | .error _ => return false
  listDir p := attempt do
    let full ← IO.FS.realPath p
    let entries ← full.readDir
    return (entries.map (·.fileName)).toList.mergeSort (· ≤ ·)
  canonical p := attempt do return (← IO.FS.realPath p).toString

instance : MonadLog Live where
  emit e := do
    let settings ← read
    if settings.admits e then IO.eprintln (settings.render e)

end CapsuleFlow.Shell

open CapsuleFlow in
def main (args : List String) : IO UInt32 := do
  match Cli.readInvocation args with
  | .error e =>
    let (out, err, code) := e.streams
    IO.print out
    IO.eprint err
    return code.toUInt32
  | .ok inv =>
    let outcome ← (Cli.execute inv : Shell.Live Cli.Outcome).run inv.globals.logSettings
    IO.print outcome.stdout
    return outcome.exit.toUInt32
