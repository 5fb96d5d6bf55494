/-!
# Paths

Slash-separated paths as text, read the way a Unix program reads them: a path is a
sequence of components, where a leading `/` is the root, `..` is the parent, `.` is the
current directory only at the very start of a relative path (elsewhere it is dropped),
and empty components (repeated or trailing slashes) vanish.
-/

namespace CapsuleFlow.Path

/-- One component of a path. -/
inductive Component where
  | root
  | current
  | parent
  | normal (name : String)
  deriving DecidableEq, Repr, Inhabited

def Component.text : Component → String
  | .root => "/"
  | .current => "."
  | .parent => ".."
  | .normal n => n

def isAbsolute (p : String) : Bool := p.startsWith "/"

def components (p : String) : List Component :=
  let pieces := p.splitOn "/"
  let lead := if isAbsolute p then [Component.root]
    else match pieces with
      | "." :: _ => [Component.current]
      | _ => []
  let body := (if lead == [Component.current] then pieces.drop 1 else pieces).filterMap
    fun s => if s.isEmpty || s == "." then none
      else if s == ".." then some Component.parent
      else some (Component.normal s)
  lead ++ body

def ofComponents (cs : List Component) : String :=
  match cs with
  | .root :: rest => "/" ++ "/".intercalate (rest.map Component.text)
  | _ => "/".intercalate (cs.map Component.text)

/-- A path followed by another: the other when it is absolute, else the two joined by a
slash (none after an empty path or one ending in a slash). -/
def join (base p : String) : String :=
  if isAbsolute p then p
  else if base.isEmpty || base.endsWith "/" then base ++ p
  else base ++ "/" ++ p

/-- A path without `.` components, repeated or trailing slashes. -/
def clean (p : String) : String :=
  ofComponents ((components p).filter (· != .current))

/-- The path of the directory holding the last component: `none` for the root or an
empty path; `""` for a single relative name. -/
def parent (p : String) : Option String :=
  match (components p).reverse with
  | [] => none
  | .root :: _ => none
  | _ :: rest => some (ofComponents rest.reverse)

/-- The last component when it is a name. -/
def fileName (p : String) : Option String :=
  match (components p).getLast? with
  | some (.normal n) => some n
  | _ => none

/-- The part of the file name after its last dot, unless the name starts with its only
dot or has none. -/
def extension (p : String) : Option String :=
  (fileName p).bind fun n =>
    match n.splitOn "." with
    | [] | [_] => none
    | pieces =>
      let before := ".".intercalate pieces.dropLast
      if before.isEmpty then none else pieces.getLast?

end CapsuleFlow.Path
