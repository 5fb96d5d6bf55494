import CapsuleFlow.Yaml.Parser

/-!
# Loading a YAML document

Loading reads the events of the first document into an array of nodes. Anchors are
resolved as they are met: an alias becomes the position of the node its anchor names
(the latest node with that anchor so far); an alias to an anchor not yet defined ends
the document with the failure `unknown anchor`. A syntax problem ends the document too,
keeping the nodes read before it: a reader of the nodes meets the problem only when it
reads past them. A stream with no document at all loads as one empty node (`void`).

Readers of a document report where a value went wrong by a path from the root
(`a.b[2].c`) and the mark of the node.
-/

namespace CapsuleFlow.Yaml

/-- A node event of a loaded document. -/
inductive Node where
  | alias (target : Nat)
  | scalar (tag : Option String) (text : String) (style : ScalarStyle)
  | sequenceStart (tag : Option String)
  | sequenceEnd
  | mappingStart (tag : Option String)
  | mappingEnd
  | void
  deriving DecidableEq, Repr, Inhabited

/-- Where a value lies in a document. -/
inductive Path where
  | root
  | index (parent : Path) (i : Nat)
  | key (parent : Path) (k : String)
  | alias (parent : Path)
  | unknown (parent : Path)
  deriving DecidableEq, Repr, Inhabited

/-- The display of a path: `.` for the root, keys joined with `.`, indexes in brackets,
`?` for a key that is not a scalar. -/
def Path.text : Path → String
  | .root => "."
  | .index p i => p.text ++ "[" ++ toString i ++ "]"
  | .key p k => (match p with | .root => "" | _ => p.text ++ ".") ++ k
  | .alias p => p.text
  | .unknown p => (match p with | .root => "" | _ => p.text ++ ".") ++ "?"

/-- Why reading YAML failed. -/
inductive Failure where
  | malformed (p : Problem)
  | unknownAnchor (m : Mark)
  | message (msg : String) (place : Option (Mark × String))
  | endOfStream
  | moreThanOneDocument
  | recursionLimit (m : Mark)
  | repetitionLimit
  deriving Repr, Inhabited

/-- ` at line L column C`, or nothing on the first character. -/
def markSuffix (m : Mark) : String :=
  if m.placed then " at " ++ m.text else ""

/-- The display of a failure. A message shows its path first unless it is the root. -/
def Failure.text : Failure → String
  | .malformed p => p.text
  | .unknownAnchor m => "unknown anchor" ++ markSuffix m
  | .message msg none => msg
  | .message msg (some (m, path)) =>
    (if path != "." then path ++ ": " else "") ++ msg ++ markSuffix m
  | .endOfStream => "EOF while parsing a value"
  | .moreThanOneDocument =>
    "deserializing from YAML containing more than one document is not supported"
  | .recursionLimit m => "recursion limit exceeded" ++ markSuffix m
  | .repetitionLimit => "repetition limit exceeded"

/-- A message not yet placed. -/
def Failure.msg (s : String) : Failure := .message s none

/-- Gives a message that has no place yet the mark and path of a node. -/
def Failure.placed (f : Failure) (m : Mark) (path : Path) : Failure :=
  match f with
  | .message msg none => .message msg (some (m, path.text))
  | f => f

/-- A loaded document: its nodes with their marks, and what ended it early. -/
structure Document where
  nodes : Array (Node × Mark)
  error : Option Failure
  deriving Inhabited

/-- The node at a position; past the end, the failure that ended the document. -/
def Document.nodeAt (d : Document) (pos : Nat) : Except Failure (Node × Mark) :=
  match d.nodes[pos]? with
  | some e => .ok e
  | none => .error (d.error.getD .endOfStream)

/-- How many alias jumps a reader may make: a hundred per node. -/
def Document.jumpLimit (d : Document) : Nat := d.nodes.size * 100

/-- Whether a node is an empty plain scalar or the empty document, read as an empty collection. -/
def Node.isBlank : Node → Bool
  | .scalar _ text style => text.isEmpty && style == .plain
  | .void => true
  | _ => false

def Document.jump (d : Document) (jumps : Nat) : Except Failure Nat :=
  if jumps + 1 > d.jumpLimit then .error .repetitionLimit else .ok (jumps + 1)

/-- Reads the next document's events. `none` when the stream ends before another
document (after the first). The parser is given back when the document ended
normally, for reading what follows. -/
def nextDocument (p : Parser) (first : Bool) : Option (Document × Option Parser) := Id.run do
  let mut p := p
  let mut anchors : List (String × Nat) := []
  let mut nodes : Array (Node × Mark) := #[]
  let remember (anchor : Option String) (anchors : List (String × Nat)) (at_ : Nat) :=
    match anchor with
    | some a => (a, at_) :: anchors
    | none => anchors
  for _ in [0:8 * (p.scanner.input.size + 4)] do
    match Parser.nextEvent.run p with
    | .error e => return some (⟨nodes, some (.malformed e)⟩, none)
    | .ok (ev, p') =>
      p := p'
      let mark := ev.start
      match ev.kind with
      | .streamStart | .documentStart _ => pure ()
      | .streamEnd =>
        if first then
          if nodes.isEmpty then nodes := nodes.push (.void, mark)
          return some (⟨nodes, none⟩, none)
        else return none
      | .documentEnd _ => return some (⟨nodes, none⟩, some p)
      | .alias name =>
        match anchors.lookup name with
        | some i => nodes := nodes.push (.alias i, mark)
        | none => return some (⟨nodes, some (.unknownAnchor mark)⟩, none)
      | .scalar anchor tag text style =>
        anchors := remember anchor anchors nodes.size
        nodes := nodes.push (.scalar tag text style, mark)
      | .sequenceStart anchor tag =>
        anchors := remember anchor anchors nodes.size
        nodes := nodes.push (.sequenceStart tag, mark)
      | .sequenceEnd => nodes := nodes.push (.sequenceEnd, mark)
      | .mappingStart anchor tag =>
        anchors := remember anchor anchors nodes.size
        nodes := nodes.push (.mappingStart tag, mark)
      | .mappingEnd => nodes := nodes.push (.mappingEnd, mark)
  return some (⟨nodes, some .endOfStream⟩, none)

/-- Loads the first document of a text, and tells whether another document follows. -/
def load (text : String) : Document × Bool :=
  match Scanner.start text with
  | .error e => (⟨#[], some (.malformed e)⟩, false)
  | .ok s =>
    match nextDocument { scanner := s } true with
    | none => (⟨#[(.void, {})], none⟩, false)
    | some (d, rest) =>
      let more := match rest with
        | none => false
        | some p => (nextDocument p false).isSome
      (d, more)

end CapsuleFlow.Yaml
