/-!
# YAML tokens, marks and syntax problems

A mark records where a token or event starts: its byte offset, its line and its column,
both counted from zero, the column in characters. A syntax problem carries the mark where
it was found and, when the scanner or parser knows what it was reading, a context with
the mark where that began.

Problems are displayed one-based: `problem at line L column C, context at line L column
C`. A mark on the very first character is left out, and so is a context mark equal to the
problem mark.
-/

namespace CapsuleFlow.Yaml

/-- A place in YAML text: byte offset, zero-based line and zero-based character column. -/
structure Mark where
  index : Nat := 0
  line : Nat := 0
  column : Nat := 0
  deriving DecidableEq, Repr, Inhabited

/-- Whether a mark is past the first character of the first line. -/
def Mark.placed (m : Mark) : Bool := m.line != 0 || m.column != 0

/-- A mark as text: `line L column C` one-based, or the byte offset on the first character. -/
def Mark.text (m : Mark) : String :=
  if m.placed then s!"line {m.line + 1} column {m.column + 1}" else s!"position {m.index}"

/-- A syntax problem: what was found, where, and what was being read. -/
structure Problem where
  problem : String
  mark : Mark := {}
  offset : Nat := 0
  context : Option (String × Mark) := none
  deriving Repr, Inhabited

def Problem.text (p : Problem) : String :=
  let head :=
    if p.mark.placed then s!"{p.problem} at {p.mark.text}"
    else if p.offset != 0 then s!"{p.problem} at position {p.offset}"
    else p.problem
  match p.context with
  | none => head
  | some (c, m) =>
    if m.placed && (m.line != p.mark.line || m.column != p.mark.column) then
      s!"{head}, {c} at {m.text}"
    else s!"{head}, {c}"

/-- How a scalar was written. -/
inductive ScalarStyle where
  | plain | singleQuoted | doubleQuoted | literal | folded
  deriving DecidableEq, Repr, Inhabited

/-- The kinds of token the scanner produces. -/
inductive TokenKind where
  | streamStart | streamEnd
  | versionDirective (major minor : Nat)
  | tagDirective (handle pre : String)
  | documentStart | documentEnd
  | blockSequenceStart | blockMappingStart | blockEnd
  | flowSequenceStart | flowSequenceEnd | flowMappingStart | flowMappingEnd
  | blockEntry | flowEntry | key | value
  | alias (name : String)
  | anchor (name : String)
  | tag (handle suffix : String)
  | scalar (text : String) (style : ScalarStyle)
  deriving DecidableEq, Repr, Inhabited

/-- A token with the marks where it starts and ends. -/
structure Token where
  kind : TokenKind
  start : Mark
  stop : Mark
  deriving Repr, Inhabited

def isBreak (c : Char) : Bool :=
  c == '\r' || c == '\n' || c == '\x85' || c == '\u2028' || c == '\u2029'

def isBlank (c : Char) : Bool := c == ' ' || c == '\t'

def isEnd (c : Char) : Bool := c == '\x00'

def isBreakOrEnd (c : Char) : Bool := isBreak c || isEnd c

def isBlankOrEnd (c : Char) : Bool := isBlank c || isBreak c || isEnd c

/-- Characters of anchor names and tag handles: ASCII letters, digits, `_` and `-`. -/
def isWordChar (c : Char) : Bool := c.isAlphanum || c == '_' || c == '-'

def isHexDigit (c : Char) : Bool :=
  c.isDigit || ('a' ≤ c && c ≤ 'f') || ('A' ≤ c && c ≤ 'F')

def hexDigitValue (c : Char) : Nat :=
  if c.isDigit then c.toNat - '0'.toNat
  else if 'a' ≤ c && c ≤ 'f' then c.toNat - 'a'.toNat + 10
  else c.toNat - 'A'.toNat + 10

def isPrintable (c : Char) : Bool :=
  let v := c.toNat
  v == 0x09 || v == 0x0A || v == 0x0D || (0x20 ≤ v && v ≤ 0x7E) || v == 0x85 ||
    (0xA0 ≤ v && v ≤ 0xD7FF) || (0xE000 ≤ v && v ≤ 0xFFFD) || (0x10000 ≤ v && v ≤ 0x10FFFF)

end CapsuleFlow.Yaml
