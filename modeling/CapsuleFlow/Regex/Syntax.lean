import CapsuleFlow.Text.Property

/-!
# Regular expressions: syntax

The syntax tree of a pattern. A pattern is made of sets of characters (a literal is a
set of one), assertions about the place between two characters, concatenation,
alternation, repetition, groups, look-around, back-references and atomic groups.

The class escapes `\d`, `\w` and `\s` have two readings (`Dialect`). Patterns in the
ECMAScript style read them as ASCII digits, ASCII word characters and a fixed set of
nine spaces; patterns that need backtracking features read them as Unicode classes.
Word boundaries always use Unicode word characters.
-/

namespace CapsuleFlow.Regex

open CapsuleFlow.Text

/-- The class escapes `\d`, `\w` and `\s`. -/
inductive Shorthand where
  | digit | word | space
  deriving DecidableEq, Repr, Inhabited

/-- How the class escapes read. -/
inductive Dialect where
  /-- ASCII digits, ASCII word characters, and the spaces of `ecmaSpace`. -/
  | ecma
  /-- Decimal numbers, Unicode word characters, Unicode white space. -/
  | unicode
  deriving DecidableEq, Repr, Inhabited

/-- The spaces `\s` stands for in the ECMAScript reading: space, tab, line feed,
carriage return, vertical tab, form feed, em space, the byte order mark and the
paragraph separator. -/
def ecmaSpace (c : Char) : Bool :=
  let n := c.toNat
  n == 32 || n == 9 || n == 10 || n == 13 || n == 11 || n == 12 || n == 0x2003 ||
    n == 0xFEFF || n == 0x2029

def isAsciiAlnum (c : Char) : Bool := c.isAlphanum && c.toNat < 128

def Shorthand.has (d : Dialect) (k : Shorthand) (c : Char) : Bool :=
  match d, k with
  | .ecma, .digit => c.isDigit
  | .ecma, .word => isAsciiAlnum c || c == '_'
  | .ecma, .space => ecmaSpace c
  | .unicode, .digit => generalCategory c == "Nd"
  | .unicode, .word => isWordCharacter c
  | .unicode, .space => isWhiteSpace c

/-- The ASCII classes written `[:name:]` inside brackets. -/
def posixNames : List String :=
  ["alnum", "alpha", "ascii", "blank", "cntrl", "digit", "graph", "lower", "print", "punct",
    "space", "upper", "word", "xdigit"]

def posixHas (name : String) (c : Char) : Bool :=
  let n := c.toNat
  let lower := 'a' ≤ c && c ≤ 'z'
  let upper := 'A' ≤ c && c ≤ 'Z'
  match name with
  | "alnum" => isAsciiAlnum c
  | "alpha" => lower || upper
  | "ascii" => n < 128
  | "blank" => c == ' ' || c == '\t'
  | "cntrl" => n < 32 || n == 127
  | "digit" => c.isDigit
  | "graph" => 33 ≤ n && n ≤ 126
  | "lower" => lower
  | "print" => 32 ≤ n && n ≤ 126
  | "punct" => (33 ≤ n && n ≤ 47) || (58 ≤ n && n ≤ 64) || (91 ≤ n && n ≤ 96) || (123 ≤ n && n ≤ 126)
  | "space" => c == ' ' || (9 ≤ n && n ≤ 13)
  | "upper" => upper
  | "word" => isAsciiAlnum c || c == '_'
  | "xdigit" => c.isDigit || ('a' ≤ c && c ≤ 'f') || ('A' ≤ c && c ≤ 'F')
  | _ => false

/-- A set of characters, as a bracketed class or an escape denotes it. -/
inductive CharSet where
  | empty
  | single (c : Char)
  | range (lo hi : Char)
  | shorthand (k : Shorthand)
  | property (p : Property)
  | posix (name : String)
  | union (a b : CharSet)
  | inter (a b : CharSet)
  | diff (a b : CharSet)
  | symDiff (a b : CharSet)
  | complement (s : CharSet)
  deriving DecidableEq, Repr, Inhabited

def CharSet.has (d : Dialect) (c : Char) : CharSet → Bool
  | .empty => false
  | .single x => c == x
  | .range lo hi => lo ≤ c && c ≤ hi
  | .shorthand k => k.has d c
  | .property p => p.holds c
  | .posix name => posixHas name c
  | .union a b => a.has d c || b.has d c
  | .inter a b => a.has d c && b.has d c
  | .diff a b => a.has d c && !b.has d c
  | .symDiff a b => a.has d c != b.has d c
  | .complement s => !s.has d c

/-- Whether a set holds a character without regard to case. Every part of the set is
closed under case folding before it is complemented, intersected or taken away from:
`[^a-z]` then leaves out `K`, whose variant `k` is in `a-z`. A character is in the
closure of a plain part when one of its case variants is in the part. -/
def CharSet.hasCaseless (d : Dialect) (c : Char) : CharSet → Bool
  | .union a b => a.hasCaseless d c || b.hasCaseless d c
  | .inter a b => a.hasCaseless d c && b.hasCaseless d c
  | .diff a b => a.hasCaseless d c && !b.hasCaseless d c
  | .symDiff a b => a.hasCaseless d c != b.hasCaseless d c
  | .complement s => !s.hasCaseless d c
  | s => (caseVariants c).any (s.has d)

/-- Whether a set accepts a character, with or without regard to case. -/
def CharSet.accepts (s : CharSet) (d : Dialect) (caseless : Bool) (c : Char) : Bool :=
  if caseless then s.hasCaseless d c else s.has d c

/-- A condition on the place between two characters. -/
inductive Assertion where
  | textStart | textEnd | lineStart | lineEnd
  | wordBoundary | notWordBoundary | wordStart | wordEnd
  deriving DecidableEq, Repr, Inhabited

/-- Whether an assertion holds between the character before (if any) and the
character after (if any). -/
def Assertion.holds (a : Assertion) (before after : Option Char) : Bool :=
  let word (o : Option Char) : Bool := match o with
    | some c => isWordCharacter c
    | none => false
  match a with
  | .textStart => before.isNone
  | .textEnd => after.isNone
  | .lineStart => before.isNone || before == some '\n'
  | .lineEnd => after.isNone || after == some '\n'
  | .wordBoundary => word before != word after
  | .notWordBoundary => word before == word after
  | .wordStart => !word before && word after
  | .wordEnd => word before && !word after

/-- The syntax tree of a pattern. -/
inductive Node where
  | empty
  /-- One character of a set, with or without regard to case. -/
  | chars (s : CharSet) (caseless : Bool)
  | assert (a : Assertion)
  | cat (a b : Node)
  | alt (a b : Node)
  /-- Between `min` and `max` repetitions (no `max`: no bound), most first when greedy. -/
  | repeat (r : Node) (min : Nat) (max : Option Nat) (greedy : Bool)
  /-- A group, capturing when it has an index. -/
  | group (index : Option Nat) (r : Node)
  /-- A look-ahead or look-behind, positive or negated. -/
  | look (behind negated : Bool) (r : Node)
  /-- The text a capturing group matched, again. -/
  | backref (index : Nat) (caseless : Bool)
  /-- A group that, once matched, is not tried again another way. -/
  | atomic (r : Node)
  deriving Repr, Inhabited

namespace Node

def append : Node → Node → Node
  | .empty, b => b
  | a, .empty => a
  | a, b => .cat a b

/-- Whether a quantifier may follow a node: not an empty pattern, an assertion or a
look-around, which read no characters. A group without index is looked through, as it
stands for its body. -/
def repeatable : Node → Bool
  | .empty | .assert _ | .look _ _ _ => false
  | .group none r => r.repeatable
  | _ => true

def width : Node → Option Nat
  | .empty => some 0
  | .chars _ _ => some 1
  | .assert _ => some 0
  | .cat a b => do return (← a.width) + (← b.width)
  | .alt a b => do
    let x ← a.width
    let y ← b.width
    if x == y then return x else none
  | .repeat r lo hi _ => do
    let w ← r.width
    if hi == some lo then return w * lo else none
  | .group _ r => r.width
  | .look _ _ _ => some 0
  | .backref _ _ => none
  | .atomic r => r.width

/-- Whether matching needs backtracking: a back-reference, a look-around or an atomic
group. -/
def needsBacktracking : Node → Bool
  | .cat a b | .alt a b => a.needsBacktracking || b.needsBacktracking
  | .repeat r _ _ _ | .group _ r => r.needsBacktracking
  | .look _ _ _ | .backref _ _ | .atomic _ => true
  | _ => false

def fixedLookBehinds : Node → Bool
  | .cat a b | .alt a b => a.fixedLookBehinds && b.fixedLookBehinds
  | .repeat r _ _ _ | .group _ r | .atomic r => r.fixedLookBehinds
  | .look behind _ r => (!behind || r.width.isSome) && r.fixedLookBehinds
  | _ => true

def maxBackref : Node → Nat
  | .cat a b | .alt a b => max a.maxBackref b.maxBackref
  | .repeat r _ _ _ | .group _ r | .look _ _ r | .atomic r => r.maxBackref
  | .backref i _ => i
  | _ => 0

end Node

end CapsuleFlow.Regex
