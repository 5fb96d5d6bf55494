import CapsuleFlow.Regex.Syntax

/-!
# Character classes as ranges

A set of characters written in a pattern, as sorted, disjoint, non-touching ranges of
code points: the form an automaton compiler works from. The set operations of a class
(`&&`, `--`, `~~`, negation) become operations on range lists, properties become the
ranges of their tables, and a class read without regard to case is closed under simple
case folding part by part, as `CharSet.hasCaseless` decides membership. Surrogates are
never in a class.
-/

namespace CapsuleFlow.Regex

open CapsuleFlow.Text

def maxCodePoint : Nat := 0x10FFFF

/-- Joins sorted ranges that overlap or touch; `acc` holds the joined ones, newest
first. -/
def joinRuns (acc : List (Nat × Nat)) : List (Nat × Nat) → List (Nat × Nat)
  | [] => acc.reverse
  | (c, d) :: rest =>
    match acc with
    | (a, b) :: more =>
      if c ≤ b + 1 then joinRuns ((a, max b d) :: more) rest else joinRuns ((c, d) :: acc) rest
    | [] => joinRuns [(c, d)] rest

/-- Ranges sorted, with those that overlap or touch joined and empty ones dropped. -/
def normalizeRanges (rs : List (Nat × Nat)) : List (Nat × Nat) :=
  joinRuns [] ((rs.filter fun r => r.1 ≤ r.2).mergeSort fun x y => x.1 ≤ y.1)

/-- The code points up to `maxCodePoint` outside sorted disjoint ranges, from `next` on. -/
def gapsFrom (next : Nat) : List (Nat × Nat) → List (Nat × Nat)
  | [] => if next ≤ maxCodePoint then [(next, maxCodePoint)] else []
  | (a, b) :: rest => (if next < a then [(next, a - 1)] else []) ++ gapsFrom (b + 1) rest

def complementRanges (rs : List (Nat × Nat)) : List (Nat × Nat) := gapsFrom 0 rs

def unionRanges (a b : List (Nat × Nat)) : List (Nat × Nat) := normalizeRanges (a ++ b)

def interRanges (a b : List (Nat × Nat)) : List (Nat × Nat) :=
  complementRanges (unionRanges (complementRanges (normalizeRanges a))
    (complementRanges (normalizeRanges b)))

/-- The code points of `a` that are not in `b`. -/
def diffRanges (a b : List (Nat × Nat)) : List (Nat × Nat) :=
  interRanges a (complementRanges (normalizeRanges b))

/-- The code points in exactly one of `a` and `b`. -/
def symDiffRanges (a b : List (Nat × Nat)) : List (Nat × Nat) :=
  unionRanges (diffRanges a b) (diffRanges b a)

def rangesHave (rs : Array (Nat × Nat)) (n : Nat) : Bool :=
  match lastAtMost rs (·.1) n with
  | some (_, b) => n ≤ b
  | none => false

/-- The ranges of a table whose values satisfy `p`; the code points the table leaves out
count as satisfying it when `gaps` is set. -/
def tableRanges (t : Array (Nat × Nat × String)) (p : String → Bool) (gaps : Bool) :
    List (Nat × Nat) :=
  let listed := t.toList.filterMap fun (a, b, v) => if p v then some (a, b) else none
  let missing :=
    if gaps then complementRanges (normalizeRanges (t.toList.map fun (a, b, _) => (a, b)))
    else []
  normalizeRanges (listed ++ missing)

def propertyRanges : Property → List (Nat × Nat)
  | .any => [(0, maxCodePoint)]
  | .ascii => [(0, 127)]
  | .assigned => tableRanges categoryTable (· != "Cn") false
  | .category names => tableRanges categoryTable names.contains (names.contains "Cn")
  | .script code => tableRanges scriptTable (· == code) (code == "Zzzz")
  | .binary name => match binaryTables.lookup name with
    | some t => normalizeRanges t.toList
    | none => []
  | .age major minor =>
    tableRanges ageTable (fun v =>
      let (a, b) := versionOf v
      a < major || (a == major && b ≤ minor)) false

def whiteSpaceRanges : List (Nat × Nat) :=
  [(9, 13), (32, 32), (0x85, 0x85), (0xA0, 0xA0), (0x1680, 0x1680), (0x2000, 0x200A),
    (0x2028, 0x2029), (0x202F, 0x202F), (0x205F, 0x205F), (0x3000, 0x3000)]

def Shorthand.ranges : Dialect → Shorthand → List (Nat × Nat)
  | .ecma, .digit => [(48, 57)]
  | .ecma, .word => [(48, 57), (65, 90), (95, 95), (97, 122)]
  | .ecma, .space => [(9, 13), (32, 32), (0x2003, 0x2003), (0x2029, 0x2029), (0xFEFF, 0xFEFF)]
  | .unicode, .digit => tableRanges categoryTable (· == "Nd") false
  | .unicode, .word => normalizeRanges wordTable.toList
  | .unicode, .space => whiteSpaceRanges

def posixRanges (name : String) : List (Nat × Nat) :=
  match name with
  | "alnum" => [(48, 57), (65, 90), (97, 122)]
  | "alpha" => [(65, 90), (97, 122)]
  | "ascii" => [(0, 127)]
  | "blank" => [(9, 9), (32, 32)]
  | "cntrl" => [(0, 31), (127, 127)]
  | "digit" => [(48, 57)]
  | "graph" => [(33, 126)]
  | "lower" => [(97, 122)]
  | "print" => [(32, 126)]
  | "punct" => [(33, 47), (58, 64), (91, 96), (123, 126)]
  | "space" => [(9, 13), (32, 32)]
  | "upper" => [(65, 90)]
  | "word" => [(48, 57), (65, 90), (95, 95), (97, 122)]
  | "xdigit" => [(48, 57), (65, 70), (97, 102)]
  | _ => []

/-- Ranges closed under simple case folding: every character equal up to case to one in
the ranges is added. A character's equals are its folding and everything that folds to
the same. -/
def foldRanges (rs : List (Nat × Nat)) : List (Nat × Nat) :=
  let arr := (normalizeRanges rs).toArray
  let viaMembers := foldTable.toList.flatMap fun (c, f) =>
    if rangesHave arr c then f :: (unfolded (Char.ofNat f)).map Char.toNat else []
  let viaFolds := unfoldTable.toList.flatMap fun (f, cs) => if rangesHave arr f then cs else []
  normalizeRanges (rs ++ (viaMembers ++ viaFolds).map fun n => (n, n))

/-- The characters of a set, as ranges (not yet normalized for the plain parts). -/
def CharSet.ranges (d : Dialect) : CharSet → List (Nat × Nat)
  | .empty => []
  | .single c => [(c.toNat, c.toNat)]
  | .range lo hi => [(lo.toNat, hi.toNat)]
  | .shorthand k => k.ranges d
  | .property p => propertyRanges p
  | .posix name => posixRanges name
  | .union a b => unionRanges (a.ranges d) (b.ranges d)
  | .inter a b => interRanges (a.ranges d) (b.ranges d)
  | .diff a b => diffRanges (a.ranges d) (b.ranges d)
  | .symDiff a b => symDiffRanges (a.ranges d) (b.ranges d)
  | .complement s => complementRanges (normalizeRanges (s.ranges d))

/-- The characters of a set read without regard to case: each plain part is closed under
case folding before the parts are combined, as in `CharSet.hasCaseless`. -/
def CharSet.foldedRanges (d : Dialect) : CharSet → List (Nat × Nat)
  | .union a b => unionRanges (a.foldedRanges d) (b.foldedRanges d)
  | .inter a b => interRanges (a.foldedRanges d) (b.foldedRanges d)
  | .diff a b => diffRanges (a.foldedRanges d) (b.foldedRanges d)
  | .symDiff a b => symDiffRanges (a.foldedRanges d) (b.foldedRanges d)
  | .complement s => complementRanges (s.foldedRanges d)
  | s => foldRanges (s.ranges d)

/-- The surrogate code points, which no class holds. -/
def surrogates : List (Nat × Nat) := [(0xD800, 0xDFFF)]

/-- The characters a set accepts, with or without regard to case, as sorted, disjoint,
non-touching ranges without surrogates. -/
def CharSet.acceptedRanges (s : CharSet) (d : Dialect) (caseless : Bool) : List (Nat × Nat) :=
  diffRanges (if caseless then s.foldedRanges d else s.ranges d) surrogates

end CapsuleFlow.Regex
