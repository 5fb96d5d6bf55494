import CapsuleFlow.Regex.Ranges
import CapsuleFlow.Regex.Utf8

/-!
# The reduced form of a regular pattern

Before a regular pattern is compiled to an automaton it is reduced. Characters become
UTF-8 bytes (a literal is a string of bytes), a class becomes its ranges, groups that do
not capture disappear, and sequences and alternatives are flattened. The constructors
`mkClass`, `mkCat`, `mkAlt` and `mkRep` simplify as they build:

* a class of one character is a literal, an empty class a class that never matches;
* a sequence takes the parts of the sequences in it, joins adjacent literals and drops
  empty parts;
* alternatives that are all single characters, or all classes, are one class; otherwise
  a prefix that every alternative (each a sequence) starts with is taken out;
* a repetition of what only matches the empty text is at most one repetition, `{0}` is
  empty, and `{1}` is the repeated part itself.

The lengths a reduced pattern can match (in bytes) and whether every match starts at the
start of the text (or ends at its end) decide how it compiles.
-/

namespace CapsuleFlow.Regex

/-- A regular pattern in reduced form. -/
inductive Reduced where
  | empty
  /-- A literal: these bytes, in order. -/
  | bytes (bs : List Nat)
  /-- One character of these sorted, disjoint ranges of code points. -/
  | cls (rs : List (Nat × Nat))
  | look (a : Assertion)
  /-- Between `min` and `max` repetitions (no `max`: no bound). -/
  | rep (r : Reduced) (min : Nat) (max : Option Nat)
  | capture (r : Reduced)
  | cat (parts : List Reduced)
  | alt (parts : List Reduced)
  deriving BEq, Repr, Inhabited

namespace Reduced

def sumLengths (xs : List (Option Nat)) : Option Nat :=
  xs.foldl (fun acc x => do return (← acc) + (← x)) (some 0)

def leastLength (xs : List (Option Nat)) : Option Nat :=
  match xs with
  | [] => none
  | x :: rest => rest.foldl (fun acc y => do return min (← acc) (← y)) x

def greatestLength (xs : List (Option Nat)) : Option Nat :=
  match xs with
  | [] => none
  | x :: rest => rest.foldl (fun acc y => do return max (← acc) (← y)) x

mutual
/-- The fewest bytes a match spans; none when nothing matches. -/
def minLen : Reduced → Option Nat
  | .empty | .look _ => some 0
  | .bytes bs => some bs.length
  | .cls rs => rs.head?.map fun r => utf8Length r.1
  | .rep r lo _ => r.minLen.map (· * lo)
  | .capture r => r.minLen
  | .cat parts => sumLengths (minLens parts)
  | .alt parts => leastLength (minLens parts)

/-- `minLen` of each part. -/
def minLens : List Reduced → List (Option Nat)
  | [] => []
  | p :: ps => p.minLen :: minLens ps
end

mutual
/-- The most bytes a match spans; none when there is no bound or nothing matches. -/
def maxLen : Reduced → Option Nat
  | .empty | .look _ => some 0
  | .bytes bs => some bs.length
  | .cls rs => rs.getLast?.map fun r => utf8Length r.2
  | .rep r _ hi => match hi with
    | some h => r.maxLen.map (· * h)
    | none => none
  | .capture r => r.maxLen
  | .cat parts => sumLengths (maxLens parts)
  | .alt parts => greatestLength (maxLens parts)

/-- `maxLen` of each part. -/
def maxLens : List Reduced → List (Option Nat)
  | [] => []
  | p :: ps => p.maxLen :: maxLens ps
end

mutual
/-- Whether every match starts at the start of the text: an assertion `\A` comes first,
after parts that match nothing but the empty text. -/
def anchoredStart : Reduced → Bool
  | .look a => a == .textStart
  | .rep r lo _ => lo != 0 && r.anchoredStart
  | .capture r => r.anchoredStart
  | .cat parts => startOfParts parts
  | .alt parts => allStart parts
  | _ => false

def startOfParts : List Reduced → Bool
  | [] => false
  | p :: ps => p.anchoredStart || (p.maxLen == some 0 && startOfParts ps)

def allStart : List Reduced → Bool
  | [] => true
  | p :: ps => p.anchoredStart && allStart ps
end

mutual
/-- Whether every match ends at the end of the text: an assertion `\z` comes last, before
parts that match nothing but the empty text. -/
def anchoredEnd : Reduced → Bool
  | .look a => a == .textEnd
  | .rep r lo _ => lo != 0 && r.anchoredEnd
  | .capture r => r.anchoredEnd
  | .cat parts => endOfParts parts
  | .alt parts => allEnd parts
  | _ => false

/-- Whether a sequence of parts is anchored at its end: some part is, and every part
after it matches nothing but the empty text. -/
def endOfParts : List Reduced → Bool
  | [] => false
  | p :: ps => endOfParts ps || (p.anchoredEnd && ps.all fun q => q.maxLen == some 0)

def allEnd : List Reduced → Bool
  | [] => true
  | p :: ps => p.anchoredEnd && allEnd ps
end

/-- A class; one character is a literal. -/
def mkClass (rs : List (Nat × Nat)) : Reduced :=
  match rs with
  | [(a, b)] => if a == b then .bytes (utf8Bytes a) else .cls rs
  | _ => .cls rs

/-- Joins the literals that stand next to each other in a sequence: `run` holds the byte
strings of the literal being joined and `acc` the parts done, both newest first. -/
def joinLiterals (run : List (List Nat)) (acc : List Reduced) : List Reduced → List Reduced
  | [] => (flush run acc).reverse
  | .bytes b :: rest => joinLiterals (b :: run) acc rest
  | x :: rest => joinLiterals [] (x :: flush run acc) rest
where
  /-- Ends a run of literals as one literal. -/
  flush (run : List (List Nat)) (acc : List Reduced) : List Reduced :=
    if run.isEmpty then acc else .bytes run.reverse.flatten :: acc

/-- A sequence of parts, simplified: the parts of sequences in it are taken in, empty
parts dropped and adjacent literals joined. -/
def mkCat (parts : List Reduced) : Reduced :=
  let flat := parts.flatMap fun (p : Reduced) => match p with
    | .cat qs => qs
    | .empty => []
    | p => [p]
  match joinLiterals [] [] flat with
  | [] => .empty
  | [x] => x
  | xs => .cat xs

def singleChars? (parts : List Reduced) : Option (List Nat) :=
  parts.mapM fun (p : Reduced) => match p with
    | .bytes bs => decodeSingle? bs
    | _ => none

def allClasses? (parts : List Reduced) : Option (List (Nat × Nat)) :=
  (parts.mapM fun (p : Reduced) => match p with
    | .cls rs => some rs
    | _ => none).map fun (rss : List (List (Nat × Nat))) => normalizeRanges rss.flatten

/-- The longest sequence of parts that every alternative starts with, when every
alternative is a sequence. -/
def commonPrefix? (parts : List Reduced) : Option (List Reduced) :=
  match parts with
  | .cat first :: rest =>
    rest.foldlM (fun pre p => match p with
      | .cat xs => some ((pre.zip xs).takeWhile (fun (a, b) => a == b) |>.map (·.1))
      | _ => none) first
  | _ => none

def seqLength : Reduced → Nat
  | .cat xs => xs.length
  | _ => 1

/-- Alternatives, simplified; the fuel bounds how often a common prefix is taken out
(each time shortens the alternatives). -/
def mkAltWith : Nat → List Reduced → Reduced
  | fuel, parts =>
    let flat := parts.flatMap fun (p : Reduced) => match p with
      | .alt qs => qs
      | p => [p]
    match flat with
    | [] => .cls []
    | [x] => x
    | _ =>
      match singleChars? flat with
      | some cs => mkClass (normalizeRanges (cs.map fun c => (c, c)))
      | none =>
        match allClasses? flat with
        | some rs => mkClass rs
        | none =>
          match fuel, commonPrefix? flat with
          | fuel + 1, some pre =>
            if pre.isEmpty then .alt flat
            else
              let rests := flat.map fun (p : Reduced) => match p with
                | .cat xs => mkCat (xs.drop pre.length)
                | p => p
              mkCat (pre ++ [mkAltWith fuel rests])
          | _, _ => .alt flat

def mkAlt (parts : List Reduced) : Reduced :=
  mkAltWith (parts.foldl (fun n p => n + p.seqLength) 1) parts

def mkRep (r : Reduced) (lo : Nat) (hi : Option Nat) : Reduced :=
  let (lo, hi) :=
    if r.maxLen == some 0 then (min lo 1, some (match hi with
      | some h => min h 1
      | none => 1))
    else (lo, hi)
  if lo == 0 && hi == some 0 then .empty
  else if lo == 1 && hi == some 1 then r
  else .rep r lo hi

end Reduced

/-- The branches of an alternation node put in front of `acc`; one node otherwise. -/
def Node.branchesOnto : Node → List Node → List Node
  | .alt a b, acc => a.branchesOnto (b.branchesOnto acc)
  | n, acc => n :: acc

/-- The alternatives of a node: the branches of an alternation, one node otherwise. -/
def Node.branches (n : Node) : List Node := n.branchesOnto []

/-- The pieces of a concatenation node put in front of `acc`; one node otherwise, none
for the empty node. -/
def Node.seqPartsOnto : Node → List Node → List Node
  | .cat a b, acc => a.seqPartsOnto (b.seqPartsOnto acc)
  | .empty, acc => acc
  | n, acc => n :: acc

/-- The parts of a node as a sequence: the pieces of a concatenation, one node
otherwise. -/
def Node.seqParts (n : Node) : List Node := n.seqPartsOnto []

def Node.size : Node → Nat
  | .cat a b | .alt a b => a.size + b.size + 1
  | .repeat r _ _ _ | .group _ r | .look _ _ r | .atomic r => r.size + 1
  | _ => 1

def reduceChars (d : Dialect) (s : CharSet) (caseless : Bool) : Reduced :=
  match s, caseless with
  | .single c, false => .bytes (utf8Bytes c.toNat)
  | s, cl => Reduced.mkClass (s.acceptedRanges d cl)

/-- The reduced form of a regular node, class escapes read in a dialect. A sequence is
reduced from all its pieces at once and an alternation from all its branches, as the
pattern writes them; the fuel bounds the depth. Look-around, back-references and atomic
groups are not regular and reduce to nothing; they never reach an automaton. -/
def Node.reduceFuel (d : Dialect) : Nat → Node → Reduced
  | 0, _ => .empty
  | fuel + 1, n =>
    match n with
    | .empty => .empty
    | .chars s caseless => reduceChars d s caseless
    | .assert a => .look a
    | .cat _ _ => Reduced.mkCat (n.seqParts.map (reduceFuel d fuel))
    | .alt _ _ => Reduced.mkAlt (n.branches.map (reduceFuel d fuel))
    | .repeat r lo hi _ => Reduced.mkRep (reduceFuel d fuel r) lo hi
    | .group (some _) r => .capture (reduceFuel d fuel r)
    | .group none r => reduceFuel d fuel r
    | .look _ _ _ | .backref _ _ | .atomic _ => .empty

def Node.reduce (d : Dialect) (n : Node) : Reduced := n.reduceFuel d (n.size + 1)

end CapsuleFlow.Regex
