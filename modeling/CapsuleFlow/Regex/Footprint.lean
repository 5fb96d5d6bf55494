import CapsuleFlow.Regex.Parse
import CapsuleFlow.Regex.Reduced

/-!
# The memory an automaton takes

A regular pattern is compiled to a byte automaton twice: forwards, with states for its
capturing groups, and backwards, without them. Either automaton is refused when the
memory its states take passes a limit of ten mebibytes. Every state takes 32 bytes; a
state with a list of byte-range transitions takes 8 bytes more for each, and a state
that chooses between others takes 4 bytes more for each choice. The memory only grows,
so an automaton passes the limit as soon as one step of its building does.

The building, part by part:

* a literal is a chain of one state per byte (backwards, last byte first);
* a class of ASCII characters is one state with a transition per range, and an exit;
* a larger class is read byte by byte. Forwards, its byte-range sequences (`Utf8.lean`)
  are added in order to a trie whose finished nodes are shared when equal; the nodes are
  found again through a table of 10000 slots, indexed by an FNV-1a hash of the node, so
  two nodes in one slot push each other out. Backwards, each sequence is a chain of
  states from its first byte range, and a state already built for the same range and
  the same next state is used again, found through a table of 1000 slots the same way;
* a choice between alternatives is one choosing state with an exit; alternatives that
  are all literals make a trie of their bytes, one state per trie node with its
  transitions, and one choosing state per node;
* a repetition writes its part out once for each required repetition, with a choosing
  state for each optional one;
* an assertion is one state, a capturing group two (forwards).

The whole automaton adds, in front, a loop over any byte unless every match starts at
the start of the text (backwards: ends at its end), then the group of the whole match
(forwards), and an accepting state.

A pattern that needs backtracking is run by a machine of its own; the parts of it that
are regular are compiled as automata of their own (`segments`), each against the same
limit. The split follows the machine's compiler: a part is regular when it has no
look-around, back-reference or atomic group; in a sequence with such parts, the regular
parts of fixed width at the front form one automaton, and so do the regular parts at the
back (only those of fixed width inside a part already being split); everything between
is split further; a repetition of a part that is not regular splits its part alone.
-/

namespace CapsuleFlow.Regex

def footprintLimit : Nat := 10 * Nat.pow 2 20

def stateBytes : Nat := 32

def nodeSlots : Nat := 10000

def suffixSlots : Nat := 1000

def fnvStep (h : UInt64) (x : Nat) : UInt64 := (h ^^^ x.toUInt64) * 1099511628211

def fnvStart : UInt64 := 14695981039346656037

/-- A transition of a node: a byte range and the state it leads to. -/
abbrev Transition := Nat × Nat × Nat

def nodeSlot (key : List Transition) : Nat :=
  (key.foldl (fun h (s, e, n) => fnvStep (fnvStep (fnvStep h s) e) n) fnvStart).toNat %
    nodeSlots

def suffixSlot (next s e : Nat) : Nat :=
  (fnvStep (fnvStep (fnvStep fnvStart next) s) e).toNat % suffixSlots

/-- The building of an automaton: the states so far, the bytes their lists hold, which
states choose, and the two tables (a slot is in use when its stamp is the current
one). -/
structure Builder where
  states : Nat := 0
  listBytes : Nat := 0
  choosing : Array Bool := #[]
  stamp : Nat := 0
  nodes : Array (Nat × List Transition × Nat) := Array.replicate nodeSlots (0, [], 0)
  suffixes : Array (Nat × Transition × Nat) := Array.replicate suffixSlots (0, (0, 0, 0), 0)
  deriving Inhabited

def Builder.memory (b : Builder) : Nat := stateBytes * b.states + b.listBytes

abbrev BuildM := StateT Builder (Except Unit)

def checkLimit : BuildM Unit := do
  if (← get).memory > footprintLimit then throw ()

/-- Adds a state, choosing or not, with the bytes its list holds; gives its number. -/
def addState (choosing : Bool) (listBytes : Nat) : BuildM Nat := do
  let b ← get
  set { b with
    states := b.states + 1
    listBytes := b.listBytes + listBytes
    choosing := b.choosing.push choosing }
  checkLimit
  return b.states

/-- Points a state at another: a choosing state gains a choice. -/
def patch (source : Nat) : BuildM Unit := do
  if (← get).choosing.getD source false then
    modify fun b => { b with listBytes := b.listBytes + 4 }
    checkLimit

def newStamp : BuildM Unit := modify fun b => { b with stamp := b.stamp + 1 }

/-- A compiled part: the state it starts at and the state it leaves from. -/
structure Fragment where
  start : Nat
  exit : Nat
  deriving Inhabited

def emptyFragment : BuildM Fragment := do
  let s ← addState false 0
  return ⟨s, s⟩

def rangesFragment (ranges : Nat) : BuildM Fragment := do
  let exit ← addState false 0
  let start ← addState false (8 * ranges)
  return ⟨start, exit⟩

def chain (parts : List (BuildM Fragment)) : BuildM Fragment :=
  match parts with
  | [] => emptyFragment
  | first :: rest => do
    let f ← first
    let exit ← rest.foldlM (fun exit part => do
      let g ← part
      patch exit
      return g.exit) f.exit
    return ⟨f.start, exit⟩

/-- The same part `n` times one after another. -/
def exactly (part : BuildM Fragment) (n : Nat) : BuildM Fragment :=
  match n with
  | 0 => emptyFragment
  | n + 1 => do
    let f ← part
    let mut exit := f.exit
    for _ in [0:n] do
      let g ← part
      patch exit
      exit := g.exit
    return ⟨f.start, exit⟩

/-! ## Classes -/

/-- A node of the forward trie being built: its finished transitions and the range of
the one still open. -/
structure OpenNode where
  trans : List Transition := []
  last : Option (Nat × Nat) := none
  deriving Inhabited

/-- The transitions of a node with its open one closed towards `next`. -/
def OpenNode.close (n : OpenNode) (next : Nat) : List Transition :=
  match n.last with
  | some (s, e) => n.trans ++ [(s, e, next)]
  | none => n.trans

/-- The state of a finished node: one built for an equal node when the table still finds
it, a new one otherwise. -/
def nodeState (trans : List Transition) : BuildM Nat := do
  let b ← get
  let slot := nodeSlot trans
  match b.nodes[slot]? with
  | some (stamp, key, id) =>
    if stamp == b.stamp && key == trans then return id
    else storeNode slot
  | none => storeNode slot
where
  /-- Builds the node's state and records it in its slot. -/
  storeNode (slot : Nat) : BuildM Nat := do
    let id ← addState false (8 * trans.length)
    modify fun b => { b with nodes := b.nodes.set! slot (b.stamp, trans, id) }
    return id

/-- Finishes the open nodes above depth `depth`, deepest first, each closed towards the
one below, and closes the node at `depth` towards the last finished one. -/
def finishFrom (target : Nat) (stack : Array OpenNode) (depth : Nat) :
    BuildM (Array OpenNode) := do
  let mut next := target
  let mut st := stack
  for _ in [0:stack.size - (depth + 1)] do
    let n := st.back!
    st := st.pop
    next ← nodeState (n.close next)
    pure ()
  let top := st.size - 1
  return st.modify top fun n => { trans := n.close next, last := none }

def sharedDepth (stack : Array OpenNode) : List (Nat × Nat) → Nat → Nat
  | [], i => i
  | r :: rs, i =>
    match stack[i]? with
    | some n => if n.last == some r then sharedDepth stack rs (i + 1) else i
    | none => i

def openSuffix (stack : Array OpenNode) : List (Nat × Nat) → Array OpenNode
  | [] => stack
  | r :: rs =>
    let top := stack.size - 1
    let stack := stack.modify top fun n => { n with last := some r }
    rs.foldl (fun st q => st.push { last := some q }) stack

def forwardClass (seqs : List (List (Nat × Nat))) : BuildM Fragment := do
  let target ← addState false 0
  newStamp
  let mut stack : Array OpenNode := #[{}]
  for seq in seqs do
    let depth := sharedDepth stack seq 0
    stack ← finishFrom target stack depth
    stack := openSuffix stack (seq.drop depth)
  stack ← finishFrom target stack 0
  let start ← nodeState (stack.getD 0 {}).trans
  return ⟨start, target⟩

/-- The state of one byte range leading to `next` in a backward class: one built for the
same range and next state when the table still finds it, a new one otherwise. -/
def suffixState (next s e : Nat) : BuildM Nat := do
  let b ← get
  let slot := suffixSlot next s e
  match b.suffixes[slot]? with
  | some (stamp, key, id) =>
    if stamp == b.stamp && key == (next, s, e) then return id
    else storeSuffix slot
  | none => storeSuffix slot
where
  /-- Builds the state and records it in its slot. -/
  storeSuffix (slot : Nat) : BuildM Nat := do
    let id ← addState false 0
    modify fun b => { b with suffixes := b.suffixes.set! slot (b.stamp, (next, s, e), id) }
    return id

def backwardClass (seqs : List (List (Nat × Nat))) : BuildM Fragment := do
  newStamp
  let union ← addState true 0
  let exit ← addState false 0
  for seq in seqs do
    let mut next := exit
    for (s, e) in seq do
      next ← suffixState next s e
    patch union
  return ⟨union, exit⟩

/-- A class, read in one direction. Its byte-range sequences are worked out once, however
often the class is written out. -/
def classFragment (backward : Bool) (rs : List (Nat × Nat)) : BuildM Fragment :=
  if rs.all (·.2 ≤ 0x7F) then rangesFragment rs.length
  else
    let seqs := rs.flatMap fun (lo, hi) => utf8Sequences lo hi
    if backward then backwardClass seqs else forwardClass seqs

/-! ## Alternatives of literals -/

/-- A node of the trie of literals: the transitions recorded in finished chunks (a chunk
ends where one of the literals ends), and those after the last such end. -/
structure TrieNode where
  chunks : List (List (Nat × Nat)) := []
  active : List (Nat × Nat) := []
  deriving Inhabited

/-- Whether a trie node has no transitions. -/
def TrieNode.isLeaf (n : TrieNode) : Bool := n.chunks.all (·.isEmpty) && n.active.isEmpty

def insertByByte (t : Nat × Nat) : List (Nat × Nat) → List (Nat × Nat)
  | [] => [t]
  | u :: us => if t.1 < u.1 then t :: u :: us else u :: insertByByte t us

/-- Adds one literal to a trie from node `at`, one byte at a time. -/
def trieAdd (nodes : Array TrieNode) (at_ : Nat) : List Nat → Array TrieNode
  | [] =>
    let n := nodes.getD at_ {}
    if n.isLeaf && !n.chunks.isEmpty then nodes
    else nodes.set! at_ { chunks := n.chunks ++ [n.active], active := [] }
  | b :: bs =>
    let n := nodes.getD at_ {}
    match n.active.find? (·.1 == b) with
    | some (_, next) => trieAdd nodes next bs
    | none =>
      let next := nodes.size
      let nodes := (nodes.set! at_ { n with active := insertByByte (b, next) n.active }).push {}
      trieAdd nodes next bs

/-- The chunks of a trie node in order, the open one last when it has transitions; a
node always has at least one. -/
def TrieNode.allChunks (n : TrieNode) : List (List (Nat × Nat)) :=
  let cs := n.chunks ++ (if n.active.isEmpty then [] else [n.active])
  if cs.isEmpty then [[]] else cs

/-- Compiles the trie below node `at`: its children first, then a state per chunk, then
the node's choosing state, which it gives. The fuel bounds the depth. -/
def trieFragment (nodes : Array TrieNode) (exit : Nat) : Nat → Nat → BuildM Nat
  | 0, _ => addState true 0
  | fuel + 1, at_ => do
    let n := nodes.getD at_ {}
    let mut choices := 0
    let mut first := true
    for chunk in n.allChunks do
      if !first then choices := choices + 1
      first := false
      let mut transitions := 0
      for (_, next) in chunk do
        if !(nodes.getD next {}).isLeaf then
          let _ ← trieFragment nodes exit fuel next
        transitions := transitions + 1
      if transitions == 1 then
        let _ ← addState false 0
        choices := choices + 1
      else if transitions > 1 then
        let _ ← addState false (8 * transitions)
        choices := choices + 1
    addState true (4 * choices)

/-- Alternatives that are all literals, as a trie of their bytes (backwards, of their
reversed bytes). -/
def literalTrie (backward : Bool) (literals : List (List Nat)) : BuildM Fragment := do
  let nodes := literals.foldl (fun ns bs => trieAdd ns 0 (if backward then bs.reverse else bs))
    #[{}]
  let exit ← addState false 0
  let start ← trieFragment nodes exit (nodes.size + 1) 0
  return ⟨start, exit⟩

/-! ## Patterns -/

def alternatives (parts : List (BuildM Fragment)) : BuildM Fragment :=
  match parts with
  | [] => do
    let s ← addState false 0
    return ⟨s, s⟩
  | [p] => p
  | p :: q :: rest => do
    let first ← p
    let second ← q
    let union ← addState true 0
    let exit ← addState false 0
    patch union
    patch first.exit
    patch union
    patch second.exit
    for r in rest do
      let f ← r
      patch union
      patch f.exit
    return ⟨union, exit⟩

/-- A repetition of a compiled part whose matches span at least `minLen` bytes. -/
def repetition (part : BuildM Fragment) (minLen : Option Nat) (lo : Nat) (hi : Option Nat) :
    BuildM Fragment :=
  match lo, hi with
  | 0, some 1 => do
    let union ← addState true 0
    let f ← part
    let exit ← addState false 0
    patch union
    patch union
    patch f.exit
    return ⟨union, exit⟩
  | 0, none =>
    if minLen.any (· > 0) then do
      let union ← addState true 0
      let f ← part
      patch union
      patch f.exit
      return ⟨union, union⟩
    else do
      let f ← part
      let plus ← addState true 0
      patch f.exit
      patch plus
      let question ← addState true 0
      let exit ← addState false 0
      patch question
      patch question
      patch plus
      return ⟨question, exit⟩
  | 1, none => do
    let f ← part
    let union ← addState true 0
    patch f.exit
    patch union
    return ⟨f.start, union⟩
  | n + 2, none => do
    let pre ← exactly part (n + 1)
    let last ← part
    let union ← addState true 0
    patch pre.exit
    patch last.exit
    patch union
    return ⟨pre.start, union⟩
  | lo, some h =>
    if lo == h then exactly part lo
    else do
      let pre ← exactly part lo
      let exit ← addState false 0
      let mut prev := pre.exit
      for _ in [lo:h] do
        let union ← addState true 0
        let f ← part
        patch prev
        patch union
        patch union
        prev := f.exit
      patch prev
      return ⟨pre.start, exit⟩

/-- The literals of alternatives that are all literals, when there are at least two. -/
def allLiterals? (parts : List Reduced) : Option (List (List Nat)) :=
  if parts.length < 2 then none
  else parts.mapM fun (p : Reduced) => match p with
    | .bytes bs => some bs
    | _ => none

mutual
/-- Compiles a reduced pattern, backwards or forwards, with or without the states of
capturing groups. -/
def compileReduced (backward captures : Bool) : Reduced → BuildM Fragment
  | .empty => emptyFragment
  | .bytes bs => chain ((if backward then bs.reverse else bs).map fun _ => emptyFragment)
  | .cls rs => classFragment backward rs
  | .look _ => emptyFragment
  | .rep r lo hi => repetition (compileReduced backward captures r) r.minLen lo hi
  | .capture r =>
    if captures then do
      let open_ ← addState false 0
      let f ← compileReduced backward captures r
      let close ← addState false 0
      patch open_
      patch f.exit
      return ⟨open_, close⟩
    else compileReduced backward captures r
  | .cat parts =>
    let compiled := compileEach backward captures parts
    chain (if backward then compiled.reverse else compiled)
  | .alt parts =>
    match allLiterals? parts with
    | some literals => literalTrie backward literals
    | none => alternatives (compileEach backward captures parts)

def compileEach (backward captures : Bool) : List Reduced → List (BuildM Fragment)
  | [] => []
  | p :: ps => compileReduced backward captures p :: compileEach backward captures ps
end

def buildAutomaton (backward : Bool) (r : Reduced) : BuildM Unit := do
  let anchored := if backward then r.anchoredEnd else r.anchoredStart
  let front ← if anchored then emptyFragment
    else repetition (rangesFragment 1) (some 1) 0 none
  let body ← compileReduced backward (!backward) (if backward then r else .capture r)
  let _ ← addState false 0
  patch body.exit
  patch front.exit

/-- Whether the automaton of a reduced pattern in one direction stays within the
limit. -/
def automatonFits (backward : Bool) (r : Reduced) : Bool :=
  match (buildAutomaton backward r).run {} with
  | .ok _ => true
  | .error _ => false

def Reduced.fits (r : Reduced) : Bool := automatonFits false r && automatonFits true r

/-! ## Patterns that backtrack -/

/-- What the compiler of the backtracking machine needs to know of a node: whether it
needs backtracking, whether all its matches have one width, and the fewest characters
it matches. -/
structure Traits where
  hard : Bool
  fixedWidth : Bool
  minWidth : Nat
  deriving Inhabited

/-- The traits of alternatives: all of one width only when each has the width of those
before it. -/
def alternativeTraits (ts : List Traits) : Traits :=
  match ts with
  | [] => ⟨false, true, 0⟩
  | t :: rest => rest.foldl (fun acc u =>
      ⟨acc.hard || u.hard, acc.fixedWidth && u.fixedWidth && acc.minWidth == u.minWidth,
        min acc.minWidth u.minWidth⟩) t

/-- The traits of a node, with the traits of its alternatives (its own, when it is no
alternation). A group without index is looked through. -/
def Node.traitsWith : Node → Traits × List Traits
  | .alt a b =>
    let ts := a.traitsWith.2 ++ b.traitsWith.2
    let t := alternativeTraits ts
    (t, ts)
  | .empty | .assert _ => (⟨false, true, 0⟩, [⟨false, true, 0⟩])
  | .chars _ _ => (⟨false, true, 1⟩, [⟨false, true, 1⟩])
  | .cat a b =>
    let x := a.traitsWith.1
    let y := b.traitsWith.1
    let t : Traits := ⟨x.hard || y.hard, x.fixedWidth && y.fixedWidth, x.minWidth + y.minWidth⟩
    (t, [t])
  | .repeat r lo hi _ =>
    let x := r.traitsWith.1
    let t : Traits := ⟨x.hard, x.fixedWidth && hi == some lo, x.minWidth * lo⟩
    (t, [t])
  | .group _ r => let t := r.traitsWith.1; (t, [t])
  | .look _ _ _ => (⟨true, true, 0⟩, [⟨true, true, 0⟩])
  | .backref _ _ => (⟨true, false, 0⟩, [⟨true, false, 0⟩])
  | .atomic r =>
    let x := r.traitsWith.1
    let t : Traits := ⟨true, x.fixedWidth, x.minWidth⟩
    (t, [t])

def Node.traits (n : Node) : Traits := n.traitsWith.1

/-- Whether a node is a literal the machine matches itself: characters without regard
to case dropped. -/
def Node.isLiteral : Node → Bool
  | .chars (.single _) false => true
  | .cat a b => a.isLiteral && b.isLiteral
  | .group none r => r.isLiteral
  | _ => false

/-- One automaton for parts in sequence, unless they are all literals. -/
def delegated (parts : List Node) : List (List Node) :=
  if parts.isEmpty || parts.all Node.isLiteral then [] else [parts]

/-- The parts of a node that the machine's compiler hands to automata, each a sequence
of nodes; `hard` when the node sits inside a part already being split. -/
def segmentsOf : Nat → Bool → Node → List (List Node)
  | 0, _, _ => []
  | fuel + 1, hard, n =>
    if !hard && !n.traits.hard then delegated [n]
    else match n with
      | .empty | .backref _ _ => []
      | .chars (.single _) false => []
      | .chars _ _ | .assert _ => [[n]]
      | .cat _ _ =>
        let parts := n.seqParts
        let front := (parts.takeWhile fun p => p.traits.fixedWidth && !p.traits.hard).length
        let rest := parts.drop front
        let backLen := (rest.reverse.takeWhile fun p =>
          !p.traits.hard && (!hard || p.traits.fixedWidth)).length
        let middle := rest.take (rest.length - backLen)
        delegated (parts.take front) ++ middle.flatMap (segmentsOf fuel true) ++
          delegated (rest.drop (rest.length - backLen))
      | .alt _ _ => n.branches.flatMap (segmentsOf fuel hard)
      | .group _ r => segmentsOf fuel hard r
      | .repeat r lo hi _ =>
        if lo == 0 && hi == some 1 then segmentsOf fuel hard r else segmentsOf fuel true r
      | .look _ _ r | .atomic r => segmentsOf fuel false r

def largestCount : Nat := Nat.pow 2 32 - 1

/-- Whether every repetition count of a node can be written in an automaton's pattern. -/
def Node.countsFit : Node → Bool
  | .cat a b | .alt a b => a.countsFit && b.countsFit
  | .repeat r lo hi _ => lo ≤ largestCount && hi.all (· ≤ largestCount) && r.countsFit
  | .group _ r | .look _ _ r | .atomic r => r.countsFit
  | _ => true

/-- Whether the automata of a regular pattern, or of the regular parts of one that
backtracks, stay within the limit. -/
def Parsed.fitsAutomata (p : Parsed) : Bool :=
  if p.node.needsBacktracking then
    (segmentsOf (p.node.size + 1) true p.node).all fun parts =>
      parts.all Node.countsFit && (Reduced.mkCat (parts.map (·.reduce p.dialect))).fits
  else p.node.countsFit && (p.node.reduce p.dialect).fits

end CapsuleFlow.Regex
