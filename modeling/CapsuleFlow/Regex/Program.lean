import CapsuleFlow.Regex.Parse

/-!
# Regular expressions: programs

A pattern is compiled to a program of a small matching machine. A program reads the
text one character at a time; `split` offers two ways on, the first preferred; `save`
records the current position in a slot (the slots `2i` and `2i + 1` hold where group
`i` starts and ends). The remaining instructions serve look-around, back-references,
atomic groups and loops, and only the backtracking machine runs them.

Every program starts with a lazy loop over any character, so a match may start
anywhere: running the program from the start of the text searches the whole text.
-/

namespace CapsuleFlow.Regex

/-- An instruction of a matching machine. -/
inductive Instr where
  /-- Reads one character of a set. -/
  | consume (s : CharSet) (caseless : Bool)
  /-- Goes on at `first`, and failing that at `second`. -/
  | split (first second : Nat)
  | jump (target : Nat)
  | check (a : Assertion)
  /-- Records the current position in a slot. -/
  | save (slot : Nat)
  /-- Fails unless the position moved since the slot was saved: a round of a loop must
  read something. -/
  | progress (slot : Nat)
  /-- Reads again the text a group matched. -/
  | backref (group : Nat) (caseless : Bool)
  /-- Moves back to the position a slot holds. -/
  | restore (slot : Nat)
  /-- Moves back a number of characters; fails before the start of the text. -/
  | back (n : Nat)
  /-- Starts a negated look-around: when its body fails, matching goes on at `after`. -/
  | guard (after : Nat)
  /-- Ends the body of a negated look-around: the body matched, so the look-around fails. -/
  | reject
  | atomicStart
  /-- Ends an atomic group: the other ways through it are forgotten. -/
  | atomicEnd
  | accept
  deriving Repr, Inhabited

/-- Code for a loop over a body placed at `pc`: `split`, `save`, the body, `progress`,
`jump` back, with the slot `slot` for the loop's start position. -/
def loopCode (body : Nat → Nat → Array Instr × Nat) (pc slot : Nat) (greedy : Bool) :
    Array Instr × Nat :=
  let (b, next) := body (pc + 2) (slot + 1)
  let exit := pc + 2 + b.size + 2
  let enter := if greedy then Instr.split (pc + 1) exit else .split exit (pc + 1)
  (#[enter, .save slot] ++ b ++ #[.progress slot, .jump pc], next)

/-- The number of instructions `emit` gives a node: it does not depend on where the code
is placed. -/
def Node.codeSize : Node → Nat
  | .empty => 0
  | .chars _ _ | .assert _ | .backref _ _ => 1
  | .cat a b => a.codeSize + b.codeSize
  | .alt a b => a.codeSize + b.codeSize + 2
  | .repeat r lo hi _ =>
    lo * r.codeSize + match hi with
      | none => r.codeSize + 4
      | some h => (h - lo) * (r.codeSize + 1)
  | .group (some _) r | .atomic r => r.codeSize + 2
  | .group none r => r.codeSize
  | .look behind _ r => r.codeSize + 2 + (if behind then 1 else 0)

/-- Appends `n` copies of a body's code to `acc`, the first placed at `pc`. -/
def copies (body : Nat → Nat → Array Instr × Nat) :
    Nat → Array Instr → Nat → Nat → Array Instr × Nat
  | 0, acc, _, slot => (acc, slot)
  | n + 1, acc, pc, slot =>
    let (b, slot) := body pc slot
    copies body n (acc ++ b) (pc + b.size) slot

/-- Appends `n` optional copies of a body's code to `acc`, the first placed at `pc`: each
copy is entered by a `split` whose other way is `exit`, after the last copy, so a copy is
tried only after the one before it matched. -/
def optionalCopies (body : Nat → Nat → Array Instr × Nat) (greedy : Bool) (exit : Nat) :
    Nat → Array Instr → Nat → Nat → Array Instr × Nat
  | 0, acc, _, slot => (acc, slot)
  | n + 1, acc, pc, slot =>
    let enter := if greedy then Instr.split (pc + 1) exit else .split exit (pc + 1)
    let (b, slot) := body (pc + 1) slot
    optionalCopies body greedy exit n ((acc.push enter) ++ b) (pc + 1 + b.size) slot

/-- Code for `lo` copies of a body of `size` instructions, then `hi - lo` optional ones,
or a loop when there is no upper bound. -/
def repeatCode (body : Nat → Nat → Array Instr × Nat) (size : Nat) (greedy : Bool)
    (hi : Option Nat) (lo pc slot : Nat) : Array Instr × Nat :=
  let (fixed, slot) := copies body lo #[] pc slot
  let pc := pc + fixed.size
  match hi with
  | none =>
    let (loop, slot) := loopCode body pc slot greedy
    (fixed ++ loop, slot)
  | some h =>
    let n := h - lo
    optionalCopies body greedy (pc + n * (size + 1)) n fixed pc slot

/-- The code of a node placed at `pc`, with the free slots starting at `slot`; gives
the code and the next free slot. -/
def emit (pc slot : Nat) : Node → Array Instr × Nat
  | .empty => (#[], slot)
  | .chars s c => (#[.consume s c], slot)
  | .assert a => (#[.check a], slot)
  | .cat a b =>
    let (x, slot) := emit pc slot a
    let (y, slot) := emit (pc + x.size) slot b
    (x ++ y, slot)
  | .alt a b =>
    let (x, slot) := emit (pc + 1) slot a
    let (y, slot) := emit (pc + 2 + x.size) slot b
    (#[.split (pc + 1) (pc + 2 + x.size)] ++ x ++ #[.jump (pc + 2 + x.size + y.size)] ++ y, slot)
  | .repeat r lo hi greedy => repeatCode (fun p s => emit p s r) r.codeSize greedy hi lo pc slot
  | .group (some i) r =>
    let (x, slot) := emit (pc + 1) slot r
    (#[.save (2 * i)] ++ x ++ #[.save (2 * i + 1)], slot)
  | .group none r => emit pc slot r
  | .look behind false r =>
    let steps := if behind then #[.back (r.width.getD 0)] else #[]
    let (x, next) := emit (pc + 1 + steps.size) (slot + 1) r
    (#[.save slot] ++ steps ++ x ++ #[.restore slot], next)
  | .look behind true r =>
    let steps := if behind then #[.back (r.width.getD 0)] else #[]
    let (x, next) := emit (pc + 1 + steps.size) slot r
    let after := pc + 1 + steps.size + x.size + 1
    (#[.guard after] ++ steps ++ x ++ #[.reject], next)
  | .backref i c => (#[.backref i c], slot)
  | .atomic r =>
    let (x, slot) := emit (pc + 1) slot r
    (#[.atomicStart] ++ x ++ #[.atomicEnd], slot)

/-- A compiled pattern. -/
structure Program where
  code : Array Instr
  /-- The number of slots the program uses. -/
  slots : Nat
  dialect : Dialect
  /-- Whether the program needs the backtracking machine. -/
  backtracking : Bool
  deriving Inhabited

def searchLength : Nat := 3

/-- The program of a pattern read: the searching loop (a lazy loop over any character),
the pattern's code, then `accept`. -/
def Program.ofParsed (p : Parsed) : Program :=
  let (code, slots) := emit searchLength (2 * (p.groups + 1)) p.node
  let search : Array Instr := #[.split searchLength 1, .consume (.complement .empty) false, .jump 0]
  { code := search ++ code ++ #[.accept], slots, dialect := p.dialect,
    backtracking := p.node.needsBacktracking }

end CapsuleFlow.Regex
