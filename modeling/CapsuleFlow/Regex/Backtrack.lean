import CapsuleFlow.Regex.Program

/-!
# Regular expressions: running by backtracking

A program with back-references, look-around or atomic groups is run by a backtracking
machine. The machine follows one way at a time and keeps a stack of what to do when
that way fails: alternatives to try (`branch`), slot values to put back (`undo`),
negated look-arounds waiting for their body to fail (`guard`), and the starts of
atomic groups (`atomic`).

A failure pops the stack down to the next alternative, putting slots back on the way;
reaching a `guard` means the negated body failed, so matching goes on after the
look-around. When the body of a negated look-around matches, the stack is popped down
to and with its `guard`, and the machine fails from there. The end of an atomic group
drops the alternatives pushed since its start.

Every popped alternative counts against a budget of backtracking steps. A run that
exhausts the budget, or the fuel of machine steps, finds no match.
-/

namespace CapsuleFlow.Regex

/-- What to do when the current way fails. -/
inductive Entry where
  | branch (pc pos : Nat)
  | undo (slot : Nat) (old : Option Nat)
  | guard (after pos : Nat)
  | atomic
  deriving Repr, Inhabited

/-- The state of the machine: the next instruction, the position in the text, the
slots, the stack, and the backtracking steps left. -/
structure Machine where
  pc : Nat
  pos : Nat
  slots : Array (Option Nat)
  stack : List Entry
  budget : Nat
  deriving Inhabited

def backtrackLimit : Nat := 1000000

/-- Pops the stack to the next way on, putting slots back; nothing when none is left. -/
def Machine.fail (m : Machine) : Option Machine :=
  go m.slots m.stack
where
  /-- Popping with the slots put back so far. -/
  go (slots : Array (Option Nat)) : List Entry → Option Machine
    | [] => none
    | .branch pc pos :: rest =>
      if m.budget == 0 then none
      else some { pc, pos, slots, stack := rest, budget := m.budget - 1 }
    | .guard after pos :: rest => some { m with pc := after, pos, slots, stack := rest }
    | .undo slot old :: rest => go (slots.setIfInBounds slot old) rest
    | .atomic :: rest => go slots rest

/-- Pops the stack down to and with the innermost `guard`, putting slots back. -/
def dropToGuard (slots : Array (Option Nat)) : List Entry → Array (Option Nat) × List Entry
  | [] => (slots, [])
  | .guard _ _ :: rest => (slots, rest)
  | .undo slot old :: rest => dropToGuard (slots.setIfInBounds slot old) rest
  | _ :: rest => dropToGuard slots rest

/-- Drops the alternatives pushed since the innermost atomic start, and that start;
slot values to put back are kept. -/
def cutAtomic : List Entry → List Entry
  | [] => []
  | .atomic :: rest => rest
  | .undo slot old :: rest => .undo slot old :: cutAtomic rest
  | _ :: rest => cutAtomic rest

/-- Whether the text from `dst` reads `len` characters equal to those from `src`,
without regard to case when asked. -/
def sameText (text : Array Char) (caseless : Bool) (src dst : Nat) : Nat → Bool
  | 0 => true
  | n + 1 =>
    match text[src]?, text[dst]? with
    | some a, some b =>
      (a == b || (caseless && Text.simpleFold a == Text.simpleFold b)) &&
        sameText text caseless (src + 1) (dst + 1) n
    | _, _ => false

def charBefore (text : Array Char) (pos : Nat) : Option Char :=
  if pos == 0 then none else text[pos - 1]?

/-- Runs the machine until it accepts (true), or has no way on or runs out of fuel
(false). Every step ends in one call for the next state: a failed step passes the
state its stack resumes, if any. -/
def runMachine (prog : Program) (text : Array Char) : Nat → Option Machine → Bool
  | 0, _ => false
  | _ + 1, none => false
  | fuel + 1, some m =>
    match prog.code[m.pc]? with
    | none => false
    | some .accept => true
    | some (.consume s caseless) =>
      match text[m.pos]? with
      | some c =>
        if s.accepts prog.dialect caseless c then
          runMachine prog text fuel (some { m with pc := m.pc + 1, pos := m.pos + 1 })
        else runMachine prog text fuel m.fail
      | none => runMachine prog text fuel m.fail
    | some (.split x y) =>
      runMachine prog text fuel (some { m with pc := x, stack := .branch y m.pos :: m.stack })
    | some (.jump x) => runMachine prog text fuel (some { m with pc := x })
    | some (.check a) =>
      if a.holds (charBefore text m.pos) text[m.pos]? then
        runMachine prog text fuel (some { m with pc := m.pc + 1 })
      else runMachine prog text fuel m.fail
    | some (.save slot) =>
      let slots := m.slots.setIfInBounds slot (some m.pos)
      let stack := Entry.undo slot (m.slots.getD slot none) :: m.stack
      runMachine prog text fuel (some { m with pc := m.pc + 1, slots, stack })
    | some (.progress slot) =>
      if m.slots.getD slot none == some m.pos then runMachine prog text fuel m.fail
      else runMachine prog text fuel (some { m with pc := m.pc + 1 })
    | some (.backref group caseless) =>
      match m.slots.getD (2 * group) none, m.slots.getD (2 * group + 1) none with
      | some a, some b =>
        if a ≤ b && sameText text caseless a m.pos (b - a) then
          runMachine prog text fuel (some { m with pc := m.pc + 1, pos := m.pos + (b - a) })
        else runMachine prog text fuel m.fail
      | _, _ => runMachine prog text fuel m.fail
    | some (.restore slot) =>
      match m.slots.getD slot none with
      | some p => runMachine prog text fuel (some { m with pc := m.pc + 1, pos := p })
      | none => runMachine prog text fuel m.fail
    | some (.back n) =>
      if n ≤ m.pos then runMachine prog text fuel (some { m with pc := m.pc + 1, pos := m.pos - n })
      else runMachine prog text fuel m.fail
    | some (.guard after) =>
      runMachine prog text fuel (some { m with pc := m.pc + 1, stack := .guard after m.pos :: m.stack })
    | some .reject =>
      let (slots, stack) := dropToGuard m.slots m.stack
      runMachine prog text fuel ({ m with slots, stack } : Machine).fail
    | some .atomicStart =>
      runMachine prog text fuel (some { m with pc := m.pc + 1, stack := .atomic :: m.stack })
    | some .atomicEnd =>
      runMachine prog text fuel (some { m with pc := m.pc + 1, stack := cutAtomic m.stack })

def stepLimit : Nat := 50000000

def runBacktracking (prog : Program) (text : Array Char) : Bool :=
  runMachine prog text stepLimit (some
    { pc := 0, pos := 0, slots := Array.replicate prog.slots none, stack := [], budget := backtrackLimit })

end CapsuleFlow.Regex
