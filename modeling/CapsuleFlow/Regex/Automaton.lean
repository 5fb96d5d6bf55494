import CapsuleFlow.Regex.Program

/-!
# Regular expressions: running as an automaton

A program without back-references, look-around or atomic groups denotes a regular
language and is run as a non-deterministic automaton: the set of live instructions is
kept while the text is read one character at a time, so the time is the length of the
text times the size of the program. Slots and loop checks play no part in whether a
match exists and are passed over.
-/

namespace CapsuleFlow.Regex

/-- The instructions reached from some instructions without reading a character, given
the characters around the current place. Each instruction is visited once: `seen` marks
the visited ones and `visited` lists them, so that the marks can be cleared afterwards;
`live` collects the instructions that read a character or accept. -/
def closure (prog : Program) (before after : Option Char) :
    Nat → List Nat → Array Bool × List Nat × List Nat → Array Bool × List Nat × List Nat
  | 0, _, st => st
  | _ + 1, [], st => st
  | fuel + 1, pc :: todo, (seen, visited, live) =>
    if seen.getD pc true then closure prog before after fuel todo (seen, visited, live)
    else
      let st := (seen.setIfInBounds pc true, pc :: visited, live)
      match prog.code[pc]? with
      | some (.split x y) => closure prog before after fuel (x :: y :: todo) st
      | some (.jump x) => closure prog before after fuel (x :: todo) st
      | some (.check a) =>
        if a.holds before after then closure prog before after fuel ((pc + 1) :: todo) st
        else closure prog before after fuel todo st
      | some (.save _) | some (.progress _) => closure prog before after fuel ((pc + 1) :: todo) st
      | some (.consume _ _) | some .accept =>
        closure prog before after fuel todo (st.1, st.2.1, pc :: st.2.2)
      | _ => closure prog before after fuel todo st

/-- The live instructions at a place, from those entered there; `seen` comes in and goes
out with no mark set. -/
def liveAt (prog : Program) (seen : Array Bool) (before after : Option Char)
    (entered : List Nat) : Array Bool × List Nat :=
  let (seen, visited, live) :=
    closure prog before after (2 * prog.code.size + entered.length + 2) entered (seen, [], [])
  (visited.foldl (fun s pc => s.setIfInBounds pc false) seen, live)

def accepting (prog : Program) (live : List Nat) : Bool :=
  live.any fun (pc : Nat) => match (prog.code[pc]? : Option Instr) with
    | some .accept => true
    | _ => false

def stepOver (prog : Program) (live : List Nat) (c : Char) : List Nat :=
  live.filterMap fun (pc : Nat) => match (prog.code[pc]? : Option Instr) with
    | some (.consume s caseless) => if s.accepts prog.dialect caseless c then some (pc + 1) else none
    | _ => none

/-- Runs the automaton over the rest of a text, from the instructions entered at the
current place; `seen` is the unmarked scratch set of visited instructions. -/
def runAutomatonFrom (prog : Program) (seen : Array Bool) (before : Option Char)
    (entered : List Nat) : List Char → Bool
  | [] => accepting prog (liveAt prog seen before none entered).2
  | c :: cs =>
    let (seen, live) := liveAt prog seen before (some c) entered
    accepting prog live || runAutomatonFrom prog seen (some c) (stepOver prog live c) cs

/-- Runs the automaton over a whole text from its first instruction. -/
def runAutomaton (prog : Program) (text : List Char) : Bool :=
  runAutomatonFrom prog (Array.replicate prog.code.size false) none [0] text

end CapsuleFlow.Regex
