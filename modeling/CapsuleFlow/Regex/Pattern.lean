import CapsuleFlow.Regex.Automaton
import CapsuleFlow.Regex.Backtrack
import CapsuleFlow.Regex.Footprint

/-!
# Patterns

A pattern is read (`parse`), compiled to a program, and run over a text: as an
automaton when it is regular, by backtracking when it has back-references,
look-around or atomic groups. A pattern matches a text when it matches anywhere in it.
-/

namespace CapsuleFlow.Regex

/-- A compiled pattern with its source text. -/
structure Pattern where
  source : String
  program : Program
  deriving Inhabited

/-- Compiles a pattern, or gives why it is refused: it does not read, or one of its
automata would take more memory than the limit allows (`Footprint.lean`). -/
def Pattern.compile (source : String) : Except String Pattern := do
  let parsed ← parse source
  if !parsed.fitsAutomata then
    throw "compiled pattern exceeds the size limit"
  return ⟨source, Program.ofParsed parsed⟩

def Pattern.matches (p : Pattern) (text : String) : Bool :=
  if p.program.backtracking then runBacktracking p.program text.toList.toArray
  else runAutomaton p.program text.toList

end CapsuleFlow.Regex
