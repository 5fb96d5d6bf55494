import CapsuleFlow.Text.CombiningClassData
import CapsuleFlow.Text.DecompositionData

/-!
# Canonical composition (Normalization Form C)

`nfc` decomposes every character fully (Hangul syllables by arithmetic, the rest by the
table), puts each run of combining marks in the order of their combining classes
(a stable sort, so marks of equal class keep their order), and composes again: a mark
joins the last starter when a primary composite exists and no mark of equal or higher
class stands between them; two starters join only when adjacent. Text whose characters
all lie below U+0300 is its own normal form and is returned unchanged.
-/

namespace CapsuleFlow.Text

def hexDigitValue (c : Char) : Nat :=
  if c.isDigit then c.toNat - 48
  else if 'A' ≤ c && c ≤ 'F' then c.toNat - 55
  else if 'a' ≤ c && c ≤ 'f' then c.toNat - 87
  else 0

def hexNat (s : String) : Nat := s.foldl (fun n c => n * 16 + hexDigitValue c) 0

/-- The combining-class ranges as `(first, last, class)`. -/
def classRanges : Array (Nat × Nat × Nat) :=
  ((combiningClassRanges.splitOn ";").map fun e =>
    match e.splitOn ":" with
    | [r, k] => match r.splitOn "-" with
      | [a, b] => (hexNat a, hexNat b, hexNat k)
      | _ => (0, 0, 0)
    | _ => (0, 0, 0)).toArray

/-- The decomposition table as `(char, decomposition)`. -/
def decompositions : Array (Nat × List Nat) := decompositionTable.toArray

/-- The composition table as `(first * 2^21 + second, composite)`. -/
def composites : Array (Nat × Nat) :=
  (compositeTable.map fun e => (e.1 * Nat.pow 2 21 + e.2.1, e.2.2)).toArray

/-- The last index `i` in `[lo, hi)` with `key arr[i] ≤ k`, if any; `arr` sorted by `key`. -/
def lastAtMost {α : Type} [Inhabited α] (arr : Array α) (key : α → Nat) (k : Nat) : Option α :=
  go 0 arr.size (Nat.log2 arr.size + 2) none
where
  /-- Bisection on `[lo, hi)`, remembering the best index so far. -/
  go (lo hi : Nat) (fuel : Nat) (best : Option α) : Option α :=
    match fuel with
    | 0 => best
    | fuel + 1 =>
      if lo < hi then
        let mid := (lo + hi) / 2
        let x := arr[mid]!
        if key x ≤ k then go (mid + 1) hi fuel (some x) else go lo mid fuel best
      else best

def combiningClass (c : Char) : Nat :=
  if c.toNat < 0x300 then 0
  else match lastAtMost classRanges (·.1) c.toNat with
    | some (_, hi, k) => if c.toNat ≤ hi then k else 0
    | none => 0

def hangulBase : Nat := 0xAC00
def leadBase : Nat := 0x1100
def vowelBase : Nat := 0x1161
def trailBase : Nat := 0x11A7
def vowelCount : Nat := 21
def trailCount : Nat := 28
def syllableCount : Nat := 11172

def decomposeChar (c : Char) : List Char :=
  let n := c.toNat
  if hangulBase ≤ n && n < hangulBase + syllableCount then
    let s := n - hangulBase
    let l := leadBase + s / (vowelCount * trailCount)
    let v := vowelBase + s % (vowelCount * trailCount) / trailCount
    let t := trailBase + s % trailCount
    if t == trailBase then [Char.ofNat l, Char.ofNat v] else [Char.ofNat l, Char.ofNat v, Char.ofNat t]
  else if n < 0xC0 then [c]
  else match lastAtMost decompositions (·.1) n with
    | some (k, d) => if k == n then d.map Char.ofNat else [c]
    | none => [c]

def composePair? (a b : Char) : Option Char :=
  let x := a.toNat
  let y := b.toNat
  if leadBase ≤ x && x < leadBase + 19 && vowelBase ≤ y && y < vowelBase + vowelCount then
    some (Char.ofNat (hangulBase + ((x - leadBase) * vowelCount + (y - vowelBase)) * trailCount))
  else if hangulBase ≤ x && x < hangulBase + syllableCount && (x - hangulBase) % trailCount == 0
      && trailBase < y && y < trailBase + trailCount then
    some (Char.ofNat (x + (y - trailBase)))
  else
    let k := x * Nat.pow 2 21 + y
    match lastAtMost composites (·.1) k with
    | some (k', c) => if k' == k then some (Char.ofNat c) else none
    | none => none

def reorder (cs : List Char) : List Char :=
  let (done, run) := cs.foldl (fun (done, run) c =>
    if combiningClass c == 0 then (c :: flush run ++ done, [])
    else (done, c :: run)) ([], [])
  (flush run ++ done).reverse
where
  /-- A run gathered in reverse, sorted and returned in reverse for prepending. -/
  flush (run : List Char) : List Char :=
    (run.reverse.mergeSort fun a b => combiningClass a ≤ combiningClass b).reverse

/-- The state of canonical composition: emitted characters (reversed), the starter
that may still absorb marks, the marks held after it (reversed), and the class of the
last held mark. -/
structure Composer where
  out : List Char := []
  starter : Option Char := none
  held : List Char := []
  lastClass : Option Nat := none

def Composer.push (st : Composer) (c : Char) : Composer :=
  let k := combiningClass c
  match st.starter with
  | none => if k != 0 then { st with out := c :: st.out } else { st with starter := some c }
  | some s =>
    match st.lastClass with
    | none =>
      match composePair? s c with
      | some r => { st with starter := some r }
      | none =>
        if k == 0 then { st with out := s :: st.out, starter := some c }
        else { st with held := c :: st.held, lastClass := some k }
    | some l =>
      if l ≥ k then
        if k == 0 then
          { out := st.held ++ s :: st.out, starter := some c, held := [], lastClass := none }
        else { st with held := c :: st.held, lastClass := some k }
      else
        match composePair? s c with
        | some r => { st with starter := some r }
        | none => { st with held := c :: st.held, lastClass := some k }

def Composer.finish (st : Composer) : List Char :=
  (st.held ++ (match st.starter with | some s => [s] | none => []) ++ st.out).reverse

def compose (cs : List Char) : List Char :=
  (cs.foldl Composer.push {}).finish

def nfc (s : String) : String :=
  if s.all (fun c : Char => c.toNat < 0x300) then s
  else String.ofList (compose (reorder (s.toList.flatMap decomposeChar)))

end CapsuleFlow.Text
