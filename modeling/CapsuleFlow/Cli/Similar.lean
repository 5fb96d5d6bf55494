/-!
# Similar words

A mistyped subcommand, option or value is answered with the candidates that look like
it. Two words look alike when their Jaro similarity is above 0.7.

The Jaro similarity of two words counts the characters they share: a character of the
first matches an unmatched equal character of the second at most `max / 2 - 1` places
away, taken left to right. With `m` matches, of which `t` pairs appear in a different
order (counted as half the mismatched positions between the two matched sequences), the
similarity is `(m / |a| + m / |b| + (m - t) / m) / 3`. It is computed in double
precision, term by term from the left, as the threshold is a double.
-/

namespace CapsuleFlow.Cli

/-- Marks the first unmarked character equal to `c` at a position `j` with
`lo ≤ j < hi`, counting positions from `j`. -/
def markFirst (c : Char) (lo hi : Nat) (j : Nat) : List (Char × Bool) → Option (List (Char × Bool))
  | [] => none
  | (d, marked) :: rest =>
    if hi ≤ j then none
    else if lo ≤ j && d == c && !marked then some ((d, true) :: rest)
    else (markFirst c lo hi (j + 1) rest).map ((d, marked) :: ·)

/-- The matching of two character lists: which characters of the first matched, and the
second with its matched characters marked. -/
def matchChars (window : Nat) (a : List Char) (b : List (Char × Bool)) :
    List Bool × List (Char × Bool) :=
  let step (acc : List Bool × List (Char × Bool)) (ci : Char × Nat) :=
    let (flags, marked) := acc
    let (c, i) := ci
    let lo := i - window
    let hi := min b.length (i + window + 1)
    match markFirst c lo hi 0 marked with
    | some marked' => (flags ++ [true], marked')
    | none => (flags ++ [false], marked)
  a.zipIdx.foldl step ([], b)

/-- The Jaro similarity of two words: 1 for two empty words, 0 when one is empty. -/
def jaro (a b : String) : Float :=
  let xs := a.toList
  let ys := b.toList
  if xs.isEmpty && ys.isEmpty then 1.0
  else if xs.isEmpty || ys.isEmpty then 0.0
  else
    let window := max xs.length ys.length / 2 - 1
    let (flags, marked) := matchChars window xs (ys.map fun c => (c, false))
    let fromA := (xs.zip flags).filterMap fun (c, f) => if f then some c else none
    let fromB := marked.filterMap fun (c, f) => if f then some c else none
    let m := fromA.length
    let t := ((fromA.zip fromB).filter fun (x, y) => x != y).length / 2
    if m == 0 then 0.0
    else
      (Float.ofNat m / Float.ofNat xs.length + Float.ofNat m / Float.ofNat ys.length +
        Float.ofNat (m - t) / Float.ofNat m) / 3.0

/-- The candidates similar to a word, from the least to the most similar; equally
similar ones keep their order. -/
def similarTo (word : String) (candidates : List String) : List String :=
  let scored := candidates.filterMap fun c =>
    let s := jaro word c
    if s > 0.7 then some (s, c) else none
  (scored.mergeSort fun x y => x.1 ≤ y.1).map (·.2)

/-- The candidate most similar to a word, the last of equals. -/
def mostSimilar (word : String) (candidates : List String) : Option String :=
  (similarTo word candidates).getLast?

end CapsuleFlow.Cli
