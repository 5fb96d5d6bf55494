/-!
# UTF-8 byte ranges

An automaton that reads text byte by byte reads a range of characters as a few sequences
of byte ranges. `utf8Sequences lo hi` cuts the characters `lo..hi` into runs whose
encodings have the same length and share all bytes but a trailing block that runs over
every continuation byte, and gives each run as the ranges of its bytes, first byte
first. The cuts are made in a fixed order (the surrogate gap, then a change of encoded
length, then the smallest block that is not whole), so the sequences come out sorted.
Surrogates are not characters and are left out.
-/

namespace CapsuleFlow.Regex

def utf8Bytes (n : Nat) : List Nat :=
  if n < 0x80 then [n]
  else if n < 0x800 then [0xC0 + n / 64, 0x80 + n % 64]
  else if n < 0x10000 then [0xE0 + n / 4096, 0x80 + n / 64 % 64, 0x80 + n % 64]
  else [0xF0 + n / 262144, 0x80 + n / 4096 % 64, 0x80 + n / 64 % 64, 0x80 + n % 64]

def utf8Length (n : Nat) : Nat :=
  if n < 0x80 then 1 else if n < 0x800 then 2 else if n < 0x10000 then 3 else 4

/-- The code point that UTF-8 bytes encode, when they are the encoding of exactly one. -/
def decodeSingle? (bs : List Nat) : Option Nat :=
  match bs with
  | [a] => if a < 0x80 then some a else none
  | [a, b] => if 0xC0 ≤ a && a < 0xE0 then some ((a - 0xC0) * 64 + (b - 0x80)) else none
  | [a, b, c] =>
    if 0xE0 ≤ a && a < 0xF0 then some ((a - 0xE0) * 4096 + (b - 0x80) * 64 + (c - 0x80))
    else none
  | [a, b, c, d] =>
    if 0xF0 ≤ a then some ((a - 0xF0) * 262144 + (b - 0x80) * 4096 + (c - 0x80) * 64 + (d - 0x80))
    else none
  | _ => none

/-- The largest code point whose encoding takes `k` bytes. -/
def largestOfLength : Nat → Nat
  | 1 => 0x7F
  | 2 => 0x7FF
  | 3 => 0xFFFF
  | _ => 0x10FFFF

/-- Where a run first changes encoded length: the last code point of the shorter
encodings, when the run holds both. -/
def lengthCut? (lo hi : Nat) : Option Nat :=
  [1, 2, 3].findSome? fun k =>
    let m := largestOfLength k
    if lo ≤ m && m < hi then some m else none

/-- The first cut of a run at a block of `64 ^ k` code points: when the run spans two
blocks and does not start on a block, it is cut after its first block; when it does not
end on one, before its last. The two parts, in order. -/
def blockCut? (lo hi : Nat) : Option ((Nat × Nat) × (Nat × Nat)) :=
  [1, 2, 3].findSome? fun k =>
    let size := Nat.pow 2 (6 * k)
    if lo / size != hi / size then
      if lo % size != 0 then some ((lo, lo - lo % size + size - 1), (lo - lo % size + size, hi))
      else if hi % size != size - 1 then some ((lo, hi - hi % size - 1), (hi - hi % size, hi))
      else none
    else none

/-- The cutting loop: the run being cut (if any), the runs still to cut (the last one
set aside first), and the sequences found, newest first. Each step cuts, drops or emits
one run; the fuel bounds the steps. -/
def sequencesLoop : Nat → Option (Nat × Nat) → List (Nat × Nat) → List (List (Nat × Nat)) →
    List (List (Nat × Nat))
  | 0, _, _, acc => acc.reverse
  | _ + 1, none, [], acc => acc.reverse
  | fuel + 1, none, r :: stack, acc => sequencesLoop fuel (some r) stack acc
  | fuel + 1, some (lo, hi), stack, acc =>
    if lo < 0xE000 && hi > 0xD7FF then
      sequencesLoop fuel (some (lo, 0xD7FF)) ((0xE000, hi) :: stack) acc
    else if hi < lo then sequencesLoop fuel none stack acc
    else match lengthCut? lo hi with
      | some m => sequencesLoop fuel (some (lo, m)) ((m + 1, hi) :: stack) acc
      | none =>
        if hi ≤ 0x7F then sequencesLoop fuel none stack ([(lo, hi)] :: acc)
        else match blockCut? lo hi with
          | some (r, rest) => sequencesLoop fuel (some r) (rest :: stack) acc
          | none => sequencesLoop fuel none stack ((utf8Bytes lo).zip (utf8Bytes hi) :: acc)

/-- The byte-range sequences that read the characters `lo..hi`, in order. A range is cut
into a few dozen runs at most, well within the fuel. -/
def utf8Sequences (lo hi : Nat) : List (List (Nat × Nat)) :=
  sequencesLoop 1000 (some (lo, hi)) [] []

end CapsuleFlow.Regex
