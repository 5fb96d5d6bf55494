import CapsuleFlow.Numeric.Binary

/-!
# Decimal digits of binary values

Two ways to turn an exact binary value into decimal digits, both in exact natural-number
arithmetic:

* `Decimal.shortest` gives the fewest significant digits that read back as the same
  value of the format, and of two candidates of that length the nearer one;
* `Decimal.fixedScaled` gives the value rounded to a fixed number of places after the
  point, a tie going to the even neighbour.
-/

namespace CapsuleFlow.Decimal

/-- Compare `a · 10^p` with `b · 2^e`. -/
def cmpScaled (a : Nat) (p : Int) (b : Nat) (e : Int) : Ordering :=
  compare (a * Nat.pow 10 p.toNat * Nat.pow 2 (-e).toNat) (b * Nat.pow 2 e.toNat * Nat.pow 10 (-p).toNat)

/-- `⌊x / 10^p⌋` for `x = m · 2^q`. -/
def floorDivPow10 (m : Nat) (q : Int) (p : Int) : Nat :=
  (m * Nat.pow 2 q.toNat * Nat.pow 10 (-p).toNat) / (Nat.pow 2 (-q).toNat * Nat.pow 10 p.toNat)

/-- `⌊log₁₀ (m · 2^q)⌋` for `m > 0`: an estimate from the bit length, then corrected. -/
def floorLog10 (m : Nat) (q : Int) : Int :=
  let b : Int := (Nat.log2 m : Int) + q
  let est := Int.fdiv (b * 78913) 262144
  let up := raise est 4
  lower up 4
where
  /-- Step up while `10^(e+1) ≤ m · 2^q`. -/
  raise (e : Int) : Nat → Int
    | 0 => e
    | n + 1 => if cmpScaled 1 (e + 1) m q != .gt then raise (e + 1) n else e
  /-- Step down while `10^e > m · 2^q`. -/
  lower (e : Int) : Nat → Int
    | 0 => e
    | n + 1 => if cmpScaled 1 e m q == .gt then lower (e - 1) n else e

/-- Drop trailing zero digits of `a · 10^p`, moving them into the exponent. -/
def stripZeros (a : Nat) (p : Int) : Nat × Int :=
  go a p a
where
  /-- Bounded by the value itself. -/
  go (a : Nat) (p : Int) : Nat → Nat × Int
    | 0 => (a, p)
    | n + 1 => if a != 0 && a % 10 == 0 then go (a / 10) (p + 1) n else (a, p)

/-- The fewest significant digits that read back as the positive value `m · 2^q`,
returned as `(digits, p)` with value `digits · 10^p` and no trailing zero in `digits`.

Reading back means lying in the interval of reals that round to `m · 2^q`: half a unit
in the last place to either side, only a quarter unit below when `narrowBelow` (the
significand is a power of two above the least exponent), ends included when `m` is
even. For each length the value's two neighbours on that decimal grid are tried; the
first length with a neighbour inside wins, the nearer neighbour if both are, the even
one on an exact tie. -/
def shortest (m : Nat) (q : Int) (narrowBelow : Bool) : Nat × Int :=
  let e := floorLog10 m q
  let lo := 4 * m - (if narrowBelow then 1 else 2)
  let hi := 4 * m + 2
  let incl := m % 2 == 0
  let inside (a : Nat) (p : Int) : Bool :=
    let cl := cmpScaled a p lo (q - 2)
    let ch := cmpScaled a p hi (q - 2)
    (cl == .gt || (incl && cl == .eq)) && (ch == .lt || (incl && ch == .eq))
  let pick (k : Nat) : Option (Nat × Int) :=
    let p := e - k + 1
    let t := floorDivPow10 m q p
    let belowIn := inside t p
    let aboveIn := inside (t + 1) p
    if belowIn && aboveIn then
      match cmpScaled (2 * t + 1) p m (q + 1) with
      | .gt => some (t, p)
      | .lt => some (t + 1, p)
      | .eq => some (if t % 2 == 0 then t else t + 1, p)
    else if belowIn then some (t, p)
    else if aboveIn then some (t + 1, p)
    else none
  let rec search : Nat → Nat → Nat × Int
    | _, 0 =>
      let p := e - 16
      let t := floorDivPow10 m q p
      match cmpScaled (2 * t + 1) p m (q + 1) with
      | .gt => (t, p)
      | _ => (t + 1, p)
    | k, fuel + 1 =>
      match pick k with
      | some r => r
      | none => search (k + 1) fuel
  let (a, p) := search 1 17
  stripZeros a p

/-- The magnitude of `d` times `10^places`, rounded to a whole number, a tie going to
the even neighbour. -/
def fixedScaled (d : Dyadic) (places : Nat) : Nat :=
  if 0 ≤ d.exp then d.mant * Nat.pow 2 d.exp.toNat * Nat.pow 10 places
  else BinaryFormat.roundHalfEven (d.mant * Nat.pow 10 places) (Nat.pow 2 (-d.exp).toNat)

def shortestOf64 (d : Dyadic) : Nat × Int :=
  let f := BinaryFormat.binary64
  shortest d.mant d.exp (d.mant == Nat.pow 2 f.fractionBits && d.exp > f.leastExp)

end CapsuleFlow.Decimal
