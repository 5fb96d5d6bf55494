/-!
# Binary floating-point values, exactly

A finite value of an IEEE 754 binary format is `(-1)^s · m · 2^q`. This module reads
that triple off a bit pattern, and rounds an exact non-negative ratio of naturals to the
nearest value of a format, ties to the even significand. On these two maps rest the
operations whose hardware versions are opaque to proofs: the integer test, rounding
half away from zero, and moving between the 64-bit and 32-bit formats.
-/

namespace CapsuleFlow

/-- A binary interchange format, given by its precision (hidden bit included) and the
width of its exponent field. -/
structure BinaryFormat where
  precision : Nat
  exponentBits : Nat
  deriving DecidableEq, Repr

/-- An exact finite binary value `(-1)^neg · mant · 2^exp`. -/
structure Dyadic where
  neg : Bool
  mant : Nat
  exp : Int
  deriving DecidableEq, Repr

/-- What a bit pattern of a binary format denotes. -/
inductive BinaryValue where
  | finite (d : Dyadic)
  | infinite (neg : Bool)
  | nan
  deriving DecidableEq, Repr

namespace BinaryFormat

def binary64 : BinaryFormat := ⟨53, 11⟩

def binary32 : BinaryFormat := ⟨24, 8⟩

def fractionBits (f : BinaryFormat) : Nat := f.precision - 1

def bias (f : BinaryFormat) : Nat := Nat.pow 2 (f.exponentBits - 1) - 1

def topField (f : BinaryFormat) : Nat := Nat.pow 2 f.exponentBits - 1

/-- Exponent of the unit in the last place of subnormal values. -/
def leastExp (f : BinaryFormat) : Int := 1 - (f.bias : Int) - f.fractionBits

def signWeight (f : BinaryFormat) : Nat := Nat.pow 2 (f.fractionBits + f.exponentBits)

def decode (f : BinaryFormat) (bits : Nat) : BinaryValue :=
  let frac := bits % Nat.pow 2 f.fractionBits
  let field := bits / Nat.pow 2 f.fractionBits % Nat.pow 2 f.exponentBits
  let neg := bits / f.signWeight % 2 == 1
  if field == f.topField then
    if frac == 0 then .infinite neg else .nan
  else if field == 0 then
    .finite ⟨neg, frac, f.leastExp⟩
  else
    .finite ⟨neg, frac + Nat.pow 2 f.fractionBits, (field : Int) - f.bias - f.fractionBits⟩

def infinityBits (f : BinaryFormat) (neg : Bool) : Nat :=
  (if neg then f.signWeight else 0) + f.topField * Nat.pow 2 f.fractionBits

def nanBits (f : BinaryFormat) : Nat :=
  f.topField * Nat.pow 2 f.fractionBits + Nat.pow 2 (f.fractionBits - 1)

/-- `⌊log₂ (num / den)⌋` for positive `num` and `den`. -/
def floorLog2Ratio (num den : Nat) : Int :=
  let l : Int := (Nat.log2 num : Int) - Nat.log2 den
  let below := if 0 ≤ l then num < den * Nat.pow 2 l.toNat else num * Nat.pow 2 (-l).toNat < den
  if below then l - 1 else l

/-- `num / den` rounded to the nearest natural, a tie going to the even one. -/
def roundHalfEven (num den : Nat) : Nat :=
  let t := num / den
  let r := num % den
  if 2 * r > den || (2 * r == den && t % 2 == 1) then t + 1 else t

/-- Bits of the value of the format nearest to `(-1)^neg · num / den`, ties to even.
Magnitudes past the largest finite value become infinities. -/
def roundRatio (f : BinaryFormat) (neg : Bool) (num den : Nat) : Nat :=
  let sign := if neg then f.signWeight else 0
  if num == 0 || den == 0 then sign
  else
    let e := floorLog2Ratio num den
    let q := max (e - f.fractionBits) f.leastExp
    let t :=
      if 0 ≤ q then roundHalfEven num (den * Nat.pow 2 q.toNat)
      else roundHalfEven (num * Nat.pow 2 (-q).toNat) den
    let (t, q) := if t == Nat.pow 2 f.precision then (Nat.pow 2 f.fractionBits, q + 1) else (t, q)
    if t < Nat.pow 2 f.fractionBits then sign + t
    else
      let field := q + f.fractionBits + f.bias
      if field ≥ f.topField then f.infinityBits neg
      else sign + field.toNat * Nat.pow 2 f.fractionBits + (t - Nat.pow 2 f.fractionBits)

def roundDyadic (f : BinaryFormat) (d : Dyadic) : Nat :=
  if 0 ≤ d.exp then f.roundRatio d.neg (d.mant * Nat.pow 2 d.exp.toNat) 1
  else f.roundRatio d.neg d.mant (Nat.pow 2 (-d.exp).toNat)

end BinaryFormat

namespace Dyadic

def isWhole (d : Dyadic) : Bool :=
  0 ≤ d.exp || d.mant % Nat.pow 2 (-d.exp).toNat == 0

/-- The nearest whole number, a half going away from zero; the sign is kept. -/
def roundHalfAway (d : Dyadic) : Dyadic :=
  if 0 ≤ d.exp then d
  else
    let unit := Nat.pow 2 (-d.exp).toNat
    let k := d.mant / unit
    let k := if 2 * (d.mant % unit) ≥ unit then k + 1 else k
    ⟨d.neg, k, 0⟩

def isZero (d : Dyadic) : Bool := d.mant == 0

end Dyadic

namespace BinaryValue

def isFinite : BinaryValue → Bool
  | .finite _ => true
  | _ => false

end BinaryValue

end CapsuleFlow

namespace Float

/-- The exact value of a `Float`. -/
def value (x : Float) : CapsuleFlow.BinaryValue :=
  CapsuleFlow.BinaryFormat.binary64.decode x.toBits.toNat

/-- The `Float` nearest to an exact dyadic. -/
def ofDyadic (d : CapsuleFlow.Dyadic) : Float :=
  Float.ofBits (UInt64.ofNat (CapsuleFlow.BinaryFormat.binary64.roundDyadic d))

def isWhole (x : Float) : Bool :=
  match x.value with
  | .finite d => d.isWhole
  | _ => false

/-- Round to the nearest whole number, a half going away from zero; infinities and NaN
are returned unchanged. -/
def roundHalfAway (x : Float) : Float :=
  match x.value with
  | .finite d => if d.isWhole then x else Float.ofDyadic d.roundHalfAway
  | _ => x

/-- `a` raised to `n` by square-and-multiply over the bits of `n`, low bit first, each
product rounded: `r := r·a` when the bit is set, then `a := a·a` while bits remain. -/
def powBySquaring (a : Float) (n : Nat) : Float :=
  go a n 1 n
where
  /-- The loop, with the remaining exponent bounded by the fuel. -/
  go (a : Float) (n : Nat) (r : Float) : Nat → Float
    | 0 => r
    | fuel + 1 =>
      let r := if n % 2 == 1 then r * a else r
      let n := n / 2
      if n == 0 then r else go (a * a) n r fuel

/-- `a` raised to a signed power: a negative power is the reciprocal of `a` raised to
its magnitude, the magnitude's power taken by `powBySquaring`. -/
def powInt (a : Float) (n : Int) : Float :=
  if n < 0 then 1.0 / powBySquaring a n.natAbs else powBySquaring a n.toNat

def narrow (x : Float) : Float32 :=
  match x.value with
  | .finite d => Float32.ofBits (UInt32.ofNat (CapsuleFlow.BinaryFormat.binary32.roundDyadic d))
  | .infinite neg => Float32.ofBits (UInt32.ofNat (CapsuleFlow.BinaryFormat.binary32.infinityBits neg))
  | .nan => Float32.ofBits (UInt32.ofNat CapsuleFlow.BinaryFormat.binary32.nanBits)

end Float

namespace Float32

/-- The exact value of a `Float32`. -/
def value (x : Float32) : CapsuleFlow.BinaryValue :=
  CapsuleFlow.BinaryFormat.binary32.decode x.toBits.toNat

/-- Widen to 64 bits; every 32-bit value is exactly representable. -/
def widen (x : Float32) : Float :=
  match x.value with
  | .finite d => Float.ofDyadic d
  | .infinite neg => Float.ofBits (UInt64.ofNat (CapsuleFlow.BinaryFormat.binary64.infinityBits neg))
  | .nan => Float.ofBits (UInt64.ofNat CapsuleFlow.BinaryFormat.binary64.nanBits)

end Float32
