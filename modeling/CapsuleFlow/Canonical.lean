import CapsuleFlow.Json.Print
import CapsuleFlow.Text.Normal

/-!
# Canonical form

The canonical form of a JSON value is a single line of JSON text that two equivalent
documents share: object keys are put in Normalization Form C (when enabled) and sorted
by code point, a key that two members share after normalization keeping the member
later in the source order; strings are normalized the same way; integers are written
as they are; floats are rounded to a fixed number of decimals and written positionally
without trailing zeros (`canonicalFloat`). Nothing else varies: no whitespace, one
escape per character.
-/

namespace CapsuleFlow

/-- How canonical text is produced. -/
structure CanonicalOptions where
  /-- Decimal places kept for floats. -/
  decimals : Nat := 6
  /-- Put strings and keys in Normalization Form C. -/
  normalizeNfc : Bool := true
  deriving DecidableEq, Repr, Inhabited

/-- The most decimal places a configuration may ask for. -/
def maxDecimals : Nat := 15

/-- The most places the float formatter writes, `u16::MAX`: asked for more, it panics. -/
def maxPrecision : Nat := 65535

/-- Why a value has no canonical form. -/
inductive CanonError where
  /-- A float is infinite or NaN, or overflows when scaled. -/
  | nonFinite (x : Float)
  /-- The value cannot be represented as JSON. -/
  | unsupported (reason : String)
  /-- A float was to be written to more places than the formatter takes. -/
  | precision (places : Nat)
  deriving Inhabited

def CanonError.message : CanonError → String
  | .nonFinite x => "non-finite number is forbidden in canonical form: " ++ ShortestStyle.plain.format x
  | .unsupported r => "unsupported type for canonicalization: " ++ r
  | .precision _ => "Formatting argument out of range"

def trimFraction (s : String) : String :=
  if s.contains '.' then
    let cs := (s.toList.reverse.dropWhile (· == '0')).dropWhile (· == '.')
    String.ofList cs.reverse
  else s

/-- The power of ten a count of decimal places scales by: the count is a 32-bit word
read as a signed number, so a count of `2^31` or more scales by a negative power. -/
def decimalExponent (decimals : Nat) : Int :=
  let w : Nat := decimals % Nat.pow 2 32
  if w < Nat.pow 2 31 then (w : Int) else (w : Int) - Int.pow 2 32

/-- The canonical text of a float kept to `decimals` places.

A non-finite value fails. Negative zero is zero. A whole number is kept as it is;
otherwise the value is scaled by `10^e` for `e := decimalExponent decimals` (a power
computed by repeated squaring, its reciprocal when `e` is negative), rounded half away
from zero and scaled back, and a scaled value that overflows fails with the original
value. A result of zero is `0`; any other result is written with
exactly `decimals` places, ties to even, and then trailing zeros and a bare point are
dropped. The formatter takes at most `maxPrecision` places and fails on more. -/
def canonicalFloat (x : Float) (decimals : Nat) : Except CanonError String :=
  match x.value with
  | .finite d =>
    let x := if d.mant == 0 then 0.0 else x
    let rounded? : Except CanonError Float :=
      if x.isWhole then .ok x
      else
        let factor := Float.powInt 10.0 (decimalExponent decimals)
        let scaled := x * factor
        if (scaled.value matches .finite _) then .ok (scaled.roundHalfAway / factor)
        else .error (.nonFinite x)
    rounded?.bind fun rounded =>
      if rounded == 0.0 then .ok "0"
      else if maxPrecision < decimals then .error (.precision decimals)
      else .ok (trimFraction (fixedText rounded decimals))
  | _ => .error (.nonFinite x)

def canonicalNumber (n : Json.Number) (decimals : Nat) : Except CanonError String :=
  match n with
  | .int i => .ok (toString i)
  | .float f => canonicalFloat f decimals

/-- A string as the options ask: normalized or as it is. -/
def CanonicalOptions.text (o : CanonicalOptions) (s : String) : String :=
  if o.normalizeNfc then Text.nfc s else s

/-- All texts, or the first failure. -/
def collectAll : List (Except CanonError String) → Except CanonError (List String)
  | [] => .ok []
  | x :: xs => do
    let a ← x
    let rest ← collectAll xs
    return a :: rest

/-- Join texts with commas, failing with the first failure. -/
def joinAll (xs : List (Except CanonError String)) : Except CanonError String :=
  (collectAll xs).map (",".intercalate)

mutual
def canonicalize (o : CanonicalOptions) : Json.Value → Except CanonError String
  | .null => .ok "null"
  | .bool b => .ok (if b then "true" else "false")
  | .number n => canonicalNumber n o.decimals
  | .string s => .ok (Json.quote (o.text s))
  | .array xs => (joinAll (canonicalItems o xs)).map fun s => "[" ++ s ++ "]"
  | .object ms =>
    let members := (Json.Value.keyedOf (canonicalMembers o ms)).map fun (k, r) =>
      r.map fun s => Json.quote k ++ ":" ++ s
    (joinAll members).map fun s => "\x7b" ++ s ++ "\x7d"

def canonicalItems (o : CanonicalOptions) : List Json.Value → List (Except CanonError String)
  | [] => []
  | x :: xs => canonicalize o x :: canonicalItems o xs

def canonicalMembers (o : CanonicalOptions) :
    List (String × Json.Value) → List (String × Except CanonError String)
  | [] => []
  | (k, v) :: ms => (o.text k, canonicalize o v) :: canonicalMembers o ms
end

end CapsuleFlow
