import CapsuleFlow.Numeric.Binary

/-!
# Reading decimal numerals

The grammar of a decimal floating-point numeral: an optional sign, then either one of
the words `inf`, `infinity`, `nan` in any letter case, or digits with an optional point
(at least one digit in all) and an optional exponent `e`/`E`, optional sign, at least
one digit. A numeral denotes the value of the target format nearest to it.
-/

namespace CapsuleFlow

/-- A numeral as read, before rounding to a format. -/
inductive Numeral where
  | finite (neg : Bool) (digits : Nat) (exp : Int)
  | infinity (neg : Bool)
  | nan
  deriving DecidableEq, Repr

namespace Numeral

/-- Exponent digits stop accumulating past this bound; larger exponents all denote an
infinity or a zero. -/
def exponentCap : Nat := 65536

/-- Read a run of decimal digits into a value, returning it with the count read and the rest. -/
def readDigits : List Char → Nat → Nat → Nat × Nat × List Char
  | c :: cs, acc, n =>
    if c.isDigit then readDigits cs (acc * 10 + (c.toNat - '0'.toNat)) (n + 1) else (acc, n, c :: cs)
  | [], acc, n => (acc, n, [])

/-- Read exponent digits, saturating at `exponentCap`. -/
def readExpDigits : List Char → Nat → Nat × Nat × List Char
  | c :: cs, acc =>
    if c.isDigit then
      let acc := if acc < exponentCap then acc * 10 + (c.toNat - '0'.toNat) else acc
      let (v, n, rest) := readExpDigits cs acc
      (v, n + 1, rest)
    else (acc, 0, c :: cs)
  | [], acc => (acc, 0, [])

/-- The words for an infinity and a NaN, compared without letter case. -/
def readWord (cs : List Char) (neg : Bool) : Option Numeral :=
  match String.ofList (cs.map Char.toLower) with
  | "inf" | "infinity" => some (.infinity neg)
  | "nan" => some .nan
  | _ => none

def readBody (cs : List Char) (neg : Bool) : Option Numeral :=
  let (whole, nWhole, rest) := readDigits cs 0 0
  let (mant, nFrac, rest) :=
    match rest with
    | '.' :: r =>
      let (m, n, r) := readDigits r whole 0
      (m, n, r)
    | r => (whole, 0, r)
  if nWhole + nFrac == 0 then readWord cs neg
  else
    let base : Int := -(nFrac : Int)
    match rest with
    | [] => some (.finite neg mant base)
    | e :: r =>
      if e == 'e' || e == 'E' then
        let (eneg, r) := match r with
          | '-' :: r => (true, r)
          | '+' :: r => (false, r)
          | r => (false, r)
        let (ev, n, r) := readExpDigits r 0
        if n == 0 || !r.isEmpty then none
        else some (.finite neg mant (base + (if eneg then -(ev : Int) else ev)))
      else none

/-- Read a numeral; `none` when the text is not one. -/
def read? (s : String) : Option Numeral :=
  match s.toList with
  | [] => none
  | '-' :: [] => none
  | '+' :: [] => none
  | '-' :: cs => readBody cs true
  | '+' :: cs => readBody cs false
  | cs => readBody cs false

def digitCount (n : Nat) : Nat := (toString n).length

def toFloat : Numeral → Float
  | .nan => 0.0 / 0.0
  | .infinity neg => if neg then -(1.0 / 0.0) else 1.0 / 0.0
  | .finite neg digits exp =>
    let mag : Float :=
      if digits == 0 then 0.0
      else
        let size := (digitCount digits : Int) + exp
        if size > 310 then 1.0 / 0.0
        else if size < -330 then 0.0
        else Float.ofScientific digits (exp < 0) exp.natAbs
    if neg then -mag else mag

def toFloat32 : Numeral → Float32
  | .nan => 0.0 / 0.0
  | .infinity neg => if neg then -(1.0 / 0.0) else 1.0 / 0.0
  | .finite neg digits exp =>
    let mag : Float32 :=
      if digits == 0 then 0.0
      else
        let size := (digitCount digits : Int) + exp
        if size > 40 then 1.0 / 0.0
        else if size < -50 then 0.0
        else Float32.ofScientific digits (exp < 0) exp.natAbs
    if neg then -mag else mag

end Numeral

end CapsuleFlow
