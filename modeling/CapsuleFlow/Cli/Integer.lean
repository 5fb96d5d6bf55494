/-!
# Integers on the command line

Integer values are read as decimal text: an optional sign, then ASCII digits. A plus
sign is always allowed and a minus sign only where negative numbers are; a sign alone is
not a number. Digits are taken from the left, and the first character that is not a
digit, or the first digit that takes the number out of range, decides the fault.
-/

namespace CapsuleFlow.Cli

/-- Why integer text does not read. -/
inductive IntFault where
  | empty
  | invalidDigit
  | tooLarge
  | tooSmall
  deriving DecidableEq, Repr, Inhabited

def IntFault.text : IntFault → String
  | .empty => "cannot parse integer from empty string"
  | .invalidDigit => "invalid digit found in string"
  | .tooLarge => "number too large to fit in target type"
  | .tooSmall => "number too small to fit in target type"

/-- Reads digits onto `acc`, failing with `overflow` past `bound`. -/
def readDigits (bound : Nat) (overflow : IntFault) (acc : Nat) : List Char → Except IntFault Nat
  | [] => .ok acc
  | c :: cs =>
    if !c.isDigit then .error .invalidDigit
    else
      let next := acc * 10 + (c.toNat - '0'.toNat)
      if next > bound then .error overflow else readDigits bound overflow next cs

/-- Reads an integer at least `-low` (when `signed`) and at most `high`. -/
def readInteger (s : String) (signed : Bool) (low high : Nat) : Except IntFault Int :=
  match s.toList with
  | [] => .error .empty
  | ['+'] | ['-'] => .error .invalidDigit
  | '+' :: ds => (readDigits high .tooLarge 0 ds).map Int.ofNat
  | '-' :: ds =>
    if signed then (readDigits low .tooSmall 0 ds).map fun n => -Int.ofNat n
    else .error .invalidDigit
  | ds => (readDigits high .tooLarge 0 ds).map Int.ofNat

def readI64 (s : String) : Except IntFault Int := readInteger s true (Nat.pow 2 63) (Nat.pow 2 63 - 1)

def readU64 (s : String) : Except IntFault Nat :=
  (readInteger s false 0 (Nat.pow 2 64 - 1)).map Int.toNat

/-- Reads a 32-bit unsigned integer as a 64-bit signed one, then checks its range. -/
def readU32 (s : String) : Except String Nat :=
  match readI64 s with
  | .error f => .error f.text
  | .ok v =>
    if 0 ≤ v && v ≤ 4294967295 then .ok v.toNat
    else .error s!"{v} is not in 0..=4294967295"

end CapsuleFlow.Cli
