import CapsuleFlow.Numeric.Read

/-!
# What a plain YAML scalar denotes

An untagged plain scalar is, in this order of trial:

* null: empty, `~`, `null`, `Null` or `NULL`;
* a boolean: `true`, `True`, `TRUE`, `false`, `False`, `FALSE`;
* an integer: decimal digits with an optional `+`, or a `-` and digits, or a `0x`,
  `0o`, `0b` prefixed number (hexadecimal, octal, binary) with an optional sign in
  front of the prefix; a number with a leading zero followed only by digits (`007`)
  is text;
* a float: a decimal numeral with an optional sign, or `.inf`, `-.inf`, `.nan` in
  three letter cases; a numeral too large to be finite is text;
* otherwise text.
-/

namespace CapsuleFlow.Yaml

def isNullWord (s : String) : Bool :=
  s == "null" || s == "Null" || s == "NULL" || s == "~"

def boolWord? (s : String) : Option Bool :=
  if s == "true" || s == "True" || s == "TRUE" then some true
  else if s == "false" || s == "False" || s == "FALSE" then some false
  else none

/-- A leading zero followed only by digits (after an optional sign): text, not a number. -/
def leadingZeroDigits (s : String) : Bool :=
  let cs := match s.toList with
    | '-' :: r | '+' :: r => r
    | r => r
  match cs with
  | '0' :: r => !r.isEmpty && r.all Char.isDigit
  | _ => false

def digitIn (radix : Nat) (c : Char) : Option Nat :=
  let v :=
    if c.isDigit then c.toNat - '0'.toNat
    else if 'a' ≤ c && c ≤ 'z' then c.toNat - 'a'.toNat + 10
    else if 'A' ≤ c && c ≤ 'Z' then c.toNat - 'A'.toNat + 10
    else 99
  if v < radix then some v else none

def digitsValue? (radix : Nat) (cs : List Char) : Option Nat :=
  if cs.isEmpty then none
  else cs.foldlM (fun acc c => (digitIn radix c).map (acc * radix + ·)) 0

/-- Digits with an optional leading `+` (one sign character at most). -/
def unsignedText? (radix : Nat) (cs : List Char) : Option Nat :=
  match cs with
  | '+' :: r => digitsValue? radix r
  | r => digitsValue? radix r

/-- Digits with an optional leading `+` or `-`. -/
def signedText? (radix : Nat) (cs : List Char) : Option Int :=
  match cs with
  | '-' :: r => (digitsValue? radix r).map fun n => -(n : Int)
  | '+' :: r => (digitsValue? radix r).map Int.ofNat
  | r => (digitsValue? radix r).map Int.ofNat

def radixPrefixes : List (String × Nat) := [("0x", 16), ("0o", 8), ("0b", 2)]

/-- A non-negative integer: `+`, then a radix prefix and digits, or decimal digits. -/
def unsignedInteger? (s : String) : Option Nat :=
  let unpositive := if s.startsWith "+" then (s.drop 1).toString else s
  let signed (r : String) := r.startsWith "+" || r.startsWith "-"
  let prefixed := radixPrefixes.findSome? fun (p, radix) =>
    if unpositive.startsWith p then
      let rest := (unpositive.drop 2).toString
      if signed rest then some none
      else (unsignedText? radix rest.toList).map some
    else none
  match prefixed with
  | some r => r
  | none =>
    if signed unpositive || leadingZeroDigits s then none
    else unsignedText? 10 unpositive.toList

/-- A negative integer: `-`, then a radix prefix and digits, or a signed decimal. -/
def negativeInteger? (s : String) : Option Int :=
  let prefixed := radixPrefixes.findSome? fun (p, radix) =>
    if s.startsWith ("-" ++ p) then
      signedText? radix ('-' :: (s.drop 3).toString.toList)
    else none
  match prefixed with
  | some v => some v
  | none => if leadingZeroDigits s then none else signedText? 10 s.toList

def isFiniteFloat (x : Float) : Bool :=
  match x.value with
  | .finite _ => true
  | _ => false

/-- A float: `.inf`, `-.inf`, `.nan` in their letter cases, or a finite numeral. -/
def float? (s : String) : Option Float :=
  let unpositive := if s.startsWith "+" then (s.drop 1).toString else s
  if s.startsWith "+" && (unpositive.startsWith "+" || unpositive.startsWith "-") then none
  else if unpositive == ".inf" || unpositive == ".Inf" || unpositive == ".INF" then
    some (1.0 / 0.0)
  else if s == "-.inf" || s == "-.Inf" || s == "-.INF" then some (-(1.0 / 0.0))
  else if s == ".nan" || s == ".NaN" || s == ".NAN" then some (0.0 / 0.0)
  else
    match Numeral.read? unpositive with
    | some n =>
      let x := n.toFloat
      if isFiniteFloat x then some x else none
    | none => none

/-- What an untagged plain scalar denotes. Integers are kept whole; which of them fit
a 64-bit integer is for the reader of the value to decide. -/
inductive Plain where
  | null
  | bool (b : Bool)
  | integer (i : Int)
  | float (x : Float)
  | text
  deriving Inhabited

def u128Max : Nat := Nat.pow 2 128 - 1

/-- An integer as the reader of plain scalars accepts it: unsigned up to 128 bits, or
negative down to the least signed 128-bit integer. -/
def integer? (s : String) : Option Int :=
  match unsignedInteger? s with
  | some n => if n ≤ u128Max then some n else
      match negativeInteger? s with
      | some v => if v < 0 && v ≥ -Int.pow 2 127 then some v else none
      | none => none
  | none =>
    match negativeInteger? s with
    | some v => if v ≥ -Int.pow 2 127 && v ≤ Int.pow 2 127 - 1 then some v else none
    | none => none

def resolvePlain (s : String) : Plain :=
  if s.isEmpty || isNullWord s then .null
  else match boolWord? s with
  | some b => .bool b
  | none =>
    match integer? s with
    | some i => .integer i
    | none =>
      if leadingZeroDigits s then .text
      else match float? s with
        | some x => .float x
        | none => .text

end CapsuleFlow.Yaml
