import CapsuleFlow.Numeric.Decimal

/-!
# Number text

How binary64 values are written as text. The digits come from `Decimal`; a
`ShortestStyle` record holds the remaining decisions of a format: where positional
notation gives way to an exponent, whether whole numbers keep a `.0`, how zero is
spelled, and whether a positive exponent has a sign. Two styles are used: `plain`
(always positional, no `.0`, the form of error messages) and `json` (positional for
decimal-point positions from -4 to 16, `.0` on whole numbers, an exponent `e` with its
sign otherwise). `fixedText` writes a value with a fixed number of places.
-/

namespace CapsuleFlow

/-- The decisions a shortest-digits number format makes beyond the digits themselves. -/
structure ShortestStyle where
  /-- Positions of the decimal point (counted from the first digit) up to this bound are
  written positionally; `none` means always. -/
  positionalUpTo : Option Int
  /-- Positions above this bound are written positionally. -/
  positionalAbove : Int
  /-- Appended to whole numbers written positionally. -/
  wholeSuffix : String
  /-- Text of a zero, sign excluded. -/
  zero : String
  /-- Written before a non-negative exponent. -/
  exponentSign : String := ""

namespace ShortestStyle

/-- Always positional, whole numbers bare: `1`, `0.5`, `100000000000000000000`. -/
def plain : ShortestStyle := ⟨none, Int.negSucc 0 * 100000, "", "0", ""⟩

/-- Positional when the point position lies in (-5, 16], with `.0` on whole numbers,
else one digit, a point, the rest and `e` with the signed exponent: `1.0`, `0.0001`,
`1e-7`, `1.5e+300`. -/
def json : ShortestStyle := ⟨some 16, -5, ".0", "0.0", "+"⟩

end ShortestStyle

/-- `n` zero characters. -/
def zeros (n : Nat) : String := String.ofList (List.replicate n '0')

/-- Write the positive decimal `digits · 10^p` (no trailing zero in `digits`) in a style. -/
def ShortestStyle.render (st : ShortestStyle) (digits : Nat) (p : Int) : String :=
  let s := toString digits
  let n : Int := s.length
  let kk := n + p
  let positional :=
    kk > st.positionalAbove && match st.positionalUpTo with
      | none => true
      | some b => kk ≤ b
  if positional then
    if 0 ≤ p then s ++ zeros p.toNat ++ st.wholeSuffix
    else if 0 < kk then
      String.ofList (s.toList.take kk.toNat) ++ "." ++ String.ofList (s.toList.drop kk.toNat)
    else "0." ++ zeros (-kk).toNat ++ s
  else
    let exp := (if kk - 1 ≥ 0 then st.exponentSign else "") ++ toString (kk - 1)
    match s.toList with
    | [c] => String.ofList [c] ++ "e" ++ exp
    | c :: rest => String.ofList [c] ++ "." ++ String.ofList rest ++ "e" ++ exp
    | [] => "0e" ++ exp

/-- Text of a finite or infinite value in a shortest-digits style; NaN is `NaN` and the
infinities `inf` and `-inf`. -/
def ShortestStyle.format (st : ShortestStyle) (x : Float) : String :=
  match x.value with
  | .nan => "NaN"
  | .infinite neg => if neg then "-inf" else "inf"
  | .finite d =>
    let sign := if d.neg then "-" else ""
    if d.mant == 0 then sign ++ st.zero
    else
      let (a, p) := Decimal.shortestOf64 d
      sign ++ st.render a p

/-- The value with exactly `places` digits after the point (none and no point when
`places = 0`), rounded to nearest with ties to even, a minus sign on negative values. -/
def fixedText (x : Float) (places : Nat) : String :=
  match x.value with
  | .nan => "NaN"
  | .infinite neg => if neg then "-inf" else "inf"
  | .finite d =>
    let sign := if d.neg then "-" else ""
    -- an exact expansion needs at most as many places as the binary exponent is negative
    let exact := if d.exp < 0 then (-d.exp).toNat else 0
    let used := min places exact
    let s := toString (Decimal.fixedScaled d used)
    let s := if s.length ≤ used then zeros (used + 1 - s.length) ++ s else s
    let cut := s.length - used
    let whole := String.ofList (s.toList.take cut)
    let frac := String.ofList (s.toList.drop cut) ++ zeros (places - used)
    if places == 0 then sign ++ whole else sign ++ whole ++ "." ++ frac

end CapsuleFlow
