import CapsuleFlow.Text.EscapeData
import CapsuleFlow.Text.Normal

/-!
# Quoting text in messages

Messages quote a string between double quotes, escaping `\0`, tab, carriage return,
line feed, backslash and the double quote with a backslash, and every other character
that is not printable (ASCII control characters, and the non-ASCII characters listed
in `escapedRanges`) as `\u{hex}` with lowercase digits.
-/

namespace CapsuleFlow.Text

/-- The escaped ranges as `(first, last)`. -/
def escapedTable : Array (Nat × Nat) :=
  ((escapedRanges.splitOn ";").map fun e =>
    match e.splitOn "-" with
    | [a, b] => (hexNat a, hexNat b)
    | _ => (0, 0)).toArray

def isShownEscaped (c : Char) : Bool :=
  let v := c.toNat
  if v < 0x80 then v < 0x20 || v == 0x7F
  else match lastAtMost escapedTable (·.1) v with
    | some (_, last) => v ≤ last
    | none => false

/-- Lowercase hexadecimal digits of a number, without leading zeros. -/
def lowerHex (n : Nat) : String :=
  String.ofList (Nat.toDigits 16 n)

def quoteChar (c : Char) : String :=
  match c with
  | '\x00' => "\\0"
  | '\t' => "\\t"
  | '\r' => "\\r"
  | '\n' => "\\n"
  | '\\' => "\\\\"
  | '"' => "\\\""
  | c => if isShownEscaped c then "\\u\x7b" ++ lowerHex c.toNat ++ "\x7d" else c.toString

def quoted (s : String) : String :=
  "\"" ++ String.join (s.toList.map quoteChar) ++ "\""

/-- A path between double quotes: escaped as text is, and the single quote too. -/
def quotedPath (s : String) : String :=
  "\"" ++ String.join (s.toList.map fun c => if c == '\x27' then "\\\x27" else quoteChar c) ++ "\""

end CapsuleFlow.Text
