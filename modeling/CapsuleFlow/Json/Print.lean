import CapsuleFlow.Json.Value
import CapsuleFlow.Numeric.Text

/-!
# Writing JSON text

String literals escape `"` and `\`, write backspace, form feed, newline, carriage return
and tab as two-character escapes and every other character below U+0020 as `\u00xx`
with lowercase hex; all other characters are written as they are. Floats are written in
the `json` shortest style. `compact` writes no whitespace; `pretty` puts each element
and member on its own line, indented by two spaces per level, with `": "` after keys.
-/

namespace CapsuleFlow.Json

/-- Lowercase hex digit of a value below 16. -/
def hexDigit (n : Nat) : Char :=
  if n < 10 then Char.ofNat (48 + n) else Char.ofNat (87 + n)

def escapeChar (c : Char) : List Char :=
  match c with
  | '"' => ['\\', '"']
  | '\\' => ['\\', '\\']
  | '\x08' => ['\\', 'b']
  | '\x0c' => ['\\', 'f']
  | '\n' => ['\\', 'n']
  | '\r' => ['\\', 'r']
  | '\t' => ['\\', 't']
  | c =>
    if c.toNat < 0x20 then ['\\', 'u', '0', '0', hexDigit (c.toNat / 16), hexDigit (c.toNat % 16)]
    else [c]

/-- A string literal for `s`. -/
def quote (s : String) : String :=
  String.ofList ('"' :: (s.toList.flatMap escapeChar ++ ['"']))

def Number.text : Number → String
  | .int i => toString i
  | .float f => ShortestStyle.json.format f

mutual
/-- Appends the compact text of a value to `out`. Text is only ever added at the end,
so writing a value takes time linear in its text. -/
def compactTo (out : String) : Value → String
  | .null => out ++ "null"
  | .bool b => out ++ (if b then "true" else "false")
  | .number n => out ++ n.text
  | .string s => out ++ quote s
  | .array xs => compactItemsTo (out ++ "[") xs ++ "]"
  | .object ms => compactMembersTo (out ++ "\x7b") ms ++ "\x7d"

def compactItemsTo (out : String) : List Value → String
  | [] => out
  | [x] => compactTo out x
  | x :: xs => compactItemsTo (compactTo out x ++ ",") xs

def compactMembersTo (out : String) : List (String × Value) → String
  | [] => out
  | [(k, v)] => compactTo (out ++ quote k ++ ":") v
  | (k, v) :: ms => compactMembersTo (compactTo (out ++ quote k ++ ":") v ++ ",") ms
end

def compact (v : Value) : String := compactTo "" v

def newlineAt (level : Nat) : String := "\n" ++ String.ofList (List.replicate (2 * level) ' ')

mutual
/-- Appends the indented text of a value to `out`; `level` is the indentation depth of
the value itself. -/
def prettyTo (out : String) (level : Nat) : Value → String
  | .array [] => out ++ "[]"
  | .object [] => out ++ "\x7b\x7d"
  | .array (x :: xs) => prettyItemsTo (out ++ "[") (level + 1) (x :: xs) ++ newlineAt level ++ "]"
  | .object (m :: ms) =>
    prettyMembersTo (out ++ "\x7b") (level + 1) (m :: ms) ++ newlineAt level ++ "\x7d"
  | .null => out ++ "null"
  | .bool b => out ++ (if b then "true" else "false")
  | .number n => out ++ n.text
  | .string s => out ++ quote s

def prettyItemsTo (out : String) (level : Nat) : List Value → String
  | [] => out
  | [x] => prettyTo (out ++ newlineAt level) level x
  | x :: xs => prettyItemsTo (prettyTo (out ++ newlineAt level) level x ++ ",") level xs

def prettyMembersTo (out : String) (level : Nat) : List (String × Value) → String
  | [] => out
  | [(k, v)] => prettyTo (out ++ newlineAt level ++ quote k ++ ": ") level v
  | (k, v) :: ms =>
    prettyMembersTo (prettyTo (out ++ newlineAt level ++ quote k ++ ": ") level v ++ ",") level ms
end

def pretty (v : Value) : String := prettyTo "" 0 v

end CapsuleFlow.Json
