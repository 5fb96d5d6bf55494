import CapsuleFlow.Json.Value
import CapsuleFlow.Numeric.Read

/-!
# Reading JSON text

A reader walks the text once, left to right, and reports the first fault where it finds
it. Positions are a line (from 1) and a column counted in bytes since the start of that
line. A fault found *at* a character is reported either after it (when the character was
consumed) or as if one byte further (when it was only looked at); both rules are kept as
`Cursor.here` and `Cursor.ahead`.

Numbers: an integer literal becomes an unsigned 64-bit integer, or a signed one below
zero; `-0`, integers outside the 64-bit range and every literal with a fraction or
exponent become floats. A float is the integer formed by its first digits (as many as
fit 64 bits) converted to binary64 and then multiplied or divided by a power of ten
taken from a table of the powers up to `1e308`, dividing by `1e308` repeatedly for
smaller exponents; a result that overflows is the fault `number out of range`.

Nesting deeper than 127 arrays and objects is the fault `recursion limit exceeded`.
-/

namespace CapsuleFlow.Json

/-- The kinds of fault in JSON text. -/
inductive Fault where
  | eofList | eofObject | eofString | eofValue
  | expectedColon | expectedListCommaOrEnd | expectedObjectCommaOrEnd
  | expectedIdent | expectedValue | invalidEscape | invalidNumber | numberOutOfRange
  | controlCharacter | keyMustBeString | loneLeadingSurrogate | trailingComma
  | trailingCharacters | unexpectedEndOfHexEscape | recursionLimit
  deriving DecidableEq, Repr

def Fault.message : Fault → String
  | .eofList => "EOF while parsing a list"
  | .eofObject => "EOF while parsing an object"
  | .eofString => "EOF while parsing a string"
  | .eofValue => "EOF while parsing a value"
  | .expectedColon => "expected `:`"
  | .expectedListCommaOrEnd => "expected `,` or `]`"
  | .expectedObjectCommaOrEnd => "expected `,` or `\x7d`"
  | .expectedIdent => "expected ident"
  | .expectedValue => "expected value"
  | .invalidEscape => "invalid escape"
  | .invalidNumber => "invalid number"
  | .numberOutOfRange => "number out of range"
  | .controlCharacter => "control character (\\u0000-\\u001F) found while parsing a string"
  | .keyMustBeString => "key must be a string"
  | .loneLeadingSurrogate => "lone leading surrogate in hex escape"
  | .trailingComma => "trailing comma"
  | .trailingCharacters => "trailing characters"
  | .unexpectedEndOfHexEscape => "unexpected end of hex escape"
  | .recursionLimit => "recursion limit exceeded"

/-- An error with an optional place: `line = 0` means none. -/
structure Error where
  message : String
  line : Nat := 0
  column : Nat := 0
  deriving DecidableEq, Repr, Inhabited

/-- The text of an error, with ` at line L column C` when it has a place. -/
def Error.text (e : Error) : String :=
  if e.line == 0 then e.message else s!"{e.message} at line {e.line} column {e.column}"

/-- A place in the text. -/
structure Place where
  line : Nat
  column : Nat
  deriving DecidableEq, Repr, Inhabited

/-- What is left to read, with the place of its first character. -/
structure Cursor where
  rest : List Char
  line : Nat := 1
  column : Nat := 0
  /-- The length of the whole text. No reading loop takes more steps than the text has
  characters, so this bounds every loop without measuring what is left. -/
  limit : Nat := 0
  deriving Inhabited

namespace Cursor

def start (s : String) : Cursor := { rest := s.toList, limit := s.length }

def peek (c : Cursor) : Option Char := c.rest.head?

def next (c : Cursor) : Cursor :=
  match c.rest with
  | [] => c
  | ch :: t =>
    if ch == '\n' then { c with rest := t, line := c.line + 1, column := 0 }
    else { c with rest := t, column := c.column + ch.utf8Size }

/-- Step over `n` bytes; a character cut in two counts its bytes read so far. -/
def skipBytes (c : Cursor) (n : Nat) : Cursor :=
  go c n c.limit
where
  /-- Bounded by the length of the text. -/
  go (c : Cursor) (n : Nat) : Nat → Cursor
    | 0 => c
    | fuel + 1 =>
      if n == 0 then c
      else match c.rest with
        | [] => c
        | ch :: t =>
          if ch.utf8Size ≤ n then go c.next (n - ch.utf8Size) fuel
          else { c with rest := t, column := c.column + n }

def here (c : Cursor) : Place := ⟨c.line, c.column⟩

/-- The place one byte further than `here`, when there is a next character. -/
def ahead (c : Cursor) : Place :=
  match c.rest with
  | [] => ⟨c.line, c.column⟩
  | '\n' :: _ => ⟨c.line + 1, 0⟩
  | _ :: _ => ⟨c.line, c.column + 1⟩

/-- Skip blanks: space, tab, newline, carriage return. -/
def skipBlank (c : Cursor) : Cursor :=
  go c c.limit
where
  /-- Bounded by the length of the text. -/
  go (c : Cursor) : Nat → Cursor
    | 0 => c
    | n + 1 =>
      match c.peek with
      | some ' ' | some '\n' | some '\t' | some '\r' => go c.next n
      | _ => c

end Cursor

def Fault.at (f : Fault) (p : Place) : Error := ⟨f.message, p.line, p.column⟩

abbrev Step (α : Type) := Except Error (α × Cursor)

/-- A number as read: the three classes of the JSON number model. -/
inductive ReadNumber where
  | unsigned (n : Nat)
  | signed (i : Int)
  | float (f : Float)
  deriving Inhabited

def ReadNumber.toNumber : ReadNumber → Number
  | .unsigned n => .int n
  | .signed i => .int i
  | .float f => .float f

def u64Max : Nat := Nat.pow 2 64 - 1

/-- `10^i` as the nearest binary64 value, for `i ≤ 308`. -/
def pow10 (i : Nat) : Float := Float.ofScientific 1 false i

def clampI32 (i : Int) : Int := max (-2147483648) (min 2147483647 i)

/-- The float `±sig · 10^exp` computed as described in the module header, or the
range fault. -/
def floatOfParts (positive : Bool) (sig : Nat) (exp : Int) : Option Float :=
  let f := (UInt64.ofNat sig).toFloat
  let r := go f exp 5
  r.map fun f => if positive then f else -f
where
  /-- The scaling loop; each pass either finishes or moves the exponent 308 closer to 0. -/
  go (f : Float) (exp : Int) : Nat → Option Float
    | 0 => some f
    | n + 1 =>
      if exp.natAbs ≤ 308 then
        if 0 ≤ exp then
          let g := f * pow10 exp.natAbs
          if g.value matches .infinite _ then none else some g
        else some (f / pow10 exp.natAbs)
      else if f == 0.0 then some f
      else if 0 ≤ exp then none
      else go (f / pow10 308) (exp + 308) n

/-- Read digits while they fit (`sig` grows by one digit per step). -/
def digitValue (c : Char) : Nat := c.toNat - '0'.toNat

section Numbers

def finishFloat (positive : Bool) (sig : Nat) (exp : Int) (c : Cursor) : Step ReadNumber :=
  match floatOfParts positive sig exp with
  | some f => .ok (.float f, c)
  | none => .error (Fault.numberOutOfRange.at c.here)

def skipDigits (c : Cursor) : Cursor :=
  go c c.limit
where
  /-- Bounded by the length of the text. -/
  go (c : Cursor) : Nat → Cursor
    | 0 => c
    | n + 1 => match c.peek with
      | some ch => if ch.isDigit then go c.next n else c
      | none => c

/-- The exponent part, after the `e` or `E` was seen (not yet consumed). -/
def readExponent (positive : Bool) (sig : Nat) (startExp : Int) (c : Cursor) : Step ReadNumber :=
  let c := c.next
  let (posExp, c) := match c.peek with
    | some '+' => (true, c.next)
    | some '-' => (false, c.next)
    | _ => (true, c)
  match c.peek with
  | none => .error (Fault.eofValue.at c.here)
  | some ch =>
    let c := c.next
    if !ch.isDigit then .error (Fault.invalidNumber.at c.here)
    else
      let rec loop (exp : Nat) (c : Cursor) : Nat → Step ReadNumber
        | 0 =>
          let fin := clampI32 (if posExp then startExp + exp else startExp - exp)
          finishFloat positive sig fin c
        | n + 1 =>
          match c.peek with
          | some d =>
            if d.isDigit then
              let c := c.next
              let exp' := exp * 10 + digitValue d
              if exp' > 2147483647 then
                if sig != 0 && posExp then .error (Fault.numberOutOfRange.at c.here)
                else
                  let c := skipDigits c
                  .ok (.float (if positive then 0.0 else -0.0), c)
              else loop exp' c n
            else
              let fin := clampI32 (if posExp then startExp + exp else startExp - exp)
              finishFloat positive sig fin c
          | none =>
            let fin := clampI32 (if posExp then startExp + exp else startExp - exp)
            finishFloat positive sig fin c
      loop (digitValue ch) c c.limit

/-- The end of the fraction digits: at least one digit is required, then an optional
exponent. -/
def finishFraction (positive : Bool) (sig : Nat) (beforeExp : Int) (after : Nat) (c : Cursor) :
    Step ReadNumber :=
  if after == 0 then
    match c.peek with
    | some _ => .error (Fault.invalidNumber.at c.ahead)
    | none => .error (Fault.eofValue.at c.ahead)
  else
    let exp := beforeExp - after
    match c.peek with
    | some 'e' | some 'E' => readExponent positive sig exp c
    | _ => finishFloat positive sig exp c

/-- The fraction part, after the `.` was seen (not yet consumed). -/
def readFraction (positive : Bool) (sig : Nat) (beforeExp : Int) (c : Cursor) : Step ReadNumber :=
  let c := c.next
  let rec loop (sig : Nat) (after : Nat) (c : Cursor) : Nat → Step ReadNumber
    | 0 => finishFraction positive sig beforeExp after c
    | n + 1 =>
      match c.peek with
      | some d =>
        if d.isDigit then
          if sig * 10 + digitValue d > u64Max then
            -- further digits cannot change the significand
            let c := skipDigits c
            let exp := beforeExp - after
            match c.peek with
            | some 'e' | some 'E' => readExponent positive sig exp c
            | _ => finishFloat positive sig exp c
          else loop (sig * 10 + digitValue d) (after + 1) c.next n
        else finishFraction positive sig beforeExp after c
      | none => finishFraction positive sig beforeExp after c
  loop sig 0 c c.limit

/-- After the integer digits: a fraction, an exponent, or the end of an integer. -/
def readAfterInteger (positive : Bool) (sig : Nat) (c : Cursor) : Step ReadNumber :=
  match c.peek with
  | some '.' => readFraction positive sig 0 c
  | some 'e' | some 'E' => readExponent positive sig 0 c
  | _ =>
    if positive then .ok (.unsigned sig, c)
    else if sig == 0 || sig > Nat.pow 2 63 then
      .ok (.float (-(UInt64.ofNat sig).toFloat), c)
    else .ok (.signed (-(sig : Int)), c)

/-- Digits past the 64-bit range: each only raises the exponent. -/
def readLongInteger (positive : Bool) (sig : Nat) (c : Cursor) : Step ReadNumber :=
  go 0 c c.limit
where
  /-- Count the extra digits. -/
  go (exp : Nat) (c : Cursor) : Nat → Step ReadNumber
    | 0 => finishFloat positive sig exp c
    | n + 1 =>
      match c.peek with
      | some d =>
        if d.isDigit then go (exp + 1) c.next n
        else if d == '.' then readFraction positive sig exp c
        else if d == 'e' || d == 'E' then readExponent positive sig exp c
        else finishFloat positive sig exp c
      | none => finishFloat positive sig exp c

def readNumber (positive : Bool) (c : Cursor) : Step ReadNumber :=
  match c.peek with
  | none => .error (Fault.eofValue.at c.here)
  | some ch =>
    let c := c.next
    if ch == '0' then
      match c.peek with
      | some d => if d.isDigit then .error (Fault.invalidNumber.at c.ahead)
                  else readAfterInteger positive 0 c
      | none => readAfterInteger positive 0 c
    else if ch.isDigit then
      let rec loop (sig : Nat) (c : Cursor) : Nat → Step ReadNumber
        | 0 => readAfterInteger positive sig c
        | n + 1 =>
          match c.peek with
          | some d =>
            if d.isDigit then
              if sig * 10 + digitValue d > u64Max then readLongInteger positive sig c
              else loop (sig * 10 + digitValue d) c.next n
            else readAfterInteger positive sig c
          | none => readAfterInteger positive sig c
      loop (digitValue ch) c c.limit
    else .error (Fault.invalidNumber.at c.here)

end Numbers

section Strings

def hexValue? (c : Char) : Option Nat :=
  if c.isDigit then some (c.toNat - 48)
  else if 'a' ≤ c && c ≤ 'f' then some (c.toNat - 87)
  else if 'A' ≤ c && c ≤ 'F' then some (c.toNat - 55)
  else none

/-- Four hex digits of a `\u` escape. -/
def readHex4 (c : Cursor) : Step Nat :=
  let bytes := ((c.rest.take 4).map Char.utf8Size).foldl (· + ·) 0
  if bytes < 4 then
    let c' := c.skipBytes bytes
    .error (Fault.eofString.at c'.here)
  else
    let digits := (c.rest.take 4).map hexValue?
    match digits with
    | [some a, some b, some d, some e] =>
      .ok (((a * 16 + b) * 16 + d) * 16 + e, c.skipBytes 4)
    | _ => .error (Fault.invalidEscape.at (c.skipBytes 4).here)

/-- The character of a `\u` escape (the `u` consumed), pairing surrogates. -/
def readUnicodeEscape (c : Cursor) : Except Error (Char × Cursor) := do
  let (n, c) ← readHex4 c
  if 0xDC00 ≤ n && n ≤ 0xDFFF then throw (Fault.loneLeadingSurrogate.at c.here)
  if n < 0xD800 || n > 0xDBFF then return (Char.ofNat n, c)
  match c.peek with
  | none => throw (Fault.eofString.at c.here)
  | some '\\' =>
    let c := c.next
    match c.peek with
    | none => throw (Fault.eofString.at c.here)
    | some 'u' =>
      let c := c.next
      let (n2, c) ← readHex4 c
      if n2 < 0xDC00 || n2 > 0xDFFF then throw (Fault.loneLeadingSurrogate.at c.here)
      return (Char.ofNat ((((n - 0xD800) <<< 10) ||| (n2 - 0xDC00)) + 0x10000), c)
    | some _ => throw (Fault.unexpectedEndOfHexEscape.at (c.skipBytes 1).here)
  | some _ => throw (Fault.unexpectedEndOfHexEscape.at (c.skipBytes 1).here)

/-- The body of a string literal after its opening quote, through the closing quote. -/
def readString (c : Cursor) : Step String :=
  go [] c c.limit
where
  /-- Characters gathered so far, in reverse. -/
  go (acc : List Char) (c : Cursor) : Nat → Step String
    | 0 => .error (Fault.eofString.at c.here)
    | n + 1 =>
      match c.peek with
      | none => .error (Fault.eofString.at c.here)
      | some '"' => .ok (String.ofList acc.reverse, c.next)
      | some '\\' =>
        let c := c.next
        match c.peek with
        | none => .error (Fault.eofString.at c.here)
        | some e =>
          let c := c.next
          match e with
          | '"' => go ('"' :: acc) c n
          | '\\' => go ('\\' :: acc) c n
          | '/' => go ('/' :: acc) c n
          | 'b' => go ('\x08' :: acc) c n
          | 'f' => go ('\x0c' :: acc) c n
          | 'n' => go ('\n' :: acc) c n
          | 'r' => go ('\r' :: acc) c n
          | 't' => go ('\t' :: acc) c n
          | 'u' =>
            match readUnicodeEscape c with
            | .ok (ch, c) => go (ch :: acc) c n
            | .error e => .error e
          | _ => .error (Fault.invalidEscape.at c.here)
      | some ch =>
        if ch.toNat < 0x20 then .error (Fault.controlCharacter.at c.next.here)
        else go (ch :: acc) c.next n

end Strings

def readIdent (word : List Char) (c : Cursor) : Except Error Cursor :=
  match word with
  | [] => .ok c
  | w :: ws =>
    match c.peek with
    | none => .error (Fault.eofValue.at c.here)
    | some ch => if ch == w then readIdent ws c.next else .error (Fault.expectedIdent.at c.next.here)

def depthLimit : Nat := 128

section Values

mutual
def readValue (depth : Nat) (c : Cursor) : Nat → Except Error (Value × Cursor)
  | 0 => .error (Fault.recursionLimit.at c.ahead)
  | fuel + 1 =>
    let c := c.skipBlank
    match c.peek with
    | none => .error (Fault.eofValue.at c.ahead)
    | some 'n' => (readIdent ['u', 'l', 'l'] c.next).map fun c => (.null, c)
    | some 't' => (readIdent ['r', 'u', 'e'] c.next).map fun c => (.bool true, c)
    | some 'f' => (readIdent ['a', 'l', 's', 'e'] c.next).map fun c => (.bool false, c)
    | some '-' => (readNumber false c.next).map fun (n, c) => (.number n.toNumber, c)
    | some '"' => (readString c.next).map fun (s, c) => (.string s, c)
    | some '[' =>
      if depth ≤ 1 then .error (Fault.recursionLimit.at c.ahead)
      else do
        let (xs, c) ← readItems (depth - 1) [] true c.next fuel
        return (.array xs, c.next)
    | some '{' =>
      if depth ≤ 1 then .error (Fault.recursionLimit.at c.ahead)
      else do
        let (ms, c) ← readMembers (depth - 1) [] true c.next fuel
        return (.object ms, c.next)
    | some ch =>
      if ch.isDigit then (readNumber true c).map fun (n, c) => (.number n.toNumber, c)
      else .error (Fault.expectedValue.at c.ahead)

def readItems (depth : Nat) (acc : List Value) (first : Bool) (c : Cursor) :
    Nat → Except Error (List Value × Cursor)
  | 0 => .error (Fault.recursionLimit.at c.ahead)
  | fuel + 1 =>
    let c := c.skipBlank
    match c.peek with
    | some ']' => .ok (acc.reverse, c)
    | none => .error (Fault.eofList.at c.ahead)
    | some ch =>
      let next : Except Error Cursor :=
        if ch == ',' && !first then .ok c.next.skipBlank
        else if first then .ok c
        else .error (Fault.expectedListCommaOrEnd.at c.ahead)
      match next with
      | .error e => .error e
      | .ok c =>
        match c.peek with
        | some ']' => .error (Fault.trailingComma.at c.ahead)
        | none => .error (Fault.eofValue.at c.ahead)
        | some _ => do
          let (v, c) ← readValue depth c fuel
          readItems depth (v :: acc) false c fuel

/-- Object members up to (not over) the closing brace, gathered in reverse and sorted by
key at the end, a later repeat of a key winning. -/
def readMembers (depth : Nat) (acc : List (String × Value)) (first : Bool) (c : Cursor) :
    Nat → Except Error (List (String × Value) × Cursor)
  | 0 => .error (Fault.recursionLimit.at c.ahead)
  | fuel + 1 =>
    let c := c.skipBlank
    match c.peek with
    | some '}' => .ok (Value.membersOf acc.reverse, c)
    | none => .error (Fault.eofObject.at c.ahead)
    | some ch =>
      let next : Except Error Cursor :=
        if ch == ',' && !first then .ok c.next.skipBlank
        else if first then .ok c
        else .error (Fault.expectedObjectCommaOrEnd.at c.ahead)
      match next with
      | .error e => .error e
      | .ok c =>
        match c.peek with
        | some '"' => do
          let (k, c) ← readString c.next
          let c := c.skipBlank
          match c.peek with
          | some ':' =>
            let (v, c) ← readValue depth c.next fuel
            readMembers depth ((k, v) :: acc) false c fuel
          | some _ => throw (Fault.expectedColon.at c.ahead)
          | none => throw (Fault.eofObject.at c.ahead)
        | some '}' => .error (Fault.trailingComma.at c.ahead)
        | some _ => .error (Fault.keyMustBeString.at c.ahead)
        | none => .error (Fault.eofValue.at c.ahead)
end

end Values

/-- Read a whole text as one JSON value; only blanks may follow it. -/
def parse (s : String) : Except Error Value := do
  let c := Cursor.start s
  let (v, c) ← readValue depthLimit c (c.limit + 1)
  let c := c.skipBlank
  match c.peek with
  | some _ => throw (Fault.trailingCharacters.at c.ahead)
  | none => return v

end CapsuleFlow.Json
