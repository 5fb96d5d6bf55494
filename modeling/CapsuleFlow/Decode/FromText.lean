import CapsuleFlow.Decode.FromValue
import CapsuleFlow.Json.Reader

/-!
# Reading typed data from JSON text

JSON text read against a shape in one pass, without building a JSON value first. The
syntax faults are those of `CapsuleFlow.Json.Reader`, at the same places. What the text
gets wrong about the shape is placed by these rules:

* a scalar of the wrong kind is read in full and the error placed after it; a bracket of
  the wrong kind is placed before it, unread;
* a number out of the range of an integer shape, a string that is not a character, a
  variant name that is not one of the enum's, is placed after it;
* an error raised by a record, a map or a sequence as a whole (a missing or duplicate
  field, a too short sequence, the check of a nested value) is placed where reading
  stopped once the closing bracket, if it is next (blanks skipped), has been read;
* an enum's own errors and the checks of the value as a whole are not placed by the enum:
  the record or sequence around it places them, and at the top level they have no place.

Keys a record does not know are skipped: their value need only be well formed (numbers
are not range checked and nesting is not limited). A record also reads from a sequence
of its fields in order; fields with a default may be left off the end.

The reading spends one unit of fuel per step and is given more than the text can use.
-/

namespace CapsuleFlow.Decode

open CapsuleFlow.Json

/-- Why a typed reading of JSON text stopped: an error already placed, or a message with
no place yet together with the cursor where reading stood when it arose. -/
inductive Stop where
  | placed (e : Json.Error)
  | loose (message : String) (rest : Cursor)
  deriving Inhabited

abbrev TextStep (α : Type) := Except Stop (α × Cursor)

def Stop.here (message : String) (c : Cursor) : Stop := .placed ⟨message, c.line, c.column⟩

def Stop.fault (f : Fault) (p : Place) : Stop := .placed (f.at p)

def exhausted (c : Cursor) : Stop := Stop.fault .recursionLimit c.ahead

def Unexpected.ofNumber : ReadNumber → Unexpected
  | .unsigned n => .unsigned n
  | .signed i => .signed i
  | .float x => .float x

def floatOfRead : ReadNumber → Float
  | .unsigned n => Float.ofInt n
  | .signed i => Float.ofInt i
  | .float x => x

/-- A read number as a binary32 value: integers round directly, floats through binary64. -/
def singleOfRead : ReadNumber → Float32
  | .unsigned n => singleOfInt n
  | .signed i => singleOfInt i
  | .float x => x.narrow

def numberDatum (shape : Shape) (n : ReadNumber) : Except String Datum :=
  let wrong : Except String Datum :=
    .error (invalidType .json (Unexpected.ofNumber n) shape.expected)
  match shape with
  | .unsigned name max =>
    match n with
    | .unsigned k =>
      if k ≤ max then .ok (.int k) else .error (invalidValue .json (.unsigned k) name)
    | .signed i => .error (invalidValue .json (.signed i) name)
    | .float _ => wrong
  | .signed name min max =>
    match n with
    | .unsigned k =>
      if (k : Int) ≤ max then .ok (.int k) else .error (invalidValue .json (.unsigned k) name)
    | .signed i =>
      if min ≤ i then .ok (.int i) else .error (invalidValue .json (.signed i) name)
    | .float _ => wrong
  | .f64 => .ok (.float (floatOfRead n))
  | .f32 => .ok (.single (singleOfRead n))
  | .numeral single => .ok (if single then .single (singleOfRead n) else .float (floatOfRead n))
  | _ => wrong

/-- The error for what stands at the cursor (blanks skipped) when it is not what was
expected: a scalar is read to name it and the error placed after it; a bracket is named
unread, the error placed before it. -/
def peekInvalid (expected : String) (c : Cursor) : Stop :=
  let wrong (u : Unexpected) (c : Cursor) : Stop := Stop.here (invalidType .json u expected) c
  let word (w : List Char) (u : Unexpected) : Stop :=
    match readIdent w c.next with
    | .ok c => wrong u c
    | .error e => .placed e
  let number (positive : Bool) (c : Cursor) : Stop :=
    match readNumber positive c with
    | .ok (n, c) => wrong (Unexpected.ofNumber n) c
    | .error e => .placed e
  match c.peek with
  | some 'n' => word ['u', 'l', 'l'] .unit
  | some 't' => word ['r', 'u', 'e'] (.bool true)
  | some 'f' => word ['a', 'l', 's', 'e'] (.bool false)
  | some '-' => number false c.next
  | some '"' =>
    match readString c.next with
    | .ok (s, c) => wrong (.str s) c
    | .error e => .placed e
  | some '[' => wrong .seq c
  | some '{' => wrong .map c
  | some ch => if ch.isDigit then number true c else Stop.fault .expectedValue c.ahead
  | none => Stop.fault .expectedValue c.ahead

section Scalars

def textBool (c : Cursor) : TextStep Datum :=
  let c := c.skipBlank
  match c.peek with
  | none => .error (Stop.fault .eofValue c.ahead)
  | some 't' => (readIdent ['r', 'u', 'e'] c.next).map (.bool true, ·) |>.mapError .placed
  | some 'f' => (readIdent ['a', 'l', 's', 'e'] c.next).map (.bool false, ·) |>.mapError .placed
  | some _ => .error (peekInvalid "a boolean" c)

/-- A number against a numeric shape; an out of range value is placed after it. -/
def textNumber (shape : Shape) (c : Cursor) : TextStep Datum :=
  let c := c.skipBlank
  let visit (r : Step ReadNumber) : TextStep Datum :=
    match r with
    | .error e => .error (.placed e)
    | .ok (n, c) =>
      match numberDatum shape n with
      | .ok d => .ok (d, c)
      | .error m => .error (Stop.here m c)
  match c.peek with
  | none => .error (Stop.fault .eofValue c.ahead)
  | some '-' => visit (readNumber false c.next)
  | some ch => if ch.isDigit then visit (readNumber true c) else .error (peekInvalid shape.expected c)

def textLiteral (expected : String) (c : Cursor) : TextStep String :=
  let c := c.skipBlank
  match c.peek with
  | none => .error (Stop.fault .eofValue c.ahead)
  | some '"' => (readString c.next).mapError .placed
  | some _ => .error (peekInvalid expected c)

def textString (expected : String) (c : Cursor) : TextStep Datum :=
  (textLiteral expected c).map fun (s, c) => (.str s, c)

/-- A character: a string of exactly one. -/
def textChar (c : Cursor) : Except Stop (Datum × Cursor) := do
  let (s, c) ← textLiteral "a character" c
  match s.toList with
  | [ch] => return (.char ch, c)
  | _ => throw (Stop.here (invalidValue .json (.str s) "a character") c)

def textNumeral (single : Bool) (c : Cursor) : Except Stop (Datum × Cursor) :=
  let c := c.skipBlank
  match c.peek with
  | some '"' => do
    let (s, c) ← (readString c.next).mapError .placed
    match numeralDatum single s with
    | .ok d => return (d, c)
    | .error m => throw (Stop.here m c)
  | _ => textNumber (.numeral single) c

/-- The unit: `null`. -/
def textUnit (expected : String) (c : Cursor) : TextStep Datum :=
  let c := c.skipBlank
  match c.peek with
  | none => .error (Stop.fault .eofValue c.ahead)
  | some 'n' => (readIdent ['u', 'l', 'l'] c.next).map (.unit, ·) |>.mapError .placed
  | some _ => .error (peekInvalid expected c)

end Scalars

section Brackets

/-- The close of a sequence: the cursor after `]`, or the fault, with where reading stood. -/
def endSeq (c : Cursor) : Except Json.Error Cursor × Cursor :=
  let c := c.skipBlank
  match c.peek with
  | some ']' => (.ok c.next, c.next)
  | some ',' =>
    let c := c.next.skipBlank
    match c.peek with
    | some ']' => (.error (Fault.trailingComma.at c.ahead), c)
    | _ => (.error (Fault.trailingCharacters.at c.ahead), c)
  | some _ => (.error (Fault.trailingCharacters.at c.ahead), c)
  | none => (.error (Fault.eofList.at c.ahead), c)

/-- The close of a map: the cursor after the closing brace, or the fault, with where
reading stood. -/
def endMap (c : Cursor) : Except Json.Error Cursor × Cursor :=
  let c := c.skipBlank
  match c.peek with
  | some '}' => (.ok c.next, c.next)
  | some ',' => (.error (Fault.trailingComma.at c.ahead), c)
  | some _ => (.error (Fault.trailingCharacters.at c.ahead), c)
  | none => (.error (Fault.eofObject.at c.ahead), c)

/-- Closes a bracketed reading: on success the close must follow; a message with no
place yet is placed where the close left the reader. -/
def closeWith {α : Type} (close : Cursor → Except Json.Error Cursor × Cursor)
    (r : TextStep α) : TextStep α :=
  match r with
  | .ok (a, c) =>
    match close c with
    | (.ok c, _) => .ok (a, c)
    | (.error e, _) => .error (.placed e)
  | .error (.loose m c) => .error (Stop.here m (close c).2)
  | .error e => .error e

/-- Whether a sequence has another element: `true` with the cursor at it, or `false`
with the cursor at the closing bracket. -/
def nextElement (first : Bool) (c : Cursor) : Except Stop (Bool × Cursor) :=
  let c := c.skipBlank
  match c.peek with
  | none => .error (Stop.fault .eofList c.ahead)
  | some ']' => .ok (false, c)
  | some ch =>
    if first then .ok (true, c)
    else if ch == ',' then
      let c := c.next.skipBlank
      match c.peek with
      | some ']' => .error (Stop.fault .trailingComma c.ahead)
      | none => .error (Stop.fault .eofValue c.ahead)
      | some _ => .ok (true, c)
    else .error (Stop.fault .expectedListCommaOrEnd c.ahead)

/-- Whether a map has another key: `true` with the cursor at its opening quote, or
`false` with the cursor at the closing brace. -/
def nextKey (first : Bool) (c : Cursor) : Except Stop (Bool × Cursor) :=
  let atKey (k : Cursor) : Except Stop (Bool × Cursor) :=
    match k.peek with
    | some '"' => .ok (true, k)
    | some '}' => .error (Stop.fault .trailingComma k.ahead)
    | some _ => .error (Stop.fault .keyMustBeString k.ahead)
    | none => .error (Stop.fault .eofValue k.ahead)
  let c := c.skipBlank
  match c.peek with
  | none => .error (Stop.fault .eofObject c.ahead)
  | some '}' => .ok (false, c)
  | some ch =>
    if ch == ',' && !first then atKey c.next.skipBlank
    else if first then atKey c
    else .error (Stop.fault .expectedObjectCommaOrEnd c.ahead)

def objectColon (c : Cursor) : Except Stop Cursor :=
  let c := c.skipBlank
  match c.peek with
  | some ':' => .ok c.next
  | some _ => .error (Stop.fault .expectedColon c.ahead)
  | none => .error (Stop.fault .eofObject c.ahead)

end Brackets

section Skipping

/-- The digits and what may follow them in a number being skipped: a fraction, an
exponent. -/
def skipExponent (c : Cursor) : Except Json.Error Cursor :=
  let c := c.next
  let c := match c.peek with
    | some '+' | some '-' => c.next
    | _ => c
  match c.peek with
  | none => .error (Fault.invalidNumber.at c.here)
  | some d => if d.isDigit then .ok (skipDigits c.next) else .error (Fault.invalidNumber.at c.next.here)

/-- A fraction of a number being skipped, the point not yet consumed. -/
def skipFraction (c : Cursor) : Except Json.Error Cursor :=
  let c := c.next
  if !(c.peek.map Char.isDigit).getD false then .error (Fault.invalidNumber.at c.ahead)
  else
    let d := skipDigits c
    match d.peek with
    | some 'e' | some 'E' => skipExponent d
    | _ => .ok d

/-- A number being skipped after its sign: only its form is checked. -/
def skipInteger (c : Cursor) : Except Json.Error Cursor :=
  let tail (c : Cursor) : Except Json.Error Cursor :=
    match c.peek with
    | some '.' => skipFraction c
    | some 'e' | some 'E' => skipExponent c
    | _ => .ok c
  match c.peek with
  | none => .error (Fault.invalidNumber.at c.here)
  | some ch =>
    let c := c.next
    if ch == '0' then
      match c.peek with
      | some d => if d.isDigit then .error (Fault.invalidNumber.at c.ahead) else tail c
      | none => tail c
    else if ch.isDigit then tail (skipDigits c)
    else .error (Fault.invalidNumber.at c.here)

/-- A string being skipped, after its opening quote: escapes need only be well formed,
a `\u` escape any four hex digits. -/
def skipString (c : Cursor) : Except Json.Error Cursor :=
  go c c.limit
where
  /-- Bounded by the length of the text. -/
  go (c : Cursor) : Nat → Except Json.Error Cursor
    | 0 => .error (Fault.eofString.at c.here)
    | n + 1 =>
      match c.peek with
      | none => .error (Fault.eofString.at c.here)
      | some '"' => .ok c.next
      | some '\\' =>
        let c := c.next
        match c.peek with
        | none => .error (Fault.eofString.at c.here)
        | some e =>
          let c := c.next
          if e == 'u' then
            match readHex4 c with
            | .ok (_, c) => go c n
            | .error err => .error err
          else if "\"\\/bfnrt".contains e then go c n
          else .error (Fault.invalidEscape.at c.here)
      | some ch =>
        if ch.toNat < 0x20 then .error (Fault.controlCharacter.at c.here)
        else go c.next n

/-- After a value inside brackets: either a comma to the next value (the bracket kind to
go on with) or closing brackets, as many as follow. `inl` when the outermost bracket is
closed. -/
def skipClose (acceptComma : Bool) (frame : Char) (stack : List Char) (c : Cursor) :
    Nat → Except Json.Error (Cursor ⊕ (Char × List Char × Cursor))
  | 0 => .error (Fault.expectedValue.at c.ahead)
  | n + 1 =>
    let c := c.skipBlank
    match c.peek with
    | none => .error ((if frame == '[' then Fault.eofList else Fault.eofObject).at c.ahead)
    | some d =>
      if d == ',' && acceptComma then .ok (.inr (frame, stack, c.next))
      else if (d == ']' && frame == '[') || (d == '}' && frame == '{') then
        let c := c.next
        match stack with
        | [] => .ok (.inl c)
        | f :: rest => skipClose true f rest c n
      else if acceptComma then
        .error ((if frame == '[' then Fault.expectedListCommaOrEnd
          else Fault.expectedObjectCommaOrEnd).at c.ahead)
      else .ok (.inr (frame, stack, c))

def skipKey (c : Cursor) : Except Json.Error Cursor := do
  let c := c.skipBlank
  let c ← match c.peek with
    | some '"' => skipString c.next
    | some _ => throw (Fault.keyMustBeString.at c.ahead)
    | none => throw (Fault.eofObject.at c.ahead)
  let c := c.skipBlank
  match c.peek with
  | some ':' => return c.next
  | some _ => throw (Fault.expectedColon.at c.ahead)
  | none => throw (Fault.eofObject.at c.ahead)

/-- Skips one value, checking only that it is well formed. `stack` holds the brackets
open around the value being skipped. -/
def skipValueIn (stack : List Char) (c : Cursor) : Nat → Except Json.Error Cursor
  | 0 => .error (Fault.expectedValue.at c.ahead)
  | n + 1 => do
    let c := c.skipBlank
    let (opened, c) ← match c.peek with
      | none => throw (Fault.eofValue.at c.ahead)
      | some 'n' => (readIdent ['u', 'l', 'l'] c.next).map (none, ·)
      | some 't' => (readIdent ['r', 'u', 'e'] c.next).map (none, ·)
      | some 'f' => (readIdent ['a', 'l', 's', 'e'] c.next).map (none, ·)
      | some '-' => (skipInteger c.next).map (none, ·)
      | some '"' => (skipString c.next).map (none, ·)
      | some '[' => pure (some '[', c.next)
      | some '{' => pure (some '{', c.next)
      | some ch =>
        if ch.isDigit then (skipInteger c).map (none, ·)
        else throw (Fault.expectedValue.at c.ahead)
    let start : Option (Bool × Char × List Char) :=
      match opened, stack with
      | some f, _ => some (false, f, stack)
      | none, f :: rest => some (true, f, rest)
      | none, [] => none
    match start with
    | none => return c
    | some (acceptComma, frame, rest) =>
      match ← skipClose acceptComma frame rest c (c.limit + 1) with
      | .inl c => return c
      | .inr (frame, rest, c) =>
        let c ← if frame == '{' then skipKey c else pure c
        skipValueIn (frame :: rest) c n

/-- Skips one value, checking only that it is well formed. -/
def skipValue (c : Cursor) : Except Json.Error Cursor :=
  skipValueIn [] c (c.limit + 1)

end Skipping

mutual

/-- Reads a value against a shape, within `depth` more levels of brackets. -/
def textValue (fuel depth : Nat) (shape : Shape) (c : Cursor) : TextStep Datum :=
  match fuel with
  | 0 => .error (exhausted c)
  | fuel + 1 =>
    match shape with
    | .any =>
      match Json.readValue depth c (c.limit + 1) with
      | .ok (v, c) => .ok (.json v, c)
      | .error e => .error (.placed e)
    | .bool => textBool c
    | .unsigned _ _ | .signed _ _ _ | .f64 | .f32 => textNumber shape c
    | .numeral single => textNumeral single c
    | .string expected => textString expected c
    | .char => textChar c
    | .unit expected => textUnit expected c
    | .option inner =>
      let c' := c.skipBlank
      match c'.peek with
      | some 'n' =>
        match readIdent ['u', 'l', 'l'] c'.next with
        | .ok c => .ok (.none, c)
        | .error e => .error (.placed e)
      | _ =>
        match textValue fuel depth inner c with
        | .ok (d, c) => .ok (.some d, c)
        | .error e => .error e
    | .newtype inner => textValue fuel depth inner c
    | .checked inner check =>
      match textValue fuel depth inner c with
      | .ok (d, c) =>
        match check d with
        | .ok d => .ok (d, c)
        | .error m => .error (.loose m c)
      | .error e => .error e
    | .seq inner =>
      let c := c.skipBlank
      match c.peek with
      | none => .error (Stop.fault .eofValue c.ahead)
      | some '[' =>
        if depth ≤ 1 then .error (Stop.fault .recursionLimit c.ahead)
        else closeWith endSeq ((textElements fuel (depth - 1) inner true [] c.next).map
          fun (xs, c) => (Datum.seq xs, c))
      | some _ => .error (peekInvalid "a sequence" c)
    | .tuple expected lengthExpected items =>
      textTuple fuel depth expected lengthExpected items c
    | .record name fields =>
      textRecord fuel depth s!"struct {name}" s!"struct {name} with {fields.length} elements"
        fields c
    | .enum name variants => textEnum fuel depth name variants c
    | .map inner =>
      let c := c.skipBlank
      match c.peek with
      | none => .error (Stop.fault .eofValue c.ahead)
      | some '{' =>
        if depth ≤ 1 then .error (Stop.fault .recursionLimit c.ahead)
        else closeWith endMap ((textEntries fuel (depth - 1) inner true [] c.next).map
          fun (es, c) => (Datum.map es, c))
      | some _ => .error (peekInvalid "a map" c)
termination_by structural fuel

def textElements (fuel depth : Nat) (inner : Shape) (first : Bool) (acc : List Datum)
    (c : Cursor) : TextStep (List Datum) :=
  match fuel with
  | 0 => .error (exhausted c)
  | fuel + 1 =>
    match nextElement first c with
    | .error e => .error e
    | .ok (false, c) => .ok (acc.reverse, c)
    | .ok (true, c) =>
      match textValue fuel depth inner c with
      | .error e => .error e
      | .ok (d, c) => textElements fuel depth inner false (d :: acc) c
termination_by structural fuel

/-- A tuple: a sequence of exactly its items. -/
def textTuple (fuel depth : Nat) (expected lengthExpected : String) (items : List Shape)
    (c : Cursor) : TextStep Datum :=
  match fuel with
  | 0 => .error (exhausted c)
  | fuel + 1 =>
    let c := c.skipBlank
    match c.peek with
    | none => .error (Stop.fault .eofValue c.ahead)
    | some '[' =>
      if depth ≤ 1 then .error (Stop.fault .recursionLimit c.ahead)
      else closeWith endSeq ((textItems fuel (depth - 1) lengthExpected items 0 true [] c.next).map
        fun (xs, c) => (Datum.seq xs, c))
    | some _ => .error (peekInvalid expected c)
termination_by structural fuel

/-- The items of a tuple, one element each; a sequence that ends early is too short. -/
def textItems (fuel depth : Nat) (lengthExpected : String) (items : List Shape) (i : Nat)
    (first : Bool) (acc : List Datum) (c : Cursor) : TextStep (List Datum) :=
  match fuel with
  | 0 => .error (exhausted c)
  | fuel + 1 =>
    match items with
    | [] => .ok (acc.reverse, c)
    | shape :: rest =>
      match nextElement first c with
      | .error e => .error e
      | .ok (false, c) => .error (.loose (invalidLength i lengthExpected) c)
      | .ok (true, c) =>
        match textValue fuel depth shape c with
        | .error e => .error e
        | .ok (d, c) => textItems fuel depth lengthExpected rest (i + 1) false (d :: acc) c
termination_by structural fuel

def textRecord (fuel depth : Nat) (expected lengthExpected : String)
    (fields : List (String × Shape × Absent)) (c : Cursor) : TextStep Datum :=
  match fuel with
  | 0 => .error (exhausted c)
  | fuel + 1 =>
    let c := c.skipBlank
    match c.peek with
    | none => .error (Stop.fault .eofValue c.ahead)
    | some '[' =>
      if depth ≤ 1 then .error (Stop.fault .recursionLimit c.ahead)
      else closeWith endSeq (textFields fuel (depth - 1) lengthExpected fields 0 true [] c.next)
    | some '{' =>
      if depth ≤ 1 then .error (Stop.fault .recursionLimit c.ahead)
      else closeWith endMap
        (textMembers fuel (depth - 1) fields (fields.map fun _ => none) true c.next)
    | some _ => .error (peekInvalid expected c)
termination_by structural fuel

def textFields (fuel depth : Nat) (lengthExpected : String)
    (fields : List (String × Shape × Absent)) (i : Nat) (first : Bool)
    (acc : List (String × Datum)) (c : Cursor) : TextStep Datum :=
  match fuel with
  | 0 => .error (exhausted c)
  | fuel + 1 =>
    match fields with
    | [] => .ok (.record acc.reverse, c)
    | (name, shape, absent) :: rest =>
      match nextElement first c with
      | .error e => .error e
      | .ok (false, c) =>
        match absent with
        | .default d => textFields fuel depth lengthExpected rest (i + 1) first ((name, d) :: acc) c
        | _ => .error (.loose (invalidLength i lengthExpected) c)
      | .ok (true, c) =>
        match textValue fuel depth shape c with
        | .error e => .error e
        | .ok (d, c) =>
          textFields fuel depth lengthExpected rest (i + 1) false ((name, d) :: acc) c
termination_by structural fuel

/-- A record's fields from a map, up to (not over) its closing brace. Unknown keys are
skipped; a field given twice is an error raised right after its second key. -/
def textMembers (fuel depth : Nat) (fields : List (String × Shape × Absent))
    (found : List (Option Datum)) (first : Bool) (c : Cursor) : TextStep Datum :=
  match fuel with
  | 0 => .error (exhausted c)
  | fuel + 1 =>
    match nextKey first c with
    | .error e => .error e
    | .ok (false, c) =>
      match finishRecord fields found with
      | .ok d => .ok (d, c)
      | .error m => .error (.loose m c)
    | .ok (true, c) =>
      match readString c.next with
      | .error e => .error (.placed e)
      | .ok (key, c) =>
        match fieldIndex fields key, fields.find? (·.1 == key) with
        | some i, some (_, shape, _) =>
          if (found[i]?).join.isSome then .error (.loose (duplicateField key) c)
          else
            match objectColon c with
            | .error e => .error e
            | .ok c =>
              match textValue fuel depth shape c with
              | .error e => .error e
              | .ok (d, c) => textMembers fuel depth fields (setAt found i d) false c
        | _, _ =>
          match objectColon c with
          | .error e => .error e
          | .ok c =>
            match skipValue c with
            | .error e => .error (.placed e)
            | .ok c => textMembers fuel depth fields found false c
termination_by structural fuel

def textEntries (fuel depth : Nat) (inner : Shape) (first : Bool)
    (acc : List (String × Datum)) (c : Cursor) : TextStep (List (String × Datum)) :=
  match fuel with
  | 0 => .error (exhausted c)
  | fuel + 1 =>
    match nextKey first c with
    | .error e => .error e
    | .ok (false, c) => .ok (acc, c)
    | .ok (true, c) =>
      match readString c.next with
      | .error e => .error (.placed e)
      | .ok (key, c) =>
        match objectColon c with
        | .error e => .error e
        | .ok c =>
          match textValue fuel depth inner c with
          | .error e => .error e
          | .ok (d, c) => textEntries fuel depth inner false (insertEntry key d acc) c
termination_by structural fuel

/-- An enum: a variant name, or a one-member map from the name to what the variant
carries. The enum places only the errors of the name itself. -/
def textEnum (fuel depth : Nat) (enumName : String) (variants : List Variant) (c : Cursor) :
    TextStep Datum :=
  match fuel with
  | 0 => .error (exhausted c)
  | fuel + 1 =>
    let names := variants.map Variant.name
    let c := c.skipBlank
    match c.peek with
    | none => .error (Stop.fault .eofValue c.ahead)
    | some '"' =>
      match readString c.next with
      | .error e => .error (.placed e)
      | .ok (tag, c) =>
        match variants.find? (·.name == tag) with
        | none => .error (Stop.here (unknownVariant tag names) c)
        | some (.unit n) => .ok (.variant n .unit, c)
        | some (.newtype _ _) => .error (.loose (invalidType .json .unitVariant "newtype variant") c)
        | some (.tuple _ _) => .error (.loose (invalidType .json .unitVariant "tuple variant") c)
        | some (.struct _ _) => .error (.loose (invalidType .json .unitVariant "struct variant") c)
    | some '{' =>
      if depth ≤ 1 then .error (Stop.fault .recursionLimit c.ahead)
      else
        match textLiteral "variant identifier" c.next with
        | .error e => .error e
        | .ok (tag, c) =>
          match variants.find? (·.name == tag) with
          | none => .error (Stop.here (unknownVariant tag names) c)
          | some v =>
            match objectColon c with
            | .error e => .error e
            | .ok c =>
              let payload : TextStep Datum :=
                match v with
                | .unit _ => textUnit "unit" c
                | .newtype _ inner => textValue fuel (depth - 1) inner c
                | .tuple n items =>
                  textTuple fuel (depth - 1) s!"tuple variant {enumName}::{n}"
                    s!"tuple variant {enumName}::{n} with {items.length} elements" items c
                | .struct n fields =>
                  textRecord fuel (depth - 1) s!"struct variant {enumName}::{n}"
                    s!"struct variant {enumName}::{n} with {fields.length} elements" fields c
              match payload with
              | .error e => .error e
              | .ok (d, c) =>
                let c := c.skipBlank
                match c.peek with
                | some '}' => .ok (.variant v.name d, c.next)
                | some _ => .error (Stop.fault .expectedValue c.here)
                | none => .error (Stop.fault .eofObject c.here)
    | some _ => .error (Stop.fault .expectedValue c.ahead)
termination_by structural fuel

end

/-- Reads JSON text against a shape: one value, then only blanks. A message that nothing
around it placed has no place. -/
def readText (shape : Shape) (text : String) : Except Json.Error Datum :=
  let c := Cursor.start text
  match textValue (8 * (c.limit + 8)) depthLimit shape c with
  | .error (.placed e) => .error e
  | .error (.loose m _) => .error { message := m }
  | .ok (d, c) =>
    let c := c.skipBlank
    match c.peek with
    | some _ => .error (Fault.trailingCharacters.at c.ahead)
    | none => .ok d

end CapsuleFlow.Decode
