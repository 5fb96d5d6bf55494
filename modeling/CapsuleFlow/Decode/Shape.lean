import CapsuleFlow.Json.Value
import CapsuleFlow.Numeric.Text
import CapsuleFlow.Text.Quote

/-!
# Shapes of typed data

A `Shape` describes what a typed reader accepts: booleans, integers of a given range,
floats, strings, options, sequences, tuples, records with named fields, enums whose
variants carry nothing, one value, a tuple or a record, string-keyed maps, and any JSON
value. A reader of a shape produces a `Datum`, the same tree for every source of data
(a JSON value, JSON text, a YAML document); the sources differ only in what they accept
as each kind of scalar and in how they place their errors.

The messages of a failed read follow one grammar: `invalid type: <found>, expected
<expected>`, `invalid value: ...`, `invalid length <n>, expected ...`, `missing field
<name>`, `duplicate field <name>`, `unknown variant <name>, expected ...`, each name
between backticks.
-/

namespace CapsuleFlow.Decode

/-- Data as typed readers produce it. Records keep their fields in declaration order. -/
inductive Datum where
  | unit
  | bool (b : Bool)
  | int (i : Int)
  | float (x : Float)
  | single (x : Float32)
  | str (s : String)
  | char (c : Char)
  | none
  | some (d : Datum)
  | seq (items : List Datum)
  | record (fields : List (String × Datum))
  | variant (name : String) (payload : Datum)
  | map (entries : List (String × Datum))
  | json (v : Json.Value)
  deriving Inhabited

/-- Adds a map entry, keys in order; a later equal key replaces the earlier. -/
def insertEntry (k : String) (d : Datum) : List (String × Datum) → List (String × Datum)
  | [] => [(k, d)]
  | (k', d') :: rest =>
    if k == k' then (k, d) :: rest
    else if k < k' then (k, d) :: (k', d') :: rest
    else (k', d') :: insertEntry k d rest

def Datum.nat : Datum → Nat
  | .int i => i.toNat
  | _ => 0

def Datum.text : Datum → String
  | .str s => s
  | _ => ""

/-- What a record field takes when the data does not give it. `none` stands for an
optional field: absent from a map it is `Datum.none`, but a sequence must still give
it. -/
inductive Absent where
  | required
  | none
  | default (d : Datum)
  deriving Inhabited

mutual

/-- The shapes of typed data. -/
inductive Shape where
  /-- Any JSON value, kept as it is. -/
  | any
  | bool
  /-- An unsigned integer up to `max`, named as in messages (`u32`). -/
  | unsigned (name : String) (max : Nat)
  /-- A signed integer in `[min, max]`, named as in messages (`i8`). -/
  | signed (name : String) (min max : Int)
  | f64
  | f32
  /-- A float given as a number or as a numeral in a string; `single` for binary32. -/
  | numeral (single : Bool)
  /-- A string; `expected` names it in messages (`a string`, `path string`). -/
  | string (expected : String)
  | char
  | option (inner : Shape)
  | seq (inner : Shape)
  /-- A fixed number of elements; `expected` names the whole, `lengthExpected` is what a
  too short sequence was expected to be. -/
  | tuple (expected lengthExpected : String) (items : List Shape)
  /-- A value wrapped in a one-field type, read as the value itself. -/
  | newtype (inner : Shape)
  | unit (expected : String)
  /-- A record with named fields, read from a map (unknown keys ignored) or a sequence. -/
  | record (name : String) (fields : List (String × Shape × Absent))
  /-- An enum, read from a variant name or a one-key map from the name to the payload. -/
  | enum (name : String) (variants : List Variant)
  /-- A map with string keys. -/
  | map (value : Shape)
  /-- A shape whose datum must also pass a check; the check's failure is a message. -/
  | checked (inner : Shape) (check : Datum → Except String Datum)

/-- A variant of an enum with what it carries. -/
inductive Variant where
  | unit (name : String)
  | newtype (name : String) (inner : Shape)
  | tuple (name : String) (items : List Shape)
  | struct (name : String) (fields : List (String × Shape × Absent))

end

def Variant.name : Variant → String
  | .unit n | .newtype n _ | .tuple n _ | .struct n _ => n

def Shape.expected : Shape → String
  | .any => "any valid JSON value"
  | .bool => "a boolean"
  | .unsigned n _ | .signed n _ _ => n
  | .f64 => "f64"
  | .f32 => "f32"
  | .numeral _ => "a float or a numeral string"
  | .string e => e
  | .char => "a character"
  | .option _ => "option"
  | .seq _ => "a sequence"
  | .tuple e _ _ => e
  | .newtype inner => inner.expected
  | .unit e => e
  | .record n _ => s!"struct {n}"
  | .enum n _ => s!"enum {n}"
  | .map _ => "a map"
  | .checked inner _ => inner.expected

/-- What a reader found instead of what it expected. -/
inductive Unexpected where
  | bool (b : Bool)
  | unsigned (n : Nat)
  | signed (i : Int)
  | float (x : Float)
  | char (c : Char)
  | str (s : String)
  | unit
  | seq
  | map
  | enum
  | unitVariant
  /-- Something named by its own text. -/
  | other (text : String)
  deriving Inhabited

/-- How a source shows what it found: JSON shows a unit as `null` and floats in their
shortest form with an exponent when long; other sources show `unit value` and floats
in positional form with at least one decimal. -/
inductive Style where
  | json
  | plain
  deriving DecidableEq, Inhabited

/-- A float as the plain style shows it: positional, with `.0` when it has no point. -/
def withDecimalPoint (x : Float) : String :=
  let t := ShortestStyle.plain.format x
  match x.value with
  | .finite _ => if t.contains '.' then t else t ++ ".0"
  | _ => t

def Unexpected.text (style : Style) : Unexpected → String
  | .bool b => s!"boolean `{b}`"
  | .unsigned n => s!"integer `{n}`"
  | .signed i => s!"integer `{i}`"
  | .float x =>
    let t := if style == .json then ShortestStyle.json.format x else withDecimalPoint x
    s!"floating point `{t}`"
  | .char c => s!"character `{c}`"
  | .str s => "string " ++ Text.quoted s
  | .unit => if style == .json then "null" else "unit value"
  | .seq => "sequence"
  | .map => "map"
  | .enum => "enum"
  | .unitVariant => "unit variant"
  | .other t => t

/-- `invalid type: <found>, expected <expected>`. -/
def invalidType (style : Style) (u : Unexpected) (expected : String) : String :=
  s!"invalid type: {u.text style}, expected {expected}"

/-- `invalid value: <found>, expected <expected>`. -/
def invalidValue (style : Style) (u : Unexpected) (expected : String) : String :=
  s!"invalid value: {u.text style}, expected {expected}"

/-- `invalid length <n>, expected <expected>`. -/
def invalidLength (n : Nat) (expected : String) : String :=
  s!"invalid length {n}, expected {expected}"

/-- `missing field <name>`. -/
def missingField (name : String) : String := s!"missing field `{name}`"

/-- `duplicate field <name>`. -/
def duplicateField (name : String) : String := s!"duplicate field `{name}`"

/-- The names a variant could have had: `a`, `a or b`, `one of a, b, c`. -/
def oneOf (names : List String) : String :=
  let q := names.map fun n => s!"`{n}`"
  match q with
  | [a] => a
  | [a, b] => s!"{a} or {b}"
  | _ => "one of " ++ ", ".intercalate q

/-- `unknown variant <name>, expected ...`. -/
def unknownVariant (name : String) (names : List String) : String :=
  if names.isEmpty then s!"unknown variant `{name}`, there are no variants"
  else s!"unknown variant `{name}`, expected {oneOf names}"

/-- What a record's fields come to once the data is read: each read field, else what
the field takes when absent; the first required field missing (in declaration order)
fails. -/
def finishRecord (fields : List (String × Shape × Absent)) (found : List (Option Datum)) :
    Except String Datum := do
  let pairs ← (fields.zip found).mapM fun ((name, _, absent), d) =>
    match d, absent with
    | some d, _ => pure (name, d)
    | none, .default v => pure (name, v)
    | none, .none => pure (name, Datum.none)
    | none, .required => throw (missingField name)
  return .record pairs

def fieldIndex (fields : List (String × Shape × Absent)) (key : String) : Option Nat :=
  fields.findIdx? (·.1 == key)

/-- Sets the `i`-th entry of a list. -/
def setAt (xs : List (Option Datum)) (i : Nat) (d : Datum) : List (Option Datum) :=
  xs.set i (some d)

/-- What a record field takes at position `i` of a sequence that ended before it. -/
def seqAbsent (recordName : String) (count i : Nat) (absent : Absent) : Except String Datum :=
  match absent with
  | .default v => .ok v
  | _ => .error (invalidLength i s!"struct {recordName} with {count} elements")

end CapsuleFlow.Decode
